import TenantRelay.Json.Value

/-! Taking secrets out of texts and values. Each secret is looked for in what the
secrets before it have left. -/

namespace TenantRelay.Masking

def redacted : String := "**** REDACTED ***"

def dropFront? : List Char → List Char → Option (List Char)
  | [], text => some text
  | _ :: _, [] => none
  | c :: pattern, d :: text => if c = d then dropFront? pattern text else none

theorem length_dropFront? {pattern text rest : List Char}
    (found : dropFront? pattern text = some rest) :
    text.length = pattern.length + rest.length := by
  induction pattern generalizing text with
  | nil => simp only [dropFront?, Option.some.injEq] at found; simp [found]
  | cons c pattern ih =>
      cases text with
      | nil => simp [dropFront?] at found
      | cons d text =>
          simp only [dropFront?] at found
          split at found
          · simp only [List.length_cons, ih found]; omega
          · cases found

def replace (c : Char) (pattern by_ : List Char) : List Char → List Char
  | [] => []
  | d :: text =>
    match _found : dropFront? (c :: pattern) (d :: text) with
    | some rest => by_ ++ replace c pattern by_ rest
    | none => d :: replace c pattern by_ text
termination_by text => text.length
decreasing_by
  · have := length_dropFront? _found
    simp only [List.length_cons] at this ⊢
    omega
  · simp

def maskChars (text : List Char) : List Char → List Char
  | [] => text
  | c :: secret => replace c secret redacted.toList text

/-- An empty secret masks nothing. -/
def maskOne (text secret : String) : String := String.ofList (maskChars text.toList secret.toList)

def mask (secrets : List String) (text : String) : String := secrets.foldl maskOne text

mutual

/-- Masks every text and every key. Of members whose masked keys are the same the
last stays. -/
def maskJson (secrets : List String) : Json → Json
  | .str s => .str (mask secrets s)
  | .arr items => .arr (maskItems secrets items)
  | .obj members => .ofPairs (maskMembers secrets members)
  | .null => .null
  | .bool b => .bool b
  | .num n => .num n

def maskItems (secrets : List String) : List Json → List Json
  | [] => []
  | item :: rest => maskJson secrets item :: maskItems secrets rest

def maskMembers (secrets : List String) : List (String × Json) → List (String × Json)
  | [] => []
  | (key, value) :: rest => (mask secrets key, maskJson secrets value) :: maskMembers secrets rest

end

end TenantRelay.Masking
