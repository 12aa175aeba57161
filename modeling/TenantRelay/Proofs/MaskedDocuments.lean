import TenantRelay.Proofs.Dictionaries
import TenantRelay.Proofs.Redaction

/-!
What masking does to a document. Every text in it is masked, at any depth, and nothing else of it
changes: a path through the document leads to what it led to, past masked keys. Only members whose
masked keys are the same are in each other's way, and of those the last one stays.
-/

namespace TenantRelay

theorem KeyMap.find?_insertAll_last {α : Type} {before after : List (String × α)} {key : String}
    {value : α} (last : ∀ other ∈ after, other.1 ≠ key) (m : KeyMap α) :
    (m.insertAll (before ++ (key, value) :: after)).find? key = some value := by
  have stays : ∀ m : KeyMap α, (m.insertAll after).find? key = m.find? key := by
    induction after with
    | nil => intro m; rfl
    | cons next rest ih =>
        intro m
        obtain ⟨apart, others⟩ := List.forall_mem_cons.mp last
        show ((m.insert next.1 next.2).insertAll rest).find? key = _
        rw [ih others, find?_insert, if_neg (Ne.symm apart)]
  have whole : m.insertAll (before ++ (key, value) :: after) =
      ((m.insertAll before).insert key value).insertAll after := by
    simp [insertAll, List.foldl_append]
  rw [whole, stays, find?_insert, if_pos rfl]

namespace Json

mutual

/-- The texts of a document, at any depth: its strings and the keys of its members. -/
def texts : Json → List String
  | str s => [s]
  | arr items => itemTexts items
  | obj members => memberTexts members
  | null => []
  | bool _ => []
  | num _ => []

def itemTexts : List Json → List String
  | [] => []
  | item :: rest => item.texts ++ itemTexts rest

def memberTexts : List (String × Json) → List String
  | [] => []
  | (key, value) :: rest => key :: (value.texts ++ memberTexts rest)

end

theorem mem_memberTexts {text : String} {members : List (String × Json)} :
    text ∈ memberTexts members ↔ ∃ e ∈ members, text = e.1 ∨ text ∈ e.2.texts := by
  induction members with
  | nil => simp [memberTexts]
  | cons member rest ih => simp [memberTexts, ih, or_assoc]

inductive Step where
  | item (index : Nat)
  | member (key : String)

def child? : Step → Json → Option Json
  | .item index, arr items => items[index]?
  | .member key, obj members => KeyMap.findEntry key members
  | _, _ => none

/-- What a path leads to. -/
def at? : List Step → Json → Option Json
  | [], v => some v
  | step :: path, v => (v.child? step).bind (at? path)

end Json

namespace Masking

open Json

variable {secrets : List String} {text : String}

/-! Texts in which there is nothing to mask. -/

theorem replace_eq_self {c : Char} {pattern marker text : List Char}
    (absent : ¬ c :: pattern <:+: text) : replace c pattern marker text = text := by
  induction text using replace.induct c pattern with
  | case1 => rw [replace]
  | case2 d text rest found ih =>
      refine absurd ?_ absent
      rw [dropFront?_eq_some.mp found]
      exact (List.prefix_append _ rest).isInfix
  | case3 d text none ih =>
      have clear : ¬ c :: pattern <:+: text := fun within =>
        absent (within.trans (List.suffix_cons d text).isInfix)
      rw [replace_of_none none, ih clear]

theorem maskOne_eq_self {secret : String} (absent : secret ≠ "" → ¬ Occurs secret text) :
    maskOne text secret = text := by
  apply String.toList_inj.mp
  rw [toList_maskOne]
  cases chars : secret.toList with
  | nil => rfl
  | cons c pattern =>
      have full : secret ≠ "" := by
        rintro rfl
        cases chars
      have apart := absent full
      rw [Occurs, chars] at apart
      exact replace_eq_self apart

theorem mask_eq_self (absent : ∀ secret ∈ secrets, secret ≠ "" → ¬ Occurs secret text) :
    mask secrets text = text := by
  induction secrets with
  | nil => rfl
  | cons first rest ih =>
      obtain ⟨own, others⟩ := List.forall_mem_cons.mp absent
      show mask rest (maskOne text first) = text
      rw [maskOne_eq_self own]
      exact ih others

/-! Documents. -/

theorem maskItems_eq (secrets : List String) (items : List Json) :
    maskItems secrets items = items.map (maskJson secrets) := by
  induction items with
  | nil => rfl
  | cons item rest ih => rw [maskItems, ih, List.map_cons]

theorem maskMembers_eq (secrets : List String) (members : List (String × Json)) :
    maskMembers secrets members =
      members.map fun e => (mask secrets e.1, maskJson secrets e.2) := by
  induction members with
  | nil => rfl
  | cons member rest ih => rw [maskMembers, ih, List.map_cons]

mutual

theorem masked_of_mem_texts (v : Json) (member : text ∈ (maskJson secrets v).texts) :
    ∃ own, text = mask secrets own := by
  cases v with
  | null => cases member
  | bool b => cases member
  | num n => cases member
  | str s => exact ⟨s, List.mem_singleton.mp member⟩
  | arr items => exact masked_of_mem_itemTexts items member
  | obj members =>
      obtain ⟨e, kept, within⟩ := mem_memberTexts.mp member
      rcases KeyMap.mem_insertAll kept with absent | own
      · cases absent
      · exact masked_of_mem_memberTexts members (mem_memberTexts.mpr ⟨e, own, within⟩)

theorem masked_of_mem_itemTexts (items : List Json)
    (member : text ∈ itemTexts (maskItems secrets items)) : ∃ own, text = mask secrets own := by
  cases items with
  | nil => cases member
  | cons item rest =>
      rcases List.mem_append.mp member with own | later
      · exact masked_of_mem_texts item own
      · exact masked_of_mem_itemTexts rest later

theorem masked_of_mem_memberTexts (members : List (String × Json))
    (member : text ∈ memberTexts (maskMembers secrets members)) :
    ∃ own, text = mask secrets own := by
  cases members with
  | nil => cases member
  | cons first rest =>
      rcases List.mem_cons.mp member with key | within
      · exact ⟨first.1, key⟩
      · rcases List.mem_append.mp within with own | later
        · exact masked_of_mem_texts first.2 own
        · exact masked_of_mem_memberTexts rest later

end

/-- A path to a part of a document, past members of which no later one has the same masked key. -/
inductive Stays (secrets : List String) (part : Json) : Json → List Step → Prop where
  | here : Stays secrets part part []
  | item {items : List Json} {index : Nat} {v : Json} {path : List Step} :
      items[index]? = some v → Stays secrets part v path →
      Stays secrets part (.arr items) (.item index :: path)
  | member {before after : List (String × Json)} {key : String} {v : Json} {path : List Step} :
      (∀ other ∈ after, mask secrets other.1 ≠ mask secrets key) → Stays secrets part v path →
      Stays secrets part (.obj (before ++ (key, v) :: after)) (.member key :: path)

def maskStep (secrets : List String) : Step → Step
  | .item index => .item index
  | .member key => .member (mask secrets key)

theorem Stays.at? {part doc : Json} {path : List Step} (stays : Stays secrets part doc path) :
    (maskJson secrets doc).at? (path.map (maskStep secrets)) = some (maskJson secrets part) := by
  induction stays with
  | here => rfl
  | @item items index v path found _ ih =>
      have child : (maskJson secrets (.arr items)).child? (.item index) =
          some (maskJson secrets v) := by
        rw [maskJson, child?, maskItems_eq, List.getElem?_map, found]
        rfl
      rw [List.map_cons, maskStep, Json.at?, child]
      exact ih
  | @member before after key v path last _ ih =>
      have child : (maskJson secrets (.obj (before ++ (key, v) :: after))).child?
          (.member (mask secrets key)) = some (maskJson secrets v) := by
        rw [maskJson, maskMembers_eq, List.map_append, List.map_cons]
        apply KeyMap.find?_insertAll_last
        intro other member
        obtain ⟨e, later, rfl⟩ := List.mem_map.mp member
        exact last e later
      rw [List.map_cons, maskStep, Json.at?, child]
      exact ih

/-- What is left of a value: everything but its texts and, of an object, its members' number. -/
inductive Left (secrets : List String) : Json → Json → Prop where
  | null : Left secrets .null .null
  | bool (b : Bool) : Left secrets (.bool b) (.bool b)
  | num (n : Json.Number) : Left secrets (.num n) (.num n)
  | str (s : String) : Left secrets (.str s) (.str (mask secrets s))
  | arr {items masked : List Json} : masked.length = items.length →
      Left secrets (.arr items) (.arr masked)
  | obj (members masked : List (String × Json)) : Left secrets (.obj members) (.obj masked)

theorem left_maskJson (secrets : List String) (v : Json) : Left secrets v (maskJson secrets v) := by
  cases v with
  | null => exact .null
  | bool b => exact .bool b
  | num n => exact .num n
  | str s => exact .str s
  | arr items =>
      apply Left.arr
      rw [maskItems_eq, List.length_map]
  | obj members => exact .obj members _

/-- Masking takes the secrets out and leaves the rest. No secret that can be told apart from the
marker is left in a text or in a text of a document, whatever the other secrets are, and a text in
which there is none stays as it is. In a document numbers, truth values, nothing and the lengths of
lists stay, and so does every member of whose masked key there is no later one. -/
theorem secrets_masked (secrets : List String) :
    (∀ text, ∀ secret ∈ secrets, Plain secret.toList → ¬ Occurs secret (mask secrets text)) ∧
    (∀ text, (∀ secret ∈ secrets, secret ≠ "" → ¬ Occurs secret text) →
      mask secrets text = text) ∧
    (∀ doc, ∀ text ∈ (maskJson secrets doc).texts, ∀ secret ∈ secrets, Plain secret.toList →
      ¬ Occurs secret text) ∧
    ∀ doc path part, Stays secrets part doc path → ∃ left,
      (maskJson secrets doc).at? (path.map (maskStep secrets)) = some left ∧
        Left secrets part left := by
  refine ⟨fun text secret member plain => not_occurs_mask plain member,
    fun text absent => mask_eq_self absent, fun doc text member secret known plain => ?_,
    fun doc path part stays => ⟨_, stays.at?, left_maskJson secrets part⟩⟩
  obtain ⟨own, rfl⟩ := masked_of_mem_texts doc member
  exact not_occurs_mask plain known

theorem not_occurs_of_foreign {secret : String} (c : Char) (own : c ∈ secret.toList)
    (foreign : c ∉ text.toList) : ¬ Occurs secret text :=
  fun within => foreign (within.subset own)

def nested : List String := ["tok", "", "tok-123"]

def letter : Json :=
  .obj [("lines", .arr [.str "tok-123", .num (.nat 7)]), ("kind", .null)]

theorem secrets_masked_nested :
    Plain "tok-123".toList ∧ (∀ text ∈ (maskJson nested letter).texts, ¬ Occurs "tok-123" text) ∧
      mask nested "lines" = "lines" ∧
      ∃ left, (maskJson nested letter).at? [.member "lines", .item 1] = some left ∧
        Left nested (.num (.nat 7)) left := by
  obtain ⟨_, unchanged, hidden, keeps⟩ := secrets_masked nested
  have plain : Plain "tok-123".toList := by
    refine ⟨by decide, by decide, fun within => ?_⟩
    exact absurd (within.subset (a := 't') (by decide)) (by decide)
  have lettered : ∀ secret ∈ nested, secret ≠ "" → 't' ∈ secret.toList := by decide
  have untouched : ∀ text : String, 't' ∉ text.toList → mask nested text = text :=
    fun text foreign => unchanged text fun secret member full =>
      not_occurs_of_foreign 't' (lettered secret member full) foreign
  have stays : Stays nested (.num (.nat 7)) letter [.member "lines", .item 1] := by
    show Stays nested _ (.obj ([] ++ ("lines", _) :: [("kind", .null)])) _
    refine .member ?_ (.item rfl .here)
    intro other later
    obtain rfl := List.mem_singleton.mp later
    rw [untouched "kind" (by decide), untouched "lines" (by decide)]
    decide
  obtain ⟨left, there, own⟩ := keeps letter _ _ stays
  rw [List.map_cons, maskStep, untouched "lines" (by decide)] at there
  exact ⟨plain, fun text member => hidden letter text member _ (by decide) plain,
    untouched "lines" (by decide), left, there, own⟩

end Masking
end TenantRelay
