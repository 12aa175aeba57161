import TenantRelay.Number.Shortest

/-! What is counted while the relay runs, and how one number of it is written: a name,
the values of its labels, and the number. -/

namespace TenantRelay

/-- Counts by label values, which stand in the order of their labels' names. They are kept in
floating point where they are exported, where adding one is exact up to 2 ^ 53. -/
abbrev Counts := List (List String × Nat)

namespace Counts

def add (labels : List String) : Counts → Counts
  | [] => [(labels, 1)]
  | (other, n) :: rest =>
    if other = labels then (other, n + 1) :: rest else (other, n) :: add labels rest

def count (labels : List String) : Counts → Nat
  | [] => 0
  | (other, n) :: rest => if other = labels then n else count labels rest

theorem count_add (labels other : List String) (counts : Counts) :
    count other (add labels counts) = count other counts + if other = labels then 1 else 0 := by
  induction counts with
  | nil => simp [add, count, eq_comm]
  | cons entry rest ih =>
      obtain ⟨key, n⟩ := entry
      by_cases h : key = labels
      · subst h
        by_cases h' : key = other
        · subst h'; simp [add, count]
        · simp [add, count, h', Ne.symm h']
      · by_cases h' : key = other
        · subst h'; simp [add, count, h]
        · simp [add, count, h, h', ih]

end Counts

/-- How long something took, by upper bounds. -/
structure Durations where
  within : List Nat
  total : Nat := 0
  sum : Float := 0

namespace Durations

def bounds : List Float := [0.01, 0.05, 0.1, 0.25, 0.5, 1, 2.5, 5, 10, 30, 60, 300, 600]

def none : Durations := { within := bounds.map fun _ => 0 }

def observe (d : Durations) (seconds : Float) : Durations :=
  { within := (d.within.zip bounds).map fun (n, bound) => if seconds ≤ bound then n + 1 else n
    total := d.total + 1
    sum := d.sum + seconds }

end Durations

namespace Sample

def escapeChar (c : Char) : List Char :=
  match c with
  | '\\' => ['\\', '\\']
  | '\n' => ['\\', 'n']
  | '"' => ['\\', '"']
  | _ => [c]

def escape (s : String) : String := String.ofList (s.toList.flatMap escapeChar)

def label (name value : String) : String := name ++ "=\"" ++ escape value ++ "\""

def line (name : String) (labels : List (String × String)) (value : String) : String :=
  let inside := String.intercalate "," (labels.map fun l => label l.1 l.2)
  name ++ (if labels.isEmpty then "" else "\x7b" ++ inside ++ "\x7d") ++ " " ++ value

def number (x : Float) : String := Number.plain.render x

end Sample
end TenantRelay
