import TenantRelay.Proofs.Dictionaries

/-!
Values that are not too deep to be read where they stand. Reading such a value gives the value
with its members sorted, and whatever is in it is not too deep for its place either, so what is
said of the whole goes on to every part.
-/

namespace TenantRelay

open Document Decoder

mutual

theorem Document.Decoder.eq_normalize {depth : Depth} {w : Json} (v : Json)
    (read : json depth (Tree.ofJson v) = .ok w) : w = v.normalize := by
  cases v with
  | null => cases read; rfl
  | bool b => cases read; rfl
  | num n => cases read; rfl
  | str s => cases read; rfl
  | arr items =>
      obtain ⟨below, _, read⟩ := ok_of_bind read
      obtain ⟨all, own, read⟩ := ok_of_bind read
      cases read
      rw [eq_normalizeItems items own]
      rfl
  | obj members =>
      obtain ⟨below, _, read⟩ := ok_of_bind read
      obtain ⟨all, own, read⟩ := ok_of_bind read
      cases read
      rw [eq_normalizeMembers members own]
      rfl

theorem Document.Decoder.eq_normalizeItems {depth : Depth} {all : List Json} (items : List Json)
    (read : jsonItems depth (Tree.ofItems items) = .ok all) : all = Json.normalizeItems items := by
  cases items with
  | nil => cases read; rfl
  | cons item rest =>
      obtain ⟨first, own, read⟩ := ok_of_bind read
      obtain ⟨others, later, read⟩ := ok_of_bind read
      cases read
      rw [eq_normalize item own, eq_normalizeItems rest later]
      rfl

theorem Document.Decoder.eq_normalizeMembers {depth : Depth} {all : List (String × Json)}
    (members : List (String × Json))
    (read : jsonMembers depth (Tree.ofMembers members) = .ok all) :
    all = Json.normalizeMembers members := by
  cases members with
  | nil => cases read; rfl
  | cons member rest =>
      obtain ⟨key, value⟩ := member
      obtain ⟨name, same, read⟩ := ok_of_bind read
      cases same
      obtain ⟨first, own, read⟩ := ok_of_bind read
      obtain ⟨others, later, read⟩ := ok_of_bind read
      cases read
      rw [eq_normalize value own, eq_normalizeMembers rest later]
      rfl

end

def Json.Sorted (v : Json) : Prop := v.normalize = v

/-- The text layer gives back what it printed: the text is read as the value it was printed
for, and what is in it is not too deep. -/
structure Json.Restored (v : Json) : Prop where
  tree : readTree (Text.Utf8.encode v.compact) = (Tree.ofJson v, false)
  value : Decoder.json textDepth (Tree.ofJson v) = .ok v.normalize

namespace Document.Decoder

/-- A value is not too deep to be read so far down. -/
def Fits (depth : Depth) (v : Json) : Prop := ∃ w, json depth (Tree.ofJson v) = .ok w

variable {depth : Depth}

theorem fits_of_jsonMembers {members all : List (String × Json)}
    (read : jsonMembers depth (Tree.ofMembers members) = .ok all) :
    ∀ e ∈ members, Fits depth e.2 := by
  induction members generalizing all with
  | nil => exact List.forall_mem_nil _
  | cons member rest ih =>
      obtain ⟨name, _, read⟩ := ok_of_bind read
      obtain ⟨first, own, read⟩ := ok_of_bind read
      obtain ⟨others, later, _⟩ := ok_of_bind read
      exact List.forall_mem_cons.mpr ⟨⟨first, own⟩, ih later⟩

theorem fits_of_jsonItems {items all : List Json}
    (read : jsonItems depth (Tree.ofItems items) = .ok all) : ∀ v ∈ items, Fits depth v := by
  induction items generalizing all with
  | nil => exact List.forall_mem_nil _
  | cons item rest ih =>
      obtain ⟨first, own, read⟩ := ok_of_bind read
      obtain ⟨others, later, _⟩ := ok_of_bind read
      exact List.forall_mem_cons.mpr ⟨⟨first, own⟩, ih later⟩

theorem Fits.members {members : List (String × Json)} (fits : Fits depth (.obj members)) :
    ∃ below, enter depth = .ok below ∧ ∀ e ∈ members, Fits below e.2 := by
  obtain ⟨w, read⟩ := fits
  obtain ⟨below, entered, read⟩ := ok_of_bind read
  obtain ⟨all, own, _⟩ := ok_of_bind read
  exact ⟨below, entered, fits_of_jsonMembers own⟩

theorem Fits.items {items : List Json} (fits : Fits depth (.arr items)) :
    ∃ below, enter depth = .ok below ∧ ∀ v ∈ items, Fits below v := by
  obtain ⟨w, read⟩ := fits
  obtain ⟨below, entered, read⟩ := ok_of_bind read
  obtain ⟨all, own, _⟩ := ok_of_bind read
  exact ⟨below, entered, fits_of_jsonItems own⟩

theorem Fits.kept {v : Json} (fits : Fits depth v) (sorted : v.Sorted) : Kept depth v := by
  obtain ⟨w, read⟩ := fits
  have same := eq_normalize v read
  rw [sorted] at same
  exact same ▸ read

theorem Fits.dict {d : Dict} (fits : Fits depth (.ofDict d))
    (sorted : ∀ e ∈ d.entries, e.2.Sorted) :
    dict depth (Tree.ofJson (.ofDict d)) = .ok d := by
  obtain ⟨below, entered, members⟩ := fits.members
  exact dict_ofDict entered fun e member => (members e member).kept (sorted e member)

end Document.Decoder

/-! How deep a value is, and that this is all that matters. -/

namespace Json

mutual

def height : Json → Nat
  | arr items => itemsHeight items + 1
  | obj members => membersHeight members + 1
  | null => 0
  | bool _ => 0
  | num _ => 0
  | str _ => 0

def itemsHeight : List Json → Nat
  | [] => 0
  | item :: rest => max item.height (itemsHeight rest)

def membersHeight : List (String × Json) → Nat
  | [] => 0
  | (_, value) :: rest => max value.height (membersHeight rest)

end

theorem itemsHeight_le {items : List Json} {most : Nat} (each : ∀ v ∈ items, v.height ≤ most) :
    itemsHeight items ≤ most := by
  induction items with
  | nil => exact Nat.zero_le most
  | cons item rest ih =>
      obtain ⟨own, others⟩ := List.forall_mem_cons.mp each
      exact Nat.max_le.mpr ⟨own, ih others⟩

theorem membersHeight_le {members : List (String × Json)} {most : Nat}
    (each : ∀ e ∈ members, e.2.height ≤ most) : membersHeight members ≤ most := by
  induction members with
  | nil => exact Nat.zero_le most
  | cons member rest ih =>
      obtain ⟨own, others⟩ := List.forall_mem_cons.mp each
      exact Nat.max_le.mpr ⟨own, ih others⟩

end Json

namespace Document

/-- There is room for a value of this height. In memory there is room for anything. -/
def Depth.Holds (depth : Depth) (height : Nat) : Prop := ∀ n ∈ depth, height < n

theorem Depth.Holds.mono {depth : Depth} {low high : Nat} (holds : Depth.Holds depth high)
    (le : low ≤ high) : Depth.Holds depth low :=
  fun n own => Nat.lt_of_le_of_lt le (holds n own)

theorem Depth.Holds.enter {depth : Depth} {height : Nat} (holds : Depth.Holds depth (height + 1)) :
    ∃ below, enter depth = .ok below ∧ Depth.Holds below height := by
  cases depth with
  | none => exact ⟨none, rfl, nofun⟩
  | some n =>
      have deep : height + 1 < n := holds n rfl
      refine ⟨some (n - 1), if_neg (by omega), ?_⟩
      rintro _ ⟨⟩
      omega

end Document

namespace Document.Decoder

mutual

theorem json_of_holds {depth : Depth} (v : Json) (holds : Depth.Holds depth v.height) :
    json depth (Tree.ofJson v) = .ok v.normalize := by
  cases v with
  | null => rfl
  | bool b => rfl
  | num n => rfl
  | str s => rfl
  | arr items =>
      rw [Json.height] at holds
      obtain ⟨below, entered, holds⟩ := holds.enter
      show (enter depth >>= _) = _
      rw [entered]
      show (jsonItems below (Tree.ofItems items) >>= _) = _
      rw [jsonItems_of_holds items holds]
      rfl
  | obj members =>
      rw [Json.height] at holds
      obtain ⟨below, entered, holds⟩ := holds.enter
      show (enter depth >>= _) = _
      rw [entered]
      show (jsonMembers below (Tree.ofMembers members) >>= _) = _
      rw [jsonMembers_of_holds members holds]
      rfl

theorem jsonItems_of_holds {depth : Depth} (items : List Json)
    (holds : Depth.Holds depth (Json.itemsHeight items)) :
    jsonItems depth (Tree.ofItems items) = .ok (Json.normalizeItems items) := by
  cases items with
  | nil => rfl
  | cons item rest =>
      rw [Json.itemsHeight] at holds
      show (json depth (Tree.ofJson item) >>= _) = _
      rw [json_of_holds item (holds.mono (Nat.le_max_left _ _))]
      show (jsonItems depth (Tree.ofItems rest) >>= _) = _
      rw [jsonItems_of_holds rest (holds.mono (Nat.le_max_right _ _))]
      rfl

theorem jsonMembers_of_holds {depth : Depth} (members : List (String × Json))
    (holds : Depth.Holds depth (Json.membersHeight members)) :
    jsonMembers depth (Tree.ofMembers members) = .ok (Json.normalizeMembers members) := by
  cases members with
  | nil => rfl
  | cons member rest =>
      obtain ⟨key, value⟩ := member
      rw [Json.membersHeight] at holds
      show (json depth (Tree.ofJson value) >>= _) = _
      rw [json_of_holds value (holds.mono (Nat.le_max_left _ _))]
      show (jsonMembers depth (Tree.ofMembers rest) >>= _) = _
      rw [jsonMembers_of_holds rest (holds.mono (Nat.le_max_right _ _))]
      rfl

end

theorem fits_unbounded (v : Json) : Fits none v := ⟨v.normalize, json_of_holds v nofun⟩

end Document.Decoder

theorem Json.Restored.fits {v : Json} (restored : v.Restored) : Fits textDepth v :=
  ⟨v.normalize, restored.value⟩

end TenantRelay
