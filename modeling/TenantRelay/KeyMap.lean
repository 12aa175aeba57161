/-!
Finite maps from texts, kept as pairs in increasing order of their keys, so that
two maps with the same bindings are the same value and listing a map needs no
choice of order.
-/

namespace TenantRelay

def Increasing {α : Type} : List (String × α) → Prop
  | [] => True
  | [_] => True
  | (k, _) :: (k', v') :: rest => k < k' ∧ Increasing ((k', v') :: rest)

structure KeyMap (α : Type) where
  entries : List (String × α)
  increasing : Increasing entries

namespace KeyMap

variable {α β : Type}

def Above (k : String) (entries : List (String × α)) : Prop :=
  ∀ entry ∈ entries, k < entry.1

theorem increasing_cons {k : String} {v : α} {rest : List (String × α)} :
    Increasing ((k, v) :: rest) ↔ Above k rest ∧ Increasing rest := by
  induction rest generalizing k v with
  | nil => simp [Increasing, Above]
  | cons next rest ih =>
      obtain ⟨k', v'⟩ := next
      simp only [Increasing]
      constructor
      · intro h
        refine ⟨?_, h.2⟩
        intro entry member
        rcases List.mem_cons.mp member with same | later
        · subst same; exact h.1
        · exact String.lt_trans h.1 ((ih.mp h.2).1 entry later)
      · intro h
        exact ⟨h.1 (k', v') List.mem_cons_self, h.2⟩

def insertEntry (k : String) (v : α) : List (String × α) → List (String × α)
  | [] => [(k, v)]
  | (k', v') :: rest =>
      if k < k' then (k, v) :: (k', v') :: rest
      else if k = k' then (k, v) :: rest
      else (k', v') :: insertEntry k v rest

def eraseEntry (k : String) (entries : List (String × α)) : List (String × α) :=
  entries.filter fun entry => entry.1 != k

def findEntry (k : String) : List (String × α) → Option α
  | [] => none
  | (k', v) :: rest => if k = k' then some v else findEntry k rest

theorem above_insertEntry {low k : String} {v : α} {entries : List (String × α)}
    (below : low < k) (above : Above low entries) : Above low (insertEntry k v entries) := by
  induction entries with
  | nil =>
      intro entry member
      cases List.mem_singleton.mp member
      exact below
  | cons next rest ih =>
      obtain ⟨k', v'⟩ := next
      have head : low < k' := above (k', v') List.mem_cons_self
      have tail : Above low rest := fun e m => above e (List.mem_cons_of_mem _ m)
      simp only [insertEntry]
      split
      · intro e m
        rcases List.mem_cons.mp m with same | later
        · subst same; exact below
        · exact above e later
      · split
        · intro e m
          rcases List.mem_cons.mp m with same | later
          · subst same; exact below
          · exact tail e later
        · intro e m
          rcases List.mem_cons.mp m with same | later
          · subst same; exact head
          · exact ih tail e later

theorem lt_of_not_lt_of_ne {a b : String} (notLess : ¬a < b) (different : a ≠ b) : b < a := by
  rcases Decidable.em (b < a) with h | h
  · exact h
  · exact absurd (String.le_antisymm (String.not_lt.mp h) (String.not_lt.mp notLess)) different

theorem increasing_insertEntry {k : String} {v : α} {entries : List (String × α)}
    (sorted : Increasing entries) : Increasing (insertEntry k v entries) := by
  induction entries with
  | nil => simp [insertEntry, Increasing]
  | cons next rest ih =>
      obtain ⟨k', v'⟩ := next
      have parts := increasing_cons.mp sorted
      simp only [insertEntry]
      split
      · rename_i less; exact ⟨less, sorted⟩
      · split
        · rename_i same; subst same; exact increasing_cons.mpr parts
        · rename_i notLess different
          exact increasing_cons.mpr
            ⟨above_insertEntry (lt_of_not_lt_of_ne notLess different) parts.1, ih parts.2⟩

theorem increasing_filter {p : String × α → Bool} {entries : List (String × α)}
    (sorted : Increasing entries) : Increasing (entries.filter p) := by
  induction entries with
  | nil => simp [Increasing]
  | cons next rest ih =>
      obtain ⟨k', v'⟩ := next
      have parts := increasing_cons.mp sorted
      simp only [List.filter_cons]
      split
      · exact increasing_cons.mpr
          ⟨fun e m => parts.1 e ((List.mem_filter.mp m).1), ih parts.2⟩
      · exact ih parts.2

theorem increasing_map {f : α → β} {entries : List (String × α)}
    (sorted : Increasing entries) :
    Increasing (entries.map fun entry => (entry.1, f entry.2)) := by
  induction entries with
  | nil => simp [Increasing]
  | cons next rest ih =>
      obtain ⟨k', v'⟩ := next
      have parts := increasing_cons.mp sorted
      refine increasing_cons.mpr ⟨?_, ih parts.2⟩
      intro e m
      obtain ⟨e', member, same⟩ := List.mem_map.mp m
      subst same
      exact parts.1 e' member

def empty : KeyMap α := ⟨[], trivial⟩

instance : EmptyCollection (KeyMap α) := ⟨empty⟩

instance : Inhabited (KeyMap α) := ⟨empty⟩

instance [DecidableEq α] : DecidableEq (KeyMap α) := fun a b =>
  if same : a.entries = b.entries then
    isTrue (by cases a; cases b; simp only at same; subst same; rfl)
  else isFalse fun h => same (h ▸ rfl)

def insert (m : KeyMap α) (k : String) (v : α) : KeyMap α :=
  ⟨insertEntry k v m.entries, increasing_insertEntry m.increasing⟩

def erase (m : KeyMap α) (k : String) : KeyMap α :=
  ⟨eraseEntry k m.entries, increasing_filter m.increasing⟩

def find? (m : KeyMap α) (k : String) : Option α := findEntry k m.entries

def contains (m : KeyMap α) (k : String) : Bool := (m.find? k).isSome

def keys (m : KeyMap α) : List String := m.entries.map (·.1)

def values (m : KeyMap α) : List α := m.entries.map (·.2)

def size (m : KeyMap α) : Nat := m.entries.length

def isEmpty (m : KeyMap α) : Bool := m.entries.isEmpty

def map (f : α → β) (m : KeyMap α) : KeyMap β :=
  ⟨m.entries.map fun entry => (entry.1, f entry.2), increasing_map m.increasing⟩

def insertAll (m : KeyMap α) (entries : List (String × α)) : KeyMap α :=
  entries.foldl (fun m entry => m.insert entry.1 entry.2) m

def ofList (entries : List (String × α)) : KeyMap α := empty.insertAll entries

theorem findEntry_insertEntry (k key : String) (v : α) (entries : List (String × α)) :
    findEntry key (insertEntry k v entries) = if key = k then some v else findEntry key entries := by
  induction entries with
  | nil => simp [insertEntry, findEntry]
  | cons next rest ih =>
      obtain ⟨k', v'⟩ := next
      simp only [insertEntry]
      split
      · simp [findEntry]
      · split
        · rename_i same; subst same
          by_cases h : key = k <;> simp [findEntry, h]
        · rename_i different
          by_cases h : key = k'
          · subst h
            simp [findEntry, Ne.symm different]
          · simp [findEntry, h, ih]

theorem findEntry_eraseEntry (k key : String) (entries : List (String × α)) :
    findEntry key (eraseEntry k entries) = if key = k then none else findEntry key entries := by
  induction entries with
  | nil => simp [eraseEntry, findEntry]
  | cons next rest ih =>
      obtain ⟨k', v'⟩ := next
      by_cases h : k' = k
      · subst h
        by_cases h' : key = k' <;> simp_all [eraseEntry, findEntry]
      · by_cases h' : key = k'
        · subst h'
          simp [eraseEntry, findEntry, h]
        · simp_all [eraseEntry, findEntry]

@[simp] theorem find?_insert (m : KeyMap α) (k key : String) (v : α) :
    (m.insert k v).find? key = if key = k then some v else m.find? key :=
  findEntry_insertEntry k key v m.entries

@[simp] theorem find?_erase (m : KeyMap α) (k key : String) :
    (m.erase k).find? key = if key = k then none else m.find? key :=
  findEntry_eraseEntry k key m.entries

@[simp] theorem find?_empty (key : String) : (empty : KeyMap α).find? key = none := rfl

theorem findEntry_above {key low : String} {entries : List (String × α)}
    (above : Above low entries) (le : ¬low < key) : findEntry key entries = none := by
  induction entries with
  | nil => rfl
  | cons next rest ih =>
      obtain ⟨k', v'⟩ := next
      have head : low < k' := above (k', v') List.mem_cons_self
      have different : key ≠ k' := fun h => le (h ▸ head)
      simp [findEntry, different, ih fun e m => above e (List.mem_cons_of_mem _ m)]

theorem entries_ext {a b : List (String × α)} (sortedA : Increasing a) (sortedB : Increasing b)
    (same : ∀ key, findEntry key a = findEntry key b) : a = b := by
  induction a generalizing b with
  | nil =>
      cases b with
      | nil => rfl
      | cons next rest => simpa [findEntry] using same next.1
  | cons next rest ih =>
      obtain ⟨k, v⟩ := next
      cases b with
      | nil => simpa [findEntry] using same k
      | cons next' rest' =>
          obtain ⟨k', v'⟩ := next'
          have partsA := increasing_cons.mp sortedA
          have partsB := increasing_cons.mp sortedB
          have keys : k = k' := by
            rcases Decidable.em (k = k') with h | h
            · exact h
            · rcases Decidable.em (k < k') with less | notLess
              · have := same k
                simp [findEntry, h, findEntry_above partsB.1 (String.lt_asymm less)] at this
              · have less := lt_of_not_lt_of_ne notLess h
                have := same k'
                simp [findEntry, Ne.symm h, findEntry_above partsA.1 (String.lt_asymm less)] at this
          subst keys
          have values : v = v' := by simpa [findEntry] using same k
          subst values
          congr 1
          apply ih partsA.2 partsB.2
          intro key
          rcases Decidable.em (key = k) with h | h
          · subst h
            rw [findEntry_above partsA.1 (String.lt_irrefl key),
              findEntry_above partsB.1 (String.lt_irrefl key)]
          · simpa [findEntry, h] using same key

/-- A map is known by what it answers. -/
theorem ext_find? {a b : KeyMap α} (same : ∀ key, a.find? key = b.find? key) : a = b := by
  cases a; cases b
  simp only [KeyMap.mk.injEq]
  exact entries_ext ‹_› ‹_› same

end KeyMap
end TenantRelay
