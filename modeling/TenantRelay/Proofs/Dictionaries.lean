import TenantRelay.Proofs.Decoding

/-!
A value that was decoded is decoded as itself again, as deep as it was found the first time.
Of an object that holds for the sorted members, each of which was decoded.
-/

namespace TenantRelay

namespace KeyMap

variable {α : Type}

theorem mem_insertEntry {k : String} {v : α} {entries : List (String × α)} {entry : String × α}
    (member : entry ∈ insertEntry k v entries) : entry = (k, v) ∨ entry ∈ entries := by
  induction entries with
  | nil => exact .inl (List.mem_singleton.mp member)
  | cons next rest ih =>
      obtain ⟨k', v'⟩ := next
      simp only [insertEntry] at member
      split at member
      case isTrue => exact List.mem_cons.mp member
      case isFalse =>
        split at member
        case isTrue => exact (List.mem_cons.mp member).imp_right (List.mem_cons_of_mem _)
        case isFalse =>
          rcases List.mem_cons.mp member with same | later
          · exact .inr (same ▸ List.mem_cons_self)
          · exact (ih later).imp_right (List.mem_cons_of_mem _)

theorem mem_insertAll {entries : List (String × α)} {m : KeyMap α} {entry : String × α}
    (member : entry ∈ (m.insertAll entries).entries) : entry ∈ m.entries ∨ entry ∈ entries := by
  induction entries generalizing m with
  | nil => exact .inl member
  | cons next rest ih =>
      rcases ih member with before | later
      · rcases mem_insertEntry before with same | old
        · exact .inr (same ▸ List.mem_cons_self)
        · exact .inl old
      · exact .inr (List.mem_cons_of_mem _ later)

theorem find?_insertAll {entries : List (String × α)} (sorted : Increasing entries) (m : KeyMap α)
    (key : String) :
    (m.insertAll entries).find? key = (findEntry key entries).or (m.find? key) := by
  induction entries generalizing m with
  | nil => rfl
  | cons next rest ih =>
      obtain ⟨k, v⟩ := next
      have parts := increasing_cons.mp sorted
      have later := ih parts.2 (m.insert k v)
      rw [find?_insert] at later
      show ((m.insert k v).insertAll rest).find? key = _
      rw [later]
      by_cases same : key = k
      · subst same
        simp [findEntry, findEntry_above parts.1 (String.lt_irrefl key)]
      · simp [findEntry, same]

theorem insertAll_entries (m : KeyMap α) : (empty : KeyMap α).insertAll m.entries = m := by
  apply ext_find?
  intro key
  rw [find?_insertAll m.increasing, find?_empty, Option.or_none]
  rfl

end KeyMap

namespace Document.Decoder

/-- What a value is decoded as, if it is found that deep in a document. -/
abbrev Kept (depth : Depth) (v : Json) : Prop := json depth (Tree.ofJson v) = .ok v

theorem jsonMembers_of_kept {depth : Depth} {all : List (String × Json)}
    (kept : ∀ e ∈ all, Kept depth e.2) : jsonMembers depth (Tree.ofMembers all) = .ok all := by
  induction all with
  | nil => rfl
  | cons first rest ih =>
      have own := kept first List.mem_cons_self
      have others := ih fun e member => kept e (List.mem_cons_of_mem _ member)
      show (json depth (Tree.ofJson first.2) >>= _) = _
      rw [own]
      show (jsonMembers depth (Tree.ofMembers rest) >>= _) = _
      rw [others]
      rfl

mutual

theorem kept_of_json {depth : Depth} {v : Json} (tree : Tree)
    (read : json depth tree = .ok v) : Kept depth v := by
  cases tree with
  | null => cases read; rfl
  | bool b => cases read; rfl
  | num n => cases read; rfl
  | str s => cases read; rfl
  | plain s => cases read; rfl
  | flawed fault => cases read
  | broken fault => cases read
  | arr trees tail =>
      obtain ⟨below, entered, read⟩ := ok_of_bind read
      obtain ⟨all, items, read⟩ := ok_of_bind read
      obtain ⟨_, _, read⟩ := ok_of_bind read
      cases read
      have kept := jsonItems_kept trees items
      show (enter depth >>= _) = _
      rw [entered]
      show (jsonItems below (Tree.ofItems all) >>= _) = _
      rw [kept]
      rfl
  | obj pairs tail =>
      obtain ⟨below, entered, read⟩ := ok_of_bind read
      obtain ⟨all, members, read⟩ := ok_of_bind read
      obtain ⟨_, _, read⟩ := ok_of_bind read
      cases read
      have kept := jsonMembers_kept pairs members
      have sorted : ∀ e ∈ (KeyMap.ofList all).entries, Kept below e.2 := by
        intro e member
        rcases KeyMap.mem_insertAll member with absent | own
        · cases absent
        · exact kept e own
      show (enter depth >>= _) = _
      rw [entered]
      show (jsonMembers below (Tree.ofMembers (KeyMap.ofList all).entries) >>= _) = _
      rw [jsonMembers_of_kept sorted]
      show Except.ok (Json.ofPairs (KeyMap.ofList all).entries) = _
      rw [Json.ofPairs, KeyMap.ofList, KeyMap.insertAll_entries]
      rfl

theorem jsonItems_kept {depth : Depth} {all : List Json} (trees : List Tree)
    (read : jsonItems depth trees = .ok all) :
    jsonItems depth (Tree.ofItems all) = .ok all := by
  cases trees with
  | nil => cases read; rfl
  | cons tree rest =>
      obtain ⟨first, own, read⟩ := ok_of_bind read
      obtain ⟨others, later, read⟩ := ok_of_bind read
      cases read
      have own := kept_of_json tree own
      have later := jsonItems_kept rest later
      show (json depth (Tree.ofJson first) >>= _) = _
      rw [own]
      show (jsonItems depth (Tree.ofItems others) >>= _) = _
      rw [later]
      rfl

theorem jsonMembers_kept {depth : Depth} {all : List (String × Json)}
    (pairs : List (Key × Tree)) (read : jsonMembers depth pairs = .ok all) :
    ∀ e ∈ all, Kept depth e.2 := by
  cases pairs with
  | nil => cases read; nofun
  | cons pair rest =>
      obtain ⟨key, tree⟩ := pair
      obtain ⟨name, _, read⟩ := ok_of_bind read
      obtain ⟨first, own, read⟩ := ok_of_bind read
      obtain ⟨others, later, read⟩ := ok_of_bind read
      cases read
      have own := kept_of_json tree own
      have later := jsonMembers_kept rest later
      intro e member
      rcases List.mem_cons.mp member with same | old
      · exact same ▸ own
      · exact later e old

end

/-! Maps of anything that is decoded as itself again. -/

section
variable {α : Type} {inner : Decoder α} {depth below : Depth}

theorem holds_of_members {Good : Tree → Prop} {Holds : α → Prop} {pairs : List (Key × Tree)}
    {sofar m : KeyMap α} (good : ∀ pair ∈ pairs, Good pair.2)
    (holds : ∀ tree a, Good tree → inner below tree = .ok a → Holds a)
    (before : ∀ e ∈ sofar.entries, Holds e.2)
    (read : members inner below pairs sofar = .ok m) : ∀ e ∈ m.entries, Holds e.2 := by
  induction pairs generalizing sofar with
  | nil =>
      cases read
      exact before
  | cons pair rest ih =>
      obtain ⟨key, tree⟩ := pair
      obtain ⟨name, _, read⟩ := ok_of_bind read
      obtain ⟨a, own, read⟩ := ok_of_bind read
      have others : ∀ pair ∈ rest, Good pair.2 :=
        fun pair member => good pair (List.mem_cons_of_mem _ member)
      apply ih others _ read
      intro e member
      rcases KeyMap.mem_insertEntry member with same | old
      · exact same ▸ holds tree a (good (key, tree) List.mem_cons_self) own
      · exact before e old

theorem holds_of_map {Good : Tree → Prop} (Holds : α → Prop) {tree : Tree} {m : KeyMap α}
    (inherited : Tree.Inherited Good) (good : Good tree)
    (holds : ∀ below, enter depth = .ok below →
      ∀ tree a, Good tree → inner below tree = .ok a → Holds a)
    (read : map inner depth tree = .ok m) : ∀ e ∈ m.entries, Holds e.2 := by
  cases tree with
  | obj pairs tail =>
      obtain ⟨below, entered, read⟩ := ok_of_bind read
      obtain ⟨all, members, read⟩ := ok_of_bind read
      obtain ⟨_, _, read⟩ := ok_of_bind read
      cases read
      have before : ∀ e ∈ (KeyMap.empty : KeyMap α).entries, Holds e.2 := by
        intro e absent
        cases absent
      exact holds_of_members (inherited.member pairs tail good) (holds below entered) before members
  | plain text =>
      by_cases empty : text = ""
      · subst empty
        cases read
        nofun
      · simp [map, empty] at read
  | _ => cases read

theorem members_ofMembers {f : α → Json} {entries : List (String × α)} (sofar : KeyMap α)
    (kept : ∀ e ∈ entries, inner below (Tree.ofJson (f e.2)) = .ok e.2) :
    members inner below (Tree.ofMembers (entries.map fun e => (e.1, f e.2))) sofar =
      .ok (sofar.insertAll entries) := by
  induction entries generalizing sofar with
  | nil => rfl
  | cons first rest ih =>
      have own := kept first List.mem_cons_self
      show (inner below (Tree.ofJson (f first.2)) >>= _) = _
      rw [own]
      exact ih _ fun e member => kept e (List.mem_cons_of_mem _ member)

theorem map_ofDict {f : α → Json} {m : KeyMap α} (entered : enter depth = .ok below)
    (kept : ∀ e ∈ m.entries, inner below (Tree.ofJson (f e.2)) = .ok e.2) :
    map inner depth (Tree.ofJson (.ofDict (m.map f))) = .ok m := by
  show (enter depth >>= _) = _
  rw [entered]
  show (members inner below (Tree.ofMembers (m.entries.map fun e => (e.1, f e.2))) .empty >>= _) = _
  rw [members_ofMembers _ kept, KeyMap.insertAll_entries]
  rfl

theorem dict_ofDict {d : Dict} (entered : enter depth = .ok below)
    (kept : ∀ e ∈ d.entries, Kept below e.2) :
    dict depth (Tree.ofJson (.ofDict d)) = .ok d := by
  have same : d.map id = d := by
    cases d
    simp [KeyMap.map]
  have read := map_ofDict (f := id) entered kept
  rw [same] at read
  exact read

end

end Document.Decoder
end TenantRelay
