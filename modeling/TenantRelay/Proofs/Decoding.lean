import TenantRelay.Json.Reader

/-!
Records as they are decoded. What holds of the blank record and is kept by every field that
is stored holds of whatever a document is decoded to.
-/

namespace TenantRelay.Document

variable {σ : Type} {fields : List (RecordField σ)} {depth : Depth} {Good : Tree → Prop}
  {Holds : σ → Prop}

/-- What is said of a tree is said of everything in it as well. -/
structure Tree.Inherited (Good : Tree → Prop) : Prop where
  item : ∀ trees tail, Good (.arr trees tail) → ∀ tree ∈ trees, Good tree
  member : ∀ pairs tail, Good (.obj pairs tail) → ∀ pair ∈ pairs, Good pair.2

def RecordField.KeepsFrom (Good : Tree → Prop) (Holds : σ → Prop) (depth : Depth)
    (field : RecordField σ) : Prop :=
  ∀ tree r r', Good tree → Holds r → field.store depth tree r = .ok r' → Holds r'

theorem RecordField.KeepsFrom.of {α : Type} {name : String} {inner : Decoder α} {set : α → σ → σ}
    (kept : ∀ tree value r, Good tree → inner depth tree = .ok value → Holds r →
      Holds (set value r)) :
    (RecordField.of name inner set).KeepsFrom Good Holds depth := by
  intro tree r r' good holds stored
  cases decoded : inner depth tree with
  | error e =>
      simp only [RecordField.of, decoded, Except.map] at stored
      cases stored
  | ok value =>
      simp only [RecordField.of, decoded, Except.map] at stored
      cases stored
      exact kept tree value r good decoded holds

abbrev RecordField.Keeps (Holds : σ → Prop) (depth : Depth) (field : RecordField σ) : Prop :=
  field.KeepsFrom (fun _ => True) Holds depth

theorem RecordField.Keeps.of {α : Type} {name : String} {inner : Decoder α} {set : α → σ → σ}
    (kept : ∀ tree value r, inner depth tree = .ok value → Holds r → Holds (set value r)) :
    (RecordField.of name inner set).Keeps Holds depth :=
  KeepsFrom.of fun tree value r _ => kept tree value r

theorem RecordField.Keeps.must {α : Type} {name : String} {inner : Decoder α} {set : α → σ → σ}
    (kept : ∀ tree value r, inner depth tree = .ok value → Holds r → Holds (set value r)) :
    (RecordField.must name inner set).Keeps Holds depth := by
  show (RecordField.of name inner set).Keeps Holds depth
  exact .of kept

theorem ok_of_bind {ε α β : Type} {first : Except ε α} {rest : α → Except ε β} {b : β}
    (ended : first >>= rest = .ok b) : ∃ a, first = .ok a ∧ rest a = .ok b := by
  cases first with
  | error e => cases ended
  | ok a => exact ⟨a, rfl, ended⟩

theorem ok_bind {ε α β : Type} (a : α) (rest : α → Except ε β) :
    Except.ok a >>= rest = rest a :=
  rfl

theorem ok_of_toOption {ε α : Type} {result : Except ε α} {a : α}
    (found : result.toOption = some a) : result = .ok a := by
  cases result with
  | error e => cases found
  | ok b =>
      cases found
      rfl

theorem Record.holds_of_members (kept : ∀ field ∈ fields, field.KeepsFrom Good Holds depth)
    {pairs : List (Key × Tree)} (good : ∀ pair ∈ pairs, Good pair.2) {seen : List String} {r : σ}
    {ended : List String × σ} (holds : Holds r) (read : Record.members fields depth pairs seen r = .ok ended) :
    Holds ended.2 := by
  induction pairs generalizing seen r with
  | nil =>
      cases read
      exact holds
  | cons pair rest ih =>
      obtain ⟨key, tree⟩ := pair
      have own : Good tree := good (key, tree) List.mem_cons_self
      have others : ∀ pair ∈ rest, Good pair.2 :=
        fun pair member => good pair (List.mem_cons_of_mem _ member)
      obtain ⟨name, _, read⟩ := ok_of_bind read
      cases found : fields.find? fun field => field.name == name with
      | none =>
          simp only [found] at read
          obtain ⟨_, _, read⟩ := ok_of_bind read
          exact ih others holds read
      | some field =>
          simp only [found] at read
          split at read
          case isTrue => cases read
          case isFalse =>
            obtain ⟨next, stored, read⟩ := ok_of_bind read
            have still := kept field (List.mem_of_find?_eq_some found) tree r next own holds stored
            exact ih others still read

theorem Record.holds_of_positional (kept : ∀ field ∈ fields, field.KeepsFrom Good Holds depth)
    {what : String} {total place : Nat} {trees : List Tree} (good : ∀ tree ∈ trees, Good tree)
    {tail : Option Fault} {r : σ} {ended : List Tree × σ} (holds : Holds r)
    (read : Record.positional what total depth place fields trees tail r = .ok ended) :
    Holds ended.2 := by
  induction fields generalizing place trees r with
  | nil =>
      cases read
      exact holds
  | cons field fields ih =>
      have later : ∀ field ∈ fields, field.KeepsFrom Good Holds depth :=
        fun field member => kept field (List.mem_cons_of_mem _ member)
      cases trees with
      | nil =>
          obtain ⟨_, _, read⟩ := ok_of_bind read
          split at read
          case isTrue => cases read
          case isFalse => exact ih later good holds read
      | cons tree trees =>
          obtain ⟨next, stored, read⟩ := ok_of_bind read
          have own := good tree List.mem_cons_self
          have others : ∀ tree ∈ trees, Good tree :=
            fun tree member => good tree (List.mem_cons_of_mem _ member)
          exact ih later others (kept field List.mem_cons_self tree r next own holds stored) read

/-- What the blank record is and every field keeps, a record from such a tree is. -/
theorem holds_of_record_from {what : String} {blank r : σ} {tree : Tree}
    (inherited : Tree.Inherited Good) (good : Good tree) (start : Holds blank)
    (kept : ∀ below, enter depth = .ok below → ∀ field ∈ fields, field.KeepsFrom Good Holds below)
    (read : record what fields blank depth tree = .ok r) : Holds r := by
  cases tree with
  | obj pairs tail =>
      obtain ⟨below, entered, read⟩ := ok_of_bind read
      obtain ⟨⟨seen, value⟩, members, read⟩ := ok_of_bind read
      obtain ⟨_, _, read⟩ := ok_of_bind read
      obtain ⟨_, _, read⟩ := ok_of_bind read
      cases read
      exact Record.holds_of_members (kept below entered) (inherited.member pairs tail good) start
        members
  | arr trees tail =>
      obtain ⟨below, entered, read⟩ := ok_of_bind read
      obtain ⟨⟨left, value⟩, placed, read⟩ := ok_of_bind read
      obtain ⟨_, _, read⟩ := ok_of_bind read
      cases read
      exact Record.holds_of_positional (kept below entered) (inherited.item trees tail good) start
        placed
  | plain text =>
      by_cases empty : text = ""
      · subst empty
        obtain ⟨_, _, read⟩ := ok_of_bind read
        cases read
        exact start
      · simp [record, empty] at read
  | _ => cases read

theorem holds_of_record {what : String} {blank r : σ} {tree : Tree} (start : Holds blank)
    (kept : ∀ below, enter depth = .ok below → ∀ field ∈ fields, field.Keeps Holds below)
    (read : record what fields blank depth tree = .ok r) : Holds r :=
  holds_of_record_from ⟨fun _ _ _ _ _ => trivial, fun _ _ _ _ _ => trivial⟩ trivial start kept read

end TenantRelay.Document

namespace TenantRelay.Json

open Document

theorem parse_eq_ok_iff {α : Type} {decoder : Decoder α} {bytes : Bytes} {a : α} :
    parse decoder bytes = .ok a ↔
      decoder textDepth (readTree bytes).1 = .ok a ∧ (readTree bytes).2 = false := by
  unfold parse
  obtain ⟨tree, more⟩ := readTree bytes
  constructor
  · intro read
    obtain ⟨value, decoded, read⟩ := ok_of_bind read
    cases more with
    | true => cases read
    | false =>
        cases read
        exact ⟨decoded, rfl⟩
  · rintro ⟨decoded, ended⟩
    have ended : more = false := ended
    subst ended
    show decoder textDepth tree >>= _ = _
    rw [decoded]
    rfl

end TenantRelay.Json
