import TenantRelay.Disk.Tree
import TenantRelay.Proofs.Decoding

/-!
What a change of the disk leaves alone. Paths lead through directories only, so they lead where
they led before as long as no directory is taken away. Writing and renaming files touches no
directory, and making directories that are all there changes nothing.
-/

namespace TenantRelay.Disk

open Document

variable {d e : Disk} {steps place goal : List String} {path : String} {node : DiskNode}
  {content : Bytes}

/-! Nodes. What is at a place is known by the name of the place, which more than one list of steps
may come to; only the root has none. -/

theorem key_ne_empty (inside : steps ≠ []) : key steps ≠ "" := by
  cases steps with
  | nil => exact absurd rfl inside
  | cons part rest => simp [key]

theorem node?_inside (inside : steps ≠ []) : d.node? steps = d.nodes.find? (key steps) := by
  simp [node?, inside]

theorem inside_of_node? (other : d.node? steps ≠ some .directory) : steps ≠ [] := by
  rintro rfl
  exact other rfl

theorem inside_of_key_eq (inside : place ≠ []) (same : key steps = key place) : steps ≠ [] := by
  rintro rfl
  exact key_ne_empty inside same.symm

theorem node?_of_key_eq (inside : place ≠ []) (same : key steps = key place) :
    d.node? steps = d.node? place := by
  rw [node?_inside inside, node?_inside (inside_of_key_eq inside same), same]

theorem node?_setNode_same (inside : place ≠ []) (same : key steps = key place) :
    (d.setNode place node).node? steps = some node := by
  rw [node?_inside (inside_of_key_eq inside same), setNode, KeyMap.find?_insert, if_pos same]

theorem node?_setNode_other (other : key steps ≠ key place) :
    (d.setNode place node).node? steps = d.node? steps := by
  by_cases root : steps = []
  · subst root
    rfl
  · rw [node?_inside root, node?_inside root, setNode, KeyMap.find?_insert, if_neg other]

theorem node?_removeNode_other (other : key steps ≠ key place) :
    (d.removeNode place).node? steps = d.node? steps := by
  by_cases root : steps = []
  · subst root
    rfl
  · rw [node?_inside root, node?_inside root, removeNode, KeyMap.find?_erase, if_neg other]

theorem node?_removeNode_same (inside : place ≠ []) (same : key steps = key place) :
    (d.removeNode place).node? steps = none := by
  rw [node?_inside (inside_of_key_eq inside same), removeNode, KeyMap.find?_erase, if_pos same]

/-! Directories. -/

/-- Every directory is still there. -/
structure Grown (d e : Disk) : Prop where
  working : e.working = d.working
  directory : ∀ steps, d.node? steps = some .directory → e.node? steps = some .directory

theorem Grown.refl (d : Disk) : Grown d d := ⟨rfl, fun _ there => there⟩

theorem Grown.trans {f : Disk} (first : Grown d e) (second : Grown e f) : Grown d f where
  working := second.working.trans first.working
  directory steps there := second.directory steps (first.directory steps there)

theorem directory_of_step {base : List String} {part : String}
    (stepped : d.step base part = .ok place) : d.node? base = some .directory := by
  unfold step at stepped
  split at stepped
  case h_1 => cases stepped
  case h_2 => cases stepped
  case h_3 there => exact there

theorem Grown.step {base : List String} {part : String} (grown : Grown d e)
    (stepped : d.step base part = .ok place) : e.step base part = .ok place := by
  have there := directory_of_step stepped
  unfold Disk.step at stepped ⊢
  rw [grown.directory base there]
  rw [there] at stepped
  exact stepped

-- The induction is on the parts. Each is looked for in a directory, which is still there, so what
-- the place itself holds does not matter.
theorem Grown.walk {parts base : List String} (grown : Grown d e)
    (walked : parts.foldlM (Disk.step d) base = .ok place) :
    parts.foldlM (Disk.step e) base = .ok place := by
  induction parts generalizing base with
  | nil => exact walked
  | cons part rest ih =>
      obtain ⟨next, stepped, walked⟩ := ok_of_bind walked
      rw [List.foldlM_cons, grown.step stepped]
      exact ih walked

theorem Grown.locate (grown : Grown d e) (located : d.locate path = .ok place) :
    e.locate path = .ok place := by
  unfold Disk.locate at located ⊢
  split at located
  case isTrue => cases located
  case isFalse named =>
    split at located
    case isTrue => cases located
    case isFalse clean =>
      split at located
      case isTrue => cases located
      case isFalse short =>
        rw [if_neg named, if_neg clean, if_neg short, grown.working]
        exact grown.walk located

structure Alike (d e : Disk) : Prop where
  grown : Grown d e
  back : Grown e d

theorem Alike.refl (d : Disk) : Alike d d := ⟨.refl d, .refl d⟩

theorem Alike.trans {f : Disk} (first : Alike d e) (second : Alike e f) : Alike d f :=
  ⟨first.grown.trans second.grown, second.back.trans first.back⟩

theorem Alike.locate (alike : Alike d e) : e.locate path = .ok place ↔ d.locate path = .ok place :=
  ⟨alike.back.locate, alike.grown.locate⟩

theorem grown_of_elsewhere (working : e.working = d.working) (inside : place ≠ [])
    (other : d.node? place ≠ some .directory)
    (elsewhere : ∀ steps, key steps ≠ key place → e.node? steps = d.node? steps) : Grown d e := by
  refine ⟨working, fun steps there => ?_⟩
  by_cases same : key steps = key place
  · rw [node?_of_key_eq inside same] at there
    exact absurd there other
  · rw [elsewhere steps same]
    exact there

/-- Nothing but one node changed, which was no directory and is none. -/
theorem alike_of_elsewhere (working : e.working = d.working)
    (before : d.node? place ≠ some .directory) (after : e.node? place ≠ some .directory)
    (elsewhere : ∀ steps, key steps ≠ key place → e.node? steps = d.node? steps) : Alike d e where
  grown := grown_of_elsewhere working (inside_of_node? before) before elsewhere
  back := grown_of_elsewhere working.symm (inside_of_node? before) after
    fun steps apart => (elsewhere steps apart).symm

theorem alike_setNode (other : d.node? place ≠ some .directory) :
    Alike d (d.setNode place (.file content)) := by
  refine alike_of_elsewhere (e := d.setNode place (.file content)) rfl other ?_ ?_
  · rw [node?_setNode_same (inside_of_node? other) rfl]
    nofun
  · exact fun steps => node?_setNode_other

theorem alike_removeNode (other : d.node? place ≠ some .directory) :
    Alike d (d.removeNode place) := by
  refine alike_of_elsewhere (e := d.removeNode place) rfl other ?_ ?_
  · rw [node?_removeNode_same (inside_of_node? other) rfl]
    nofun
  · exact fun steps => node?_removeNode_other

/-! Reading and writing. -/

theorem read_of_located (located : d.locate path = .ok place) :
    d.read path = match d.node? place with
      | none => .error .noEntry
      | some .directory => .error .isDirectory
      | some (.file content) =>
        if wantsDirectory path then .error .notDirectory else .ok content := by
  unfold read
  rw [located]
  rfl

theorem read_eq_ok_iff : d.read path = .ok content ↔
    ∃ place, d.locate path = .ok place ∧ d.node? place = some (.file content) ∧
      wantsDirectory path = false := by
  constructor
  · intro read
    obtain ⟨place, located, _⟩ := ok_of_bind read
    rw [read_of_located located] at read
    split at read
    case h_1 => cases read
    case h_2 => cases read
    case h_3 there =>
      split at read
      case isTrue => cases read
      case isFalse plain =>
        cases read
        exact ⟨place, located, there, Bool.eq_false_iff.mpr plain⟩
  · rintro ⟨place, located, there, plain⟩
    rw [read_of_located located, there, plain]
    rfl

theorem write_gives (written : d.write path content = .ok e) :
    ∃ place, d.locate path = .ok place ∧ d.node? place ≠ some .directory ∧
      wantsDirectory path = false ∧ e = d.setNode place (.file content) := by
  obtain ⟨place, located, written⟩ := ok_of_bind written
  refine ⟨place, located, ?_⟩
  dsimp only at written
  split at written
  case h_1 => cases written
  case h_2 there =>
    split at written
    case isTrue => cases written
    case isFalse plain =>
      cases written
      exact ⟨by rw [there]; nofun, Bool.eq_false_iff.mpr plain, rfl⟩
  case h_3 => cases written
  case h_4 => cases written
  case h_5 there _ =>
    split at written
    case isTrue => cases written
    case isFalse plain =>
      cases written
      exact ⟨by rw [there]; nofun, Bool.eq_false_iff.mpr plain, rfl⟩

/-- Whether a file can be written does not depend on what is to be in it. -/
theorem write_of_write (written : d.write path content = .ok e) (other : Bytes) :
    ∃ f, d.write path other = .ok f := by
  obtain ⟨place, located, _, plain, _⟩ := write_gives written
  simp only [write, located, ok_bind, plain, Bool.false_eq_true, ↓reduceIte] at written ⊢
  split at written
  case h_1 => cases written
  case h_2 => exact ⟨_, rfl⟩
  case h_3 => cases written
  case h_4 => cases written
  case h_5 => exact ⟨_, rfl⟩

theorem rename_gives {source target : String} (renamed : d.rename source target = .ok e) :
    ∃ place goal content, d.locate source = .ok place ∧ d.locate target = .ok goal ∧
      d.node? place = some (.file content) ∧ d.node? goal ≠ some .directory ∧
      wantsDirectory target = false ∧
      e = if place = goal then d else (d.removeNode place).setNode goal (.file content) := by
  obtain ⟨place, located, renamed⟩ := ok_of_bind renamed
  obtain ⟨goal, reached, renamed⟩ := ok_of_bind renamed
  split at renamed
  case h_1 => cases renamed
  case h_2 => cases renamed
  case h_3 content there =>
    split at renamed
    case h_1 => cases renamed
    case h_2 other =>
      split at renamed
      case isTrue => cases renamed
      case isFalse plain =>
        refine ⟨place, goal, content, located, reached, there, other,
          Bool.eq_false_iff.mpr plain, ?_⟩
        split at renamed
        case isTrue same =>
          cases renamed
          rw [if_pos same]
        case isFalse same =>
          cases renamed
          rw [if_neg same]

theorem alike_write (written : d.write path content = .ok e) : Alike d e := by
  obtain ⟨place, _, other, _, rfl⟩ := write_gives written
  exact alike_setNode other

theorem read_write_same {other : String} (written : d.write path content = .ok e)
    (located : d.locate path = .ok place) (reached : d.locate other = .ok goal)
    (same : key goal = key place) (plain : wantsDirectory other = false) :
    e.read other = .ok content := by
  have alike := alike_write written
  obtain ⟨own, leads, free, _, rfl⟩ := write_gives written
  cases leads.symm.trans located
  exact read_eq_ok_iff.mpr
    ⟨goal, alike.locate.mpr reached, node?_setNode_same (inside_of_node? free) same, plain⟩

theorem read_write_other {other : String} (written : d.write path content = .ok e)
    (located : d.locate path = .ok place) (reached : d.locate other = .ok goal)
    (apart : key goal ≠ key place) : e.read other = d.read other := by
  have alike := alike_write written
  obtain ⟨own, leads, _, _, rfl⟩ := write_gives written
  cases leads.symm.trans located
  rw [read_of_located reached, read_of_located (alike.locate.mpr reached),
    node?_setNode_other apart]

theorem read_write (written : d.write path content = .ok e) : e.read path = .ok content := by
  obtain ⟨place, located, _, plain, _⟩ := write_gives written
  exact read_write_same written located located rfl plain

theorem rename_changes {source target : String} (renamed : d.rename source target = .ok e) :
    Alike d e ∧ ∀ content, d.read source = .ok content → e.read target = .ok content := by
  obtain ⟨place, goal, content, located, reached, there, other, plain, rfl⟩ :=
    rename_gives renamed
  have held : ∀ own, d.read source = .ok own → own = content := by
    intro own read
    obtain ⟨same, leads, file, _⟩ := read_eq_ok_iff.mp read
    cases located.symm.trans leads
    cases there.symm.trans file
    rfl
  -- A file that is given its own name is not moved at all.
  by_cases same : place = goal
  · subst same
    rw [if_pos rfl]
    refine ⟨.refl d, fun own read => ?_⟩
    rw [held own read]
    exact read_eq_ok_iff.mpr ⟨place, reached, there, plain⟩
  · rw [if_neg same]
    have first : Alike d (d.removeNode place) := alike_removeNode (by rw [there]; nofun)
    have free : (d.removeNode place).node? goal ≠ some .directory := by
      intro found
      exact other (first.back.directory goal found)
    have both : Alike d ((d.removeNode place).setNode goal (.file content)) :=
      first.trans (alike_setNode free)
    refine ⟨both, fun own read => ?_⟩
    rw [held own read]
    exact read_eq_ok_iff.mpr ⟨goal, both.locate.mpr reached,
      node?_setNode_same (inside_of_node? free) rfl, plain⟩

/-! Where a file may be. -/

/-- A file may be there: the path leads into a directory, and not to one. -/
structure Admits (d : Disk) (path : String) : Prop where
  leads : ∃ place, d.locate path = .ok place ∧ d.node? place ≠ some .directory ∧
    d.node? place.dropLast = some .directory
  plain : wantsDirectory path = false

theorem Admits.alike (admits : d.Admits path) (alike : Alike d e) : e.Admits path := by
  obtain ⟨place, located, other, above⟩ := admits.leads
  refine ⟨⟨place, alike.locate.mpr located, ?_, alike.grown.directory _ above⟩, admits.plain⟩
  intro there
  exact other (alike.back.directory place there)

theorem Admits.read (admits : d.Admits path) :
    (∃ content, d.read path = .ok content) ∨ d.read path = .error .noEntry := by
  obtain ⟨place, located, other, _⟩ := admits.leads
  rw [read_of_located located, admits.plain]
  split
  case h_1 => exact .inr rfl
  case h_2 there => exact absurd there other
  case h_3 content _ => exact .inl ⟨content, rfl⟩

theorem Admits.write (admits : d.Admits path) (content : Bytes) :
    ∃ e, d.write path content = .ok e := by
  obtain ⟨place, located, other, above⟩ := admits.leads
  simp only [Disk.write, located, ok_bind, above, admits.plain]
  cases there : d.node? place with
  | none => exact ⟨_, rfl⟩
  | some node =>
      cases node with
      | directory => exact absurd there other
      | file old => exact ⟨_, rfl⟩

theorem Admits.rename {source target : String} (admits : d.Admits target)
    (read : d.read source = .ok content) : ∃ e, d.rename source target = .ok e := by
  obtain ⟨place, located, there, _⟩ := read_eq_ok_iff.mp read
  obtain ⟨goal, reached, other, _⟩ := admits.leads
  simp only [Disk.rename, located, reached, ok_bind, there, admits.plain]
  cases old : d.node? goal with
  | none =>
      rw [if_neg Bool.false_ne_true]
      split <;> exact ⟨_, rfl⟩
  | some node =>
      cases node with
      | directory => exact absurd old other
      | file kept =>
          rw [if_neg Bool.false_ne_true]
          split <;> exact ⟨_, rfl⟩

/-! Making directories. -/

structure Kept (d e : Disk) : Prop where
  working : e.working = d.working
  node : ∀ steps node, d.node? steps = some node → e.node? steps = some node

theorem Kept.grown (kept : Kept d e) : Grown d e := ⟨kept.working, fun steps => kept.node steps _⟩

theorem Kept.read (kept : Kept d e) (read : d.read path = .ok content) :
    e.read path = .ok content := by
  obtain ⟨place, located, there, plain⟩ := read_eq_ok_iff.mp read
  exact read_eq_ok_iff.mpr
    ⟨place, kept.grown.locate located, kept.node place _ there, plain⟩

theorem kept_setNode (free : d.node? place = none) : Kept d (d.setNode place node) := by
  refine ⟨rfl, fun steps other there => ?_⟩
  have inside : place ≠ [] := inside_of_node? (by rw [free]; nofun)
  by_cases same : key steps = key place
  · rw [node?_of_key_eq inside same, free] at there
    cases there
  · rw [node?_setNode_other same]
    exact there

theorem go_cons {base : List String} {part : String} {rest : List String}
    (made : makeAll.go d base (part :: rest) = .ok e) :
    ∃ place, d.step base part = .ok place ∧
      (d.node? place = some .directory ∧ makeAll.go d place rest = .ok e ∨
        d.node? place = none ∧ makeAll.go (d.setNode place .directory) place rest = .ok e) := by
  obtain ⟨place, stepped, made⟩ := ok_of_bind made
  refine ⟨place, stepped, ?_⟩
  split at made
  case h_1 there => exact .inl ⟨there, made⟩
  case h_2 => split at made <;> cases made
  case h_3 free => exact .inr ⟨free, made⟩

theorem kept_of_go {parts base : List String} (made : makeAll.go d base parts = .ok e) :
    Kept d e := by
  induction parts generalizing d base with
  | nil =>
      cases made
      exact ⟨rfl, fun _ _ there => there⟩
  | cons part rest ih =>
      obtain ⟨place, _, ⟨_, made⟩ | ⟨free, made⟩⟩ := go_cons made
      · exact ih made
      · have first : Kept d (d.setNode place .directory) := kept_setNode free
        have later := ih made
        exact ⟨later.working.trans first.working,
          fun steps node there => later.node steps node (first.node steps node there)⟩

-- The induction is on the parts. A directory that was found is there for good, and so is one that
-- was made, which is why both cases go on alike.
/-- Directories that were made need not be made again. -/
theorem go_again {f : Disk} {parts base : List String} (made : makeAll.go d base parts = .ok e)
    (grown : Grown e f) : makeAll.go f base parts = .ok f := by
  induction parts generalizing d base with
  | nil => rfl
  | cons part rest ih =>
      have before := (kept_of_go made).grown.trans grown
      obtain ⟨place, stepped, made⟩ := go_cons made
      have there : f.node? place = some .directory := by
        rcases made with ⟨found, _⟩ | ⟨free, made⟩
        · exact before.directory place found
        · have inside : place ≠ [] := inside_of_node? (by rw [free]; nofun)
          exact ((kept_of_go made).grown.trans grown).directory place
            (node?_setNode_same inside rfl)
      have later : makeAll.go f place rest = .ok f := by
        rcases made with ⟨_, made⟩ | ⟨_, made⟩
        · exact ih made
        · exact ih made
      show (f.step base part >>= _) = _
      rw [before.step stepped]
      simp only [ok_bind, there]
      exact later

theorem kept_makeAll (made : d.makeAll path = .ok e) : Kept d e := by
  unfold makeAll at made
  dsimp only at made
  split at made
  case isTrue => cases made
  case isFalse => exact kept_of_go made

theorem makeAll_again {f : Disk} (made : d.makeAll path = .ok e) (grown : Grown e f) :
    f.makeAll path = .ok f := by
  have working : f.working = d.working := grown.working.trans (kept_makeAll made).working
  unfold makeAll at made ⊢
  dsimp only at made ⊢
  split at made
  case isTrue => cases made
  case isFalse clean =>
    rw [if_neg clean, working]
    exact go_again made grown

end TenantRelay.Disk
