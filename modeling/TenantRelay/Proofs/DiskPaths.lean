import TenantRelay.Disk.Path
import TenantRelay.Proofs.DiskChanges

/-!
Where a file beside another one is. A path and the same path with another extension lead through
the same directories to another name there. With the same extension they lead to the same place.
-/

namespace TenantRelay.Disk

variable {d : Disk} {path extension : String} {cs front name rest : List Char}
  {base place goal : List String}

/-! The parts of a path. -/

theorem parts_append (front rest : List Char) :
    parts (String.ofList (front ++ '/' :: rest)) =
      parts (String.ofList front) ++ parts (String.ofList rest) := by
  simp [parts, List.splitOn_append_cons_self]

theorem parts_name (unslashed : '/' ∉ name) (full : name ≠ []) (other : name ≠ ['.']) :
    parts (String.ofList name) = [String.ofList name] := by
  have single : name.splitOn '/' = [name] := by
    apply List.splitOnP_eq_singleton
    intro c member
    exact beq_eq_false_iff_ne.mpr fun same => unslashed (same ▸ member)
  have kept : (String.ofList name != "" && String.ofList name != ".") = true := by
    simp [← String.toList_inj, full, other]
  rw [parts, String.toList_ofList, single, List.map_singleton]
  exact List.filter_cons_of_pos kept

theorem dropEnd_eq_self (unslashed : ∀ rest, cs ≠ '/' :: rest)
    (undotted : ∀ rest, cs ≠ '.' :: '/' :: rest) : dropEnd cs = cs := by
  rw [dropEnd]
  · exact unslashed
  · exact undotted

theorem parts_dropEnd (cs : List Char) :
    parts (String.ofList (dropEnd cs).reverse) = parts (String.ofList cs.reverse) := by
  have none : parts (String.ofList []) = [] := by decide
  have lone : parts (String.ofList ['.']) = [] := by decide
  induction cs using dropEnd.induct with
  | case1 rest ih => rw [dropEnd, ih, List.reverse_cons, parts_append, none, List.append_nil]
  | case2 rest ih =>
      rw [dropEnd, ih, List.reverse_cons, List.reverse_cons, List.reverse_cons, List.append_assoc,
        List.singleton_append, parts_append, parts_append, none, lone]
  | case3 cs unslashed undotted => rw [dropEnd_eq_self unslashed undotted]

theorem suffix_dropEnd (cs : List Char) : dropEnd cs <:+ cs := by
  induction cs using dropEnd.induct with
  | case1 rest ih =>
      rw [dropEnd]
      exact ih.trans (List.suffix_cons _ _)
  | case2 rest ih =>
      rw [dropEnd]
      exact ih.trans (List.suffix_cons _ _)
  | case3 cs unslashed undotted =>
      simp only [dropEnd_eq_self unslashed undotted, List.suffix_rfl]

/-! The last part of a path. -/

theorem split_append (path : String) :
    (split path).1 ++ (split path).2 = (dropEnd path.toList.reverse).reverse := by
  rw [split, ← List.reverse_append, List.takeWhile_append_dropWhile]

theorem unslashed_split (path : String) : '/' ∉ (split path).2 := by
  intro member
  have kept := List.all_takeWhile (l := (dropEnd path.toList.reverse)) (p := (· != '/'))
  have apart := List.all_eq_true.mp kept _ (List.mem_reverse.mp member)
  cases apart

theorem slash_before (path : String) :
    (split path).1 = [] ∨ ∃ front, (split path).1 = front ++ ['/'] := by
  rw [split]
  cases left : (dropEnd path.toList.reverse).dropWhile (· != '/') with
  | nil => exact .inl rfl
  | cons c rest =>
      have slash := List.head?_dropWhile_not (· != '/') (dropEnd path.toList.reverse)
      rw [left] at slash
      simp at slash
      subst slash
      exact .inr ⟨rest.reverse, List.reverse_cons⟩

structure Named (path : String) : Prop where
  full : (split path).2 ≠ []
  here : (split path).2 ≠ ['.']
  above : (split path).2 ≠ ['.', '.']

theorem withExtension_of_not_named (unnamed : ¬Named path) :
    withExtension path extension = path := by
  unfold withExtension
  split
  case h_1 => rfl
  case h_2 => rfl
  case h_3 => rfl
  case h_4 front name full here above same =>
    refine absurd ⟨?_, ?_, ?_⟩ unnamed <;> rw [same]
    · exact full
    · exact here
    · exact above

def renamed (name : List Char) (extension : String) : List Char :=
  stem name ++ '.' :: extension.toList

theorem Named.withExtension (named : Named path) : withExtension path extension =
    String.ofList ((split path).1 ++ renamed (split path).2 extension) := by
  obtain ⟨full, here, above⟩ := named
  unfold Disk.withExtension
  split
  case h_1 same => exact absurd (same ▸ rfl) full
  case h_2 same => exact absurd (same ▸ rfl) here
  case h_3 same => exact absurd (same ▸ rfl) above
  case h_4 front name _ _ _ same =>
    rw [same, renamed, ← String.toList_inj]
    simp

theorem stem_cases (name : List Char) :
    stem name = name ∨ ∃ ending, name = stem name ++ '.' :: ending := by
  unfold stem
  split
  case h_1 => exact .inl rfl
  case h_2 => exact .inl rfl
  case h_3 c before _ left =>
    have dot := List.head?_dropWhile_not (· != '.') name.reverse
    rw [left] at dot
    have same : c = '.' := by simpa using dot
    have whole := List.takeWhile_append_dropWhile (p := (· != '.')) (l := name.reverse)
    refine .inr ⟨(name.reverse.takeWhile (· != '.')).reverse, ?_⟩
    rw [left, same] at whole
    calc name = name.reverse.reverse := (List.reverse_reverse name).symm
      _ = _ := by rw [← whole]
      _ = _ := by simp

theorem stem_ne_nil (full : name ≠ []) : stem name ≠ [] := by
  unfold stem
  split
  case h_1 => exact full
  case h_2 => exact full
  case h_3 c before more left =>
    intro none
    exact more (List.reverse_eq_nil_iff.mp none)

theorem Named.extension?_eq_some (named : Named path) :
    extension? path = some extension ↔ (split path).2 = renamed (split path).2 extension := by
  obtain ⟨full, here, above⟩ := named
  unfold extension?
  split
  case h_1 same => exact absurd (same ▸ rfl) full
  case h_2 same => exact absurd (same ▸ rfl) above
  case h_3 front name _ _ same =>
    rw [same, renamed]
    rcases stem_cases name with whole | ⟨ending, longer⟩
    · rw [if_pos whole]
      refine ⟨nofun, fun longer => ?_⟩
      have count := congrArg List.length longer
      rw [whole] at count
      simp at count
    · have cut : ∀ {front ending : List Char}, name = front ++ '.' :: ending →
          name.drop (front.length + 1) = ending := by
        rintro front ending rfl
        simp
      have other : stem name ≠ name := by
        intro whole
        have count := congrArg List.length (whole.trans longer)
        simp at count
      rw [if_neg other, cut longer, Option.some.injEq]
      constructor
      · rintro rfl
        rw [String.toList_ofList]
        exact longer
      · intro ends
        rw [← cut longer, cut ends, String.ofList_toList]

/-! Where a path leads. -/

theorem locate_eq_ok_iff : d.locate path = .ok place ↔
    (path ≠ "" ∧ '\x00' ∉ path.toList ∧ path.utf8ByteSize < 4096) ∧
      (parts path).foldlM (step d) (if path.startsWith "/" then [] else d.working) = .ok place := by
  unfold locate
  split
  case isTrue empty => simp [empty]
  case isFalse full =>
    split
    case isTrue nul => simp_all
    case isFalse clean =>
      split
      case isTrue long => simp [Nat.not_lt.mpr long]
      case isFalse short => simp_all

theorem leads_append (unslashed : '/' ∉ name) (full : name ≠ []) (front rest : List Char) :
    ['/'] <+: front ++ (name ++ rest) ↔ ['/'] <+: front := by
  cases front with
  | nil =>
      cases name with
      | nil => exact absurd rfl full
      | cons c name =>
          have other : '/' ≠ c := fun same => unslashed (same ▸ List.mem_cons_self)
          simp [List.cons_prefix_cons, other]
  | cons c front => simp [List.cons_prefix_cons]

theorem key_inj {first second : String}
    (same : key (base ++ [first]) = key (base ++ [second])) : first = second := by
  have chars := congrArg String.toList same
  simpa [key, String.toList_join, String.toList_inj] using chars

theorem step_name {part : String} (there : d.node? base = some .directory) (other : part ≠ "..") :
    d.step base part =
      if part.utf8ByteSize > 255 then .error .nameTooLong else .ok (base ++ [part]) := by
  simp only [step, there, if_neg other]

theorem parts_beside (path : String) (unslashed : '/' ∉ name) (full : name ≠ [])
    (here : name ≠ ['.']) :
    parts (String.ofList ((split path).1 ++ name)) =
      parts (String.ofList (split path).1) ++ [String.ofList name] := by
  have none : parts (String.ofList []) = [] := by decide
  rw [← parts_name unslashed full here]
  rcases slash_before path with front | ⟨front, slash⟩
  · rw [front, List.nil_append, none, List.nil_append]
  · rw [slash, List.append_assoc, List.singleton_append, parts_append, parts_append, none,
      List.append_nil]

theorem toList_eq_split (path : String) :
    ∃ rest, path.toList = (split path).1 ++ ((split path).2 ++ rest) := by
  obtain ⟨rest, whole⟩ := suffix_dropEnd path.toList.reverse
  refine ⟨rest.reverse, ?_⟩
  rw [← List.append_assoc, split_append, ← List.reverse_append, whole, List.reverse_reverse]

theorem parts_eq_split (path : String) :
    parts path = parts (String.ofList ((split path).1 ++ (split path).2)) := by
  rw [split_append, parts_dropEnd, List.reverse_reverse, String.ofList_toList]

namespace Named

theorem parts (named : Named path) : Disk.parts path =
    Disk.parts (String.ofList (split path).1) ++ [String.ofList (split path).2] := by
  rw [parts_eq_split, parts_beside path (unslashed_split path) named.full named.here]

theorem start_eq (named : Named path) : path.startsWith "/" = true ↔ ['/'] <+: (split path).1 := by
  obtain ⟨rest, whole⟩ := toList_eq_split path
  rw [String.startsWith_string_iff, whole]
  exact leads_append (unslashed_split path) named.full (split path).1 rest

end Named

structure Ending (extension : String) : Prop where
  unslashed : '/' ∉ extension.toList
  full : extension ≠ ""

theorem renamed_unslashed (ending : Ending extension) (unslashed : '/' ∉ name) :
    '/' ∉ renamed name extension := by
  have within : '/' ∈ stem name → '/' ∈ name := by
    intro member
    rcases stem_cases name with whole | ⟨rest, longer⟩
    · rw [whole] at member
      exact member
    · rw [longer]
      exact List.mem_append_left _ member
  simp only [renamed, List.mem_append, List.mem_cons, not_or]
  exact ⟨fun member => unslashed (within member), by decide, ending.unslashed⟩

theorem renamed_length (ending : Ending extension) (full : name ≠ []) :
    2 < (renamed name extension).length := by
  have front := List.length_pos_iff.mpr (stem_ne_nil full)
  have back : 0 < extension.toList.length := by
    rw [List.length_pos_iff]
    intro none
    exact ending.full (String.toList_inj.mp none)
  simp only [renamed, List.length_append, List.length_cons]
  omega

namespace Named

theorem parts_withExtension (named : Named path) (ending : Ending extension) :
    Disk.parts (Disk.withExtension path extension) =
      Disk.parts (String.ofList (split path).1) ++
        [String.ofList (renamed (split path).2 extension)] := by
  have long := renamed_length ending named.full
  rw [named.withExtension]
  apply parts_beside path (renamed_unslashed ending (unslashed_split path))
  · intro none
    rw [none] at long
    cases long
  · intro dot
    rw [dot] at long
    simp at long

theorem start_withExtension (named : Named path) (ending : Ending extension) :
    (Disk.withExtension path extension).startsWith "/" = path.startsWith "/" := by
  have long := renamed_length ending named.full
  have full : renamed (split path).2 extension ≠ [] := List.ne_nil_of_length_pos (by omega)
  have same := leads_append (renamed_unslashed ending (unslashed_split path)) full (split path).1 []
  rw [List.append_nil] at same
  rw [Bool.eq_iff_iff, named.start_eq, named.withExtension, String.startsWith_string_iff, ← same]
  simp only [String.toList_ofList]
  rfl

/-- Where a file beside another one is, the other one is or might be. -/
theorem beside (named : Named path) (ending : Ending extension)
    (located : d.locate (Disk.withExtension path extension) = .ok place) :
    ∃ base, place = base ++ [String.ofList (renamed (split path).2 extension)] ∧
      d.locate path ≠ .error .noEntry ∧
      ∀ goal, d.locate path = .ok goal → goal = base ++ [String.ofList (split path).2] := by
  have walked := (locate_eq_ok_iff.mp located).2
  rw [named.start_withExtension ending, named.parts_withExtension ending, List.foldlM_append]
    at walked
  obtain ⟨base, led, stepped⟩ := Document.ok_of_bind walked
  obtain ⟨_, stepped, same⟩ := Document.ok_of_bind stepped
  cases same
  have there := directory_of_step stepped
  have long := renamed_length ending named.full
  have other : String.ofList (renamed (split path).2 extension) ≠ ".." := by
    intro dots
    rw [← String.toList_inj, String.toList_ofList] at dots
    rw [dots] at long
    exact absurd long (by decide)
  have own : String.ofList (split path).2 ≠ ".." := by
    intro dots
    rw [← String.toList_inj, String.toList_ofList] at dots
    exact named.above dots
  rw [step_name there other] at stepped
  split at stepped
  case isTrue => cases stepped
  case isFalse =>
    cases stepped
    have stepped : (Disk.parts path).foldlM (step d)
        (if path.startsWith "/" then [] else d.working) =
          d.step base (String.ofList (split path).2) := by
      rw [named.parts, List.foldlM_append, led, Document.ok_bind]
      simp
    rw [step_name there own] at stepped
    refine ⟨base, rfl, ?_⟩
    have nonempty : path ≠ "" := by
      rintro rfl
      exact named.full (by simp [split, dropEnd])
    have ends : d.locate path = .error .nul ∨ d.locate path = .error .nameTooLong ∨
        d.locate path = .ok (base ++ [String.ofList (split path).2]) := by
      unfold locate
      rw [if_neg nonempty, stepped]
      split
      case isTrue => exact .inl rfl
      case isFalse =>
        split
        case isTrue => exact .inr (.inl rfl)
        case isFalse =>
          split
          case isTrue => exact .inr (.inl rfl)
          case isFalse => exact .inr (.inr rfl)
    rcases ends with nul | long | reached
    · simp [nul]
    · simp [long]
    · simp [reached, eq_comm]

end Named

theorem beside_of_missing (ending : Ending extension) (missing : d.locate path = .error .noEntry) :
    d.locate (withExtension path extension) ≠ .ok place := by
  intro located
  by_cases named : Named path
  · obtain ⟨_, _, known, _⟩ := named.beside ending located
    exact known missing
  · rw [withExtension_of_not_named named, missing] at located
    cases located

/-- A path and the same path with another extension lead to two places. -/
theorem Named.apart (named : Named path) (ending : Ending extension)
    (other : extension? path ≠ some extension)
    (located : d.locate (Disk.withExtension path extension) = .ok place)
    (reached : d.locate path = .ok goal) : key goal ≠ key place := by
  obtain ⟨base, rfl, _, reaches⟩ := named.beside ending located
  obtain rfl := reaches goal reached
  intro same
  have own : (split path).2 = renamed (split path).2 extension := by
    simpa [← String.toList_inj] using key_inj same
  exact other (named.extension?_eq_some.mpr own)

/-- A path whose extension it is leads where it led, whatever follows its last part. -/
theorem Named.together (named : Named path) (ending : Ending extension)
    (same : extension? path = some extension) (reached : d.locate path = .ok goal) :
    d.locate (Disk.withExtension path extension) = .ok goal := by
  obtain ⟨⟨full, clean, short⟩, walked⟩ := locate_eq_ok_iff.mp reached
  obtain ⟨rest, whole⟩ := toList_eq_split path
  have front : path = Disk.withExtension path extension ++ String.ofList rest := by
    rw [named.withExtension, ← named.extension?_eq_some.mp same, ← String.toList_inj, whole]
    simp
  refine locate_eq_ok_iff.mpr ⟨⟨?_, ?_, ?_⟩, ?_⟩
  · rw [named.withExtension]
    simp [← String.toList_inj, renamed]
  · intro member
    rw [front] at clean
    simp [member] at clean
  · rw [front, String.utf8ByteSize_append] at short
    omega
  · rw [named.start_withExtension ending, named.parts_withExtension ending,
      ← named.extension?_eq_some.mp same, ← named.parts]
    exact walked

end TenantRelay.Disk
