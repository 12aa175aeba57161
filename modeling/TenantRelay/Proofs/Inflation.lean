import TenantRelay.Proofs.Gates

/-!
Packed data as it is read. Whoever unpacks hands out bytes as they come, and tells only at the end
whether all of it was sound. A bound is kept by asking for one byte more than it allows and for
none after that; so data within the bound is always read to its end, where it is checked, and of
longer data no more than that is ever made.
-/

namespace TenantRelay.Gzip

structure Stream where
  data : Bytes
  ending : Except Fault Unit

namespace Stream

/-- One read with room for so many bytes. While anything is left, some of it is handed out; then
the reader says how it ends, where no bytes and no fault mean a good end. -/
inductive Reads : Stream → Nat → Except Fault Bytes → Stream → Prop where
  | some {chunk rest : Bytes} {ending : Except Fault Unit} {room : Nat} : chunk ≠ [] →
      chunk.length ≤ room → Reads ⟨chunk ++ rest, ending⟩ room (.ok chunk) ⟨rest, ending⟩
  | done {room : Nat} : Reads ⟨[], .ok ()⟩ room (.ok []) ⟨[], .ok ()⟩
  | failed {room : Nat} {fault : Fault} :
      Reads ⟨[], .error fault⟩ room (.error fault) ⟨[], .error fault⟩

/-- Reading on, in reads of whatever size, up to the end or until so many bytes have come. Once
they have, the reader is not asked again. -/
inductive Drains : Nat → Stream → Except Fault Bytes → Prop where
  | enough {x : Stream} : Drains 0 x (.ok [])
  | ended {allowed room : Nat} {x y : Stream} : 0 < room → room ≤ allowed →
      x.Reads room (.ok []) y → Drains allowed x (.ok [])
  | failed {allowed room : Nat} {x y : Stream} {fault : Fault} : 0 < room → room ≤ allowed →
      x.Reads room (.error fault) y → Drains allowed x (.error fault)
  | more {allowed room : Nat} {x y : Stream} {chunk : Bytes} {result : Except Fault Bytes} :
      0 < room → room ≤ allowed → x.Reads room (.ok chunk) y → chunk ≠ [] →
      Drains (allowed - chunk.length) y result → Drains allowed x (result.map (chunk ++ ·))

def first (x : Stream) (allowed : Nat) : Except Fault Bytes :=
  if allowed ≤ x.data.length then .ok (x.data.take allowed) else x.ending.map fun _ => x.data

variable {x : Stream} {allowed limit : Nat} {result : Except Fault Bytes} {out : Bytes}

theorem first_of_empty (ending : Except Fault Unit) (some : 0 < allowed) :
    first ⟨[], ending⟩ allowed = ending.map fun _ => [] :=
  if_neg (Nat.not_le.mpr some)

theorem Drains.eq_first (drains : x.Drains allowed result) : result = x.first allowed := by
  induction drains with
  | enough => rw [first, if_pos (Nat.zero_le _), List.take_zero]
  | @ended allowed room x y full fits read =>
      cases read with
      | some some _ => exact absurd rfl some
      | done => exact (first_of_empty (.ok ()) (Nat.lt_of_lt_of_le full fits)).symm
  | @failed allowed room x y fault full fits read =>
      cases read with
      | failed => exact (first_of_empty (.error fault) (Nat.lt_of_lt_of_le full fits)).symm
  | @more allowed room x y chunk result _ fits read some _ ih =>
      cases read with
      | done => exact absurd rfl some
      | @some _ rest ending _ _ short =>
          have within : chunk.length ≤ allowed := Nat.le_trans short fits
          rw [ih, first, first]
          by_cases enough : allowed ≤ (chunk ++ rest).length
          · have left : allowed - chunk.length ≤ rest.length := by
              rw [List.length_append] at enough
              omega
            rw [if_pos enough, if_pos left, List.take_append, List.take_of_length_le within]
            rfl
          · have left : ¬allowed - chunk.length ≤ rest.length := by
              rw [List.length_append] at enough
              omega
            rw [if_neg enough, if_neg left]
            cases ending with
            | error fault => rfl
            | ok _ => rfl

theorem exists_drains (x : Stream) (allowed : Nat) : ∃ result, x.Drains allowed result := by
  obtain ⟨data, ending⟩ := x
  have atEnd : ∀ left, ∃ result, Drains left ⟨[], ending⟩ result := by
    intro left
    cases left with
    | zero => exact ⟨_, .enough⟩
    | succ left =>
        cases ending with
        | ok _ => exact ⟨_, .ended (Nat.succ_pos left) (Nat.le_refl _) .done⟩
        | error fault => exact ⟨_, .failed (Nat.succ_pos left) (Nat.le_refl _) .failed⟩
  by_cases nothing : allowed = 0
  · subst nothing
    exact ⟨_, .enough⟩
  · by_cases empty : data = []
    · exact empty ▸ atEnd allowed
    · have some : data.take allowed ≠ [] := by
        rw [Ne, List.take_eq_nil_iff]
        rintro (zero | nil)
        · exact nothing zero
        · exact empty nil
      have read : Reads ⟨data, ending⟩ allowed (.ok (data.take allowed))
          ⟨data.drop allowed, ending⟩ := by
        have split : Reads ⟨data.take allowed ++ data.drop allowed, ending⟩ allowed
            (.ok (data.take allowed)) ⟨data.drop allowed, ending⟩ :=
          .some some (List.length_take_le allowed data)
        rwa [List.take_append_drop] at split
      have rest : ∃ result, Drains (allowed - (data.take allowed).length)
          ⟨data.drop allowed, ending⟩ result := by
        rcases Nat.le_total allowed data.length with long | short
        · rw [List.length_take_of_le long, Nat.sub_self]
          exact ⟨_, .enough⟩
        · rw [List.drop_of_length_le short]
          exact atEnd _
      obtain ⟨result, drains⟩ := rest
      exact ⟨_, .more (Nat.pos_of_ne_zero nothing) (Nat.le_refl _) read some drains⟩

end Stream

def bounded (limit : Nat) : Except Fault Bytes → Except Fault Bytes
  | .ok out => if limit < out.length then .error (.tooLong limit) else .ok out
  | .error fault => .error fault

section
variable {x : Stream} {limit : Nat} {out : Bytes}

theorem bounded_first (limit : Nat) (x : Stream) : bounded limit (x.first (limit + 1)) =
    if x.data.length ≤ limit then x.ending.map fun _ => x.data else .error (.tooLong limit) := by
  unfold Stream.first
  by_cases short : x.data.length ≤ limit
  · rw [if_neg (by omega), if_pos short]
    cases x.ending with
    | error fault => rfl
    | ok _ => exact if_neg (Nat.not_lt.mpr short)
  · have long : limit + 1 ≤ x.data.length := Nat.lt_of_not_le short
    have taken : limit < (x.data.take (limit + 1)).length := by
      rw [List.length_take_of_le long]
      exact Nat.lt_succ_self limit
    rw [if_pos long, if_neg short]
    exact if_pos taken

/-- Whatever reader it is, what it hands out is accepted only if it came to a good end, and then
exactly if it keeps to the bound. -/
theorem bounded_eq_ok_iff :
    bounded limit (x.first (limit + 1)) = .ok out ↔ x = ⟨out, .ok ()⟩ ∧ out.length ≤ limit := by
  obtain ⟨data, ending⟩ := x
  rw [bounded_first]
  constructor
  · intro accepted
    split at accepted
    case isTrue short =>
      cases ending with
      | error fault => cases accepted
      | ok _ =>
          cases accepted
          exact ⟨rfl, short⟩
    case isFalse => cases accepted
  · rintro ⟨same, short⟩
    cases same
    rw [if_pos short]
    rfl

end

/-- A packed body as it is handed out. Its data is made a window at a time, so of a window with a
fault in it nothing comes; and what follows the data is looked at only at its end. -/
def unpacking (packed : Bytes) : Stream :=
  match afterHeader packed with
  | .error fault => ⟨[], .error fault⟩
  | .ok rest =>
    match readPacked rest with
    | (.ok (), reading) => ⟨reading.data, (verified reading).map fun _ => ()⟩
    | (.error .cut, reading) => ⟨reading.data, .error (.stopped .cut)⟩
    | (.error .corrupt, reading) =>
      ⟨reading.data.take (reading.size / window * window), .error (.stopped .corrupt)⟩

/-- Unpacking within a bound is no more than reading one byte past it and looking at the length,
as long as there is a number for one byte more. -/
theorem expand_eq {limit : Nat} (counted : limit + 1 ≠ UInt64.size) (packed : Bytes) :
    expand limit packed = bounded limit ((unpacking packed).first (limit + 1)) := by
  rw [bounded_first, expand, if_neg counted, unpacking]
  cases afterHeader packed with
  | error fault => exact (if_pos (Nat.zero_le limit)).symm
  | ok rest =>
      simp only [bind, Except.bind]
      obtain ⟨ending, reading⟩ := readPacked rest
      cases ending with
      | ok _ =>
          simp only [Reading.length_data]
          congr 1
          cases checked : verified reading with
          | error fault => rfl
          | ok data =>
              rw [data_of_verified checked]
              rfl
      | error stop =>
          cases stop with
          | cut =>
              simp only [Reading.length_data]
              split <;> rfl
          | corrupt =>
              -- Whole windows are within the limit exactly if there are no more of them than fit.
              have whole : reading.size / window * window ≤ reading.size := Nat.div_mul_le_self _ _
              have within : reading.size / window ≤ limit / window ↔
                  reading.size / window * window ≤ limit :=
                Nat.le_div_iff_mul_le (by decide)
              simp only [List.length_take, Reading.length_data, Nat.min_eq_left whole, within]
              split <;> rfl

/-- A packed form of some data: whoever reads it to its end gets that data and no fault. -/
def Packs (packed data : Bytes) : Prop := unpacking packed = ⟨data, .ok ()⟩

/-- What follows packed data is the checksum and the size of what was unpacked. -/
structure Checked (packed data : Bytes) (reading : Reading) : Prop where
  read : ∃ rest, afterHeader packed = .ok rest ∧ readPacked rest = (.ok (), reading)
  own : reading.data = data
  complete : 8 ≤ reading.bytes.length
  sum : little (reading.bytes.take 4) = (checksum data).toNat
  size : little ((reading.bytes.drop 4).take 4) = data.length % 0x100000000

theorem verified_eq_ok_iff {reading : Reading} {data : Bytes} :
    verified reading = .ok data ↔ reading.data = data ∧ 8 ≤ reading.bytes.length ∧
      little (reading.bytes.take 4) = (checksum data).toNat ∧
      little ((reading.bytes.drop 4).take 4) = data.length % 0x100000000 := by
  have whole : verified reading =
      if 4 ≤ reading.bytes.length then
        if 4 ≤ (reading.bytes.drop 4).length then
          if little (reading.bytes.take 4) = (checksum reading.data).toNat ∧
              little ((reading.bytes.drop 4).take 4) = reading.size % 0x100000000
          then .ok reading.data else .error .checksum
        else .error .ended
      else .error .ended := by
    unfold verified part
    by_cases sum : 4 ≤ reading.bytes.length
    · rw [if_pos sum, if_pos sum]
      by_cases size : 4 ≤ (reading.bytes.drop 4).length
      · simp only [bind, Except.bind, if_pos size]
        rfl
      · simp only [bind, Except.bind, if_neg size]
    · rw [if_neg sum, if_neg sum]
      rfl
  rw [whole, List.length_drop, ← Reading.length_data]
  constructor
  · intro accepted
    split at accepted
    case isFalse => cases accepted
    case isTrue =>
      split at accepted
      case isFalse => cases accepted
      case isTrue rest =>
        split at accepted
        case isFalse => cases accepted
        case isTrue same =>
          cases accepted
          exact ⟨rfl, by omega, same.1, same.2⟩
  · rintro ⟨rfl, complete, sum, size⟩
    rw [if_pos (by omega), if_pos (by omega), if_pos ⟨sum, size⟩]

/-- A good end is reached only past the checksum. -/
theorem packs_iff {packed data : Bytes} :
    Packs packed data ↔ ∃ reading, Checked packed data reading := by
  unfold Packs unpacking
  constructor
  · intro same
    split at same
    case h_1 => cases same
    case h_2 rest opened =>
      split at same
      case h_1 reading read =>
        cases checked : verified reading with
        | error fault =>
            rw [checked] at same
            cases same
        | ok data =>
            rw [checked] at same
            cases same
            rw [data_of_verified checked] at checked
            obtain ⟨_, complete, sum, size⟩ := verified_eq_ok_iff.mp checked
            exact ⟨reading, ⟨rest, opened, read⟩, rfl, complete, sum, size⟩
      case h_2 => cases same
      case h_3 => cases same
  · rintro ⟨reading, ⟨rest, opened, read⟩, own, complete, sum, size⟩
    have checked := verified_eq_ok_iff.mpr ⟨own, complete, sum, size⟩
    simp only [opened, read, checked, own]
    rfl

end TenantRelay.Gzip
