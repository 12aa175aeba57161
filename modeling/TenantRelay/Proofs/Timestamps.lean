import Mathlib.Algebra.Group.Nat.Defs
import TenantRelay.Proofs.Decoding
import TenantRelay.Time.Timestamp

/-!
A moment is read as it was written. Every part of its text has digits of a fixed number, or is
followed by what is no digit, so each reader stops where the next part begins.
-/

namespace TenantRelay.Timestamp

open Document

structure Valid (t : Timestamp) : Prop where
  day : t.day.valid = true
  hour : t.hour < 24
  minute : t.minute < 60
  second : t.second ≤ 60
  nanosecond : t.nanosecond < 1000000000

/-! Digits, and where they end. -/

def Digits (cs : List Char) : Prop := ∀ c ∈ cs, c.isDigit = true

def Apart (cs : List Char) : Prop := ∀ c ∈ cs.head?, c.isDigit = false

variable {cs ds rest : List Char} {limit total width n : Nat}

theorem Digits.of_cons {c : Char} (digits : Digits (c :: cs)) : c.isDigit = true ∧ Digits cs :=
  List.forall_mem_cons.mp digits

theorem le_ofDigitChars (cs : List Char) (total : Nat) : total ≤ Nat.ofDigitChars 10 cs total := by
  induction cs generalizing total with
  | nil => exact Nat.le_refl total
  | cons c cs ih =>
      rw [Nat.ofDigitChars_cons]
      exact Nat.le_trans (by omega) (ih _)

theorem digitsFrom_digits (digits : Digits ds) (fits : ds.length ≤ width)
    (ends : ds.length = width ∨ Apart rest) (small : Nat.ofDigitChars 10 ds total < limit) :
    digitsFrom limit total width (ds ++ rest) = .ok (Nat.ofDigitChars 10 ds total, rest) := by
  induction ds generalizing width total with
  | nil =>
      cases width with
      | zero => rfl
      | succ width =>
          cases rest with
          | nil => rfl
          | cons c rest =>
              rcases ends with full | apart
              · cases full
              · have other : c.isDigit = false := apart c rfl
                simp [digitsFrom, other, Nat.ofDigitChars]
  | cons c ds ih =>
      cases width with
      | zero => cases fits
      | succ width =>
          obtain ⟨digit, digits⟩ := digits.of_cons
          rw [Nat.ofDigitChars_cons] at small ⊢
          have value : total * 10 + (c.toNat - 48) = 10 * total + (c.toNat - '0'.toNat) := by
            rw [Nat.mul_comm]
            rfl
          have step := Nat.lt_of_le_of_lt (le_ofDigitChars ds _) small
          have shorter : ds.length ≤ width := Nat.le_of_succ_le_succ fits
          have next := ih digits shorter (ends.imp_left Nat.succ.inj) small
          simp only [List.cons_append, digitsFrom, digit, value, step, ↓reduceIte]
          exact next

theorem number_digits (full : ds ≠ []) (digits : Digits ds) (fits : ds.length ≤ width)
    (ends : ds.length = width ∨ Apart rest)
    (small : Nat.ofDigitChars 10 ds 0 < 0x8000000000000000) :
    number width (ds ++ rest) = .ok (Nat.ofDigitChars 10 ds 0, rest) := by
  cases ds with
  | nil => exact absurd rfl full
  | cons c ds =>
      have read := digitsFrom_digits digits fits ends small
      simp only [number, List.cons_append, digits.of_cons.1, ↓reduceIte]
      exact read

theorem ofDigitChars_zeros (k : Nat) (cs : List Char) :
    Nat.ofDigitChars 10 (List.replicate k '0' ++ cs) 0 = Nat.ofDigitChars 10 cs 0 := by
  induction k with
  | zero => rfl
  | succ k ih =>
      rw [List.replicate_succ, List.cons_append, Nat.ofDigitChars_cons]
      exact ih

theorem ofDigitChars_padded (width n : Nat) : Nat.ofDigitChars 10 (padded width n) 0 = n := by
  rw [padded, ofDigitChars_zeros]
  exact Nat.ofDigitChars_toDigits (by decide) (by decide)

theorem digits_padded (width n : Nat) : Digits (padded width n) := by
  intro c member
  rcases List.mem_append.mp member with zero | digit
  · rw [List.eq_of_mem_replicate zero]
    rfl
  · exact Nat.isDigit_of_mem_toDigits (by decide) (by decide) digit

theorem padded_ne_nil (width n : Nat) : padded width n ≠ [] := by
  intro empty
  exact Nat.toDigits_ne_nil (List.append_eq_nil_iff.mp empty).2

theorem length_padded (positive : 0 < width) (small : n < 10 ^ width) :
    (padded width n).length = width := by
  have short : (Nat.toDigits 10 n).length ≤ width :=
    (Nat.length_toDigits_le_iff (by decide) positive).mpr small
  rw [padded, List.length_append, List.length_replicate]
  omega

theorem number_padded (positive : 0 < width) (small : n < 10 ^ width)
    (bounded : n < 0x8000000000000000) (rest : List Char) :
    number width (padded width n ++ rest) = .ok (n, rest) := by
  have length := length_padded positive small
  have read : number width (padded width n ++ rest) = .ok (_, rest) :=
    number_digits (padded_ne_nil width n) (digits_padded width n) (Nat.le_of_eq length)
      (Or.inl length) (by rwa [ofDigitChars_padded])
  rwa [ofDigitChars_padded] at read

theorem number_apart (wide : (padded width n).length ≤ limit) (bounded : n < 0x8000000000000000)
    (apart : Apart rest) : number limit (padded width n ++ rest) = .ok (n, rest) := by
  have read : number limit (padded width n ++ rest) = .ok (_, rest) :=
    number_digits (padded_ne_nil width n) (digits_padded width n) wide (Or.inr apart)
      (by rwa [ofDigitChars_padded])
  rwa [ofDigitChars_padded] at read

/-! Each part is read as it is written. -/

theorem isBlank_of_isDigit {c : Char} (digit : c.isDigit = true) : Text.isBlank c = false := by
  have low : 48 ≤ c.toNat ∧ c.toNat ≤ 57 := by
    simpa [Char.isDigit, UInt32.le_iff_toNat_le] using digit
  simp [Text.isBlank, UInt32.le_iff_toNat_le, ← UInt32.toNat_inj]
  omega

theorem trimStart_solid {c : Char} (solid : Text.isBlank c = false) (cs : List Char) :
    Text.trimStartChars (c :: cs) = c :: cs := by
  rw [Text.trimStartChars, List.dropWhile_cons, solid]
  rfl

theorem trimStart_padded (width n : Nat) (rest : List Char) :
    Text.trimStartChars (padded width n ++ rest) = padded width n ++ rest := by
  cases digits : padded width n with
  | nil => exact absurd digits (padded_ne_nil width n)
  | cons c cs =>
      have digit := digits_padded width n c (digits ▸ List.mem_cons_self)
      exact trimStart_solid (isBlank_of_isDigit digit) (cs ++ rest)

theorem mark_cons {c : Char} (solid : Text.isBlank c = false) (cs : List Char) :
    mark c (c :: cs) = .ok cs := by
  simp only [mark, trimStart_solid solid, ↓reduceIte]

theorem field_padded {low high n : Nat} (above : low ≤ n) (below : n ≤ high) (small : n < 100)
    (rest : List Char) : field low high (padded 2 n ++ rest) = .ok (n, rest) := by
  have read : number 2 (padded 2 n ++ rest) = .ok (n, rest) :=
    number_padded (by decide) small (by omega) rest
  simp only [field, trimStart_padded, read, bind, Except.bind, above, below, and_self, ↓reduceIte]
  rfl

/-! In the next three the bound of a year is a variable, and bindings are taken off one by one,
lest the bound is counted out. -/

theorem year_minus (read : number cs.length cs = .ok (n, rest)) (small : n ≤ 0x80000000) :
    year ('-' :: cs) = .ok (-(n : Int), rest) := by
  have solid : Text.isBlank '-' = false := by decide
  have kept : -0x80000000 ≤ -(n : Int) ∧ -(n : Int) < 0x80000000 := by omega
  unfold year
  generalize (0x80000000 : Int) = bound at kept ⊢
  extract_lets within
  rw [trimStart_solid solid]
  split
  case h_1 own =>
    cases own
    rw [read, ok_bind]
    dsimp only
    rw [pure_bind]
    exact if_pos kept
  case h_2 own => cases own
  case h_3 other _ => exact absurd rfl (other cs)

theorem year_plus (read : number cs.length cs = .ok (n, rest)) (small : n < 0x80000000) :
    year ('+' :: cs) = .ok ((n : Int), rest) := by
  have solid : Text.isBlank '+' = false := by decide
  have kept : -0x80000000 ≤ (n : Int) ∧ (n : Int) < 0x80000000 := by omega
  unfold year
  generalize (0x80000000 : Int) = bound at kept ⊢
  extract_lets within
  rw [trimStart_solid solid]
  split
  case h_1 own => cases own
  case h_2 own =>
    cases own
    rw [read, ok_bind]
    dsimp only
    rw [pure_bind]
    exact if_pos kept
  case h_3 _ other => exact absurd rfl (other cs)

theorem year_plain {c : Char} (digit : c.isDigit = true)
    (read : number 4 (c :: cs) = .ok (n, rest)) (small : n < 0x80000000) :
    year (c :: cs) = .ok ((n : Int), rest) := by
  have kept : -0x80000000 ≤ (n : Int) ∧ (n : Int) < 0x80000000 := by omega
  unfold year
  generalize (0x80000000 : Int) = bound at kept ⊢
  extract_lets within
  rw [trimStart_solid (isBlank_of_isDigit digit)]
  split
  case h_1 own =>
    cases own
    cases digit
  case h_2 own =>
    cases own
    cases digit
  case h_3 =>
    rw [read, ok_bind]
    dsimp only
    rw [pure_bind]
    exact if_pos kept

theorem year_written {y : Int} (low : -262143 ≤ y) (high : y ≤ 262142) (rest : List Char) :
    year (yearChars y ++ '-' :: rest) = .ok (y, '-' :: rest) := by
  have dash : Apart ('-' :: rest) := by
    intro c first
    cases first
    rfl
  have bounded : y.natAbs < 0x8000000000000000 := by omega
  have small : y.natAbs < 0x80000000 := by omega
  have wide : (padded 4 y.natAbs).length ≤ (padded 4 y.natAbs ++ '-' :: rest).length := by simp
  have signed := number_apart wide bounded dash
  unfold yearChars
  split
  case isTrue negative =>
    have value : -(y.natAbs : Int) = y := by omega
    rw [List.cons_append, year_minus signed (by omega), value]
  case isFalse =>
    have value : (y.natAbs : Int) = y := by omega
    split
    case isTrue => rw [List.cons_append, year_plus signed small, value]
    case isFalse =>
      -- Without a sign the first character is a digit, and four of them are all.
      have four : number 4 (padded 4 y.natAbs ++ '-' :: rest) = .ok (y.natAbs, '-' :: rest) :=
        number_padded (by decide) (by omega) bounded _
      cases digits : padded 4 y.natAbs with
      | nil => exact absurd digits (padded_ne_nil 4 y.natAbs)
      | cons c cs =>
          have digit := digits_padded 4 y.natAbs c (digits ▸ List.mem_cons_self)
          rw [digits, List.cons_append] at four
          rw [List.cons_append, year_plain digit four small, value]

theorem fraction_places {places : Nat} (positive : 0 < places) (upto : places ≤ 9)
    (small : n < 1000000000) (whole : n % 10 ^ (9 - places) = 0) :
    fraction ('.' :: (padded places (n / 10 ^ (9 - places)) ++ ['Z'])) = .ok (n, ['Z']) := by
  have apart : Apart ['Z'] := by
    intro c first
    cases first
    rfl
  have shown : n / 10 ^ (9 - places) < 10 ^ places := by
    apply Nat.div_lt_of_lt_mul
    rwa [← Nat.pow_add, Nat.sub_add_cancel upto]
  have bounded : n / 10 ^ (9 - places) < 0x8000000000000000 :=
    Nat.lt_of_le_of_lt (Nat.div_le_self n _) (by omega)
  have length := length_padded positive shown
  have wide : (padded places (n / 10 ^ (9 - places))).length ≤ 9 := by omega
  have read := number_apart wide bounded apart
  have taken : (padded places (n / 10 ^ (9 - places)) ++ ['Z']).length - ['Z'].length = places := by
    rw [List.length_append, length]
    exact Nat.add_sub_cancel places _
  have value : n / 10 ^ (9 - places) * 10 ^ (9 - places) = n :=
    Nat.div_mul_cancel (Nat.dvd_of_mod_eq_zero whole)
  simp only [fraction, read, bind, Except.bind, taken, Nat.pow_eq, value]
  rfl

theorem fraction_written (small : n < 1000000000) :
    fraction (fractionChars n ++ ['Z']) = .ok (n, ['Z']) := by
  unfold fractionChars
  split
  case isTrue zero =>
    rw [eq_of_beq zero]
    rfl
  case isFalse =>
    split
    case isTrue third => exact fraction_places (by decide) (by decide) small (eq_of_beq third)
    case isFalse =>
      split
      case isTrue sixth => exact fraction_places (by decide) (by decide) small (eq_of_beq sixth)
      case isFalse =>
        have ninth := fraction_places (by decide) (Nat.le_refl 9) small (Nat.mod_one n)
        rwa [Nat.sub_self, Nat.pow_zero, Nat.div_one] at ninth

theorem shifted_none {t : Timestamp} (valid : t.Valid) :
    shifted t.day t.hour t.minute 0 t.second t.nanosecond = .ok t := by
  obtain ⟨day, hour, minute, second, _⟩ := valid
  unfold shifted
  extract_lets seconds moved ofDay
  have same : moved = t.day := by
    have early : ¬ seconds < 0 := by omega
    have late : ¬ 86400 ≤ seconds := by omega
    simp only [moved, early, late, ↓reduceIte]
  have whole : ofDay = t.hour * 3600 + t.minute * 60 + min t.second 59 := by omega
  have hours : ofDay / 3600 = t.hour := by omega
  have minutes : ofDay / 60 % 60 = t.minute := by omega
  have leap : ofDay % 60 + (t.second - 59) = t.second := by omega
  rw [same, hours, minutes, leap, day]
  rfl

theorem lengthOf_le (year : Int) (month : Nat) : Day.lengthOf year month ≤ 31 := by
  unfold Day.lengthOf
  repeat' split
  all_goals omega

theorem bounds_of_valid {d : Day} (valid : d.valid = true) :
    (-262143 ≤ d.year ∧ d.year ≤ 262142) ∧ (1 ≤ d.month ∧ d.month ≤ 12) ∧
      1 ≤ d.day ∧ d.day ≤ 31 := by
  simp only [Day.valid, Bool.and_eq_true, decide_eq_true_eq, Day.firstYear, Day.lastYear] at valid
  obtain ⟨⟨⟨⟨⟨low, high⟩, month⟩, twelve⟩, day⟩, upto⟩ := valid
  have thirty := Nat.le_trans upto (lengthOf_le d.year d.month)
  exact ⟨⟨of_decide_eq_true low, of_decide_eq_true high⟩, ⟨month, twelve⟩, day, thirty⟩

/-- A moment is read as it was written. -/
theorem parse_render {t : Timestamp} (valid : t.Valid) : parse t.render = .ok t := by
  have dash : Text.isBlank '-' = false := by decide
  have colon : Text.isBlank ':' = false := by decide
  have universal : zone (Text.trimStartChars ['Z']) = .ok (0, []) := rfl
  have ended : (Text.trimStartChars []).isEmpty = true := rfl
  have known : (⟨t.day.year, t.day.month, t.day.day⟩ : Day).valid = true := valid.day
  have near : decide (86400 ≤ (0 : Int).natAbs) = false := rfl
  obtain ⟨⟨low, high⟩, ⟨month, twelve⟩, day, thirty⟩ := bounds_of_valid valid.day
  have hour : t.hour ≤ 23 := Nat.le_of_lt_succ valid.hour
  have minute : t.minute ≤ 59 := Nat.le_of_lt_succ valid.minute
  have second := valid.second
  rw [parse, render, String.toList_ofList]
  simp only [chars, List.append_assoc, List.cons_append, List.nil_append]
  unfold ofChars
  simp only [year_written low high, mark_cons dash, mark_cons colon, ok_bind, pure_bind,
    field_padded month twelve (by omega), field_padded day thirty (by omega),
    field_padded (Nat.zero_le _) hour (by omega), field_padded (Nat.zero_le _) minute (by omega),
    field_padded (Nat.zero_le _) second (by omega), Char.reduceEq, or_true, true_or, ↓reduceIte,
    fraction_written valid.nanosecond, universal, ended, known, near, Bool.not_true,
    Bool.or_self, Bool.false_eq_true]
  exact shifted_none valid

/-! What is read is a moment that can be told. -/

theorem ofDigitChars_lt (digits : Digits ds) (total : Nat) :
    Nat.ofDigitChars 10 ds total < (total + 1) * 10 ^ ds.length := by
  induction ds generalizing total with
  | nil => simp [Nat.ofDigitChars]
  | cons c ds ih =>
      obtain ⟨digit, digits⟩ := digits.of_cons
      have low : c.toNat - '0'.toNat ≤ 9 := by
        have range : 48 ≤ c.toNat ∧ c.toNat ≤ 57 := by
          simpa [Char.isDigit, UInt32.le_iff_toNat_le] using digit
        have zero : '0'.toNat = 48 := rfl
        omega
      rw [Nat.ofDigitChars_cons, List.length_cons, Nat.pow_succ']
      calc Nat.ofDigitChars 10 ds (10 * total + (c.toNat - '0'.toNat))
          < (10 * total + (c.toNat - '0'.toNat) + 1) * 10 ^ ds.length := ih digits _
        _ ≤ (total + 1) * 10 * 10 ^ ds.length := Nat.mul_le_mul_right _ (by omega)
        _ = (total + 1) * (10 * 10 ^ ds.length) := Nat.mul_assoc _ _ _

theorem digitsFrom_gives (read : digitsFrom limit total width cs = .ok (n, rest)) :
    ∃ ds, Digits ds ∧ cs = ds ++ rest ∧ ds.length ≤ width ∧ n = Nat.ofDigitChars 10 ds total := by
  induction width generalizing cs total with
  | zero =>
      cases read
      exact ⟨[], nofun, rfl, Nat.le_refl 0, rfl⟩
  | succ width ih =>
      cases cs with
      | nil =>
          cases read
          exact ⟨[], nofun, rfl, Nat.zero_le _, rfl⟩
      | cons c cs =>
          unfold digitsFrom at read
          split at read
          case isTrue digit =>
            split at read
            case isTrue =>
              obtain ⟨ds, digits, whole, fits, value⟩ := ih read
              refine ⟨c :: ds, List.forall_mem_cons.mpr ⟨digit, digits⟩, ?_, ?_, ?_⟩
              · rw [whole, List.cons_append]
              · exact Nat.succ_le_succ fits
              · rw [value, Nat.ofDigitChars_cons, Nat.mul_comm total 10]
                rfl
            case isFalse => cases read
          case isFalse =>
            cases read
            exact ⟨[], nofun, rfl, Nat.zero_le _, rfl⟩

theorem number_gives (read : number width cs = .ok (n, rest)) :
    ∃ ds, cs = ds ++ rest ∧ ds.length ≤ width ∧ n < 10 ^ ds.length := by
  unfold number at read
  split at read
  case h_1 => cases read
  case h_2 =>
    split at read
    case isTrue =>
      obtain ⟨ds, digits, whole, fits, value⟩ := digitsFrom_gives read
      have bound := ofDigitChars_lt digits 0
      rw [Nat.zero_add, Nat.one_mul, ← value] at bound
      exact ⟨ds, whole, fits, bound⟩
    case isFalse => cases read

theorem fraction_gives (read : fraction cs = .ok (n, rest)) : n < 1000000000 := by
  unfold fraction at read
  split at read
  case h_1 digits =>
    obtain ⟨⟨value, after⟩, own, read⟩ := ok_of_bind read
    cases read
    obtain ⟨ds, whole, fits, bound⟩ := number_gives own
    have taken : digits.length - after.length = ds.length := by
      rw [whole, List.length_append, Nat.add_sub_cancel]
    rw [taken]
    calc value * Nat.pow 10 (9 - ds.length)
        < 10 ^ ds.length * 10 ^ (9 - ds.length) :=
          Nat.mul_lt_mul_of_pos_right bound (Nat.pow_pos (by decide))
      _ = 10 ^ 9 := by rw [← Nat.pow_add, Nat.add_sub_cancel' fits]
  case h_2 =>
    cases read
    decide

theorem field_gives {low high : Nat} (read : field low high cs = .ok (n, rest)) :
    low ≤ n ∧ n ≤ high := by
  obtain ⟨⟨value, after⟩, _, read⟩ := ok_of_bind read
  dsimp only at read
  split at read
  case isTrue bounds =>
    cases read
    exact bounds
  case isFalse => cases read

theorem shifted_gives {day : Day} {hour minute second nanosecond : Nat} {ahead : Int}
    {t : Timestamp} (leap : second ≤ 60) (small : nanosecond < 1000000000)
    (moved : shifted day hour minute ahead second nanosecond = .ok t) : t.Valid := by
  unfold shifted at moved
  extract_lets seconds day ofDay at moved
  split at moved
  case isTrue valid =>
    cases moved
    refine ⟨valid, ?_, ?_, ?_, small⟩ <;> dsimp only <;> omega
  case isFalse => cases moved

/-- Whatever is read is a moment that can be told. -/
theorem valid_of_parse {s : String} {t : Timestamp} (read : parse s = .ok t) : t.Valid := by
  unfold parse ofChars at read
  obtain ⟨⟨year, cs⟩, _, read⟩ := ok_of_bind read
  obtain ⟨cs, _, read⟩ := ok_of_bind read
  obtain ⟨⟨month, cs⟩, _, read⟩ := ok_of_bind read
  obtain ⟨cs, _, read⟩ := ok_of_bind read
  obtain ⟨⟨day, cs⟩, _, read⟩ := ok_of_bind read
  dsimp only at read
  split at read
  case h_1 => cases read
  case h_2 letter cs =>
    split at read
    case isFalse => cases read
    case isTrue =>
      -- Only the time of day matters from here on.
      rw [pure_bind] at read
      obtain ⟨⟨hour, cs⟩, _, read⟩ := ok_of_bind read
      obtain ⟨cs, _, read⟩ := ok_of_bind read
      obtain ⟨⟨minute, cs⟩, _, read⟩ := ok_of_bind read
      obtain ⟨cs, _, read⟩ := ok_of_bind read
      obtain ⟨⟨second, cs⟩, leap, read⟩ := ok_of_bind read
      obtain ⟨⟨nanosecond, cs⟩, small, read⟩ := ok_of_bind read
      obtain ⟨⟨ahead, cs⟩, _, read⟩ := ok_of_bind read
      dsimp only at read
      split at read
      case isTrue => cases read
      case isFalse =>
        split at read
        case isTrue => cases read
        case isFalse => exact shifted_gives (field_gives leap).2 (fraction_gives small) read

end TenantRelay.Timestamp
