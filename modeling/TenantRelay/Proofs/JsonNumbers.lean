import TenantRelay.Proofs.JsonStrings

/-!
A number is read back from its text whatever comes after it, as long as that does not go on
like a number. Whole numbers always are. Of the others it is a question of each: not all of
them are read as what they were written for.
-/

namespace TenantRelay.Json

open Document Text Reader

def Ends (rest : Bytes) : Prop :=
  ∀ b more, rest = b :: more → isDigit b = false ∧ (b == 0x2e) = false ∧ isExponentMark b = false

abbrev Front (α : Type) := Bytes → Except SyntaxFault (α × Bytes)

/-- What is read does not depend on what comes after it. -/
def Apart {α : Type} (rest : Bytes) (reader : Front α) : Prop :=
  ∀ bytes a left, reader bytes = .ok (a, left) → reader (bytes ++ rest) = .ok (a, left ++ rest)

section
variable {rest : Bytes} {negative : Bool} {significand : Nat} {power : Int}

theorem map_ok {α β : Type} {read : Except SyntaxFault α} {f : α → β} {b : β}
    (mapped : read.map f = .ok b) : ∃ a, read = .ok a ∧ f a = b := by
  cases read with
  | error fault => cases mapped
  | ok a => exact ⟨a, rfl, Except.ok.inj mapped⟩

theorem skipDigits_append (ends : Ends rest) (bytes : Bytes) :
    skipDigits (bytes ++ rest) = skipDigits bytes ++ rest := by
  induction bytes with
  | nil =>
      cases rest with
      | nil => rfl
      | cons b more => simp [skipDigits, (ends b more rfl).1]
  | cons b bytes ih =>
      by_cases digit : isDigit b = true
      · simpa [skipDigits, digit] using ih
      · simp [skipDigits, digit]

theorem powerDigits_append (ends : Ends rest) (sofar : Nat) (bytes : Bytes) :
    powerDigits sofar (bytes ++ rest) =
      ((powerDigits sofar bytes).1, (powerDigits sofar bytes).2 ++ rest) := by
  induction bytes generalizing sofar with
  | nil =>
      cases rest with
      | nil => rfl
      | cons b more => simp [powerDigits, (ends b more rfl).1]
  | cons b bytes ih =>
      by_cases digit : isDigit b = true
      · by_cases small : sofar * 10 + digitOf b < 0x80000000
        · simpa [powerDigits, digit, small] using ih _
        · simp [powerDigits, digit, small, skipDigits_append ends]
      · simp [powerDigits, digit]

def scaledBy (negative : Bool) (significand : Nat) (power : Int) (downward : Bool) :
    Option Nat × Bytes → Except SyntaxFault (Number × Bytes)
  | (some shift, left) =>
    (floating negative significand
      (clampPower (if downward then power - shift else power + shift))).map fun n => (n, left)
  | (none, left) =>
    if significand != 0 && !downward then .error .numberOutOfRange
    else .ok (.real (if negative then -0.0 else 0.0), left)

theorem scaledBy_append {downward : Bool} {shift : Option Nat} {n : Number} {left after : Bytes}
    (read : scaledBy negative significand power downward (shift, after) = .ok (n, left)) :
    scaledBy negative significand power downward (shift, after ++ rest) =
      .ok (n, left ++ rest) := by
  cases shift with
  | some places =>
      obtain ⟨_, same, ended⟩ := map_ok read
      cases ended
      simp only [scaledBy, same]
      rfl
  | none =>
      simp only [scaledBy] at read ⊢
      split at read
      case isTrue => cases read
      case isFalse bounded =>
        cases read
        rw [if_neg bounded]

def shifted (negative : Bool) (significand : Nat) (power : Int) (downward : Bool) : Front Number
  | [] => .error .endInValue
  | b :: bytes =>
    if !isDigit b then .error .invalidNumber
    else scaledBy negative significand power downward (powerDigits 0 (b :: bytes))

theorem shifted_apart (ends : Ends rest) {downward : Bool} :
    Apart rest (shifted negative significand power downward) := by
  intro bytes n left read
  cases bytes with
  | nil => cases read
  | cons b bytes =>
      by_cases digit : isDigit b = true
      · have more := powerDigits_append ends 0 (b :: bytes)
        rw [List.cons_append] at more ⊢
        simp only [shifted, digit, more, Bool.not_true, Bool.false_eq_true, ↓reduceIte] at read ⊢
        exact scaledBy_append read
      · simp only [shifted, digit] at read
        cases read

def direction : Bytes → Bool × Bytes
  | 0x2b :: digits => (false, digits)
  | 0x2d :: digits => (true, digits)
  | digits => (false, digits)

theorem direction_append (b : UInt8) (bytes : Bytes) :
    direction (b :: bytes ++ rest) =
      ((direction (b :: bytes)).1, (direction (b :: bytes)).2 ++ rest) := by
  by_cases plus : b = 0x2b
  · subst plus
    rfl
  · by_cases minus : b = 0x2d
    · subst minus
      rfl
    · simp [direction, plus, minus]

theorem exponentPart_eq (bytes : Bytes) :
    exponentPart negative significand power bytes =
      shifted negative significand power (direction bytes).1 (direction bytes).2 := by
  unfold exponentPart
  split
  rename_i downward digits sign
  have sign : direction bytes = (downward, digits) := sign
  rw [sign]
  cases digits <;> rfl

theorem exponentPart_apart (ends : Ends rest) :
    Apart rest (exponentPart negative significand power) := by
  intro bytes n left read
  rw [exponentPart_eq] at read ⊢
  cases bytes with
  | nil => cases read
  | cons b bytes =>
      rw [direction_append]
      exact shifted_apart ends _ n left read

theorem afterDigits_apart (ends : Ends rest) :
    Apart rest (afterDigits negative significand power) := by
  intro bytes n left read
  cases bytes with
  | nil =>
      obtain ⟨_, same, ended⟩ := map_ok read
      cases ended
      cases rest with
      | nil => exact read
      | cons b more =>
          simp [afterDigits, (ends b more rfl).2.2, same, Except.map]
  | cons b bytes =>
      rw [List.cons_append]
      by_cases mark : isExponentMark b = true
      · simp only [afterDigits, mark, ↓reduceIte] at read ⊢
        exact exponentPart_apart ends bytes n left read
      · simp only [afterDigits, mark] at read ⊢
        obtain ⟨_, same, ended⟩ := map_ok read
        cases ended
        rw [same]
        rfl

theorem fractionDigits_apart (ends : Ends rest) :
    Apart rest (fractionDigits negative significand power) := by
  intro bytes n left read
  induction bytes generalizing significand power with
  | nil =>
      have more := afterDigits_apart ends [] n left read
      cases rest with
      | nil => exact more
      | cons b more => simpa [fractionDigits, (ends b _ rfl).1] using more
  | cons b bytes ih =>
      rw [List.cons_append]
      simp only [fractionDigits] at read ⊢
      split at read
      case isTrue digit =>
        rw [if_pos digit]
        split at read
        case isTrue small =>
          rw [if_pos small]
          exact ih read
        case isFalse large =>
          rw [if_neg large, skipDigits_append ends]
          exact afterDigits_apart ends _ n left read
      case isFalse other =>
        rw [if_neg other]
        exact afterDigits_apart ends _ n left read

theorem fraction_apart (ends : Ends rest) :
    Apart rest (fraction negative significand power) := by
  intro bytes n left read
  cases bytes with
  | nil => cases read
  | cons b bytes =>
      rw [List.cons_append]
      simp only [fraction] at read ⊢
      split at read
      case isTrue digit =>
        rw [if_pos digit]
        exact fractionDigits_apart ends _ n left read
      case isFalse => cases read

theorem longWhole_apart (ends : Ends rest) :
    Apart rest (longWhole negative significand power) := by
  intro bytes n left read
  induction bytes generalizing power with
  | nil =>
      obtain ⟨_, same, ended⟩ := map_ok read
      cases ended
      cases rest with
      | nil => exact read
      | cons b more =>
          obtain ⟨digit, point, mark⟩ := ends b more rfl
          simp [longWhole, digit, point, mark, same, Except.map]
  | cons b bytes ih =>
      rw [List.cons_append]
      simp only [longWhole] at read ⊢
      split at read
      case isTrue digit =>
        rw [if_pos digit]
        exact ih read
      case isFalse other =>
        rw [if_neg other]
        split at read
        case isTrue point =>
          rw [if_pos point]
          exact fraction_apart ends _ n left read
        case isFalse whole =>
          rw [if_neg whole]
          split at read
          case isTrue mark =>
            rw [if_pos mark]
            exact exponentPart_apart ends _ n left read
          case isFalse unmarked =>
            rw [if_neg unmarked]
            obtain ⟨_, same, ended⟩ := map_ok read
            cases ended
            rw [same]
            rfl

theorem afterWhole_apart (ends : Ends rest) : Apart rest (afterWhole negative significand) := by
  intro bytes n left read
  cases bytes with
  | nil =>
      cases read
      cases rest with
      | nil => rfl
      | cons b more =>
          obtain ⟨_, point, mark⟩ := ends b more rfl
          simp [afterWhole, point, mark]
  | cons b bytes =>
      rw [List.cons_append]
      simp only [afterWhole] at read ⊢
      split at read
      case isTrue point =>
        rw [if_pos point]
        exact fraction_apart ends _ n left read
      case isFalse whole =>
        rw [if_neg whole]
        split at read
        case isTrue mark =>
          rw [if_pos mark]
          exact exponentPart_apart ends _ n left read
        case isFalse unmarked =>
          rw [if_neg unmarked]
          cases read
          rfl

theorem wholeDigits_apart (ends : Ends rest) : Apart rest (wholeDigits negative significand) := by
  intro bytes n left read
  induction bytes generalizing significand with
  | nil =>
      have more := afterWhole_apart ends [] n left read
      cases rest with
      | nil => exact more
      | cons b more => simpa [wholeDigits, (ends b _ rfl).1] using more
  | cons b bytes ih =>
      rw [List.cons_append]
      simp only [wholeDigits] at read ⊢
      split at read
      case isTrue digit =>
        rw [if_pos digit]
        split at read
        case isTrue small =>
          rw [if_pos small]
          exact ih read
        case isFalse large =>
          rw [if_neg large]
          exact longWhole_apart ends _ n left read
      case isFalse other =>
        rw [if_neg other]
        exact afterWhole_apart ends _ n left read

theorem unsigned_apart (ends : Ends rest) : Apart rest (unsigned negative) := by
  intro bytes n left read
  cases bytes with
  | nil => cases read
  | cons b bytes =>
      by_cases zero : b = 0x30
      · subst zero
        cases bytes with
        | nil =>
            have more := afterWhole_apart ends [] n left read
            cases rest with
            | nil => exact more
            | cons b more => simpa [unsigned, (ends b _ rfl).1] using more
        | cons b bytes =>
            simp only [unsigned, List.cons_append] at read ⊢
            split at read
            case isTrue => cases read
            case isFalse other =>
              rw [if_neg other]
              exact afterWhole_apart ends _ n left read
      · rw [List.cons_append]
        simp only [unsigned] at read ⊢
        split at read
        case isTrue digit =>
          rw [if_pos digit]
          exact wholeDigits_apart ends _ n left read
        case isFalse => cases read


end

/-! Whole numbers. -/

theorem digit_bytes {d : Nat} (small : d < 10) :
    ∃ b, bytesOf [d.digitChar] = [b] ∧ isDigit b = true ∧ digitOf b = d ∧
      (b = 0x30 → d = 0) ∧ b ≠ 0x2d := by
  have all : ∀ d ∈ List.range 10,
      bytesOf [d.digitChar] = [UInt8.ofNat (0x30 + d)] ∧
        isDigit (UInt8.ofNat (0x30 + d)) = true ∧ digitOf (UInt8.ofNat (0x30 + d)) = d ∧
          (UInt8.ofNat (0x30 + d) = 0x30 → d = 0) ∧ UInt8.ofNat (0x30 + d) ≠ 0x2d := by
    decide +kernel
  exact ⟨_, all d (List.mem_range.mpr small)⟩

theorem bytesOf_toDigits (n : Nat) (large : 10 ≤ n) :
    bytesOf (Nat.toDigits 10 n) =
      bytesOf (Nat.toDigits 10 (n / 10)) ++ bytesOf [(n % 10).digitChar] := by
  rw [Nat.toDigits_of_base_le (by omega) large, bytesOf_append]

theorem wholeDigits_toDigits (negative : Bool) {n : Nat} (small : n < wordLimit) (rest : Bytes) :
    wholeDigits negative 0 (bytesOf (Nat.toDigits 10 n) ++ rest) = wholeDigits negative n rest := by
  induction n using Nat.strongRecOn generalizing rest with
  | ind n ih =>
      have last : ∀ d before, d < 10 → before * 10 + d < wordLimit →
          wholeDigits negative before (bytesOf [d.digitChar] ++ rest) =
            wholeDigits negative (before * 10 + d) rest := by
        intro d before low bounded
        obtain ⟨b, bytes, digit, value, _⟩ := digit_bytes low
        rw [bytes]
        simp only [List.cons_append, List.nil_append, wholeDigits, digit, value, bounded,
          ↓reduceIte]
      by_cases one : n < 10
      · rw [Nat.toDigits_of_lt_base one, last n 0 one (by omega), Nat.zero_mul, Nat.zero_add]
      · rw [bytesOf_toDigits n (by omega), List.append_assoc, ih (n / 10) (by omega) (by omega),
          last _ _ (by omega) (by omega)]
        congr 1
        omega

theorem front_of_toDigits (n : Nat) :
    ∃ b bytes, bytesOf (Nat.toDigits 10 n) = b :: bytes ∧ isDigit b = true ∧
      (b = 0x30 → n = 0) ∧ b ≠ 0x2d := by
  induction n using Nat.strongRecOn with
  | ind n ih =>
      by_cases one : n < 10
      · obtain ⟨b, bytes, digit, _, zero, plus⟩ := digit_bytes one
        rw [Nat.toDigits_of_lt_base one]
        exact ⟨b, [], bytes, digit, zero, plus⟩
      · obtain ⟨b, bytes, front, digit, zero, plus⟩ := ih (n / 10) (by omega)
        rw [bytesOf_toDigits n (by omega), front]
        exact ⟨b, _, rfl, digit, fun same => absurd (zero same) (by omega), plus⟩

theorem unsigned_toDigits (negative : Bool) {n : Nat} (small : n < wordLimit) :
    unsigned negative (bytesOf (Nat.toDigits 10 n)) = .ok (wholeNumber negative n, []) := by
  by_cases zero : n = 0
  · subst zero
    rfl
  · have whole := wholeDigits_toDigits negative small []
    rw [List.append_nil] at whole
    obtain ⟨b, bytes, front, digit, leading, _⟩ := front_of_toDigits n
    rw [front] at whole ⊢
    have other : b ≠ 0x30 := fun same => zero (leading same)
    simp only [unsigned, digit, ↓reduceIte]
    exact whole

def signed : Front Number
  | [] => unsigned false []
  | b :: bytes => if b == 0x2d then unsigned true bytes else unsigned false (b :: bytes)

/-- A number that is read as itself from its own text. -/
def Number.ReadsBack (n : Number) : Prop := signed (Utf8.encode n.text) = .ok (n, [])

theorem Number.readsBack_nat (n : UInt64) : (Number.nat n).ReadsBack := by
  have small : n.toNat < wordLimit := n.toNat_lt
  have read := unsigned_toDigits false small
  have whole : wholeNumber false n.toNat = .nat n := by
    simp [wholeNumber]
  obtain ⟨b, bytes, front, _, _, plus⟩ := front_of_toDigits n.toNat
  rw [Number.ReadsBack, Number.text, Nat.toString_eq_ofList_toDigits, encode_ofList, front]
  rw [front, whole] at read
  have plus : (b == 0x2d) = false := beq_eq_false_iff_ne.mpr plus
  simp only [signed, plus, Bool.false_eq_true, ↓reduceIte]
  exact read

theorem Number.readsBack_neg {n : Int64} (below : n.toInt < 0) : (Number.neg n).ReadsBack := by
  have low := n.le_toInt
  obtain ⟨k, value⟩ : ∃ k : Nat, n.toInt = -k := ⟨n.toInt.natAbs, by omega⟩
  have positive : k ≠ 0 := by omega
  have bounded : k ≤ 0x8000000000000000 := by omega
  have text : toString n.toInt = String.ofList ('-' :: Nat.toDigits 10 k) := by
    obtain ⟨j, rfl⟩ := Nat.exists_eq_succ_of_ne_zero positive
    rw [value]
    show "-" ++ (j + 1).repr = _
    rw [Nat.repr_eq_ofList_toDigits, ← String.toList_inj]
    simp
  have read := unsigned_toDigits true (n := k) (by simp [wordLimit]; omega)
  have whole : wholeNumber true k = .neg n := by
    simp [wholeNumber, positive, bounded, ← value]
  rw [whole] at read
  rw [Number.ReadsBack, Number.text, text, encode_ofList]
  exact read

theorem Number.ReadsBack.cases {n : Number} (readsBack : n.ReadsBack) :
    ∃ b bytes, Utf8.encode n.text = b :: bytes ∧
      ((b = 0x2d ∧ ∀ rest, Ends rest → unsigned true (bytes ++ rest) = .ok (n, rest)) ∨
        (b ≠ 0x2d ∧ isDigit b = true ∧
          ∀ rest, Ends rest → unsigned false (b :: bytes ++ rest) = .ok (n, rest))) := by
  unfold Number.ReadsBack at readsBack
  cases text : Utf8.encode n.text with
  | nil =>
      rw [text] at readsBack
      cases readsBack
  | cons b bytes =>
      rw [text] at readsBack
      simp only [signed] at readsBack
      split at readsBack
      case isTrue minus =>
        have apart := fun rest (ends : Ends rest) => unsigned_apart ends bytes n [] readsBack
        exact ⟨b, bytes, rfl, .inl ⟨beq_iff_eq.mp minus, apart⟩⟩
      case isFalse plus =>
        have apart := fun rest (ends : Ends rest) => unsigned_apart ends (b :: bytes) n [] readsBack
        have digit : isDigit b = true := by
          by_cases zero : b = 0x30
          · subst zero
            rfl
          · simp only [unsigned] at readsBack
            split at readsBack
            case isTrue digit => exact digit
            case isFalse => cases readsBack
        exact ⟨b, bytes, rfl, .inr ⟨fun same => plus (beq_iff_eq.mpr same), digit, apart⟩⟩

end TenantRelay.Json
