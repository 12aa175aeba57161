import TenantRelay.Json.Printer
import TenantRelay.Json.Reader
import TenantRelay.Proofs.Signing

/-!
A text that is written in quotes is read back, whatever comes after it. Each character is
written as itself, as a short escape or as an escaped code point, and each of these is read
back by itself.
-/

namespace TenantRelay.Json

open Text Reader

def bytesOf (cs : List Char) : Bytes := cs.flatMap String.utf8EncodeChar

theorem encode_ofList (cs : List Char) : Utf8.encode (String.ofList cs) = bytesOf cs := by
  rw [Utf8.encode, String.toList_ofList]
  rfl

theorem bytesOf_append (cs ds : List Char) : bytesOf (cs ++ ds) = bytesOf cs ++ bytesOf ds :=
  List.flatMap_append

structure Plain (b : UInt8) : Prop where
  quote : (b == 0x22) = false
  backslash : (b == 0x5c) = false
  control : ¬b < 0x20

theorem plain_of_ne {b : UInt8} (quote : b.toNat ≠ 0x22) (backslash : b.toNat ≠ 0x5c)
    (above : 0x20 ≤ b.toNat) : Plain b where
  quote := by
    rw [beq_eq_false_iff_ne, Ne, ← UInt8.toNat_inj]
    exact quote
  backslash := by
    rw [beq_eq_false_iff_ne, Ne, ← UInt8.toNat_inj]
    exact backslash
  control := by
    rw [UInt8.lt_iff_toNat_lt]
    exact Nat.not_lt.mpr above

inductive Escaped (c : Char) : List Char → Prop where
  | short {e : Char} {mark plain : UInt8} : String.utf8EncodeChar e = [mark] →
      (mark == 0x75) = false → simpleEscape mark = some plain →
      String.utf8EncodeChar c = [plain] → Escaped c ['\\', e]
  | unit : c.toNat < 0x20 →
      Escaped c (['\\', 'u', '0', '0'] ++ Hex.encodeByte (UInt8.ofNat c.toNat))
  | plain : (∀ b ∈ String.utf8EncodeChar c, Plain b) → Escaped c [c]

theorem plain_of_mem {c : Char} (quote : c ≠ '"') (backslash : c ≠ '\\') (above : 0x20 ≤ c.toNat)
    {b : UInt8} (member : b ∈ String.utf8EncodeChar c) : Plain b := by
  have notQuote : c.val.toNat ≠ 0x22 := by
    intro same
    apply quote
    exact Char.toNat_inj.mp same
  have notBackslash : c.val.toNat ≠ 0x5c := by
    intro same
    apply backslash
    exact Char.toNat_inj.mp same
  have valid : c.val.toNat < 0xd800 ∨ 0xdfff < c.val.toNat ∧ c.val.toNat < 0x110000 := c.valid
  have above : 0x20 ≤ c.val.toNat := above
  -- The bytes of a longer character are all above those that mean anything here.
  have large : ∀ n, 0x80 ≤ n → n < 256 → Plain (UInt8.ofNat n) := by
    intro n low high
    have byte := Utf8.toNat_ofNat high
    apply plain_of_ne <;> omega
  simp only [String.utf8EncodeChar] at member
  split at member
  case isTrue one =>
    rw [List.mem_singleton.mp member]
    have byte := Utf8.toNat_ofNat (n := c.val.toNat) (by omega)
    apply plain_of_ne <;> omega
  case isFalse =>
    split at member
    case isTrue =>
      simp only [List.mem_cons, List.not_mem_nil, or_false] at member
      rcases member with rfl | rfl <;> apply large <;> omega
    case isFalse =>
      split at member
      case isTrue =>
        simp only [List.mem_cons, List.not_mem_nil, or_false] at member
        rcases member with rfl | rfl | rfl <;> apply large <;> omega
      case isFalse =>
        simp only [List.mem_cons, List.not_mem_nil, or_false] at member
        rcases member with rfl | rfl | rfl | rfl <;> apply large <;> omega

theorem escaped_escapeChar (c : Char) : Escaped c (escapeChar c) := by
  unfold escapeChar
  split
  case h_1 => exact .short rfl rfl rfl rfl
  case h_2 => exact .short rfl rfl rfl rfl
  case h_3 => exact .short rfl rfl rfl rfl
  case h_4 => exact .short rfl rfl rfl rfl
  case h_5 => exact .short rfl rfl rfl rfl
  case h_6 => exact .short rfl rfl rfl rfl
  case h_7 => exact .short rfl rfl rfl rfl
  case h_8 quote backslash _ _ _ _ _ =>
    split
    case isTrue low => exact .unit low
    case isFalse high => exact .plain fun b => plain_of_mem quote backslash (Nat.le_of_not_lt high)

/-! What is read of each. -/

theorem stringFrom_plain {bs : Bytes} (plain : ∀ b ∈ bs, Plain b) (fuel : Nat)
    (more collected : Bytes) :
    stringFrom (fuel + bs.length) (bs ++ more) collected =
      stringFrom fuel more (bs.reverse ++ collected) := by
  induction bs generalizing collected with
  | nil => rfl
  | cons b rest ih =>
      have first := plain b List.mem_cons_self
      have later := ih (fun b member => plain b (List.mem_cons_of_mem _ member)) (b :: collected)
      rw [List.length_cons, ← Nat.add_assoc, List.cons_append]
      simp only [stringFrom, first.quote, first.backslash, first.control, Bool.false_eq_true,
        ↓reduceIte, later, List.reverse_cons, List.append_assoc, List.singleton_append]

theorem hexOf_digit {n : Nat} (small : n < 16) :
    ∃ b, String.utf8EncodeChar (Hex.digit n) = [b] ∧ hexOf b = some n := by
  have all : ∀ n ∈ List.range 16,
      String.utf8EncodeChar (Hex.digit n) = [UInt8.ofNat (Hex.digit n).toNat] ∧
        hexOf (UInt8.ofNat (Hex.digit n).toNat) = some n := by
    decide +kernel
  exact ⟨_, all n (List.mem_range.mpr small)⟩

theorem codePoint_unit {n : Nat} (low : n < 0x20) (more : Bytes) :
    codePoint (bytesOf (['0', '0'] ++ Hex.encodeByte (UInt8.ofNat n)) ++ more) =
      .ok (Char.ofNat n, more) := by
  have byte := Utf8.toNat_ofNat (n := n) (by omega)
  obtain ⟨high, highBytes, highValue⟩ := hexOf_digit (n := n / 16) (by omega)
  obtain ⟨small, smallBytes, smallValue⟩ := hexOf_digit (n := n % 16) (by omega)
  obtain ⟨zero, zeroBytes, zeroValue⟩ := hexOf_digit (n := 0) (by omega)
  have bytes : bytesOf (['0', '0'] ++ Hex.encodeByte (UInt8.ofNat n)) ++ more =
      zero :: zero :: high :: small :: more := by
    have zeroBytes : String.utf8EncodeChar '0' = [zero] := zeroBytes
    simp only [bytesOf, Hex.encodeByte, byte, List.cons_append, List.nil_append,
      List.flatMap_cons, List.flatMap_nil, zeroBytes, highBytes, smallBytes]
  have value : ((0 * 16 + 0) * 16 + n / 16) * 16 + n % 16 = n := by omega
  have read : unit (zero :: zero :: high :: small :: more) = .ok (n, more) := by
    simp only [unit, zeroValue, highValue, smallValue, value]
  have leading : isLeading n = false := by
    simp only [isLeading, Bool.and_eq_false_iff, decide_eq_false_iff_not]
    omega
  have trailing : isTrailing n = false := by
    simp only [isTrailing, Bool.and_eq_false_iff, decide_eq_false_iff_not]
    omega
  rw [bytes]
  simp only [codePoint, read, bind, Except.bind, leading, trailing, Bool.false_eq_true, ↓reduceIte]
  rfl

/-- Each character is read by as many steps as there are, and never more than its bytes. -/
theorem stringFrom_escaped {c : Char} {written : List Char} (escaped : Escaped c written) :
    ∃ steps ≤ (bytesOf written).length, ∀ fuel more collected,
      stringFrom (fuel + steps) (bytesOf written ++ more) collected =
        stringFrom fuel more ((bytesOf [c]).reverse ++ collected) := by
  cases escaped with
  | @short e mark plain bytes other simple own =>
      have written : bytesOf ['\\', e] = [0x5c, mark] := by
        simp only [bytesOf, List.flatMap_cons, List.flatMap_nil, bytes]
        rfl
      have text : bytesOf [c] = [plain] := by
        simp only [bytesOf, List.flatMap_cons, List.flatMap_nil, own, List.append_nil]
      rw [written, text]
      refine ⟨1, by simp, fun fuel more collected => ?_⟩
      simp only [List.cons_append, List.nil_append, stringFrom, other, simple]
      rfl
  | unit low =>
      have written : bytesOf (['\\', 'u', '0', '0'] ++ Hex.encodeByte (UInt8.ofNat c.toNat)) =
          0x5c :: 0x75 :: bytesOf (['0', '0'] ++ Hex.encodeByte (UInt8.ofNat c.toNat)) := rfl
      have text : Utf8.encode (String.singleton (Char.ofNat c.toNat)) = bytesOf [c] := by
        rw [Char.ofNat_toNat, Utf8.encode, String.toList_singleton]
        rfl
      rw [written]
      have digits := codePoint_unit low
      generalize bytesOf (['0', '0'] ++ Hex.encodeByte (UInt8.ofNat c.toNat)) = tail at digits
      refine ⟨1, by simp, fun fuel more collected => ?_⟩
      show (codePoint (tail ++ more) >>= fun read =>
        stringFrom fuel read.2 ((Utf8.encode (String.singleton read.1)).reverse ++ collected)) = _
      rw [digits more, ← text]
      rfl
  | plain plain =>
      have text : bytesOf [c] = String.utf8EncodeChar c := by
        simp only [bytesOf, List.flatMap_cons, List.flatMap_nil, List.append_nil]
      rw [text]
      exact ⟨_, Nat.le_refl _, fun fuel more collected => stringFrom_plain plain fuel more collected⟩

theorem stringFrom_escape (cs : List Char) (fuel : Nat) (rest collected : Bytes)
    (enough : (bytesOf (cs.flatMap escapeChar)).length < fuel) :
    stringFrom fuel (bytesOf (cs.flatMap escapeChar) ++ 0x22 :: rest) collected =
      (finish ((bytesOf cs).reverse ++ collected)).map fun s => (s, rest) := by
  induction cs generalizing fuel collected with
  | nil =>
      obtain ⟨fuel, rfl⟩ : ∃ n, fuel = n + 1 := ⟨fuel - 1, by simp at enough; omega⟩
      show stringFrom (fuel + 1) (0x22 :: rest) collected = (finish collected).map _
      simp only [stringFrom, beq_self_eq_true, ↓reduceIte]
      cases finish collected <;> rfl
  | cons c cs ih =>
      rw [List.flatMap_cons, bytesOf_append] at enough ⊢
      rw [List.length_append] at enough
      obtain ⟨steps, few, step⟩ := stringFrom_escaped (escaped_escapeChar c)
      obtain ⟨left, rfl⟩ : ∃ n, fuel = n + steps := ⟨fuel - steps, by omega⟩
      have joined : bytesOf (c :: cs) = bytesOf [c] ++ bytesOf cs := bytesOf_append [c] cs
      rw [List.append_assoc, step, ih _ _ (by omega), ← List.append_assoc, ← List.reverse_append,
        ← joined]

theorem string_escape (s : String) (rest : Bytes) :
    (Reader.string (bytesOf (s.toList.flatMap escapeChar) ++ 0x22 :: rest)).read =
      .ok (s, rest) := by
  have enough : (bytesOf (s.toList.flatMap escapeChar)).length <
      (bytesOf (s.toList.flatMap escapeChar) ++ 0x22 :: rest).length + 1 := by
    rw [List.length_append]
    omega
  have whole : finish ((bytesOf s.toList).reverse ++ []) = .ok s := by
    rw [finish, List.append_nil, List.reverse_reverse]
    have read : Utf8.decode? (bytesOf s.toList) = some s := Utf8.decode?_encode s
    rw [read]
  show stringFrom _ _ [] = _
  rw [stringFrom_escape s.toList _ rest [] enough, whole]
  rfl

theorem encode_escape (s : String) :
    Utf8.encode (escape s) = 0x22 :: (bytesOf (s.toList.flatMap escapeChar) ++ [0x22]) := by
  rw [escape, encode_ofList, List.cons_append]
  show bytesOf (['"'] ++ (s.toList.flatMap escapeChar ++ ['"'])) = _
  rw [bytesOf_append, bytesOf_append]
  rfl

end TenantRelay.Json
