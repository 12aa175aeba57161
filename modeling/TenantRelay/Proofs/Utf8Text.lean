import TenantRelay.Text.Utf8

/-!
A text is read back from its bytes. The bytes of a character say how many they are, so
characters are read one by one, whatever comes after them.
-/

namespace TenantRelay.Text.Utf8

theorem toNat_ofNat {n : Nat} (small : n < 256) : (UInt8.ofNat n).toNat = n :=
  UInt8.toNat_ofNat_of_lt' small

theorem width_eq (b : UInt8) : width b =
    if b.toNat < 0x80 then some 1
    else if 0xc2 ≤ b.toNat ∧ b.toNat ≤ 0xdf then some 2
    else if 0xe0 ≤ b.toNat ∧ b.toNat ≤ 0xef then some 3
    else if 0xf0 ≤ b.toNat ∧ b.toNat ≤ 0xf4 then some 4
    else none := by
  simp [width, UInt8.lt_iff_toNat_lt, UInt8.le_iff_toNat_le]

theorem continues_ofNat (n : Nat) : continues (UInt8.ofNat (n % 64 + 128)) = true := by
  have byte := toNat_ofNat (n := n % 64 + 128) (by omega)
  simp only [continues, UInt8.le_iff_toNat_le, Bool.and_eq_true, decide_eq_true_eq, byte]
  simp
  omega

theorem low_ofNat (n : Nat) : low (UInt8.ofNat (n % 64 + 128)) = n % 64 := by
  have byte := toNat_ofNat (n := n % 64 + 128) (by omega)
  rw [low, byte]
  omega

theorem follows_of_bounds {first second : UInt8} (continued : continues second = true)
    (overlong : first.toNat = 0xe0 → 0xa0 ≤ second.toNat)
    (surrogate : first.toNat = 0xed → second.toNat ≤ 0x9f)
    (short : first.toNat = 0xf0 → 0x90 ≤ second.toNat)
    (last : first.toNat = 0xf4 → second.toNat ≤ 0x8f) : follows first second = true := by
  simp only [follows, continued, Bool.true_and, beq_iff_eq, ← UInt8.toNat_inj]
  simp only [UInt8.reduceToNat]
  repeat' split
  all_goals simp [UInt8.le_iff_toNat_le]
  · exact overlong ‹_›
  · exact surrogate ‹_›
  · exact short ‹_›
  · exact last ‹_›

section
variable {v : Nat} (rest : Bytes)

theorem pieces_one (upto : v ≤ 0x7f) :
    pieces (UInt8.ofNat v :: rest) = some (Char.ofNat v) :: pieces rest := by
  have first := toNat_ofNat (n := v) (by omega)
  have width : width (UInt8.ofNat v) = some 1 := by
    rw [width_eq, first, if_pos (by omega)]
  rw [pieces, width, first]
  rfl

theorem pieces_two (past : 0x7f < v) (upto : v ≤ 0x7ff) :
    pieces (UInt8.ofNat (v / 64 % 32 + 192) :: UInt8.ofNat (v % 64 + 128) :: rest) =
      some (Char.ofNat v) :: pieces rest := by
  have first := toNat_ofNat (n := v / 64 % 32 + 192) (by omega)
  have width : width (UInt8.ofNat (v / 64 % 32 + 192)) = some 2 := by
    rw [width_eq, first, if_neg (by omega), if_pos (by omega)]
  have follow : follows (UInt8.ofNat (v / 64 % 32 + 192)) (UInt8.ofNat (v % 64 + 128)) = true := by
    apply follows_of_bounds (continues_ofNat v) <;> rw [first] <;> omega
  have value : (v / 64 % 32 + 192) % 32 * 64 + v % 64 = v := by omega
  rw [pieces, width]
  simp only [follow, ↓reduceIte, first, low_ofNat, value, beq_self_eq_true]

theorem pieces_three (past : 0x7ff < v) (upto : v ≤ 0xffff)
    (valid : v < 0xd800 ∨ 0xdfff < v) :
    pieces (UInt8.ofNat (v / 4096 % 16 + 224) :: UInt8.ofNat (v / 64 % 64 + 128) ::
      UInt8.ofNat (v % 64 + 128) :: rest) = some (Char.ofNat v) :: pieces rest := by
  have first := toNat_ofNat (n := v / 4096 % 16 + 224) (by omega)
  have second := toNat_ofNat (n := v / 64 % 64 + 128) (by omega)
  have width : width (UInt8.ofNat (v / 4096 % 16 + 224)) = some 3 := by
    rw [width_eq, first, if_neg (by omega), if_neg (by omega), if_pos (by omega)]
  -- Here the code points in the middle of the range are those that are no characters.
  have follow : follows (UInt8.ofNat (v / 4096 % 16 + 224))
      (UInt8.ofNat (v / 64 % 64 + 128)) = true := by
    apply follows_of_bounds (continues_ofNat _) <;> rw [first, second] <;> omega
  have value : ((v / 4096 % 16 + 224) % 16 * 64 + v / 64 % 64) * 64 + v % 64 = v := by omega
  rw [pieces, width]
  simp only [follow, ↓reduceIte, first, low_ofNat, continues_ofNat, value, Nat.reduceBEq,
    Bool.false_eq_true]

theorem pieces_four (past : 0xffff < v) (upto : v < 0x110000) :
    pieces (UInt8.ofNat (v / 262144 % 8 + 240) :: UInt8.ofNat (v / 4096 % 64 + 128) ::
      UInt8.ofNat (v / 64 % 64 + 128) :: UInt8.ofNat (v % 64 + 128) :: rest) =
      some (Char.ofNat v) :: pieces rest := by
  have first := toNat_ofNat (n := v / 262144 % 8 + 240) (by omega)
  have second := toNat_ofNat (n := v / 4096 % 64 + 128) (by omega)
  have width : width (UInt8.ofNat (v / 262144 % 8 + 240)) = some 4 := by
    rw [width_eq, first, if_neg (by omega), if_neg (by omega), if_neg (by omega),
      if_pos (by omega)]
  have follow : follows (UInt8.ofNat (v / 262144 % 8 + 240))
      (UInt8.ofNat (v / 4096 % 64 + 128)) = true := by
    apply follows_of_bounds (continues_ofNat _) <;> rw [first, second] <;> omega
  have value : (((v / 262144 % 8 + 240) % 8 * 64 + v / 4096 % 64) * 64 + v / 64 % 64) * 64 +
      v % 64 = v := by omega
  rw [pieces, width]
  simp only [follow, ↓reduceIte, first, low_ofNat, continues_ofNat, value, Nat.reduceBEq,
    Bool.false_eq_true]

end

theorem pieces_encodeChar (c : Char) (rest : Bytes) :
    pieces (String.utf8EncodeChar c ++ rest) = some c :: pieces rest := by
  have whole : Char.ofNat c.val.toNat = c := Char.ofNat_toNat c
  have valid : c.val.toNat < 0xd800 ∨ 0xdfff < c.val.toNat ∧ c.val.toNat < 0x110000 := c.valid
  suffices taken : pieces (String.utf8EncodeChar c ++ rest) =
      some (Char.ofNat c.val.toNat) :: pieces rest by
    rw [taken, whole]
  simp only [String.utf8EncodeChar]
  split
  case isTrue one => exact pieces_one rest one
  case isFalse =>
    split
    case isTrue two => exact pieces_two rest (by omega) two
    case isFalse =>
      split
      case isTrue three => exact pieces_three rest (by omega) three (by omega)
      case isFalse => exact pieces_four rest (by omega) (by omega)

theorem pieces_flatMap (cs : List Char) :
    pieces (cs.flatMap String.utf8EncodeChar) = cs.map some := by
  induction cs with
  | nil => rw [List.flatMap_nil, pieces, List.map_nil]
  | cons c rest ih => rw [List.flatMap_cons, pieces_encodeChar, ih, List.map_cons]

theorem decode?_encode (s : String) : decode? (encode s) = some s := by
  have all : ∀ cs : List Char, (cs.map some).mapM id = some cs := by
    intro cs
    induction cs with
    | nil => rfl
    | cons c rest ih => simp [ih]
  rw [decode?, encode, pieces_flatMap, all, Option.map_some, String.ofList_toList]

end TenantRelay.Text.Utf8
