import TenantRelay.Proofs.Signing

/-!
Which texts pass for the signature of a body. Digits are read in either case and nothing else
is, so a text is accepted exactly if it spells the signature, but for white space around it and
the case of its letters. Every other text is of another length or misses a digit.
-/

namespace TenantRelay

namespace Text

/-- A text in small letters, of the first 128 characters. -/
def lowered (text : String) : String := text.map Char.toLower

theorem lowered_eq_iff {text written : String} :
    lowered text = written ↔ text.toList.map Char.toLower = written.toList := by
  rw [lowered, ← String.toList_inj, String.toList_map]

namespace Hex

variable {c : Char} {n : Nat} {cs : List Char} {bytes : Bytes}

theorem value_ascii : ∀ k < 128, ∀ n < 16,
    value (Char.ofNat k) = some n ↔ (Char.ofNat k).toLower = digit n := by
  decide +kernel

theorem ascii_digit : ∀ n < 16, (digit n).toNat < 128 := by decide

theorem bounds_of_value (read : value c = some n) : c.toNat < 128 ∧ n < 16 := by
  unfold value at read
  simp only [Char.le_def, UInt32.le_iff_toNat_le, Char.toNat_val] at read
  have nine : '9'.toNat = 57 := rfl
  have small : 'f'.toNat = 102 := rfl
  have capital : 'F'.toNat = 70 := rfl
  grind

theorem toLower_of_wide (wide : 128 ≤ c.toNat) : c.toLower = c := by
  unfold Char.toLower
  have last : 'Z'.val.toNat = 90 := rfl
  rw [dif_neg]
  rintro ⟨_, capital⟩
  have below := UInt32.le_iff_toNat_le.mp capital
  rw [last, Char.toNat_val] at below
  omega

theorem value_eq_some_iff : value c = some n ↔ n < 16 ∧ c.toLower = digit n := by
  by_cases wide : 128 ≤ c.toNat
  · -- Such a character is no digit, and stays what it is in small letters.
    rw [toLower_of_wide wide]
    constructor
    · intro read
      exact absurd (bounds_of_value read).1 (Nat.not_lt.mpr wide)
    · rintro ⟨small, rfl⟩
      exact absurd (ascii_digit n small) (Nat.not_lt.mpr wide)
  · have known := value_ascii c.toNat (Nat.lt_of_not_le wide)
    rw [Char.ofNat_toNat] at known
    constructor
    · intro read
      have small := (bounds_of_value read).2
      exact ⟨small, (known n small).mp read⟩
    · rintro ⟨small, spelt⟩
      exact (known n small).mpr spelt

theorem encodeByte_pair {high low : Nat} (h : high < 16) (l : low < 16) :
    encodeByte (UInt8.ofNat (16 * high + low)) = [digit high, digit low] := by
  have whole : (UInt8.ofNat (16 * high + low)).toNat = 16 * high + low :=
    UInt8.toNat_ofNat_of_lt' (by show 16 * high + low < 256; omega)
  have front : (16 * high + low) / 16 = high := by omega
  have back : (16 * high + low) % 16 = low := by omega
  rw [encodeByte, whole, front, back]

theorem decodeChars_eq_some_iff :
    decodeChars cs = some bytes ↔ cs.map Char.toLower = encodeChars bytes := by
  constructor
  · intro read
    induction cs using decodeChars.induct generalizing bytes with
    | case1 =>
        cases read
        rfl
    | case2 => cases read
    | case3 high low rest ih =>
        obtain ⟨h, highRead, read⟩ := Option.bind_eq_some_iff.mp read
        obtain ⟨l, lowRead, read⟩ := Option.bind_eq_some_iff.mp read
        obtain ⟨tail, tailRead, read⟩ := Option.bind_eq_some_iff.mp read
        obtain ⟨highSmall, highSpelt⟩ := value_eq_some_iff.mp highRead
        obtain ⟨lowSmall, lowSpelt⟩ := value_eq_some_iff.mp lowRead
        cases read
        have spelt : rest.map Char.toLower = encodeChars tail := ih tailRead
        rw [encodeChars, List.flatMap_cons, encodeByte_pair highSmall lowSmall, List.map_cons,
          List.map_cons, highSpelt, lowSpelt, spelt]
        rfl
  · intro spelt
    induction bytes generalizing cs with
    | nil =>
        rw [List.map_eq_nil_iff.mp spelt]
        rfl
    | cons b bytes ih =>
        have bound : b.toNat < 256 := b.toNat_lt
        obtain ⟨high, rest, rfl, highSpelt, spelt⟩ := List.map_eq_cons_iff.mp spelt
        obtain ⟨low, rest, rfl, lowSpelt, spelt⟩ := List.map_eq_cons_iff.mp spelt
        have highRead := value_eq_some_iff.mpr ⟨(by omega : b.toNat / 16 < 16), highSpelt⟩
        have lowRead := value_eq_some_iff.mpr ⟨(by omega : b.toNat % 16 < 16), lowSpelt⟩
        have whole : 16 * (b.toNat / 16) + b.toNat % 16 = b.toNat := Nat.div_add_mod _ _
        have tail : decodeChars rest = some bytes := ih spelt
        simp only [decodeChars, highRead, lowRead, tail, Option.bind_eq_bind, Option.bind_some,
          Option.pure_def, whole, UInt8.ofNat_toNat]

theorem length_encodeChars (bytes : Bytes) : (encodeChars bytes).length = 2 * bytes.length := by
  induction bytes with
  | nil => rfl
  | cons b rest ih =>
      rw [encodeChars, List.flatMap_cons, List.length_append, List.length_cons,
        show (encodeByte b).length = 2 from rfl]
      rw [encodeChars] at ih
      omega

def digits : List Char := "0123456789abcdef".toList

theorem digit_mem : ∀ n < 16, digit n ∈ digits := by decide

end Hex

end Text

namespace Signature

open Text

variable {body secret : Bytes} {signature : String}

/-- The ways for a text to fail to spell another one that is written in digits. -/
inductive Misspelt (written text : String) : Prop where
  | empty : text = "" → Misspelt written text
  | odd : text.length % 2 = 1 → Misspelt written text
  | foreign (c : Char) : c ∈ text.toList → c.toLower ∉ Hex.digits → Misspelt written text
  | shorter : text.length < written.length → Misspelt written text
  | longer : written.length < text.length → Misspelt written text
  | differing (place : Nat) (c d : Char) : text.toList[place]? = some c →
      written.toList[place]? = some d → c.toLower ≠ d → Misspelt written text

theorem length_sign (secret body : Bytes) : (sign secret body).length = 64 := by
  rw [sign, Hex.encode, String.length_ofList, Hex.length_encodeChars, Digest.length_keyed]

theorem sign_digits (secret body : Bytes) : ∀ c ∈ (sign secret body).toList, c ∈ Hex.digits := by
  intro c member
  rw [sign, Hex.encode, String.toList_ofList] at member
  obtain ⟨n, small, rfl⟩ := Hex.exists_of_mem member
  exact Hex.digit_mem n small

theorem verify_iff :
    verify body signature secret = true ↔ lowered (trim signature) = sign secret body := by
  rw [lowered_eq_iff, sign, Hex.encode, String.toList_ofList, ← Hex.decodeChars_eq_some_iff,
    verify, Hex.decode]
  cases decoded : Hex.decodeChars (trim signature).toList with
  | none => simp
  | some digest => simp

theorem misspelt_iff {text : String} :
    Misspelt (sign secret body) text ↔ lowered text ≠ sign secret body := by
  rw [Ne, lowered_eq_iff]
  have long := length_sign secret body
  constructor
  · intro misspelt spelt
    have same : text.length = 64 := by
      rw [← String.length_toList, ← List.length_map Char.toLower, spelt, String.length_toList, long]
    cases misspelt with
    | empty empty =>
        rw [empty] at same
        cases same
    | odd odd => omega
    | foreign c member foreign =>
        have lower : c.toLower ∈ (sign secret body).toList := spelt ▸ List.mem_map_of_mem member
        exact foreign (sign_digits secret body _ lower)
    | shorter short => omega
    | longer further => omega
    | differing place c d here there differs =>
        rw [← spelt, List.getElem?_map, here] at there
        exact differs (Option.some.inj there)
  · intro unspelt
    rcases Nat.lt_trichotomy text.length (sign secret body).length with short | same | further
    · exact .shorter short
    · -- Texts of one length differ at some place, and there both have a character.
      refine Classical.byContradiction fun unseen => unspelt (List.ext_getElem? fun place => ?_)
      have within : text.toList.length = (sign secret body).toList.length := by
        rw [String.length_toList, String.length_toList, same]
      rw [List.getElem?_map]
      cases here : text.toList[place]? with
      | none =>
          have outside := List.getElem?_eq_none_iff.mp here
          exact (List.getElem?_eq_none (within ▸ outside)).symm
      | some c =>
          have inside := (List.getElem?_eq_some_iff.mp here).1
          have there := List.getElem?_eq_getElem (within ▸ inside)
          rw [there, Option.map_some]
          refine congrArg some (Classical.byContradiction fun differs => unseen ?_)
          exact .differing place c _ here there differs
    · exact .longer further

/-- A text is accepted for a body and a secret exactly if, but for the white space around it and
the case of its letters, it is the signature. So what was signed is accepted, and what is misspelt
in any way is refused; and nothing else is. -/
theorem accepted_exactly :
    (∀ body signature secret, verify body signature secret = true ↔
      lowered (trim signature) = sign secret body) ∧
    (∀ body secret, verify body (sign secret body) secret = true) ∧
    ∀ body signature secret, verify body signature secret = false ↔
      Misspelt (sign secret body) (trim signature) := by
  refine ⟨fun _ _ _ => verify_iff, fun body secret => verify_sign secret body, ?_⟩
  intro body signature secret
  rw [misspelt_iff, ← Bool.not_eq_true, verify_iff]

end Signature
end TenantRelay
