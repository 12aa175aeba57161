import TenantRelay.Http.Exchange
import TenantRelay.Proofs.Utf8Text
import TenantRelay.Signature

/-!
What was signed with a secret is verified with the same secret: the text of a digest is
read back as the digest, no white space is taken off it, and it may stand in a header.
-/

namespace TenantRelay

namespace Text

theorem Hex.value_digit {n : Nat} (small : n < 16) : Hex.value (Hex.digit n) = some n := by
  have all : ∀ n ∈ List.range 16, Hex.value (Hex.digit n) = some n := by decide
  exact all n (List.mem_range.mpr small)

theorem Hex.isBlank_digit {n : Nat} (small : n < 16) : isBlank (Hex.digit n) = false := by
  have all : ∀ n ∈ List.range 16, isBlank (Hex.digit n) = false := by decide
  exact all n (List.mem_range.mpr small)

theorem Hex.decodeChars_encodeChars (bytes : Bytes) :
    Hex.decodeChars (Hex.encodeChars bytes) = some bytes := by
  induction bytes with
  | nil => rfl
  | cons b rest ih =>
      have bound : b.toNat < 256 := b.toNat_lt
      have high : Hex.value (Hex.digit (b.toNat / 16)) = some (b.toNat / 16) :=
        Hex.value_digit (by omega)
      have low : Hex.value (Hex.digit (b.toNat % 16)) = some (b.toNat % 16) :=
        Hex.value_digit (by omega)
      have whole : 16 * (b.toNat / 16) + b.toNat % 16 = b.toNat := Nat.div_add_mod _ _
      have tail : Hex.decodeChars (List.flatMap Hex.encodeByte rest) = some rest := ih
      simp only [Hex.encodeChars, List.flatMap_cons, Hex.encodeByte, List.cons_append,
        List.nil_append, Hex.decodeChars, high, low, tail, Option.bind_eq_bind, Option.bind_some,
        Option.pure_def, whole, UInt8.ofNat_toNat]

theorem Hex.exists_of_mem {bytes : Bytes} {c : Char} (member : c ∈ Hex.encodeChars bytes) :
    ∃ n < 16, c = Hex.digit n := by
  obtain ⟨b, _, digit⟩ := List.mem_flatMap.mp member
  have bound : b.toNat < 256 := b.toNat_lt
  rcases List.mem_cons.mp digit with rfl | second
  · exact ⟨b.toNat / 16, by omega, rfl⟩
  · exact ⟨b.toNat % 16, by omega, List.mem_singleton.mp second⟩

theorem Hex.isVisible_of_mem {n : Nat} {b : UInt8} (small : n < 16)
    (member : b ∈ String.utf8EncodeChar (Hex.digit n)) : Http.isVisible b = true := by
  have all : ∀ n ∈ List.range 16, ∀ b ∈ String.utf8EncodeChar (Hex.digit n),
      Http.isVisible b = true := by
    decide +kernel
  exact all n (List.mem_range.mpr small) b member

theorem trimChars_of_unblank {cs : List Char} (unblank : ∀ c ∈ cs, isBlank c = false) :
    trimChars cs = cs := by
  have stays : ∀ ds : List Char, (∀ c ∈ ds, isBlank c = false) → trimStartChars ds = ds := by
    intro ds plain
    cases ds with
    | nil => rfl
    | cons d rest => simp [trimStartChars, plain d List.mem_cons_self]
  unfold trimChars
  rw [stays cs unblank, stays cs.reverse fun c member => unblank c (List.mem_reverse.mp member)]
  exact List.reverse_reverse cs

theorem Hex.decode_trim_encode (bytes : Bytes) :
    Hex.decode (trim (Hex.encode bytes)) = some bytes := by
  simp only [Hex.decode, trim, Hex.encode, String.toList_ofList]
  have unblank : ∀ c ∈ Hex.encodeChars bytes, isBlank c = false := by
    intro c member
    obtain ⟨n, small, rfl⟩ := Hex.exists_of_mem member
    exact Hex.isBlank_digit small
  rw [trimChars_of_unblank unblank]
  exact Hex.decodeChars_encodeChars bytes

end Text

theorem Signature.verify_sign (secret body : Bytes) :
    Signature.verify body (Signature.sign secret body) secret = true := by
  simp only [verify, sign, Text.Hex.decode_trim_encode]
  exact beq_self_eq_true _

theorem Signature.exists_encode_sign (secret body : Bytes) :
    ∃ b rest, Text.Utf8.encode (Signature.sign secret body) = b :: rest := by
  have long := Digest.length_keyed secret body
  simp only [sign, Text.Hex.encode, Text.Utf8.encode, String.toList_ofList]
  cases digest : Digest.keyed secret body with
  | nil =>
      rw [digest] at long
      cases long
  | cons b rest =>
      cases bytes : String.utf8EncodeChar (Text.Hex.digit (b.toNat / 16)) with
      | nil => exact (String.utf8EncodeChar_ne_nil bytes).elim
      | cons first more => simp [Text.Hex.encodeChars, Text.Hex.encodeByte, bytes]

theorem Signature.headerText?_sign (secret body : Bytes) :
    Http.headerText? (Text.Utf8.encode (Signature.sign secret body)) =
      some (Signature.sign secret body) := by
  have visible : (Text.Utf8.encode (Signature.sign secret body)).all Http.isVisible = true := by
    apply List.all_eq_true.mpr
    intro b member
    obtain ⟨c, digit, byte⟩ := List.mem_flatMap.mp member
    rw [sign, Text.Hex.encode, String.toList_ofList] at digit
    obtain ⟨n, small, rfl⟩ := Text.Hex.exists_of_mem digit
    exact Text.Hex.isVisible_of_mem small byte
  rw [Http.headerText?, if_pos visible]
  exact Text.Utf8.decode?_encode _

end TenantRelay
