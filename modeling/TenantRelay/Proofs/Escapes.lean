import TenantRelay.Proofs.Utf8Text
import TenantRelay.Url.Percent

/-!
What a part of an address stands for. Escaping changes nothing about it. It is the text itself
unless there is a percent sign with two digits behind it: such a part stands for less than its
own bytes, since whoever wrote it did not escape the percent sign.
-/

namespace TenantRelay.Url

open Text

def bytesOf (cs : List Char) : Bytes := cs.flatMap String.utf8EncodeChar

theorem bytesOf_cons (c : Char) (cs : List Char) :
    bytesOf (c :: cs) = String.utf8EncodeChar c ++ bytesOf cs := rfl

theorem length_char_pos (c : Char) : 0 < (String.utf8EncodeChar c).length := by
  rw [String.length_utf8EncodeChar]
  exact Char.utf8Size_pos c

/-- Two characters behind a percent sign that are no two digits. -/
def Apart (cs : List Char) : Prop :=
  ∀ high low rest, cs = high :: low :: rest → Hex.value high = none ∨ Hex.value low = none

def Unescaped (cs : List Char) : Prop := ∀ front rest, cs = front ++ '%' :: rest → Apart rest

theorem Unescaped.tail {c : Char} {cs : List Char} (unescaped : Unescaped (c :: cs)) :
    Unescaped cs := by
  rintro front rest rfl
  exact unescaped (c :: front) rest rfl

theorem unescaped_cons {c : Char} {cs : List Char} (own : c = '%' → Apart cs)
    (later : Unescaped cs) : Unescaped (c :: cs) := by
  intro front rest same
  cases front with
  | nil =>
      cases same
      exact own rfl
  | cons d front =>
      cases same
      exact later front rest rfl

/-! One step of reading. -/

theorem unescape_other {c : Char} (other : c ≠ '%') (rest : List Char) :
    unescape (c :: rest) = String.utf8EncodeChar c ++ unescape rest := by
  rw [unescape]
  intro high low rest' same
  exact absurd same other

theorem unescape_apart {rest : List Char} (apart : Apart rest) :
    unescape ('%' :: rest) = 0x25 :: unescape rest := by
  cases rest with
  | nil => rfl
  | cons high rest =>
      cases rest with
      | nil => rfl
      | cons low rest =>
          rcases apart high low rest rfl with none | none
          · rw [unescape, none]
          · cases first : Hex.value high <;> rw [unescape, first, none]

theorem unescape_pair {high low : Char} {h l : Nat} (first : Hex.value high = some h)
    (second : Hex.value low = some l) (rest : List Char) :
    unescape ('%' :: high :: low :: rest) = UInt8.ofNat (16 * h + l) :: unescape rest := by
  rw [unescape, first, second]

/-! Bytes that were escaped. -/

theorem value_digit : ∀ n < 16, Hex.value (Hex.digit n).toUpper = some n := by decide

theorem unescape_escapeByte (b : UInt8) (rest : List Char) :
    unescape (escapeByte b ++ rest) = b :: unescape rest := by
  have small : b.toNat < 256 := b.toNat_lt
  have first := value_digit (b.toNat / 16) (by omega)
  have second := value_digit (b.toNat % 16) (by omega)
  have whole : 16 * (b.toNat / 16) + b.toNat % 16 = b.toNat := by omega
  show unescape ('%' :: (Hex.digit (b.toNat / 16)).toUpper ::
    (Hex.digit (b.toNat % 16)).toUpper :: rest) = _
  rw [unescape_pair first second, whole, UInt8.ofNat_toNat]

theorem unescape_flatMap_escapeByte (bytes : Bytes) (rest : List Char) :
    unescape (bytes.flatMap escapeByte ++ rest) = bytes ++ unescape rest := by
  induction bytes with
  | nil => rfl
  | cons b bytes ih =>
      rw [List.flatMap_cons, List.append_assoc, unescape_escapeByte, ih, List.cons_append]

theorem escapeChar_cases (set : EscapeSet) (c : Char) :
    escapeChar set c = [c] ∨
      escapeChar set c = (String.utf8EncodeChar c).flatMap escapeByte ∧
        ∃ rest, escapeChar set c = '%' :: rest := by
  unfold escapeChar
  split
  case isTrue => exact Or.inl rfl
  case isFalse =>
    refine Or.inr ⟨rfl, ?_⟩
    have some := length_char_pos c
    cases bytes : String.utf8EncodeChar c with
    | nil => simp [bytes] at some
    | cons b rest => exact ⟨_, by rw [List.flatMap_cons]; rfl⟩

abbrev Kept (c : Char) : Prop := escapeChar pathEscapes c = [c]

theorem kept_percent : Kept '%' := by decide

theorem lt_of_digit {c : Char} {n : Nat} (digit : Hex.value c = some n) : c.toNat < 128 := by
  have below : ∀ {d : Char}, c ≤ d → d.toNat < 128 → c.toNat < 128 :=
    fun le small => Nat.lt_of_le_of_lt le small
  unfold Hex.value at digit
  split at digit
  case isTrue decimal => exact below decimal.2 (by decide)
  case isFalse =>
    split at digit
    case isTrue small => exact below small.2 (by decide)
    case isFalse =>
      split at digit
      case isTrue large => exact below large.2 (by decide)
      case isFalse => cases digit

theorem kept_of_digit {c : Char} {n : Nat} (digit : Hex.value c = some n) : Kept c := by
  have all : ∀ k < 128, (Hex.value (Char.ofNat k)).isSome = true → Kept (Char.ofNat k) := by
    decide +kernel
  have own : Char.ofNat c.toNat = c := Char.ofNat_toNat c
  have kept := all c.toNat (lt_of_digit digit)
  rw [own, digit] at kept
  exact kept rfl

theorem escape_cons (c : Char) (cs : List Char) :
    escape pathEscapes (c :: cs) = escapeChar pathEscapes c ++ escape pathEscapes cs := rfl

theorem unescape_escapeChar_other {c : Char} (other : c ≠ '%') (rest : List Char) :
    unescape (escapeChar pathEscapes c ++ rest) = String.utf8EncodeChar c ++ unescape rest := by
  rcases escapeChar_cases pathEscapes c with kept | ⟨bytes, _⟩
  · rw [kept]
    exact unescape_other other rest
  · rw [bytes, unescape_flatMap_escapeByte]

/-- What is apart stays so: where a character was escaped there is a percent sign now, which is
no digit. -/
theorem Apart.escape {cs : List Char} (apart : Apart cs) : Apart (escape pathEscapes cs) := by
  have percent : Hex.value '%' = none := by decide
  intro high low rest same
  cases cs with
  | nil => cases same
  | cons c cs =>
      rw [escape_cons] at same
      rcases escapeChar_cases pathEscapes c with kept | ⟨_, other, escaped⟩
      · rw [kept, List.singleton_append, List.cons.injEq] at same
        obtain ⟨rfl, same⟩ := same
        cases cs with
        | nil => cases same
        | cons d cs =>
            rw [escape_cons] at same
            rcases escapeChar_cases pathEscapes d with kept | ⟨_, other, escaped⟩
            · rw [kept, List.singleton_append, List.cons.injEq] at same
              obtain ⟨rfl, _⟩ := same
              exact apart c d cs rfl
            · rw [escaped, List.cons_append, List.cons.injEq] at same
              exact Or.inr (same.1 ▸ percent)
      · rw [escaped, List.cons_append, List.cons.injEq] at same
        exact Or.inl (same.1 ▸ percent)

theorem unescape_induction {motive : List Char → Prop} (nil : motive [])
    (other : ∀ c cs, c ≠ '%' → motive cs → motive (c :: cs))
    (apart : ∀ cs, Apart cs → motive cs → motive ('%' :: cs))
    (pair : ∀ high low cs h l, Hex.value high = some h → Hex.value low = some l → motive cs →
      motive ('%' :: high :: low :: cs)) (cs : List Char) : motive cs := by
  match cs with
  | [] => exact nil
  | c :: rest =>
      by_cases own : c = '%'
      · subst own
        match rest with
        | [] => exact apart [] nofun nil
        | [last] =>
            exact apart [last] nofun (unescape_induction nil other apart pair [last])
        | high :: low :: rest =>
            have short := fun none => apart (high :: low :: rest) none
              (unescape_induction nil other apart pair (high :: low :: rest))
            cases first : Hex.value high with
            | none =>
                apply short
                rintro _ _ _ ⟨⟩
                exact Or.inl first
            | some h =>
                cases second : Hex.value low with
                | none =>
                    apply short
                    rintro _ _ _ ⟨⟩
                    exact Or.inr second
                | some l =>
                    exact pair high low rest h l first second
                      (unescape_induction nil other apart pair rest)
      · exact other c rest own (unescape_induction nil other apart pair rest)
termination_by cs.length

/-- Escaping a part of a path does not change what it stands for. -/
theorem unescape_escape (cs : List Char) : unescape (escape pathEscapes cs) = unescape cs := by
  induction cs using unescape_induction with
  | nil => rfl
  | other c cs other ih =>
      rw [escape_cons, unescape_escapeChar_other other, unescape_other other, ih]
  | apart cs apart ih =>
      rw [escape_cons, kept_percent, List.singleton_append, unescape_apart apart.escape,
        unescape_apart apart, ih]
  | pair high low cs h l first second ih =>
      rw [escape_cons, escape_cons, escape_cons, kept_percent, kept_of_digit first,
        kept_of_digit second]
      simp only [List.singleton_append]
      rw [unescape_pair first second, unescape_pair first second, ih]

theorem unescape_cases (cs : List Char) :
    Unescaped cs ∧ unescape cs = bytesOf cs ∨
      ¬ Unescaped cs ∧ (unescape cs).length < (bytesOf cs).length := by
  induction cs using unescape_induction with
  | nil =>
      left
      exact ⟨fun front rest same => by simp at same, rfl⟩
  | other c cs other ih =>
      rw [unescape_other other, bytesOf_cons]
      rcases ih with ⟨unescaped, same⟩ | ⟨escaped, less⟩
      · left
        exact ⟨unescaped_cons (fun own => absurd own other) unescaped, by rw [same]⟩
      · right
        refine ⟨fun unescaped => escaped unescaped.tail, ?_⟩
        simp only [List.length_append]
        omega
  | apart cs apart ih =>
      rw [unescape_apart apart, bytesOf_cons]
      rcases ih with ⟨unescaped, same⟩ | ⟨escaped, less⟩
      · left
        exact ⟨unescaped_cons (fun _ => apart) unescaped, by rw [same]; rfl⟩
      · right
        refine ⟨fun unescaped => escaped unescaped.tail, ?_⟩
        simp only [List.length_append, List.length_cons]
        have percent := length_char_pos '%'
        omega
  | pair high low cs h l first second ih =>
      right
      constructor
      · intro unescaped
        rcases unescaped [] _ rfl high low cs rfl with none | none
        · rw [first] at none
          cases none
        · rw [second] at none
          cases none
      · rw [unescape_pair first second]
        simp only [bytesOf_cons, List.length_append, List.length_cons]
        have percent := length_char_pos '%'
        have before := length_char_pos high
        have after := length_char_pos low
        rcases ih with ⟨_, same⟩ | ⟨_, less⟩
        · rw [same]
          omega
        · omega

/-! Texts and what is left of them. -/

theorem length_bytesOf_le {l m : List Char} (sublist : l.Sublist m) :
    (bytesOf l).length ≤ (bytesOf m).length := by
  induction sublist with
  | slnil => exact Nat.le_refl _
  | cons c _ ih =>
      rw [bytesOf_cons, List.length_append]
      omega
  | cons_cons c _ ih =>
      rw [bytesOf_cons, bytesOf_cons, List.length_append, List.length_append]
      omega

theorem eq_of_length_bytesOf {l m : List Char} (sublist : l.Sublist m)
    (same : (bytesOf m).length ≤ (bytesOf l).length) : l = m := by
  induction sublist with
  | slnil => rfl
  | @cons l m c sublist ih =>
      have fewer := length_bytesOf_le sublist
      have some := length_char_pos c
      rw [bytesOf_cons, List.length_append] at same
      omega
  | cons_cons c _ ih =>
      rw [bytesOf_cons, bytesOf_cons, List.length_append, List.length_append] at same
      rw [ih (by omega)]

end TenantRelay.Url
