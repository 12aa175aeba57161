import TenantRelay.Masking

/-!
What is masked does not occur any more. The marker that takes its place begins and ends with a
star, so a secret without a star could come up again only in the text between two markers, where
it was looked for, or within a marker.
-/

namespace TenantRelay.Masking

variable {secret : List Char}

theorem infix_of_append_cons {α : Type} {part before after : List α} {mid : α} (lacks : mid ∉ part)
    (within : part <:+: before ++ mid :: after) : part <:+: before ∨ part <:+: after := by
  obtain ⟨front, back, whole⟩ := within
  rcases List.append_eq_append_iff.mp whole with ⟨rest, left, _⟩ | ⟨rest, reaches, right⟩
  · exact .inl ⟨front, rest, left.symm⟩
  · cases rest with
    | nil =>
        rw [List.append_nil] at reaches
        exact .inl ⟨front, [], by rw [List.append_nil, reaches]⟩
    | cons _ rest =>
        cases right
        rcases List.append_eq_append_iff.mp reaches with ⟨lead, _, own⟩ | ⟨lead, _, own⟩
        · rw [own] at lacks
          simp at lacks
        · cases lead with
          | nil =>
              rw [List.nil_append] at own
              rw [← own] at lacks
              simp at lacks
          | cons _ lead =>
              cases own
              exact .inr ⟨lead, back, rfl⟩

theorem dropFront?_eq_some {pattern text rest : List Char} :
    dropFront? pattern text = some rest ↔ text = pattern ++ rest := by
  induction pattern generalizing text with
  | nil => simp [dropFront?]
  | cons c pattern ih =>
      cases text with
      | nil => simp [dropFront?]
      | cons d text =>
          by_cases same : c = d
          · simp [dropFront?, same, ih]
          · simp [dropFront?, same, Ne.symm same]

/-- A secret that can be told apart from the marker. -/
structure Plain (secret : List Char) : Prop where
  full : secret ≠ []
  starless : '*' ∉ secret
  foreign : ¬ secret <:+: redacted.toList

theorem Plain.infix_around (plain : Plain secret) {before after : List Char}
    (within : secret <:+: before ++ (redacted.toList ++ after)) :
    secret <:+: before ∨ secret <:+: after := by
  have framed : ∃ inner, redacted.toList = '*' :: inner ++ ['*'] :=
    ⟨"*** REDACTED **".toList, by decide⟩
  obtain ⟨inner, framed⟩ := framed
  rw [framed, List.append_assoc, List.cons_append, List.singleton_append] at within
  rcases infix_of_append_cons plain.starless within with left | right
  · exact .inl left
  · rcases infix_of_append_cons plain.starless right with mid | right
    · refine absurd (mid.trans ?_) plain.foreign
      rw [framed]
      exact ⟨['*'], ['*'], rfl⟩
    · exact .inr right

section
variable {c d : Char} {pattern marker text rest : List Char}

theorem replace_of_found (found : dropFront? (c :: pattern) (d :: text) = some rest) :
    replace c pattern marker (d :: text) = marker ++ replace c pattern marker rest := by
  rw [replace]
  split
  case h_1 other own =>
    cases found.symm.trans own
    rfl
  case h_2 own => cases found.symm.trans own

theorem replace_of_none (none : dropFront? (c :: pattern) (d :: text) = none) :
    replace c pattern marker (d :: text) = d :: replace c pattern marker text := by
  rw [replace]
  split
  case h_1 own => cases none.symm.trans own
  case h_2 => rfl

end

/-- Masking one secret does not bring another about. Along the way, what stands before the rest
of the text is what was kept since the last marker. -/
theorem Plain.not_infix_replace_of_not_infix (plain : Plain secret) (c : Char)
    (pattern text : List Char) : ∀ before, ¬ secret <:+: before ++ text →
      ¬ secret <:+: before ++ replace c pattern redacted.toList text := by
  induction text using replace.induct c pattern with
  | case1 =>
      intro before clear
      rwa [replace]
  | case2 d text rest found ih =>
      intro before clear within
      rw [replace_of_found found] at within
      rcases plain.infix_around within with left | right
      · exact clear (left.trans (List.prefix_append before _).isInfix)
      · refine ih [] (fun own => clear (own.trans ?_)) right
        rw [dropFront?_eq_some.mp found, ← List.append_assoc]
        exact (List.suffix_append _ rest).isInfix
  | case3 d text none ih =>
      intro before clear
      have next := ih (before ++ [d])
      rw [List.append_assoc, List.append_assoc] at next
      rw [replace_of_none none]
      exact next clear

def Unbegun (secret before text : List Char) : Prop :=
  ∀ front back, before = front ++ back → back ≠ [] → ¬ secret <+: back ++ text

theorem Unbegun.not_infix {before text : List Char} (unbegun : Unbegun secret before text)
    (full : secret ≠ []) : ¬ secret <:+: before := by
  rintro ⟨front, back, whole⟩
  have nonempty : secret ++ back ≠ [] := fun empty => full (List.append_eq_nil_iff.mp empty).1
  refine unbegun front (secret ++ back) ?_ nonempty ?_
  · rw [← whole, List.append_assoc]
  · rw [List.append_assoc]
    exact List.prefix_append secret _

theorem Unbegun.snoc {before text : List Char} {d : Char}
    (unbegun : Unbegun secret before (d :: text)) (absent : ¬ secret <+: d :: text) :
    Unbegun secret (before ++ [d]) text := by
  intro front back whole nonempty begins
  rcases List.eq_nil_or_concat back with empty | ⟨init, last, rfl⟩
  · exact nonempty empty
  · rw [List.concat_eq_append] at whole begins
    rw [← List.append_assoc] at whole
    obtain ⟨own, ends⟩ := List.append_inj' whole rfl
    cases ends
    rw [List.append_assoc, List.singleton_append] at begins
    cases init with
    | nil => exact absent begins
    | cons e init => exact unbegun front (e :: init) own (List.cons_ne_nil e init) begins

/-- What is masked does not occur any more. -/
theorem Plain.not_infix_replace {c : Char} {pattern : List Char} (plain : Plain (c :: pattern))
    (text : List Char) : ∀ before, Unbegun (c :: pattern) before text →
      ¬ c :: pattern <:+: before ++ replace c pattern redacted.toList text := by
  induction text using replace.induct c pattern with
  | case1 =>
      intro before unbegun
      rw [replace, List.append_nil]
      exact unbegun.not_infix plain.full
  | case2 d text rest found ih =>
      intro before unbegun within
      rw [replace_of_found found] at within
      rcases plain.infix_around within with left | right
      · exact unbegun.not_infix plain.full left
      · refine ih [] ?_ right
        intro front back whole nonempty
        exact absurd (List.append_eq_nil_iff.mp whole.symm).2 nonempty
  | case3 d text none ih =>
      intro before unbegun
      have absent : ¬ c :: pattern <+: d :: text := by
        rintro ⟨rest, whole⟩
        rw [dropFront?_eq_some.mpr whole.symm] at none
        cases none
      have next := ih (before ++ [d]) (unbegun.snoc absent)
      rw [List.append_assoc] at next
      rw [replace_of_none none]
      exact next

/-! The same of texts. -/

def Occurs (secret text : String) : Prop := secret.toList <:+: text.toList

variable {secret other text : String}

theorem toList_maskOne : (maskOne text secret).toList = maskChars text.toList secret.toList :=
  String.toList_ofList

theorem not_occurs_maskOne_of_not_occurs (plain : Plain secret.toList)
    (clear : ¬ Occurs secret text) : ¬ Occurs secret (maskOne text other) := by
  unfold Occurs
  rw [toList_maskOne]
  cases other.toList with
  | nil => exact clear
  | cons c pattern => exact plain.not_infix_replace_of_not_infix c pattern text.toList [] clear

theorem not_occurs_maskOne (plain : Plain secret.toList) :
    ¬ Occurs secret (maskOne text secret) := by
  unfold Occurs
  rw [toList_maskOne]
  cases chars : secret.toList with
  | nil => exact absurd chars plain.full
  | cons c pattern =>
      refine (chars ▸ plain).not_infix_replace text.toList [] ?_
      intro front back whole nonempty
      exact absurd (List.append_eq_nil_iff.mp whole.symm).2 nonempty

theorem not_occurs_mask_of_not_occurs (plain : Plain secret.toList) (others : List String)
    (clear : ¬ Occurs secret text) : ¬ Occurs secret (mask others text) := by
  induction others generalizing text with
  | nil => exact clear
  | cons other rest ih => exact ih (not_occurs_maskOne_of_not_occurs plain clear)

/-- Whatever else is masked, no secret that can be told apart from the marker is left. -/
theorem not_occurs_mask {secrets : List String} (plain : Plain secret.toList)
    (member : secret ∈ secrets) : ¬ Occurs secret (mask secrets text) := by
  induction secrets generalizing text with
  | nil => cases member
  | cons first rest ih =>
      rcases List.mem_cons.mp member with rfl | later
      · exact not_occurs_mask_of_not_occurs plain rest (not_occurs_maskOne plain)
      · exact ih later

end TenantRelay.Masking
