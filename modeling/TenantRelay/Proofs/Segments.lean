import TenantRelay.Url.Address

/-!
Parts of an address: what is cut off at a mark, the segments of a path, and where a path leads if
they are followed one by one.
-/

namespace TenantRelay.Url

/-! Cutting at a mark. -/

section
variable {isMark : Char → Bool} {c : Char} {cs : List Char}

theorem cut_cons_mark (mark : isMark c = true) : cut isMark (c :: cs) = ([], some cs) := by
  simp [cut, mark]

theorem cut_cons_other (other : isMark c = false) :
    cut isMark (c :: cs) = (c :: (cut isMark cs).1, (cut isMark cs).2) := by
  unfold cut
  rw [List.dropWhile_cons_of_pos (by simp [other]), List.takeWhile_cons_of_pos (by simp [other])]
  cases cs.dropWhile (!isMark ·) <;> rfl

theorem cut_append {front : List Char} (unmarked : ∀ c ∈ front, isMark c = false)
    (rest : List Char) :
    cut isMark (front ++ rest) = (front ++ (cut isMark rest).1, (cut isMark rest).2) := by
  induction front with
  | nil => rfl
  | cons c front ih =>
      obtain ⟨own, others⟩ := List.forall_mem_cons.mp unmarked
      rw [List.cons_append, cut_cons_other own, ih others]
      rfl

theorem cut_of_unmarked (unmarked : ∀ c ∈ cs, isMark c = false) : cut isMark cs = (cs, none) := by
  have whole := cut_append unmarked []
  rw [List.append_nil] at whole
  rw [whole]
  simp [cut]

theorem unmarked_of_cut (none : (cut isMark cs).2 = none) : ∀ c ∈ cs, isMark c = false := by
  induction cs with
  | nil => nofun
  | cons c cs ih =>
      cases mark : isMark c with
      | true =>
          rw [cut_cons_mark mark] at none
          cases none
      | false =>
          rw [cut_cons_other mark] at none
          exact List.forall_mem_cons.mpr ⟨mark, ih none⟩

theorem eq_of_cut {front rest : List Char} (found : cut isMark cs = (front, some rest)) :
    ∃ mark, isMark mark = true ∧ cs = front ++ mark :: rest ∧ ∀ c ∈ front, isMark c = false := by
  induction cs generalizing front with
  | nil => cases found
  | cons c cs ih =>
      cases mark : isMark c with
      | true =>
          rw [cut_cons_mark mark] at found
          cases found
          exact ⟨c, mark, rfl, nofun⟩
      | false =>
          rw [cut_cons_other mark] at found
          obtain ⟨same, later⟩ := Prod.mk.inj found
          obtain ⟨d, own, whole, unmarked⟩ := ih (Prod.ext rfl later)
          refine ⟨d, own, ?_, ?_⟩
          · rw [← same]
            exact congrArg (c :: ·) whole
          · rw [← same]
            exact List.forall_mem_cons.mpr ⟨mark, unmarked⟩

end

/-! Splitting into segments. -/

section
variable {separator : Char → Bool}

theorem splitAt_ne_nil (cs : List Char) : splitAt separator cs ≠ [] := by
  cases cs with
  | nil => simp [splitAt]
  | cons c cs =>
      rw [splitAt]
      split
      · simp
      · split <;> simp

theorem splitAt_append {c : Char} (mark : separator c = true) (front rest : List Char) :
    splitAt separator (front ++ c :: rest) = splitAt separator front ++ splitAt separator rest := by
  induction front with
  | nil => simp [splitAt, mark]
  | cons d front ih =>
      rw [List.cons_append, splitAt, splitAt, ih]
      split
      · rfl
      · cases pieces : splitAt separator front with
        | nil => exact absurd pieces (splitAt_ne_nil front)
        | cons first others => rfl

theorem splitAt_of_whole {cs : List Char} (whole : ∀ c ∈ cs, separator c = false) :
    splitAt separator cs = [cs] := by
  induction cs with
  | nil => rfl
  | cons c cs ih =>
      obtain ⟨own, others⟩ := List.forall_mem_cons.mp whole
      simp [splitAt, own, ih others]

theorem splitAt_pieces (cs : List Char) : ∀ piece ∈ splitAt separator cs,
    piece.Sublist cs ∧ ∀ c ∈ piece, separator c = false := by
  induction cs with
  | nil =>
      intro piece member
      cases List.mem_singleton.mp member
      exact ⟨.slnil, nofun⟩
  | cons c cs ih =>
      cases mark : separator c with
      | true =>
          simp only [splitAt, mark, ↓reduceIte]
          intro piece member
          rcases List.mem_cons.mp member with rfl | later
          · exact ⟨List.nil_sublist _, nofun⟩
          · exact ⟨(ih piece later).1.cons c, (ih piece later).2⟩
      | false =>
          simp only [splitAt, mark, Bool.false_eq_true, ↓reduceIte]
          cases pieces : splitAt separator cs with
          | nil => exact absurd pieces (splitAt_ne_nil cs)
          | cons first others =>
              rw [pieces] at ih
              intro piece member
              rcases List.mem_cons.mp member with rfl | later
              · obtain ⟨part, whole⟩ := ih first (List.mem_cons_self ..)
                exact ⟨part.cons_cons c, List.forall_mem_cons.mpr ⟨mark, whole⟩⟩
              · obtain ⟨part, whole⟩ := ih piece (List.mem_cons_of_mem _ later)
                exact ⟨part.cons c, whole⟩

end

/-! Following segments. -/

/-- Where one segment leads, if it is not the last one. -/
def climb (sofar : List (List Char)) (segment : List Char) : List (List Char) :=
  if isDoubleDot segment then sofar.dropLast
  else if isDot segment then sofar
  else sofar ++ [escape pathEscapes segment]

def openEnd (segment : List Char) : List (List Char) :=
  if isDoubleDot segment || isDot segment then [[]] else []

theorem walk_single (sofar : List (List Char)) (segment : List Char) :
    walk sofar [segment] = climb sofar segment ++ openEnd segment := by
  simp only [walk, climb, openEnd, List.isEmpty_nil, ↓reduceIte]
  cases isDoubleDot segment <;> cases isDot segment <;> simp

theorem walk_append {rest : List (List Char)} (more : rest ≠ [])
    (front sofar : List (List Char)) :
    walk sofar (front ++ rest) = walk (front.foldl climb sofar) rest := by
  induction front generalizing sofar with
  | nil => rfl
  | cons segment front ih =>
      have later : (front ++ rest).isEmpty = false := by simp [more]
      rw [List.foldl_cons, ← ih, List.cons_append, walk]
      simp only [later, Bool.false_eq_true, ↓reduceIte, List.append_nil, climb]
      split
      · rfl
      · split <;> rfl

theorem splitAt_replicate (k : Nat) :
    splitAt (isSlash true) (List.replicate k '/') = List.replicate (k + 1) [] := by
  induction k with
  | zero => rfl
  | succ k ih =>
      rw [List.replicate_succ, splitAt, ih]
      rfl

theorem walk_replicate (above : List (List Char)) (k : Nat) :
    walk above (List.replicate k []) = above ++ List.replicate k [] := by
  induction k generalizing above with
  | zero => simp [walk]
  | succ k ih =>
      have plain : isDoubleDot [] = false ∧ isDot [] = false := by decide
      rw [List.replicate_succ, walk]
      simp only [plain, Bool.false_eq_true, ↓reduceIte]
      rw [ih, List.append_assoc]
      rfl

theorem openEnd_eq (segment : List Char) : ∃ j, openEnd segment = List.replicate j [] := by
  unfold openEnd
  split
  case isTrue => exact ⟨1, rfl⟩
  case isFalse => exact ⟨0, rfl⟩

theorem walk_pieces {pieces : List (List Char)} (some : pieces ≠ [])
    (sofar : List (List Char)) :
    walk sofar pieces = pieces.foldl climb sofar ++ openEnd (pieces.getLast some) := by
  have parts := List.dropLast_concat_getLast some
  generalize pieces.getLast some = last at parts ⊢
  generalize pieces.dropLast = front at parts
  subst parts
  rw [walk_append (by simp), walk_single, List.foldl_append]
  rfl

theorem walk_ends {sofar pieces before : List (List Char)} {last : List Char} (some : pieces ≠ [])
    (path : walk sofar pieces = before ++ [last]) :
    last = [] ∨ ∃ piece ∈ pieces, last = escape pathEscapes piece := by
  have parts := List.dropLast_concat_getLast some
  generalize pieces.getLast some = piece at parts
  generalize pieces.dropLast = front at parts
  subst parts
  rw [walk_append (by simp)] at path
  unfold walk at path
  simp only [List.isEmpty_nil, ↓reduceIte, walk] at path
  have ends : ∀ {front : List (List Char)} {other}, front ++ [other] = before ++ [last] →
      last = other := fun same => (List.singleton_inj.mp (List.append_inj' same rfl).2).symm
  split at path
  case isTrue => exact Or.inl (ends path)
  case isFalse =>
    split at path
    case isTrue => exact Or.inl (ends path)
    case isFalse => exact Or.inr ⟨piece, by simp, ends path⟩

/-! Parts that are read as they are. -/

/-- A text that is one segment of a path: nothing in it ends it, and it leads nowhere else. -/
structure Part (segment : List Char) : Prop where
  whole : ∀ c ∈ segment, isSlash true c = false
  unmarked : ∀ c ∈ segment, (c == '#') = false ∧ (c == '?') = false
  named : isDoubleDot segment = false ∧ isDot segment = false

theorem Part.climb {segment : List Char} (part : Part segment) (above : List (List Char)) :
    climb above segment = above ++ [escape pathEscapes segment] := by
  unfold Url.climb
  rw [part.named.1, part.named.2]
  rfl

theorem Part.openEnd {segment : List Char} (part : Part segment) : openEnd segment = [] := by
  unfold Url.openEnd
  rw [part.named.1, part.named.2]
  rfl

end TenantRelay.Url
