import TenantRelay.Proofs.JsonText

/-!
The two texts of a value that are printed, one without any space and one on many lines, and that
the value is read back from both.
-/

namespace TenantRelay.Json

open Document Text Reader

theorem encode_escape_append (s : String) (rest : Bytes) :
    Utf8.encode (escape s) ++ rest = 0x22 :: (quotedTail s ++ rest) := by
  rw [encode_escape]
  rfl

def tight : Spacing := ⟨fun _ => [], [], fun _ => nofun, nofun⟩

theorem blank_newline (level : Nat) : Blank (Utf8.encode (newline level)) := by
  intro b member
  have chars : (newline level).toList = '\n' :: List.replicate (2 * level) ' ' := by
    simp [newline]
  rw [Utf8.encode, chars] at member
  obtain ⟨c, own, member⟩ := List.mem_flatMap.mp member
  rcases List.mem_cons.mp own with rfl | inside
  · cases List.mem_singleton.mp member
    decide
  · cases List.eq_of_mem_replicate inside
    cases List.mem_singleton.mp member
    decide

def lines : Spacing where
  gap level := Utf8.encode (newline level)
  colon := [0x20]
  gap_blank := blank_newline
  colon_blank := by
    intro b member
    cases List.mem_singleton.mp member
    decide

-- A list goes on with a comma and then an item here, and is printed as an item and then a comma. So
-- the lemmas for lists and objects take the part before along.
mutual

theorem text_tight (level : Nat) (v : Json) (rest : Bytes) :
    tight.text level v rest = Utf8.encode v.compact ++ rest := by
  cases v with
  | null => rfl
  | bool b => rfl
  | num n => rfl
  | str s => rw [Spacing.text, compact, encode_escape_append]
  | arr items =>
      cases items with
      | nil => rfl
      | cons item others =>
          show 0x5b :: tight.text (level + 1) item (tight.listTail level others rest) = _
          rw [text_tight (level + 1) item, listTail_tight level item others, compact]
          simp only [encode_append, List.append_assoc]
          rfl
  | obj members =>
      cases members with
      | nil => rfl
      | cons member others =>
          obtain ⟨key, value⟩ := member
          show 0x7b :: 0x22 :: (quotedTail key ++ 0x3a ::
            tight.text (level + 1) value (tight.objectTail level others rest)) = _
          rw [text_tight (level + 1) value, objectTail_tight level key value others, compact]
          simp only [encode_append, List.append_assoc]
          rfl

theorem listTail_tight (level : Nat) (item : Json) (others : List Json) (rest : Bytes) :
    Utf8.encode item.compact ++ tight.listTail level others rest =
      Utf8.encode (compactItems (item :: others)) ++ 0x5d :: rest := by
  cases others with
  | nil => rfl
  | cons next others =>
      show Utf8.encode item.compact ++ 0x2c ::
        tight.text (level + 1) next (tight.listTail level others rest) = _
      rw [text_tight (level + 1) next, listTail_tight level next others]
      simp only [compactItems, encode_append, List.append_assoc]
      rfl

theorem objectTail_tight (level : Nat) (key : String) (value : Json)
    (others : List (String × Json)) (rest : Bytes) :
    0x22 :: (quotedTail key ++ 0x3a ::
        (Utf8.encode value.compact ++ tight.objectTail level others rest)) =
      Utf8.encode (compactMembers ((key, value) :: others)) ++ 0x7d :: rest := by
  cases others with
  | nil =>
      simp only [compactMembers, encode_append, encode_escape_append, List.cons_append,
        List.append_assoc]
      rfl
  | cons next others =>
      obtain ⟨other, third⟩ := next
      show 0x22 :: (quotedTail key ++ 0x3a :: (Utf8.encode value.compact ++ 0x2c :: 0x22 ::
        (quotedTail other ++ 0x3a ::
          tight.text (level + 1) third (tight.objectTail level others rest)))) = _
      rw [text_tight (level + 1) third, objectTail_tight level other third others]
      simp only [compactMembers, encode_append, encode_escape_append, List.cons_append,
        List.append_assoc]
      rfl

end

mutual

theorem text_lines (level : Nat) (v : Json) (rest : Bytes) :
    lines.text level v rest = Utf8.encode (prettyAt level v) ++ rest := by
  cases v with
  | null => rfl
  | bool b => cases b <;> rfl
  | num n => rfl
  | str s => rw [Spacing.text, prettyAt, encode_escape_append]
  | arr items =>
      cases items with
      | nil => rw [Spacing.text, prettyAt]; rfl
      | cons item others =>
          rw [Spacing.text, text_lines (level + 1) item, listTail_lines level others]
          simp only [prettyAt, encode_append, List.append_assoc]
          rfl
  | obj members =>
      cases members with
      | nil => rw [Spacing.text, prettyAt]; rfl
      | cons member others =>
          obtain ⟨key, value⟩ := member
          rw [Spacing.text, text_lines (level + 1) value, objectTail_lines level others]
          simp only [prettyAt, encode_append, encode_escape_append, List.cons_append,
            List.append_assoc]
          rfl

theorem listTail_lines (level : Nat) (others : List Json) (rest : Bytes) :
    lines.listTail level others rest =
      Utf8.encode (prettyItems (level + 1) others ++ newline level) ++ 0x5d :: rest := by
  cases others with
  | nil => rfl
  | cons next others =>
      rw [Spacing.listTail, text_lines (level + 1) next, listTail_lines level others]
      simp only [prettyItems, encode_append, List.append_assoc]
      rfl

theorem objectTail_lines (level : Nat) (others : List (String × Json)) (rest : Bytes) :
    lines.objectTail level others rest =
      Utf8.encode (prettyMembers (level + 1) others ++ newline level) ++ 0x7d :: rest := by
  cases others with
  | nil => rfl
  | cons next others =>
      obtain ⟨key, value⟩ := next
      rw [Spacing.objectTail, text_lines (level + 1) value, objectTail_lines level others]
      simp only [prettyMembers, encode_append, encode_escape_append, List.cons_append,
        List.append_assoc]
      rfl

end

/-- A text is read as the tree of the value it was written for. -/
theorem readTree_written {v : Json} (readsBack : ∀ n ∈ numbers v, n.ReadsBack) :
    readTree (Utf8.encode v.compact) = (Tree.ofJson v, false) := by
  have read := readTree_text tight readsBack
  rw [text_tight, List.append_nil] at read
  exact read

theorem readTree_pretty {v : Json} (readsBack : ∀ n ∈ numbers v, n.ReadsBack) :
    readTree (Utf8.encode v.pretty) = (Tree.ofJson v, false) := by
  have read := readTree_text lines readsBack
  rw [text_lines, List.append_nil] at read
  exact read

end TenantRelay.Json
