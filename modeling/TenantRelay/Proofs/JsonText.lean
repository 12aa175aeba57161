import TenantRelay.Proofs.JsonNumbers

/-!
A value is read back from its text, whatever space is between the parts of the text and whatever
comes after it, if its numbers are. A step of reading takes one unit of fuel, and every value has
room for its steps in its own text.
-/

namespace TenantRelay.Json

open Document Text Reader

mutual

/-- The numbers that stand somewhere in a value. -/
def numbers : Json → List Number
  | null => []
  | bool _ => []
  | num n => [n]
  | str _ => []
  | arr items => itemNumbers items
  | obj members => memberNumbers members

def itemNumbers : List Json → List Number
  | [] => []
  | item :: rest => numbers item ++ itemNumbers rest

def memberNumbers : List (String × Json) → List Number
  | [] => []
  | (_, value) :: rest => numbers value ++ memberNumbers rest

end

/-! Bytes of a text. -/

theorem encode_append (s t : String) : Utf8.encode (s ++ t) = Utf8.encode s ++ Utf8.encode t := by
  rw [Utf8.encode, Utf8.encode, Utf8.encode, String.toList_append, List.flatMap_append]

def quotedTail (s : String) : Bytes := bytesOf (s.toList.flatMap escapeChar) ++ [0x22]

def Blank (bytes : Bytes) : Prop := ∀ b ∈ bytes, isSpace b = true

/-- What space is left in a text: in front of whatever stands that many levels down, and after
a colon. -/
structure Spacing where
  gap : Nat → Bytes
  colon : Bytes
  gap_blank : ∀ level, Blank (gap level)
  colon_blank : Blank colon

namespace Spacing

mutual

def text (space : Spacing) (level : Nat) : Json → Bytes → Bytes
  | null, rest => Utf8.encode null.compact ++ rest
  | bool b, rest => Utf8.encode (bool b).compact ++ rest
  | num n, rest => Utf8.encode n.text ++ rest
  | str s, rest => 0x22 :: (quotedTail s ++ rest)
  | arr [], rest => 0x5b :: 0x5d :: rest
  | arr (item :: others), rest =>
    0x5b :: (space.gap (level + 1) ++
      text space (level + 1) item (listTail space level others rest))
  | obj [], rest => 0x7b :: 0x7d :: rest
  | obj ((key, value) :: others), rest =>
    0x7b :: (space.gap (level + 1) ++ 0x22 :: (quotedTail key ++ 0x3a :: (space.colon ++
      text space (level + 1) value (objectTail space level others rest))))

def listTail (space : Spacing) (level : Nat) : List Json → Bytes → Bytes
  | [], rest => space.gap level ++ 0x5d :: rest
  | item :: others, rest =>
    0x2c :: (space.gap (level + 1) ++
      text space (level + 1) item (listTail space level others rest))

def objectTail (space : Spacing) (level : Nat) : List (String × Json) → Bytes → Bytes
  | [], rest => space.gap level ++ 0x7d :: rest
  | (key, value) :: others, rest =>
    0x2c :: (space.gap (level + 1) ++ 0x22 :: (quotedTail key ++ 0x3a :: (space.colon ++
      text space (level + 1) value (objectTail space level others rest))))

end

variable (space : Spacing)

mutual

theorem length_text (level : Nat) (v : Json) (rest : Bytes) :
    rest.length ≤ (space.text level v rest).length := by
  cases v with
  | null => simp [text]
  | bool b => simp [text]
  | num n => simp [text]
  | str s => simp [text]; omega
  | arr items =>
      cases items with
      | nil => simp [text]; omega
      | cons item others =>
          have own := length_text (level + 1) item (listTail space level others rest)
          have later := length_listTail level others rest
          simp only [text, List.length_cons, List.length_append]
          omega
  | obj members =>
      cases members with
      | nil => simp [text]; omega
      | cons member others =>
          obtain ⟨key, value⟩ := member
          have own := length_text (level + 1) value (objectTail space level others rest)
          have later := length_objectTail level others rest
          simp only [text, List.length_cons, List.length_append]
          omega

theorem length_listTail (level : Nat) (items : List Json) (rest : Bytes) :
    rest.length ≤ (space.listTail level items rest).length := by
  cases items with
  | nil => simp [listTail]; omega
  | cons item others =>
      have own := length_text (level + 1) item (listTail space level others rest)
      have later := length_listTail level others rest
      simp only [listTail, List.length_cons, List.length_append]
      omega

theorem length_objectTail (level : Nat) (members : List (String × Json)) (rest : Bytes) :
    rest.length ≤ (space.objectTail level members rest).length := by
  cases members with
  | nil => simp [objectTail]; omega
  | cons member others =>
      obtain ⟨key, value⟩ := member
      have own := length_text (level + 1) value (objectTail space level others rest)
      have later := length_objectTail level others rest
      simp only [objectTail, List.length_cons, List.length_append]
      omega

end

end Spacing

/-! What a text starts with, and what it goes on with. -/

theorem isSpace_iff {b : UInt8} :
    isSpace b = true ↔ b = 0x20 ∨ b = 0x0a ∨ b = 0x0d ∨ b = 0x09 := by
  simp [isSpace, or_assoc]

theorem ends_cons {b : UInt8}
    (mark : isDigit b = false ∧ (b == 0x2e) = false ∧ isExponentMark b = false) (rest : Bytes) :
    Ends (b :: rest) := by
  intro _ _ front
  cases front
  exact mark

theorem ends_blank {gap rest : Bytes} (blank : Blank gap) (ends : Ends rest) :
    Ends (gap ++ rest) := by
  cases gap with
  | nil => exact ends
  | cons b gap =>
      have space : isSpace b = true := blank b List.mem_cons_self
      apply ends_cons
      rcases isSpace_iff.mp space with rfl | rfl | rfl | rfl <;> decide

theorem ends_listTail (space : Spacing) (level : Nat) (items : List Json) (rest : Bytes) :
    Ends (space.listTail level items rest) := by
  cases items with
  | nil => exact ends_blank (space.gap_blank level) (ends_cons (by decide) rest)
  | cons item others => exact ends_cons (by decide) _

theorem ends_objectTail (space : Spacing) (level : Nat) (members : List (String × Json))
    (rest : Bytes) : Ends (space.objectTail level members rest) := by
  cases members with
  | nil => exact ends_blank (space.gap_blank level) (ends_cons (by decide) rest)
  | cons member others => exact ends_cons (by decide) _

structure Opens (b : UInt8) : Prop where
  space : isSpace b = false
  listEnd : (b == 0x5d) = false
  comma : (b == 0x2c) = false

theorem beq_of_digit {b c : UInt8} (digit : isDigit b = true)
    (outside : c.toNat < 0x30 ∨ 0x39 < c.toNat) : (b == c) = false := by
  simp only [isDigit, Bool.and_eq_true, decide_eq_true_eq, UInt8.le_iff_toNat_le] at digit
  have low : 0x30 ≤ b.toNat := digit.1
  have high : b.toNat ≤ 0x39 := digit.2
  rw [beq_eq_false_iff_ne, Ne, ← UInt8.toNat_inj]
  omega

theorem opens_of_digit {b : UInt8} (digit : isDigit b = true) : Opens b where
  space := by simp [isSpace, beq_of_digit digit]
  listEnd := beq_of_digit digit (by decide)
  comma := beq_of_digit digit (by decide)

theorem opens_text (space : Spacing) (level : Nat) (v : Json) (rest : Bytes)
    (readsBack : ∀ n ∈ numbers v, n.ReadsBack) :
    ∃ b bytes, space.text level v rest = b :: bytes ∧ Opens b := by
  cases v with
  | null => exact ⟨_, _, rfl, ⟨by decide, by decide, by decide⟩⟩
  | bool value => cases value <;> exact ⟨_, _, rfl, ⟨by decide, by decide, by decide⟩⟩
  | num n =>
      obtain ⟨b, bytes, front, minus | digit⟩ := (readsBack n List.mem_cons_self).cases
      · rw [minus.1] at front
        rw [Spacing.text, front]
        exact ⟨_, _, rfl, ⟨by decide, by decide, by decide⟩⟩
      · rw [Spacing.text, front]
        exact ⟨_, _, rfl, opens_of_digit digit.2.1⟩
  | str s => exact ⟨_, _, rfl, ⟨by decide, by decide, by decide⟩⟩
  | arr items =>
      cases items with
      | nil => exact ⟨_, _, rfl, ⟨by decide, by decide, by decide⟩⟩
      | cons item others => exact ⟨_, _, rfl, ⟨by decide, by decide, by decide⟩⟩
  | obj members =>
      cases members with
      | nil => exact ⟨_, _, rfl, ⟨by decide, by decide, by decide⟩⟩
      | cons member others => exact ⟨_, _, rfl, ⟨by decide, by decide, by decide⟩⟩

/-! Steps of reading. -/

theorem dropSpace_cons {b : UInt8} (bytes : Bytes) (solid : isSpace b = false) :
    dropSpace (b :: bytes) = b :: bytes := by
  simp [dropSpace, solid]

theorem dropSpace_blank {gap : Bytes} (blank : Blank gap) (rest : Bytes) :
    dropSpace (gap ++ rest) = dropSpace rest :=
  List.dropWhile_append_of_pos blank

section
variable {gap : Bytes}

theorem value_blank (blank : Blank gap) (fuel : Nat) (rest : Bytes) :
    value fuel (gap ++ rest) = value fuel rest := by
  cases fuel with
  | zero => rfl
  | succ fuel => simp only [value, dropSpace_blank blank]

theorem items_blank (blank : Blank gap) (fuel : Nat) (first : Bool) (rest : Bytes) :
    items fuel first (gap ++ rest) = items fuel first rest := by
  cases fuel with
  | zero => rfl
  | succ fuel => simp only [items, dropSpace_blank blank]

theorem members_blank (blank : Blank gap) (fuel : Nat) (first : Bool) (rest : Bytes) :
    members fuel first (gap ++ rest) = members fuel first rest := by
  cases fuel with
  | zero => rfl
  | succ fuel => simp only [members, dropSpace_blank blank]

end

theorem tree_of_read {α : Type} {token : Token α} {make : α → Tree} {a : α} {rest : Bytes}
    (read : token.read = .ok (a, rest)) : token.tree make = (make a, some rest) := by
  simp only [Token.tree, read]

theorem value_num {n : Number} (readsBack : n.ReadsBack) (fuel : Nat) {rest : Bytes}
    (ends : Ends rest) :
    value (fuel + 1) (Utf8.encode n.text ++ rest) = (.num n, some rest) := by
  obtain ⟨b, bytes, front, ⟨rfl, read⟩ | ⟨plus, digit, read⟩⟩ := readsBack.cases
  · rw [front]
    exact tree_of_read (read rest ends)
  · have solid := dropSpace_cons (bytes ++ rest) (opens_of_digit digit).space
    have token : value (fuel + 1) (b :: (bytes ++ rest)) =
        (number false (b :: (bytes ++ rest))).tree .num := by
      simp [value, solid, digit, beq_of_digit digit]
    rw [front, List.cons_append, token]
    exact tree_of_read (read rest ends)

theorem value_str (s : String) (fuel : Nat) (rest : Bytes) :
    value (fuel + 1) (0x22 :: (quotedTail s ++ rest)) = (.str s, some rest) := by
  rw [quotedTail, List.append_assoc]
  exact tree_of_read (string_escape s rest)

section
variable (space : Spacing) {level : Nat} {v : Json}

theorem items_first (readsBack : ∀ n ∈ numbers v, n.ReadsBack) (fuel : Nat) (rest : Bytes) :
    items (fuel + 1) true (space.gap level ++ space.text level v rest) =
      item fuel (space.text level v rest) := by
  obtain ⟨b, bytes, front, opens⟩ := opens_text space level v rest readsBack
  rw [items_blank (space.gap_blank level), front]
  simp [items, dropSpace_cons _ opens.space, opens.listEnd, opens.comma]

theorem items_next (readsBack : ∀ n ∈ numbers v, n.ReadsBack) (fuel : Nat) (rest : Bytes) :
    items (fuel + 1) false (0x2c :: (space.gap level ++ space.text level v rest)) =
      item fuel (space.text level v rest) := by
  obtain ⟨b, bytes, front, opens⟩ := opens_text space level v rest readsBack
  have open_ : b ≠ 0x5d := beq_eq_false_iff_ne.mp opens.listEnd
  have comma : dropSpace (0x2c :: (space.gap level ++ b :: bytes)) =
      0x2c :: (space.gap level ++ b :: bytes) := rfl
  rw [front]
  simp [items, comma, dropSpace_blank (space.gap_blank level), dropSpace_cons _ opens.space, open_]

theorem members_first (fuel : Nat) (rest : Bytes) :
    members (fuel + 1) true (space.gap level ++ 0x22 :: rest) = member fuel rest :=
  members_blank (space.gap_blank level) (fuel + 1) true (0x22 :: rest)

theorem members_next (fuel : Nat) (rest : Bytes) :
    members (fuel + 1) false (0x2c :: (space.gap level ++ 0x22 :: rest)) = member fuel rest := by
  have comma : dropSpace (0x2c :: (space.gap level ++ 0x22 :: rest)) =
      0x2c :: (space.gap level ++ 0x22 :: rest) := rfl
  have quote : dropSpace (0x22 :: rest) = 0x22 :: rest := rfl
  simp [members, comma, dropSpace_blank (space.gap_blank level), quote]

end

theorem item_of_value {fuel : Nat} {bytes rest : Bytes} {tree : Tree}
    (read : value fuel bytes = (tree, some rest)) :
    item (fuel + 1) bytes = (items fuel false rest).cons tree := by
  simp only [item, read]

theorem member_of_value (space : Spacing) {fuel : Nat} {key : String} {bytes rest : Bytes}
    {tree : Tree} (read : value fuel bytes = (tree, some rest)) :
    member (fuel + 2) (quotedTail key ++ 0x3a :: (space.colon ++ bytes)) =
      (members fuel false rest).cons (.ok key, tree) := by
  have name : (Reader.string (quotedTail key ++ 0x3a :: (space.colon ++ bytes))).read =
      .ok (key, 0x3a :: (space.colon ++ bytes)) := by
    rw [quotedTail, List.append_assoc]
    exact string_escape key _
  have colon : dropSpace (0x3a :: (space.colon ++ bytes)) = 0x3a :: (space.colon ++ bytes) := rfl
  simp only [member, name]
  show binding (fuel + 1) (.ok key) (0x3a :: (space.colon ++ bytes)) = _
  simp only [binding, colon, value_blank space.colon_blank, read]

-- The induction is on the value. A value takes a step more than its parts, an item two and a member
-- three, and each of them has a mark of its own in the text: so three steps a byte are enough.
mutual

theorem value_text (space : Spacing) (level : Nat) (v : Json)
    (readsBack : ∀ n ∈ numbers v, n.ReadsBack) {fuel : Nat} {rest : Bytes} (ends : Ends rest)
    (enough : 3 * (space.text level v rest).length < fuel) :
    value fuel (space.text level v rest) = (Tree.ofJson v, some rest) := by
  obtain ⟨fuel, rfl⟩ : ∃ n, fuel = n + 1 := ⟨fuel - 1, by omega⟩
  cases v with
  | null => rfl
  | bool value => cases value <;> rfl
  | num n => exact value_num (readsBack n List.mem_cons_self) fuel ends
  | str s => exact value_str s fuel rest
  | arr all =>
      cases all with
      | nil =>
          rw [Spacing.text] at enough ⊢
          obtain ⟨fuel, rfl⟩ : ∃ n, fuel = n + 1 := ⟨fuel - 1, by simp at enough; omega⟩
          rfl
      | cons first others =>
          have ownNumbers : ∀ n ∈ numbers first, n.ReadsBack :=
            fun n member => readsBack n (List.mem_append_left _ member)
          have otherNumbers : ∀ n ∈ itemNumbers others, n.ReadsBack :=
            fun n member => readsBack n (List.mem_append_right _ member)
          have shorter := space.length_text (level + 1) first (space.listTail level others rest)
          rw [Spacing.text] at enough ⊢
          rw [List.length_cons, List.length_append] at enough
          obtain ⟨fuel, rfl⟩ : ∃ n, fuel = n + 2 := ⟨fuel - 2, by omega⟩
          have own := value_text space (level + 1) first ownNumbers
            (ends_listTail space level others rest) (show _ < fuel by omega)
          have later := items_listTail space level others otherNumbers rest
            (show _ < fuel by omega)
          show ((Tree.arr _ _, _) : Tree × Option Bytes) = _
          rw [items_first space ownNumbers, item_of_value own, later]
          rfl
  | obj all =>
      cases all with
      | nil =>
          rw [Spacing.text] at enough ⊢
          obtain ⟨fuel, rfl⟩ : ∃ n, fuel = n + 1 := ⟨fuel - 1, by simp at enough; omega⟩
          rfl
      | cons first others =>
          obtain ⟨key, own⟩ := first
          have ownNumbers : ∀ n ∈ numbers own, n.ReadsBack :=
            fun n member => readsBack n (List.mem_append_left _ member)
          have otherNumbers : ∀ n ∈ memberNumbers others, n.ReadsBack :=
            fun n member => readsBack n (List.mem_append_right _ member)
          have shorter := space.length_text (level + 1) own (space.objectTail level others rest)
          rw [Spacing.text] at enough ⊢
          simp only [List.length_cons, List.length_append] at enough
          obtain ⟨fuel, rfl⟩ : ∃ n, fuel = n + 3 := ⟨fuel - 3, by omega⟩
          have read := value_text space (level + 1) own ownNumbers
            (ends_objectTail space level others rest) (show _ < fuel by omega)
          have later := members_objectTail space level others otherNumbers rest
            (show _ < fuel by omega)
          show ((Tree.obj (members (fuel + 3) true _).parts _, _) : Tree × Option Bytes) = _
          rw [members_first, member_of_value space read, later]
          rfl

theorem items_listTail (space : Spacing) (level : Nat) (all : List Json)
    (readsBack : ∀ n ∈ itemNumbers all, n.ReadsBack) {fuel : Nat} (rest : Bytes)
    (enough : 3 * (space.listTail level all rest).length < fuel) :
    items fuel false (space.listTail level all rest) =
      ⟨Tree.ofItems all, none, some rest⟩ := by
  cases all with
  | nil =>
      obtain ⟨fuel, rfl⟩ : ∃ n, fuel = n + 1 := ⟨fuel - 1, by omega⟩
      exact items_blank (space.gap_blank level) (fuel + 1) false (0x5d :: rest)
  | cons first others =>
      have ownNumbers : ∀ n ∈ numbers first, n.ReadsBack :=
        fun n member => readsBack n (List.mem_append_left _ member)
      have otherNumbers : ∀ n ∈ itemNumbers others, n.ReadsBack :=
        fun n member => readsBack n (List.mem_append_right _ member)
      have shorter := space.length_text (level + 1) first (space.listTail level others rest)
      rw [Spacing.listTail] at enough ⊢
      rw [List.length_cons, List.length_append] at enough
      obtain ⟨fuel, rfl⟩ : ∃ n, fuel = n + 2 := ⟨fuel - 2, by omega⟩
      have own := value_text space (level + 1) first ownNumbers
        (ends_listTail space level others rest) (show _ < fuel by omega)
      have later := items_listTail space level others otherNumbers rest (show _ < fuel by omega)
      rw [items_next space ownNumbers, item_of_value own, later]
      rfl

theorem members_objectTail (space : Spacing) (level : Nat) (all : List (String × Json))
    (readsBack : ∀ n ∈ memberNumbers all, n.ReadsBack) {fuel : Nat} (rest : Bytes)
    (enough : 3 * (space.objectTail level all rest).length < fuel) :
    members fuel false (space.objectTail level all rest) =
      ⟨Tree.ofMembers all, none, some rest⟩ := by
  cases all with
  | nil =>
      obtain ⟨fuel, rfl⟩ : ∃ n, fuel = n + 1 := ⟨fuel - 1, by omega⟩
      exact members_blank (space.gap_blank level) (fuel + 1) false (0x7d :: rest)
  | cons first others =>
      obtain ⟨key, own⟩ := first
      have ownNumbers : ∀ n ∈ numbers own, n.ReadsBack :=
        fun n member => readsBack n (List.mem_append_left _ member)
      have otherNumbers : ∀ n ∈ memberNumbers others, n.ReadsBack :=
        fun n member => readsBack n (List.mem_append_right _ member)
      have shorter := space.length_text (level + 1) own (space.objectTail level others rest)
      rw [Spacing.objectTail] at enough ⊢
      simp only [List.length_cons, List.length_append] at enough
      obtain ⟨fuel, rfl⟩ : ∃ n, fuel = n + 3 := ⟨fuel - 3, by omega⟩
      have read := value_text space (level + 1) own ownNumbers
        (ends_objectTail space level others rest) (show _ < fuel by omega)
      have later := members_objectTail space level others otherNumbers rest
        (show _ < fuel by omega)
      rw [members_next, member_of_value space read, later]
      rfl

end

/-- A text is read as the tree of the value that it is of. -/
theorem readTree_text (space : Spacing) {v : Json} (readsBack : ∀ n ∈ numbers v, n.ReadsBack) :
    readTree (space.text 0 v []) = (Tree.ofJson v, false) := by
  have nothing : Ends [] := by
    intro b more front
    cases front
  have read := value_text space 0 v readsBack nothing
    (show _ < 4 * (space.text 0 v []).length + 4 by omega)
  unfold readTree
  dsimp only
  rw [read]
  rfl

end TenantRelay.Json
