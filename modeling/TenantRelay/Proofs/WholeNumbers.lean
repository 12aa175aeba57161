import TenantRelay.Proofs.Dictionaries
import TenantRelay.Proofs.JsonLayouts

/-!
Whole numbers are always read back. A whole number below zero is kept apart from the others,
and nothing that is read from a text is kept there that does not belong there; so of what was
read only the numbers with a fraction may be lost when they are written.
-/

namespace TenantRelay

open Document Json Reader

def Json.Number.Sound : Json.Number → Prop
  | .neg n => n.toInt < 0
  | .nat _ => True
  | .real _ => True

theorem Json.Number.Sound.readsBack {n : Json.Number} (sound : n.Sound)
    (real : ∀ x, n = .real x → n.ReadsBack) : n.ReadsBack := by
  cases n with
  | nat n => exact readsBack_nat n
  | neg n => exact readsBack_neg sound
  | real x => exact real x rfl

namespace Json.Reader

theorem wholeNumber_sound (negative : Bool) (significand : Nat) :
    (wholeNumber negative significand).Sound := by
  unfold wholeNumber
  split
  case isTrue => trivial
  case isFalse =>
    split
    case isTrue => trivial
    case isFalse zero =>
      split
      case isTrue small =>
        have positive : significand ≠ 0 := by simpa using zero
        have value : (Int64.ofInt (-significand)).toInt = -significand :=
          Int64.toInt_ofInt_of_le (by omega) (by omega)
        show (Int64.ofInt (-significand)).toInt < 0
        omega
      case isFalse => trivial

def Gives (reader : Front Number) : Prop :=
  ∀ bytes n left, reader bytes = .ok (n, left) → n.Sound

section
variable {negative : Bool} {significand : Nat} {power : Int} {n : Number} {left after : Bytes}

theorem floating_sound
    (read : (floating negative significand power).map (fun n => (n, after)) = .ok (n, left)) :
    n.Sound := by
  obtain ⟨m, own, same⟩ := map_ok read
  obtain ⟨x, _, real⟩ := map_ok own
  cases same
  cases real
  trivial

theorem exponentPart_gives : Gives (exponentPart negative significand power) := by
  intro bytes n left read
  rw [exponentPart_eq] at read
  cases digits : (direction bytes).2 with
  | nil =>
      rw [digits] at read
      cases read
  | cons b more =>
      rw [digits] at read
      simp only [shifted] at read
      split at read
      case isTrue => cases read
      case isFalse =>
        generalize powerDigits 0 (b :: more) = power at read
        obtain ⟨shift, after⟩ := power
        cases shift with
        | some places => exact floating_sound read
        | none =>
            simp only [scaledBy] at read
            split at read
            case isTrue => cases read
            case isFalse =>
              cases read
              trivial

theorem afterDigits_gives : Gives (afterDigits negative significand power) := by
  intro bytes n left read
  unfold afterDigits at read
  split at read
  case h_1 b rest =>
    split at read
    case isTrue => exact exponentPart_gives _ n left read
    case isFalse => exact floating_sound read
  case h_2 => exact floating_sound read

theorem fractionDigits_gives : Gives (fractionDigits negative significand power) := by
  intro bytes n left read
  induction bytes generalizing significand power with
  | nil => exact afterDigits_gives _ n left read
  | cons b bytes ih =>
      simp only [fractionDigits] at read
      split at read
      case isTrue =>
        split at read
        case isTrue => exact ih read
        case isFalse => exact afterDigits_gives _ n left read
      case isFalse => exact afterDigits_gives _ n left read

theorem fraction_gives : Gives (fraction negative significand power) := by
  intro bytes n left read
  unfold fraction at read
  split at read
  case h_1 => cases read
  case h_2 =>
    split at read
    case isTrue => exact fractionDigits_gives _ n left read
    case isFalse => cases read

theorem longWhole_gives : Gives (longWhole negative significand power) := by
  intro bytes n left read
  induction bytes generalizing power with
  | nil => exact floating_sound read
  | cons b bytes ih =>
      simp only [longWhole] at read
      split at read
      case isTrue => exact ih read
      case isFalse =>
        split at read
        case isTrue => exact fraction_gives _ n left read
        case isFalse =>
          split at read
          case isTrue => exact exponentPart_gives _ n left read
          case isFalse => exact floating_sound read

theorem afterWhole_gives : Gives (afterWhole negative significand) := by
  intro bytes n left read
  unfold afterWhole at read
  split at read
  case h_1 b rest =>
    split at read
    case isTrue => exact fraction_gives _ n left read
    case isFalse =>
      split at read
      case isTrue => exact exponentPart_gives _ n left read
      case isFalse =>
        cases read
        exact wholeNumber_sound negative significand
  case h_2 =>
    cases read
    exact wholeNumber_sound negative significand

theorem wholeDigits_gives : Gives (wholeDigits negative significand) := by
  intro bytes n left read
  induction bytes generalizing significand with
  | nil => exact afterWhole_gives _ n left read
  | cons b bytes ih =>
      simp only [wholeDigits] at read
      split at read
      case isTrue =>
        split at read
        case isTrue => exact ih read
        case isFalse => exact longWhole_gives _ n left read
      case isFalse => exact afterWhole_gives _ n left read

theorem unsigned_gives : Gives (unsigned negative) := by
  intro bytes n left read
  unfold unsigned at read
  split at read
  case h_1 => cases read
  case h_2 rest =>
    split at read
    case h_1 =>
      split at read
      case isTrue => cases read
      case isFalse => exact afterWhole_gives _ n left read
    case h_2 => exact afterWhole_gives _ n left read
  case h_3 =>
    split at read
    case isTrue => exact wholeDigits_gives _ n left read
    case isFalse => cases read

end
end Json.Reader
mutual

def Document.Tree.Sound : Tree → Prop
  | .num n => n.Sound
  | .arr items _ => ItemsSound items
  | .obj members _ => MembersSound members
  | .null => True
  | .bool _ => True
  | .str _ => True
  | .plain _ => True
  | .flawed _ => True
  | .broken _ => True

def Document.Tree.ItemsSound : List Tree → Prop
  | [] => True
  | item :: rest => item.Sound ∧ ItemsSound rest

def Document.Tree.MembersSound : List (Key × Tree) → Prop
  | [] => True
  | (_, value) :: rest => value.Sound ∧ MembersSound rest

end

namespace Json.Reader

open Tree

/-- What any reader with this fuel makes of a text is sound. -/
structure Reads (fuel : Nat) : Prop where
  value : ∀ bytes, (value fuel bytes).1.Sound
  items : ∀ first bytes, ItemsSound (items fuel first bytes).parts
  item : ∀ bytes, ItemsSound (item fuel bytes).parts
  members : ∀ first bytes, MembersSound (members fuel first bytes).parts
  member : ∀ bytes, MembersSound (member fuel bytes).parts
  binding : ∀ key bytes, MembersSound (binding fuel key bytes).parts

theorem tree_sound {α : Type} {token : Token α} {make : α → Tree}
    (sound : ∀ a rest, token.read = .ok (a, rest) → (make a).Sound) :
    (token.tree make).1.Sound := by
  cases read : token.read with
  | ok result =>
      obtain ⟨a, rest⟩ := result
      rw [tree_of_read read]
      exact sound a rest read
  | error fault =>
      cases skipped : token.skipped <;> simp only [Token.tree, read, skipped] <;> trivial

theorem literal_sound {rest : List Char} {tree : Tree} {bytes : Bytes} (sound : tree.Sound) :
    (literal rest tree bytes).1.Sound := by
  unfold literal
  split
  · exact sound
  · trivial

variable {fuel : Nat}

theorem Reads.value_succ (below : Reads fuel) (bytes : Bytes) :
    (Reader.value (fuel + 1) bytes).1.Sound := by
  simp only [Reader.value]
  split
  case h_1 => trivial
  case h_2 b rest _ =>
    repeat' split
    · exact literal_sound trivial
    · exact literal_sound trivial
    · exact literal_sound trivial
    · exact tree_sound fun _ _ _ => trivial
    · exact tree_sound fun n left read => unsigned_gives rest n left read
    · exact tree_sound fun n left read => unsigned_gives (b :: rest) n left read
    · exact below.items true rest
    · exact below.members true rest
    · trivial

theorem Reads.items_succ (below : Reads fuel) (first : Bool) (bytes : Bytes) :
    ItemsSound (Reader.items (fuel + 1) first bytes).parts := by
  simp only [Reader.items]
  split
  case h_1 => trivial
  case h_2 b rest _ =>
    split
    case isTrue => trivial
    case isFalse =>
      split
      case isTrue =>
        split
        case isTrue => split <;> trivial
        case isFalse =>
          split
          case h_1 => trivial
          case h_2 => trivial
          case h_3 => exact below.item _
      case isFalse =>
        split
        case isTrue => exact below.item _
        case isFalse => trivial

theorem Reads.item_succ (below : Reads fuel) (bytes : Bytes) :
    ItemsSound (Reader.item (fuel + 1) bytes).parts := by
  have own := below.value bytes
  simp only [Reader.item]
  split
  case h_1 tree read =>
    rw [read] at own
    exact ⟨own, trivial⟩
  case h_2 tree rest read =>
    rw [read] at own
    exact ⟨own, below.items false rest⟩

theorem Reads.members_succ (below : Reads fuel) (first : Bool) (bytes : Bytes) :
    MembersSound (Reader.members (fuel + 1) first bytes).parts := by
  simp only [Reader.members]
  split
  case h_1 => trivial
  case h_2 b rest _ =>
    split
    case isTrue => trivial
    case isFalse =>
      split
      case isTrue =>
        split
        case isTrue => exact below.member rest
        case isFalse => trivial
      case isFalse =>
        split
        case isTrue =>
          split
          case h_1 => trivial
          case h_2 => exact below.member _
          case h_3 => trivial
          case h_4 => trivial
        case isFalse => trivial

theorem Reads.member_succ (below : Reads fuel) (bytes : Bytes) :
    MembersSound (Reader.member (fuel + 1) bytes).parts := by
  simp only [Reader.member]
  split
  · trivial
  · exact below.binding _ _
  · exact below.binding _ _

theorem Reads.binding_succ (below : Reads fuel) (key : Key) (bytes : Bytes) :
    MembersSound (Reader.binding (fuel + 1) key bytes).parts := by
  simp only [Reader.binding]
  split
  case h_1 => exact ⟨trivial, trivial⟩
  case h_2 rest _ =>
    have own := below.value rest
    split
    case h_1 tree read =>
      rw [read] at own
      exact ⟨own, trivial⟩
    case h_2 tree left read =>
      rw [read] at own
      exact ⟨own, below.members false left⟩
  case h_3 => exact ⟨trivial, trivial⟩

theorem Reads.of (fuel : Nat) : Reads fuel := by
  induction fuel with
  | zero =>
      constructor <;> intros <;> trivial
  | succ fuel below =>
      exact ⟨below.value_succ, below.items_succ, below.item_succ, below.members_succ,
        below.member_succ, below.binding_succ⟩

end Json.Reader
theorem Document.Tree.sound_inherited : Tree.Inherited Tree.Sound where
  item trees _ good := by
    have good : Tree.ItemsSound trees := good
    induction trees with
    | nil => nofun
    | cons first rest ih =>
        intro tree member
        rcases List.mem_cons.mp member with same | old
        · exact same ▸ good.1
        · exact ih good.2 good.2 tree old
  member pairs _ good := by
    have good : Tree.MembersSound pairs := good
    induction pairs with
    | nil => nofun
    | cons first rest ih =>
        intro pair member
        rcases List.mem_cons.mp member with same | old
        · exact same ▸ good.1
        · exact ih good.2 good.2 pair old

/-- Whatever the text, the numbers in its tree are sound. -/
theorem Json.readTree_sound (bytes : Bytes) : (readTree bytes).1.Sound := by
  have sound := (Reads.of (4 * bytes.length + 4)).value bytes
  unfold readTree
  generalize Reader.value (4 * bytes.length + 4) bytes = read at sound ⊢
  obtain ⟨tree, rest⟩ := read
  exact sound

namespace Json

def Sound (v : Json) : Prop := ∀ n ∈ v.numbers, n.Sound

theorem Sound.arr {items : List Json} (sound : ∀ v ∈ items, v.Sound) : (arr items).Sound := by
  intro n member
  have member : n ∈ itemNumbers items := member
  induction items with
  | nil => cases member
  | cons first rest ih =>
      rcases List.mem_append.mp member with own | other
      · exact sound first List.mem_cons_self n own
      · exact ih (fun v old => sound v (List.mem_cons_of_mem _ old)) other other

theorem Sound.obj {members : List (String × Json)} (sound : ∀ e ∈ members, e.2.Sound) :
    (obj members).Sound := by
  intro n member
  have member : n ∈ memberNumbers members := member
  induction members with
  | nil => cases member
  | cons first rest ih =>
      rcases List.mem_append.mp member with own | other
      · exact sound first List.mem_cons_self n own
      · exact ih (fun e old => sound e (List.mem_cons_of_mem _ old)) other other

theorem sound_nat (n : UInt64) : (num (.nat n)).Sound := by
  intro m member
  cases List.mem_singleton.mp member
  trivial

end Json

namespace Document.Decoder

mutual

theorem sound_of_json {depth : Depth} {v : Json} (tree : Tree) (good : tree.Sound)
    (read : json depth tree = .ok v) : v.Sound := by
  cases tree with
  | null => cases read; nofun
  | bool b => cases read; nofun
  | num n =>
      cases read
      intro m member
      cases List.mem_singleton.mp member
      exact good
  | str s => cases read; nofun
  | plain s => cases read; nofun
  | flawed fault => cases read
  | broken fault => cases read
  | arr trees tail =>
      obtain ⟨below, _, read⟩ := ok_of_bind read
      obtain ⟨all, items, read⟩ := ok_of_bind read
      obtain ⟨_, _, read⟩ := ok_of_bind read
      cases read
      exact .arr (sound_of_jsonItems trees good items)
  | obj pairs tail =>
      obtain ⟨below, _, read⟩ := ok_of_bind read
      obtain ⟨all, members, read⟩ := ok_of_bind read
      obtain ⟨_, _, read⟩ := ok_of_bind read
      cases read
      have sound := sound_of_jsonMembers pairs good members
      apply Json.Sound.obj
      intro e member
      rcases KeyMap.mem_insertAll member with absent | own
      · cases absent
      · exact sound e own

theorem sound_of_jsonItems {depth : Depth} {all : List Json} (trees : List Tree)
    (good : Tree.ItemsSound trees) (read : jsonItems depth trees = .ok all) :
    ∀ v ∈ all, v.Sound := by
  cases trees with
  | nil => cases read; nofun
  | cons tree rest =>
      obtain ⟨first, own, read⟩ := ok_of_bind read
      obtain ⟨others, later, read⟩ := ok_of_bind read
      cases read
      have own := sound_of_json tree good.1 own
      have later := sound_of_jsonItems rest good.2 later
      intro v member
      rcases List.mem_cons.mp member with same | old
      · exact same ▸ own
      · exact later v old

theorem sound_of_jsonMembers {depth : Depth} {all : List (String × Json)}
    (pairs : List (Key × Tree)) (good : Tree.MembersSound pairs)
    (read : jsonMembers depth pairs = .ok all) : ∀ e ∈ all, e.2.Sound := by
  cases pairs with
  | nil => cases read; nofun
  | cons pair rest =>
      obtain ⟨key, tree⟩ := pair
      obtain ⟨name, _, read⟩ := ok_of_bind read
      obtain ⟨first, own, read⟩ := ok_of_bind read
      obtain ⟨others, later, read⟩ := ok_of_bind read
      cases read
      have own := sound_of_json tree good.1 own
      have later := sound_of_jsonMembers rest good.2 later
      intro e member
      rcases List.mem_cons.mp member with same | old
      · exact same ▸ own
      · exact later e old

end

theorem sound_of_dict {depth : Depth} {tree : Tree} {d : Dict} (good : tree.Sound)
    (read : dict depth tree = .ok d) : (Json.ofDict d).Sound := by
  apply Json.Sound.obj
  apply holds_of_map Json.Sound Tree.sound_inherited good _ read
  intro below _ tree v own read
  exact sound_of_json tree own read

end Document.Decoder
end TenantRelay
