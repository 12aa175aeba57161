import TenantRelay.Proofs.Decoding
import TenantRelay.Proofs.Segments

/-!
Addresses that begin alike. What an address is read as depends on its front, which ends with the
authority, and on the tail behind it; a tail that is added to a base does not change what its
front is read as.
-/

namespace TenantRelay.Url

open Document

/-! The front of an address. -/

theorem readScheme_ok {cs scheme rest : List Char} (read : readScheme cs = .ok (scheme, rest)) :
    ∃ name, cs = name ++ ':' :: rest ∧
      ∀ other, readScheme (name ++ ':' :: other) = .ok (scheme, other) := by
  unfold readScheme at read
  split at read
  case h_1 c name after found =>
    split at read
    case isTrue valid =>
      cases read
      obtain ⟨mark, own, whole, unmarked⟩ := eq_of_cut found
      cases eq_of_beq own
      refine ⟨c :: name, whole, fun other => ?_⟩
      unfold readScheme
      rw [cut_append unmarked, cut_cons_mark rfl]
      simp [valid]
    case isFalse => cases read
  case h_2 => cases read

theorem readAuthority_eq {scheme : List Char} (web : isWeb scheme = true) (cs : List Char) :
    ∃ host portNumber user password, ∀ path, readAuthority scheme cs path =
      Except.bind host fun host => Except.map (fun portNumber =>
        { scheme, user, password, host := some host, portNumber, path }) portNumber := by
  let login := (lastCut (· == '@') cs).getD ([], cs)
  let name := cut (· == ':') login.1
  let place := splitPort login.2
  refine ⟨readHost place.1, readPort scheme place.2, escape userEscapes name.1,
    escape userEscapes (name.2.getD []), fun path => ?_⟩
  simp only [readAuthority, web, ↓reduceIte, login, name, place]
  cases lastCut (· == '@') cs <;> rfl

theorem readAuthority_web {scheme cs : List Char} (web : isWeb scheme = true) {path : Path}
    {url : Url} (read : readAuthority scheme cs path = .ok url) :
    cs ≠ [] ∧ url.query = none ∧ url.fragment = none ∧
      ∀ other, readAuthority scheme cs other = .ok { url with path := other } := by
  have given : cs ≠ [] := by
    rintro rfl
    simp only [readAuthority, web, ↓reduceIte] at read
    cases read
  obtain ⟨host, number, user, password, parts⟩ := readAuthority_eq web cs
  rw [parts] at read
  cases host with
  | error fault => cases read
  | ok host =>
      cases number with
      | error fault => cases read
      | ok number =>
          cases read
          exact ⟨given, rfl, rfl, fun other => parts other⟩

abbrev Trailing (tail : List Char) : Prop := tail.head?.all (isSlash true) = true

theorem Trailing.cut {isMark : Char → Bool} {tail : List Char} (trailing : Trailing tail) :
    Trailing (cut isMark tail).1 := by
  cases tail with
  | nil => rfl
  | cons c rest =>
      cases mark : isMark c with
      | true => rw [cut_cons_mark mark]; rfl
      | false => rw [cut_cons_other mark]; exact trailing

theorem Trailing.takeWhile {tail : List Char} (trailing : Trailing tail) :
    tail.takeWhile (!isSlash true ·) = [] := by
  cases tail with
  | nil => rfl
  | cons c rest =>
      have slash : isSlash true c = true := by simpa [Trailing] using trailing
      simp [slash]

theorem Trailing.dropWhile {tail : List Char} (trailing : Trailing tail) :
    tail.dropWhile (!isSlash true ·) = tail := by
  cases tail with
  | nil => rfl
  | cons c rest =>
      have slash : isSlash true c = true := by simpa [Trailing] using trailing
      simp [slash]

theorem isWeb_ne_file {scheme : List Char} (web : isWeb scheme = true) : scheme ≠ fileScheme := by
  rintro rfl
  revert web
  decide

theorem readBody_web {scheme slashes authority tail : List Char} (web : isWeb scheme = true)
    (slash : ∀ c ∈ slashes, isSlash true c = true) (given : authority ≠ [])
    (whole : ∀ c ∈ authority, isSlash true c = false) (trailing : Trailing tail) :
    readBody scheme (slashes ++ (authority ++ tail)) =
      readAuthority scheme authority (.segments (readPath true tail)) := by
  have start : (slashes ++ (authority ++ tail)).dropWhile (isSlash true) = authority ++ tail := by
    rw [List.dropWhile_append_of_pos slash]
    cases authority with
    | nil => exact absurd rfl given
    | cons c rest =>
        simp [whole c (List.mem_cons_self ..)]
  have inside : ∀ c ∈ authority, (!isSlash true c) = true := by simpa using whole
  unfold readBody
  rw [if_neg (isWeb_ne_file web), if_pos web]
  simp only [start]
  rw [List.takeWhile_append_of_pos inside, List.dropWhile_append_of_pos inside,
    trailing.takeWhile, trailing.dropWhile, List.append_nil]

/-! The scheme is the one that was read, whatever is behind it. -/

theorem readAuthority_scheme {scheme cs : List Char} {path : Path} {url : Url}
    (read : readAuthority scheme cs path = .ok url) : url.scheme = scheme := by
  simp only [readAuthority, bind, Except.bind, pure, Except.pure] at read
  repeat' split at read
  all_goals cases read
  all_goals rfl

theorem readFile_scheme {cs : List Char} {url : Url} (read : readFile cs = .ok url) :
    url.scheme = fileScheme := by
  unfold readFile at read
  split at read
  case h_1 rest =>
    split at read
    case isTrue =>
      dsimp only at read
      split at read
      case isTrue => cases read; rfl
      case isFalse =>
        cases host : readHost (rest.takeWhile (!isSlash true ·)) <;> rw [host] at read
        · cases read
        · cases read
          rfl
    case isFalse => cases read; rfl
  case h_2 => cases read; rfl

theorem readBody_scheme {scheme cs : List Char} {url : Url}
    (read : readBody scheme cs = .ok url) : url.scheme = scheme := by
  unfold readBody at read
  split at read
  case isTrue own => exact (readFile_scheme read).trans own.symm
  case isFalse =>
    split at read
    case isTrue => exact readAuthority_scheme read
    case isFalse =>
      split at read
      case h_1 => exact readAuthority_scheme read
      case h_2 => cases read; rfl
      case h_3 => cases read; rfl

/-! What is read of an address behind its front. -/

def withTail (url : Url) (tail : List Char) : Url :=
  let marked := cut (· == '#') tail
  let asked := cut (· == '?') marked.1
  { url with
    path := .segments (readPath true asked.1)
    query := asked.2.map (escape webQueryEscapes)
    fragment := marked.2.map (escape fragmentEscapes) }

/-- What an address begins with, up to the end of its authority: any tail may stand behind it, and
only what is behind the authority is read from that. -/
structure Front (front : List Char) (url : Url) : Prop where
  closed : front.getLast?.any (isSlash true) = false
  reads : ∀ text tail, Trailing tail → trimmed text.toList = front ++ tail →
    parse text = .ok (url.withTail tail)

theorem trailing_dropWhile (cs : List Char) : Trailing (cs.dropWhile (!isSlash true ·)) := by
  have first := List.head?_dropWhile_not (!isSlash true ·) cs
  unfold Trailing
  cases head : (cs.dropWhile (!isSlash true ·)).head? with
  | none => rfl
  | some c =>
      rw [head] at first
      simpa using first

theorem parse_steps {text : String} {url : Url} (read : parse text = .ok url) :
    ∃ scheme rest body, readScheme (cut (· == '#') (trimmed text.toList)).1 = .ok (scheme, rest) ∧
      readBody scheme (cut (· == '?') rest).1 = .ok body ∧
      url = { body with
        query := (cut (· == '?') rest).2.map
          (escape (if isWeb scheme then webQueryEscapes else queryEscapes))
        fragment := (cut (· == '#') (trimmed text.toList)).2.map (escape fragmentEscapes) } := by
  unfold parse at read
  obtain ⟨⟨scheme, rest⟩, named, read⟩ := ok_of_bind read
  obtain ⟨body, placed, read⟩ := ok_of_bind read
  cases read
  exact ⟨scheme, rest, body, named, placed, rfl⟩

theorem of_mem_takeWhile {p : Char → Bool} {cs : List Char} : ∀ c ∈ cs.takeWhile p, p c = true :=
  List.all_eq_true.mp (List.all_takeWhile ..)

theorem body_parts {scheme : List Char} (web : isWeb scheme = true) (rest : List Char) :
    ∃ slashes authority tail, rest = slashes ++ (authority ++ tail) ∧
      (∀ c ∈ slashes, isSlash true c = true) ∧ (∀ c ∈ authority, isSlash true c = false) ∧
      Trailing tail ∧
      readBody scheme rest = readAuthority scheme authority (.segments (readPath true tail)) := by
  let after := rest.dropWhile (isSlash true)
  refine ⟨rest.takeWhile (isSlash true), after.takeWhile (!isSlash true ·),
    after.dropWhile (!isSlash true ·), ?_, of_mem_takeWhile, ?_, trailing_dropWhile after, ?_⟩
  · rw [List.takeWhile_append_dropWhile, List.takeWhile_append_dropWhile]
  · intro c member
    simpa using of_mem_takeWhile c member
  · unfold readBody
    rw [if_neg (isWeb_ne_file web), if_pos web]

theorem parse_tail {name slashes authority tail scheme : List Char}
    {url : Url} (web : isWeb scheme = true)
    (unmarked : ∀ d ∈ name ++ ':' :: (slashes ++ authority), (d == '#') = false)
    (unasked : ∀ d ∈ slashes ++ authority, (d == '?') = false)
    (slash : ∀ d ∈ slashes, isSlash true d = true) (given : authority ≠ [])
    (whole : ∀ d ∈ authority, isSlash true d = false)
    (named : ∀ rest, readScheme (name ++ ':' :: rest) = .ok (scheme, rest))
    (placed : ∀ path, readAuthority scheme authority path = .ok { url with path })
    {text : String} (trailing : Trailing tail)
    (read : trimmed text.toList = name ++ ':' :: (slashes ++ authority) ++ tail) :
    parse text = .ok (url.withTail tail) := by
  have front : ∀ rest, name ++ ':' :: (slashes ++ authority) ++ rest =
      name ++ ':' :: (slashes ++ authority ++ rest) := by simp
  simp only [parse, read, cut_append unmarked, bind, Except.bind]
  rw [front, named]
  dsimp only
  rw [cut_append unasked, List.append_assoc, readBody_web web slash given whole trailing.cut.cut,
    placed]
  simp only [web, ↓reduceIte]
  rfl

/-- An address that is read has a front. Without a query and a fragment, the rest of it is its
path. -/
theorem front_of_parse {text : String} {url : Url} (read : parse text = .ok url)
    (web : isWeb url.scheme = true) (asked : url.query = none) (marked : url.fragment = none) :
    ∃ front tail, Front front url ∧ Trailing tail ∧ trimmed text.toList = front ++ tail ∧
      ∀ c ∈ tail, (c == '#') = false ∧ (c == '?') = false := by
  obtain ⟨scheme, rest, body, named, placed, same⟩ := parse_steps read
  rw [same] at web asked marked
  replace web : isWeb scheme = true := readBody_scheme placed ▸ web
  have unmarked := unmarked_of_cut (Option.map_eq_none_iff.mp marked)
  have unasked := unmarked_of_cut (Option.map_eq_none_iff.mp asked)
  rw [cut_of_unmarked unmarked] at named same
  rw [cut_of_unmarked unasked] at placed same
  obtain ⟨name, whole, named⟩ := readScheme_ok named
  obtain ⟨slashes, authority, tail, parts, slash, inside, trailing, body_read⟩ :=
    body_parts web rest
  rw [body_read] at placed
  obtain ⟨given, noQuery, noFragment, placed⟩ := readAuthority_web web placed
  have own : url = body := by
    rw [same]
    cases body
    cases noQuery
    cases noFragment
    rfl
  subst own
  have all : trimmed text.toList = name ++ ':' :: (slashes ++ authority) ++ tail := by
    rw [show trimmed text.toList = _ from whole, parts]
    simp
  rw [all] at unmarked
  rw [parts, ← List.append_assoc] at unasked
  refine ⟨name ++ ':' :: (slashes ++ authority), tail, ⟨?_, ?_⟩, trailing, all, ?_⟩
  · rw [← List.cons_append, ← List.append_assoc, List.getLast?_append,
      List.getLast?_eq_some_getLast given]
    simpa using inside _ (List.getLast_mem given)
  · exact fun other tail' trailing' read' => parse_tail web
      (fun d member => unmarked d (List.mem_append_left _ member))
      (fun d member => unasked d (List.mem_append_left _ member)) slash given inside named placed
      trailing' read'
  · exact fun d member =>
      ⟨unmarked d (List.mem_append_right _ member), unasked d (List.mem_append_right _ member)⟩

/-! Slashes at the end. -/

theorem exists_slashes (cs : List Char) :
    ∃ k, cs = (cs.reverse.dropWhile (· == '/')).reverse ++ List.replicate k '/' := by
  have slashes : cs.reverse.takeWhile (· == '/') =
      List.replicate (cs.reverse.takeWhile (· == '/')).length '/' :=
    List.eq_replicate_of_mem fun c member => eq_of_beq (of_mem_takeWhile c member)
  refine ⟨(cs.reverse.takeWhile (· == '/')).length, ?_⟩
  rw [← List.reverse_replicate, ← slashes, ← List.reverse_append, List.takeWhile_append_dropWhile,
    List.reverse_reverse]

theorem exists_stem {front tail base : List Char} {k : Nat}
    (closed : front.getLast?.any (isSlash true) = false)
    (same : base ++ List.replicate k '/' = front ++ tail) :
    ∃ stem, base = front ++ stem ∧ tail = stem ++ List.replicate k '/' := by
  rcases List.append_eq_append_iff.mp same with ⟨more, begins, slashes⟩ | ⟨stem, base, tail⟩
  · rcases List.eq_nil_or_concat more with rfl | ⟨others, last, rfl⟩
    · exact ⟨[], by simpa using begins.symm, slashes.symm⟩
    · have member : last ∈ List.replicate k '/' := by rw [slashes]; simp
      rw [begins, List.eq_of_mem_replicate member] at closed
      simp [isSlash] at closed
  · exact ⟨stem, base, tail⟩

theorem Trailing.stem {stem rest : List Char} (trailing : Trailing (stem ++ rest)) :
    Trailing stem := by
  cases stem with
  | nil => rfl
  | cons c stem => exact trailing

/-- Where the path of an address leads on. Slashes at its end do not matter for that. -/
theorem readPath_below {stem : List Char} (trailing : Trailing stem) :
    ∃ above, (∀ k, ∃ j, readPath true (stem ++ List.replicate k '/') =
        above ++ List.replicate j []) ∧
      ∀ rest, readPath true (stem ++ '/' :: rest) = walk above (splitAt (isSlash true) rest) := by
  cases stem with
  | nil =>
      refine ⟨[], fun k => ?_, fun rest => rfl⟩
      cases k with
      | zero => exact ⟨1, rfl⟩
      | succ k =>
          refine ⟨k + 1, ?_⟩
          rw [← walk_replicate, ← splitAt_replicate]
          rfl
  | cons c body =>
      let pieces := splitAt (isSlash true) body
      have next : ∀ rest, readPath true (c :: body ++ '/' :: rest) =
          walk (pieces.foldl climb []) (splitAt (isSlash true) rest) := by
        intro rest
        show walk [] (splitAt (isSlash true) (body ++ '/' :: rest)) = _
        rw [splitAt_append rfl, walk_append (splitAt_ne_nil rest)]
      refine ⟨pieces.foldl climb [], fun k => ?_, next⟩
      cases k with
      | zero =>
          -- The last piece leaves an open end if it is made of dots.
          have some : pieces ≠ [] := splitAt_ne_nil body
          obtain ⟨j, last⟩ := openEnd_eq (pieces.getLast some)
          refine ⟨j, ?_⟩
          show walk [] (splitAt (isSlash true) (body ++ [])) = _
          rw [List.append_nil, ← last, ← walk_pieces some]
      | succ k =>
          refine ⟨k + 1, ?_⟩
          rw [List.replicate_succ, next, splitAt_replicate, walk_replicate]

/-! White space. -/

def counts (c : Char) : Bool := c != '\t' && c != '\n' && c != '\r'

def kept (cs : List Char) : List Char :=
  ((cs.reverse.dropWhile (·.val ≤ 0x20)).reverse).filter counts

theorem trimmed_eq (cs : List Char) : trimmed cs = kept (cs.dropWhile (·.val ≤ 0x20)) := rfl

theorem kept_append {back : List Char} (shown : ∃ c ∈ back, 0x20 < c.val) (front : List Char) :
    kept (front ++ back) = front.filter counts ++ kept back := by
  obtain ⟨c, member, visible⟩ := shown
  have more : back.reverse.dropWhile (·.val ≤ 0x20) ≠ [] := by
    intro none
    have all := List.any_dropWhile (p := (·.val ≤ 0x20)) (l := back.reverse)
    rw [none] at all
    have hidden : back.reverse.all (·.val ≤ 0x20) = true := by simpa using all
    have own := List.all_eq_true.mp hidden c (List.mem_reverse.mpr member)
    exact absurd visible (by simpa using own)
  unfold kept
  rw [List.reverse_append, List.dropWhile_append, if_neg (by simpa using more)]
  simp

theorem kept_sublist (cs : List Char) : (kept cs).Sublist cs := by
  have part := (List.dropWhile_sublist (·.val ≤ 0x20) (l := cs.reverse)).reverse
  rw [List.reverse_reverse] at part
  exact List.filter_sublist.trans part

/-- Neither white space nor a control character is at the end. -/
def EndsVisibly (cs : List Char) : Prop := ∀ c, cs.getLast? = some c → 0x20 < c.val

theorem kept_of_endsVisibly {cs : List Char} (ends : EndsVisibly cs) :
    kept cs = cs.filter counts := by
  have whole : cs.reverse.dropWhile (·.val ≤ 0x20) = cs.reverse := by
    cases back : cs.reverse with
    | nil => rfl
    | cons c rest =>
        have last : cs.getLast? = some c := by rw [← List.head?_reverse, back]; rfl
        exact List.dropWhile_cons_of_neg (by simpa using ends c last)
  unfold kept
  rw [whole, List.reverse_reverse]

theorem kept_eq_self_iff {cs : List Char} :
    kept cs = cs ↔ (∀ c ∈ cs, counts c = true) ∧ EndsVisibly cs := by
  constructor
  · intro same
    have all : ∀ c ∈ cs, counts c = true := by
      intro c member
      rw [← same] at member
      exact (List.mem_filter.mp member).2
    refine ⟨all, fun c last => ?_⟩
    have part := List.dropWhile_sublist (·.val ≤ 0x20) (l := cs.reverse)
    have length := congrArg List.length same
    have fewer := List.length_filter_le counts ((cs.reverse.dropWhile (·.val ≤ 0x20)).reverse)
    have whole := part.eq_of_length_le (by
      simp only [kept, List.length_reverse] at length fewer ⊢
      omega)
    have first := List.head?_dropWhile_not (·.val ≤ 0x20) cs.reverse
    rw [whole, List.head?_reverse, last] at first
    simpa using first
  · rintro ⟨all, ends⟩
    rw [kept_of_endsVisibly ends]
    exact List.filter_eq_self.mpr all

theorem EndsVisibly.dropWhile {cs : List Char} (ends : EndsVisibly cs) (p : Char → Bool) :
    EndsVisibly (cs.dropWhile p) := by
  intro c last
  apply ends
  rw [← List.takeWhile_append_dropWhile (p := p) (l := cs), List.getLast?_append, last]
  rfl

theorem dropWhile_append_slash (front rest : List Char) :
    (front ++ '/' :: rest).dropWhile (·.val ≤ 0x20) =
      front.dropWhile (·.val ≤ 0x20) ++ '/' :: rest := by
  rw [List.dropWhile_append]
  split
  case isTrue none =>
    rw [List.isEmpty_iff.mp none]
    rfl
  case isFalse => rfl

theorem trimmed_slashes {front : List Char} {k : Nat}
    (ends : EndsVisibly (front ++ List.replicate k '/')) :
    trimmed (front ++ List.replicate k '/') =
      (front.dropWhile (·.val ≤ 0x20)).filter counts ++ List.replicate k '/' := by
  have lead : (front ++ List.replicate k '/').dropWhile (·.val ≤ 0x20) =
      front.dropWhile (·.val ≤ 0x20) ++ List.replicate k '/' := by
    cases k with
    | zero => simp
    | succ k => exact dropWhile_append_slash front _
  have slashes : (List.replicate k '/').filter counts = List.replicate k '/' := by
    apply List.filter_eq_self.mpr
    intro c member
    rw [List.eq_of_mem_replicate member]
    rfl
  rw [trimmed_eq, kept_of_endsVisibly (ends.dropWhile _), lead, List.filter_append, slashes]

theorem trimmed_append {rest : List Char} (shown : ∃ c ∈ rest, 0x20 < c.val) (front : List Char) :
    trimmed (front ++ '/' :: rest) =
      (front.dropWhile (·.val ≤ 0x20)).filter counts ++ '/' :: kept rest := by
  rw [trimmed_eq, dropWhile_append_slash, List.append_cons, kept_append shown, List.filter_append,
    List.append_assoc]
  rfl

/-! What an address leads to if more is put behind it. -/

def below (url : Url) (above : List (List Char)) (rest : List Char) : Url :=
  let marked := cut (· == '#') rest
  let asked := cut (· == '?') marked.1
  { url with
    path := .segments (walk above (splitAt (isSlash true) asked.1))
    query := asked.2.map (escape webQueryEscapes)
    fragment := marked.2.map (escape fragmentEscapes) }

theorem Trailing.append {stem : List Char} (trailing : Trailing stem) (rest : List Char) :
    Trailing (stem ++ '/' :: rest) := by
  cases stem with
  | nil => rfl
  | cons c stem => exact trailing

theorem withTail_unmarked {url : Url} {tail : List Char}
    (unmarked : ∀ c ∈ tail, (c == '#') = false ∧ (c == '?') = false) :
    url.withTail tail =
      { url with path := .segments (readPath true tail), query := none, fragment := none } := by
  dsimp only [withTail]
  rw [cut_of_unmarked fun c member => (unmarked c member).1,
    cut_of_unmarked fun c member => (unmarked c member).2]
  rfl

theorem withTail_append {url : Url} {stem rest : List Char} {above : List (List Char)}
    (unmarked : ∀ c ∈ stem, (c == '#') = false ∧ (c == '?') = false)
    (leads : ∀ rest, readPath true (stem ++ '/' :: rest) =
      walk above (splitAt (isSlash true) rest)) :
    url.withTail (stem ++ '/' :: rest) = url.below above rest := by
  dsimp only [withTail, below]
  rw [cut_append fun c member => (unmarked c member).1, cut_cons_other rfl,
    cut_append fun c member => (unmarked c member).2, cut_cons_other rfl, leads]

/-- What is put behind the address of a site is read below the path of that address, wherever the
slashes between them come from. -/
theorem parse_below {base : String} {url : Url} (read : parse base = .ok url)
    (web : isWeb url.scheme = true) (asked : url.query = none) (marked : url.fragment = none)
    (ends : EndsVisibly base.toList) :
    ∃ above j, url.path = .segments (above ++ List.replicate j []) ∧
      ∀ (text : String) rest, (∃ c ∈ rest, 0x20 < c.val) →
        text.toList = (base.toList.reverse.dropWhile (· == '/')).reverse ++ '/' :: rest →
          parse text = .ok (url.below above (kept rest)) := by
  obtain ⟨front, tail, begins, trailing, whole, unmarked⟩ := front_of_parse read web asked marked
  have own := begins.reads base tail trailing whole
  rw [read, withTail_unmarked unmarked] at own
  obtain ⟨k, slashes⟩ := exists_slashes base.toList
  generalize (base.toList.reverse.dropWhile (· == '/')).reverse = stripped at slashes
  rw [slashes] at ends whole
  rw [trimmed_slashes ends] at whole
  obtain ⟨stem, stripped_read, rfl⟩ := exists_stem begins.closed whole
  obtain ⟨above, path, leads⟩ := readPath_below trailing.stem
  obtain ⟨j, path⟩ := path k
  refine ⟨above, j, ?_, fun text rest shown same => ?_⟩
  · rw [← path]
    exact congrArg Url.path (Except.ok.inj own)
  · have text_read : trimmed text.toList = front ++ (stem ++ '/' :: kept rest) := by
      rw [same, trimmed_append shown, stripped_read, List.append_assoc]
    rw [begins.reads text _ (trailing.stem.append _) text_read, withTail_append ?_ leads]
    exact fun c member => unmarked c (List.mem_append_left _ member)

/-! Parts that are read as they are. -/

theorem Part.below_append {segment : List Char} (part : Part segment) (url : Url)
    (above : List (List Char)) (rest : List Char) :
    url.below above (segment ++ '/' :: rest) =
      url.below (above ++ [escape pathEscapes segment]) rest := by
  dsimp only [below]
  rw [cut_append fun c member => (part.unmarked c member).1, cut_cons_other rfl,
    cut_append fun c member => (part.unmarked c member).2, cut_cons_other rfl, splitAt_append rfl,
    splitAt_of_whole part.whole, walk_append (splitAt_ne_nil _), List.foldl_cons, part.climb]
  rfl

theorem Part.below_last {segment : List Char} (part : Part segment) {url : Url}
    (asked : url.query = none) (marked : url.fragment = none) (above : List (List Char)) :
    url.below above segment =
      { url with path := .segments (above ++ [escape pathEscapes segment]) } := by
  dsimp only [below]
  rw [cut_of_unmarked fun c member => (part.unmarked c member).1,
    cut_of_unmarked fun c member => (part.unmarked c member).2, splitAt_of_whole part.whole,
    walk_single, part.climb, part.openEnd, List.append_nil]
  rw [asked, marked]
  rfl

theorem below_ends {url : Url} {above before : List (List Char)} {rest last : List Char}
    (path : (url.below above rest).path = .segments (before ++ [last]))
    (asked : (url.below above rest).query = none)
    (marked : (url.below above rest).fragment = none) :
    (∀ c ∈ rest, (c == '#') = false ∧ (c == '?') = false) ∧
      (last = [] ∨ ∃ piece ∈ splitAt (isSlash true) rest, last = escape pathEscapes piece) := by
  dsimp only [below] at path asked marked
  have unmarked := unmarked_of_cut (Option.map_eq_none_iff.mp marked)
  rw [cut_of_unmarked unmarked] at path asked
  have unasked := unmarked_of_cut (Option.map_eq_none_iff.mp asked)
  rw [cut_of_unmarked unasked] at path
  exact ⟨fun c member => ⟨unmarked c member, unasked c member⟩,
    walk_ends (splitAt_ne_nil rest) (Path.segments.inj path)⟩

end TenantRelay.Url
