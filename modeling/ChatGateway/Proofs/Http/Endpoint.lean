import ChatGateway.Proofs.Http.Path
import ChatGateway.Proofs.Text.Cut
import ChatGateway.Provider

/-!
The provider is called at a path below its base URL. The path is put behind the text of the base, so
it has to be shown that the longer text is still a URL and that the path does not move the host: the
authority ends at the first character that is a slash or begins a query or a fragment, and a path
that is put behind it ends it no later. What is put behind a base without a query and a fragment is
then the last segment of the path.
-/
namespace ChatGateway

namespace Http.Url

/-- A character that stays keeps all that stands before it. -/
theorem rdropWhile_append_cons {p : Char → Bool} {c : Char} (stays : ¬ p c = true)
    (left right : List Char) :
    (left ++ c :: right).rdropWhile p = left ++ c :: right.rdropWhile p := by
  induction right using List.reverseRecOn with
  | nil => exact List.rdropWhile_concat_neg p left c stays
  | append_singleton front last ih =>
    rw [← List.cons_append, ← List.append_assoc]
    by_cases drops : p last = true
    · rw [List.rdropWhile_concat_pos p _ _ drops, List.rdropWhile_concat_pos p _ _ drops, ih]
    · rw [List.rdropWhile_concat_neg p _ _ drops, List.rdropWhile_concat_neg p _ _ drops]
      simp

theorem below_cut (name : String) {c : Char} (noSlash : c ≠ '/') (left right : List Char) :
    below name (left ++ c :: right) = left ++ c :: below name right := by
  rw [below, rdropWhile_append_cons (by simpa using noSlash), below, List.append_assoc,
    List.cons_append]

/-- In any case there is a slash where the base had one. -/
theorem below_slash (name : String) (rest : List Char) :
    ∃ more, below name ('/' :: rest) = '/' :: more := by
  have front := List.rdropWhile_prefix (· = '/') (l := '/' :: rest)
  rw [below]
  cases kept : ('/' :: rest).rdropWhile (· = '/') with
  | nil => exact ⟨name.toList, rfl⟩
  | cons c more =>
    rw [kept, List.cons_prefix_cons] at front
    exact ⟨more ++ '/' :: name.toList, by rw [front.1, List.cons_append]⟩

/-! ## What stands before the path -/

/-- A character that does not end an authority. -/
def isPlain (c : Char) : Bool := !isSlash c && c ≠ '?' && c ≠ '#'

/-- What stands between the slashes and the path, of the text after the scheme. -/
def authorityOf (rest : List Char) : List Char := (rest.dropWhile isSlash).takeWhile isPlain

/-- The first character that ends an authority is where it was, and the path is what was put
behind. -/
theorem span_plain_below (name : String) (text : List Char) :
    (below name text).takeWhile isPlain = text.takeWhile isPlain ∧
      (below name text).dropWhile isPlain = below name (text.dropWhile isPlain) := by
  induction text with
  | nil => exact ⟨rfl, rfl⟩
  | cons c rest ih =>
    by_cases slash : c = '/'
    · subst slash
      obtain ⟨more, same⟩ := below_slash name rest
      have stays : ('/' :: rest).dropWhile isPlain = '/' :: rest := rfl
      rw [stays, same]
      exact ⟨rfl, rfl⟩
    · have shifted : below name (c :: rest) = c :: below name rest := below_cut name slash [] rest
      rw [shifted, List.takeWhile_cons, List.takeWhile_cons, List.dropWhile_cons,
        List.dropWhile_cons, ih.1, ih.2]
      refine ⟨rfl, ?_⟩
      split
      · rfl
      · exact shifted.symm

theorem dropWhile_below (name : String) {rest : List Char} (given : authorityOf rest ≠ []) :
    (below name rest).dropWhile isSlash = below name (rest.dropWhile isSlash) := by
  rw [authorityOf] at given
  cases ends : rest.dropWhile isSlash with
  | nil =>
    rw [ends] at given
    exact absurd rfl given
  | cons c more =>
    have first := List.head?_dropWhile_not isSlash rest
    rw [ends] at first
    have noMark : isSlash c = false := by simpa using first
    have noSlash : c ≠ '/' := by
      rintro rfl
      cases noMark
    have shifted := below_cut name noSlash (rest.takeWhile isSlash) more
    rw [← ends, List.takeWhile_append_dropWhile] at shifted
    have alone : below name (c :: more) = c :: below name more := below_cut name noSlash [] more
    rw [shifted, List.dropWhile_append_of_pos fun _ found => List.mem_takeWhile_imp found,
      List.dropWhile_cons, noMark, alone]
    rfl

theorem authorityOf_below (name : String) {rest : List Char} (given : authorityOf rest ≠ []) :
    authorityOf (below name rest) = authorityOf rest := by
  rw [authorityOf, dropWhile_below name given, (span_plain_below name _).1, authorityOf]

/-! ## The frame -/

theorem cutAt_of_not_mem {mark : Char} {text : List Char} (absent : mark ∉ text) :
    cutAt mark text = (text, none) := by
  cases split : Text.splitFirst mark text with
  | none => rw [cutAt, split]
  | some parts =>
    obtain ⟨rfl, _⟩ := Text.splitFirst_eq_some split
    exact absurd (by simp) absent

theorem not_mem_of_cutAt {mark : Char} {text : List Char} (uncut : (cutAt mark text).2 = none) :
    mark ∉ text := by
  intro found
  obtain ⟨left, right, rfl, absent⟩ := List.eq_append_cons_of_mem found
  rw [cutAt, Text.splitFirst_append absent] at uncut
  cases uncut

theorem cutAt_fst (mark : Char) (text : List Char) :
    (cutAt mark text).1 = text.takeWhile (· ≠ mark) := by
  have other {part : List Char} (absent : mark ∉ part) : ∀ c ∈ part, decide (c ≠ mark) = true := by
    intro c found
    exact decide_eq_true fun same => absent (same ▸ found)
  by_cases found : mark ∈ text
  · obtain ⟨left, right, rfl, absent⟩ := List.eq_append_cons_of_mem found
    rw [cutAt, Text.splitFirst_append absent, List.takeWhile_append_of_pos (other absent)]
    simp
  · rw [cutAt_of_not_mem found, List.takeWhile_eq_self_iff.mpr (other found)]

/-- What is dropped in front is not where the text is cut, so it may be dropped after the cut. -/
theorem dropWhile_takeWhile {p q : Char → Bool} (wider : ∀ c, p c = true → q c = true)
    (text : List Char) : (text.takeWhile q).dropWhile p = (text.dropWhile p).takeWhile q := by
  induction text with
  | nil => rfl
  | cons c rest ih =>
    by_cases drops : p c = true
    · simp [drops, wider c drops, ih]
    · by_cases stays : q c = true <;> simp [drops, stays]

/-- Neither a query nor a fragment reaches into the authority. -/
theorem authorityOf_front (rest : List Char) :
    ((cutAt '?' (cutAt '#' rest).1).1.dropWhile isSlash).takeWhile (!isSlash ·) =
      authorityOf rest := by
  have slashes : ∀ mark : Char, isSlash mark = false →
      ∀ c, isSlash c = true → decide (c ≠ mark) = true := by
    intro mark noSlash c slash
    refine decide_eq_true fun same => ?_
    rw [same, noSlash] at slash
    cases slash
  rw [cutAt_fst, cutAt_fst, dropWhile_takeWhile (slashes '?' rfl),
    dropWhile_takeWhile (slashes '#' rfl), List.takeWhile_takeWhile, List.takeWhile_takeWhile,
    authorityOf]
  congr 1
  funext c
  simp [isPlain, Bool.and_assoc]

/-- All of a URL but its authority. -/
def frameOf (scheme : String) (rest : List Char) : Url where
  scheme
  host := none
  path := pathOf isSlash
    (((cutAt '?' (cutAt '#' rest).1).1.dropWhile isSlash).drop (authorityOf rest).length)
  query := (cutAt '?' (cutAt '#' rest).1).2.map (encode specialQuerySet)
  fragment := (cutAt '#' rest).2.map (encode fragmentSet)

/-- A URL of the web is what stands in its authority, put into the frame of the rest. -/
theorem parse?_web {text scheme : String} {rest : List Char}
    (read : scheme? (strip text.toList) = some (scheme, rest))
    (known : (hostSchemes.lookup scheme).isSome = true) (web : scheme ≠ fileScheme) :
    ∃ isLast : Bool,
      parse? text = (frameOf scheme rest).withAuthority? isLast (authorityOf rest) := by
  unfold parse?
  rw [read]
  simp only [Option.bind_eq_bind, Option.bind_some, web, known, if_false, if_true,
    decide_false, Bool.false_or, authorityOf_front]
  exact ⟨_, rfl⟩

/-- Without a query and a fragment the path is all that follows the authority. -/
theorem frameOf_plain (scheme : String) {rest : List Char} (noQuery : '?' ∉ rest)
    (noFragment : '#' ∉ rest) :
    frameOf scheme rest =
      { scheme, host := none,
        path := pathOf isSlash ((rest.dropWhile isSlash).dropWhile isPlain) } := by
  have path : (rest.dropWhile isSlash).drop (authorityOf rest).length =
      (rest.dropWhile isSlash).dropWhile isPlain := by
    have whole := List.takeWhile_append_dropWhile (p := isPlain) (l := rest.dropWhile isSlash)
    conv => enter [1, 2]; rw [← whole]
    exact List.drop_left
  simp only [frameOf, cutAt_of_not_mem noFragment, cutAt_of_not_mem noQuery, path]
  rfl

/-- An authority gives the same in whatever frame it is put. -/
theorem withAuthority?_frame {frame url : Url} {isLast : Bool} {text : List Char}
    (known : (hostSchemes.lookup frame.scheme).isSome = true)
    (read : frame.withAuthority? isLast text = some url) :
    text ≠ [] ∧ ∀ (other : Url) (isEnd : Bool), other.scheme = frame.scheme →
      other.withAuthority? isEnd text =
        some { url with path := other.path, query := other.query, fragment := other.fragment } := by
  unfold withAuthority? at read ⊢
  simp only [known, Bool.true_or, if_true, Option.bind_eq_bind] at read
  obtain ⟨portNumber, portRead, read⟩ := Option.bind_eq_some_iff.mp read
  by_cases empty : (splitPort false (splitLogin text).2).1.isEmpty = true
  · rw [if_pos empty] at read
    cases read
  · rw [if_neg empty] at read
    obtain ⟨host, hostRead, same⟩ := Option.bind_eq_some_iff.mp read
    cases same
    refine ⟨?_, fun other isEnd same => ?_⟩
    · rintro rfl
      exact empty rfl
    · simp only [same, known, portRead, hostRead, empty, Option.bind_eq_bind, Option.bind_some,
        if_true, Bool.false_eq_true, if_false]

theorem scheme?_cut {text : List Char} {scheme : String} {rest : List Char}
    (read : scheme? text = some (scheme, rest)) :
    ∃ c more, text = c :: more ++ ':' :: rest ∧ c.isAlpha = true ∧
      ∀ other, scheme? (c :: more ++ ':' :: other) = some (scheme, other) := by
  unfold scheme? at read
  cases split : Text.splitFirst ':' text with
  | none =>
    rw [split] at read
    cases read
  | some parts =>
    obtain ⟨name, behind⟩ := parts
    obtain ⟨rfl, absent⟩ := Text.splitFirst_eq_some split
    rw [split] at read
    cases name with
    | nil => cases read
    | cons c more =>
      obtain ⟨legal, same⟩ := Option.ite_none_right_eq_some.mp read
      cases same
      refine ⟨c, more, rfl, (Bool.and_eq_true_iff.mp legal).1, fun other => ?_⟩
      unfold scheme?
      rw [Text.splitFirst_append absent]
      exact if_pos legal

theorem mem_strip {text : List Char} {c : Char} (kept : c ∈ strip text) :
    c ∉ ['\t', '\n', '\r'] := by
  simpa using (List.mem_filter.mp kept).2

/-- Nothing is stripped from a text that has no blank at its ends and no line end or tab. -/
theorem strip_eq_self {first last : Char} {middle : List Char} (before : 0x20 < first.toNat)
    (behind : 0x20 < last.toNat)
    (clean : ∀ c ∈ first :: middle ++ [last], c ∉ ['\t', '\n', '\r']) :
    strip (first :: middle ++ [last]) = first :: middle ++ [last] := by
  have begins : decide (first.toNat ≤ 0x20) = false := decide_eq_false (by omega)
  have ends : ¬ decide (last.toNat ≤ 0x20) = true := by simpa using behind
  have front : (first :: middle ++ [last]).dropWhile (fun c => decide (c.toNat ≤ 0x20)) =
      first :: middle ++ [last] := by
    rw [List.cons_append, List.dropWhile_cons, begins]
    rfl
  have back := List.rdropWhile_concat_neg (fun c : Char => decide (c.toNat ≤ 0x20))
    (first :: middle) last ends
  rw [List.rdropWhile] at back
  rw [strip, front, back, List.filter_eq_self]
  intro c found
  simpa using clean c found

theorem withAuthority?_scheme {frame url : Url} {isLast : Bool} {text : List Char}
    (read : frame.withAuthority? isLast text = some url) : url.scheme = frame.scheme := by
  simp only [withAuthority?, Option.bind_eq_bind] at read
  obtain ⟨portNumber, _, read⟩ := Option.bind_eq_some_iff.mp read
  by_cases empty : (splitPort false (splitLogin text).2).1.isEmpty = true
  · rw [if_pos empty] at read
    obtain ⟨_, same⟩ := Option.ite_none_left_eq_some.mp read
    cases same
    rfl
  · rw [if_neg empty] at read
    by_cases known : (hostSchemes.lookup frame.scheme).isSome = true
    · rw [if_pos known] at read
      obtain ⟨host, _, same⟩ := Option.bind_eq_some_iff.mp read
      cases same
      rfl
    · rw [if_neg known] at read
      obtain ⟨host, _, same⟩ := Option.bind_eq_some_iff.mp read
      cases same
      rfl

theorem ofFile?_scheme {frame url : Url} {text : List Char}
    (read : frame.ofFile? text = some url) : url.scheme = frame.scheme := by
  unfold ofFile? at read
  split at read
  next hostText rest parts =>
  by_cases empty : hostText.isEmpty = true
  · rw [if_pos empty] at read
    cases read
    rfl
  · rw [if_neg empty] at read
    obtain ⟨host, _, same⟩ := Option.bind_eq_some_iff.mp read
    cases same
    rfl

theorem parse?_scheme {text : String} {url : Url} (read : parse? text = some url) :
    ∃ rest, scheme? (strip text.toList) = some (url.scheme, rest) := by
  unfold parse? at read
  obtain ⟨⟨scheme, rest⟩, found, read⟩ := Option.bind_eq_some_iff.mp read
  have same : url.scheme = scheme := by
    dsimp only at read
    split at read
    · exact ofFile?_scheme read
    · split at read
      · exact withAuthority?_scheme read
      · split at read
        · exact withAuthority?_scheme read
        · cases read
          rfl
        · cases read
          rfl
  exact ⟨rest, by rw [same, found]⟩

theorem below_clean {name : String} (segment : IsSegment name) {text : List Char}
    (clean : ∀ c ∈ text, c ∉ ['\t', '\n', '\r']) :
    ∀ c ∈ below name text, c ∉ ['\t', '\n', '\r'] := by
  intro c found
  rw [below, List.mem_append, List.mem_cons] at found
  rcases found with old | rfl | new
  · exact clean c ((List.rdropWhile_prefix _ _).subset old)
  · decide
  · have visible := (segment.clean c new).1
    intro blank
    simp only [List.mem_cons, List.not_mem_nil, or_false] at blank
    rcases blank with rfl | rfl | rfl <;> exact absurd visible (by decide)

theorem below_last {name : String} (segment : IsSegment name) (text : List Char) :
    ∃ front last, below name text = front ++ [last] ∧ 0x20 < last.toNat := by
  rw [below]
  rcases List.eq_nil_or_concat name.toList with empty | ⟨front, last, whole⟩
  · exact ⟨_, '/', by rw [empty], by decide⟩
  · refine ⟨text.rdropWhile (· = '/') ++ '/' :: front, last, by simp [whole], ?_⟩
    exact (segment.clean last (by simp [whole])).1

theorem below_noMark {name : String} (segment : IsSegment name) {mark : Char} {text : List Char}
    (isMark : mark = '?' ∨ mark = '#') (absent : mark ∉ text) : mark ∉ below name text := by
  intro found
  rw [below, List.mem_append, List.mem_cons] at found
  rcases found with old | rfl | new
  · exact absent ((List.rdropWhile_prefix _ _).subset old)
  · rcases isMark with other | other <;> cases other
  · obtain ⟨_, _, noQuery, noFragment⟩ := segment.clean mark new
    exact isMark.elim noQuery noFragment

theorem isAlpha_not_blank {c : Char} (letter : c.isAlpha = true) : 0x20 < c.toNat := by
  have whole : c.toNat = c.val.toNat := rfl
  rcases Bool.or_eq_true_iff.mp letter with upper | lower
  · have least : 65 ≤ c.val.toNat := (of_decide_eq_true upper).1
    omega
  · have least : 97 ≤ c.val.toNat := of_decide_eq_true (Bool.and_eq_true_iff.mp lower).1
    omega

/-- A base URL of the web that has nothing to be stripped. Whatever segment is put behind it, the
text is a URL again, which differs from the base at most in its frame. -/
theorem parse?_below_frame {text : String} {base : Url} (read : parse? text = some base)
    (bare : strip text.toList = text.toList)
    (known : (hostSchemes.lookup base.scheme).isSome = true) (web : base.scheme ≠ fileScheme) :
    ∃ rest, authorityOf rest ≠ [] ∧ base.query = (frameOf base.scheme rest).query ∧
      base.fragment = (frameOf base.scheme rest).fragment ∧
      ∀ name, IsSegment name →
        let frame := frameOf base.scheme (below name rest)
        parse? (String.ofList (below name text.toList)) =
          some { base with
            path := frame.path, query := frame.query, fragment := frame.fragment } := by
  obtain ⟨rest, found⟩ := parse?_scheme read
  obtain ⟨isLast, whole⟩ := parse?_web found known web
  rw [whole] at read
  have knownFrame : (hostSchemes.lookup (frameOf base.scheme rest).scheme).isSome = true := known
  obtain ⟨given, anyFrame⟩ := withAuthority?_frame knownFrame read
  have own := anyFrame (frameOf base.scheme rest) isLast rfl
  rw [read, Option.some.injEq] at own
  have query := congrArg Url.query own
  have fragment := congrArg Url.fragment own
  refine ⟨rest, given, query, fragment, fun name segment => ?_⟩
  rw [bare] at found
  obtain ⟨c, more, same, letter, anyRest⟩ := scheme?_cut found
  have shifted : below name text.toList = c :: more ++ ':' :: below name rest := by
    rw [same, below_cut name (by decide)]
  -- The scheme begins with a letter and the path ends with no blank, so nothing is stripped.
  have stripped : strip (below name text.toList) = below name text.toList := by
    have clean := below_clean segment
      fun c (member : c ∈ text.toList) => mem_strip (bare.symm ▸ member)
    obtain ⟨front, last, ends, visible⟩ := below_last segment rest
    have spelt : below name text.toList = c :: (more ++ ':' :: front) ++ [last] := by
      rw [shifted, ends]
      simp
    rw [spelt] at clean ⊢
    exact strip_eq_self (isAlpha_not_blank letter) visible clean
  have foundBelow : scheme? (strip (String.ofList (below name text.toList)).toList) =
      some (base.scheme, below name rest) := by
    rw [String.toList_ofList, stripped, shifted, anyRest]
  obtain ⟨isEnd, wholeBelow⟩ := parse?_web foundBelow known web
  rw [wholeBelow, authorityOf_below name given]
  exact anyFrame _ isEnd rfl

/-- Behind a base without a query and a fragment the segment stands in the folder of the base. -/
theorem parse?_below_plain {text : String} {base : Url} (read : parse? text = some base)
    (bare : strip text.toList = text.toList)
    (known : (hostSchemes.lookup base.scheme).isSome = true) (web : base.scheme ≠ fileScheme)
    (noQuery : base.query = none) (noFragment : base.fragment = none) :
    ∃ folder : List String, ∀ name, IsSegment name →
      parse? (String.ofList (below name text.toList)) =
        some { base with path := .segments (folder ++ [name]) } := by
  obtain ⟨rest, given, query, fragment, anyName⟩ := parse?_below_frame read bare known web
  rw [noFragment] at fragment
  have unmarked := not_mem_of_cutAt (Option.map_eq_none_iff.mp fragment.symm)
  rw [noQuery, frameOf, cutAt_of_not_mem unmarked] at query
  have unasked := not_mem_of_cutAt (Option.map_eq_none_iff.mp query.symm)
  obtain ⟨folder, placed⟩ := pathOf_below ((rest.dropWhile isSlash).dropWhile isPlain)
  refine ⟨folder, fun name segment => ?_⟩
  have plain := frameOf_plain base.scheme (below_noMark segment (.inl rfl) unasked)
    (below_noMark segment (.inr rfl) unmarked)
  rw [anyName name segment, plain, dropWhile_below name given, (span_plain_below name _).2,
    placed name segment, noQuery, noFragment]

/-- The text of a base without the slashes at its end. -/
structure WithoutSlashes (base bare : String) : Prop where
  slashes : ∃ n, base.toList = bare.toList ++ List.replicate n '/'
  ends : bare.toList.getLast? ≠ some '/'

theorem WithoutSlashes.toList_eq {base bare : String} (without : WithoutSlashes base bare) :
    bare.toList = base.toList.rdropWhile (· = '/') := by
  obtain ⟨⟨n, whole⟩, ends⟩ := without
  have kept : bare.toList.rdropWhile (· = '/') = bare.toList := by
    rw [List.rdropWhile_eq_self_iff]
    intro given slash
    rw [List.getLast?_eq_some_getLast given, of_decide_eq_true slash] at ends
    exact ends rfl
  rw [whole]
  clear whole
  induction n with
  | zero => rw [List.replicate_zero, List.append_nil, kept]
  | succ n ih =>
    rw [List.replicate_succ', ← List.append_assoc, List.rdropWhile_concat_pos _ _ _ rfl, ← ih]

theorem exists_withoutSlashes (base : String) : ∃ bare, WithoutSlashes base bare := by
  refine ⟨String.ofList (base.toList.rdropWhile (· = '/')), ?_, ?_⟩
  · have slashes : ∀ c ∈ base.toList.rtakeWhile (· = '/'), c = '/' := by
      intro c found
      simpa using List.mem_rtakeWhile_imp found
    refine ⟨(base.toList.rtakeWhile (· = '/')).length, ?_⟩
    rw [String.toList_ofList, ← List.eq_replicate_of_mem slashes,
      List.rdropWhile_append_rtakeWhile]
  · rw [String.toList_ofList]
    intro last
    have given : base.toList.rdropWhile (· = '/') ≠ [] := by
      intro none
      rw [none] at last
      cases last
    rw [List.getLast?_eq_some_getLast given, Option.some.injEq] at last
    exact List.rdropWhile_last_not _ _ given (decide_eq_true last)

/-- A text below the base is the bare text, a slash and the name. -/
theorem WithoutSlashes.below_eq {base bare : String} (without : WithoutSlashes base bare)
    (name : String) : String.ofList (below name base.toList) = bare ++ ("/" ++ name) := by
  rw [← String.toList_inj, String.toList_ofList, below, ← without.toList_eq]
  simp

/-- The URL of the messages below a base: of the text without the slashes at its end and the path
behind it. It is on the server of the base, and unless the base has a query or a fragment the
messages are in its folder. -/
structure IsTarget (baseUrl : String) (base target : Url) : Prop where
  server : ∃ path query fragment, target = { base with path, query, fragment }
  place : ∃ bare, WithoutSlashes baseUrl bare ∧ parse? (bare ++ "/messages") = some target ∧
    (base.query = none → base.fragment = none → ∃ folder,
      target = { base with path := .segments (folder ++ ["messages"]) } ∧
      parse? (bare ++ "/") = some { base with path := .segments (folder ++ [""]) })

theorem exists_target {text : String} {base : Url} (read : parse? text = some base)
    (bare : strip text.toList = text.toList)
    (known : (hostSchemes.lookup base.scheme).isSome = true) (web : base.scheme ≠ fileScheme) :
    ∃ target, IsTarget text base target := by
  obtain ⟨front, without⟩ := exists_withoutSlashes text
  obtain ⟨_, _, _, _, anyName⟩ := parse?_below_frame read bare known web
  have parsed := anyName "messages" isSegment_messages
  rw [without.below_eq] at parsed
  refine ⟨_, ⟨_, _, _, rfl⟩, front, without, parsed, fun noQuery noFragment => ?_⟩
  obtain ⟨folder, placed⟩ := parse?_below_plain read bare known web noQuery noFragment
  have here := placed "messages" isSegment_messages
  have there := placed "" isSegment_empty
  rw [without.below_eq] at here there
  exact ⟨folder, Option.some.inj (parsed.symm.trans here), there⟩

/-- The login is left out whatever the path is. -/
theorem withoutLogin_frame (url : Url) (path : Path) (query fragment : Option String) :
    withoutLogin { url with path, query, fragment } =
      { url.withoutLogin with path, query, fragment } := by
  unfold withoutLogin
  by_cases removed : (isReadable url.user &&
      (url.user ≠ "" || (url.password ≠ "" && isReadable url.password))) = true
  · simp only [removed, if_true]
  · simp only [removed, Bool.false_eq_true, if_false]

/-- Nothing but the login is ever left out. -/
theorem withoutLogin_cases (url : Url) :
    url.withoutLogin = url ∨ url.withoutLogin = { url with user := "", password := "" } := by
  simp only [withoutLogin]
  split
  · exact .inr rfl
  · exact .inl rfl

theorem withoutLogin_scheme (url : Url) : url.withoutLogin.scheme = url.scheme := by
  rcases url.withoutLogin_cases with same | bare
  · rw [same]
  · rw [bare]

/-- Whether a request can be sent is a matter of the server and of the length. -/
theorem isSendable_frame {url : Url} {path : Path} {query fragment : Option String}
    (sendable : Request.isSendable url = true)
    (short : ({ url with path, query, fragment } : Url).text.utf8ByteSize ≤ Request.longestUrl) :
    Request.isSendable { url with path, query, fragment } = true := by
  simp only [Request.isSendable, Bool.and_eq_true] at sendable ⊢
  exact ⟨sendable.1, decide_eq_true short⟩

end Http.Url

namespace Provider

/-- Settings with which requests can be sent. The base URL is one to which a request can be sent as
it is written, the URL below it is not too long, and the texts for the headers may stand in them. -/
structure IsValid (provider : Provider) (base : Http.Url) : Prop where
  read : Http.Url.parse? provider.baseUrl = some base
  bare : Http.Url.strip provider.baseUrl.toList = provider.baseUrl.toList
  hosted : base.hasHost = true
  sendable : Http.Request.isSendable base.withoutLogin = true
  short : ∀ target, Http.Url.IsTarget provider.baseUrl base target →
    target.withoutLogin.text.utf8ByteSize ≤ Http.Request.longestUrl
  key : Http.isHeaderValue provider.apiKey = true
  version : Http.isHeaderValue provider.version = true

variable {provider : Provider} {base : Http.Url}

theorem messagesUrl_eq {bare : String} (without : Http.Url.WithoutSlashes provider.baseUrl bare) :
    provider.messagesUrl = bare ++ "/messages" := by
  rw [messagesUrl, ← String.toList_inj, String.toList_append, String.toList_append,
    without.toList_eq, String.toList_ofList, List.rdropWhile]

theorem IsValid.headers (valid : provider.IsValid base) (streamed : Bool) :
    (provider.headers streamed).all (Http.isHeaderValue ·.value) = true := by
  have json : Http.isHeaderValue "application/json" = true := by decide
  have events : Http.isHeaderValue "text/event-stream" = true := by decide
  cases streamed <;> simp [Provider.headers, valid.key, valid.version, json, events]

/-- A request can be made of every messages request. It goes to the messages below the base URL. -/
theorem IsValid.post (valid : provider.IsValid base) :
    ∃ target, Http.Url.IsTarget provider.baseUrl base target ∧
      ∀ (streamed : Bool) (request : Messages.Request),
        provider.post streamed request =
          .ok ⟨"POST", target.withoutLogin, provider.headers streamed, request.toJson.text⟩ := by
  have web : base.scheme = "http" ∨ base.scheme = "https" := by
    have sendable := valid.sendable
    simp only [Http.Request.isSendable, Bool.and_eq_true, decide_eq_true_eq,
      Http.Url.withoutLogin_scheme] at sendable
    simpa using sendable.1.1
  have known : (Http.Url.hostSchemes.lookup base.scheme).isSome = true := by
    rcases web with web | web <;> rw [web] <;> rfl
  have noFile : base.scheme ≠ Http.Url.fileScheme := by
    rcases web with web | web <;> rw [web] <;> decide
  obtain ⟨target, isTarget⟩ := Http.Url.exists_target valid.read valid.bare known noFile
  have short := valid.short target isTarget
  refine ⟨target, isTarget, fun streamed request => ?_⟩
  obtain ⟨⟨path, query, fragment, rfl⟩, bare, without, read, _⟩ := isTarget
  rw [← messagesUrl_eq without] at read
  have bareUrl := base.withoutLogin_frame path query fragment
  have sendable :
      Http.Request.isSendable { base.withoutLogin with path, query, fragment } = true := by
    refine Http.Url.isSendable_frame valid.sendable ?_
    rwa [← bareUrl]
  have hosted : Http.Url.hasHost { base with path, query, fragment } = true := valid.hosted
  simp [Provider.post, Http.Request.build, read, hosted, valid.headers streamed, bareUrl, sendable]
  rfl

end Provider

end ChatGateway
