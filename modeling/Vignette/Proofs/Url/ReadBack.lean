import Vignette.Proofs.Url.Authority

/-!
# URLs read back from their text

A URL is written by putting its parts together, and read back where these are found again. The parts that
the reader leaves are (`Url.Settled`), and a URL of such parts is read back if nothing is stripped off its
end (`Settled.readsBack`); nothing is where it has a query.

There are two things that the reader does not see to (`Url.Steady`). What it makes of a host may be
another host when it is read again: that is up to the rules for domain names. And it looks for a drive at
the beginning of a file's path before it takes off the empty segments there, so that a drive behind these
is found only the next time (`drive_not_read_back`).

Main statement: **apart from these, what is read is read back, whatever value a name is given in its
query** (`readsBack_withParameter`).
-/

namespace Vignette.Url

/-! ## 1. Settled URLs -/

/-- The URL is read back from its own text. -/
def ReadsBack (u : Url) : Prop := parse u.text = .ok u

instance (u : Url) : Decidable u.ReadsBack := inferInstanceAs (Decidable (_ = _))

/-- The host and the path of a file as their reader leaves them, if the host is read as it stands and no
    drive was overlooked. -/
structure FileSettled (host : Host) (parts : List (List Char)) : Prop where
  closed : host.Closed true
  back : host ≠ .named [] → host.ReadsBack true ∧ host ≠ .named "localhost".toList
  segments : ∀ part ∈ parts, IsSegment true part
  ne_nil : parts ≠ []
  trimmed : parts.head? = some [] → parts = [[]]
  drive : ∀ s ∈ parts.head?, isDrive s = true → s.getLast? = some ':' ∧ host = .named []

/-- A URL as its reader leaves it: with an authority, with the path of a file, or without an authority and
    with segments or plain text for a path. -/
inductive Settled : Url → Prop
  | seated {scheme : List Char} {type : SchemeType} {a : Authority} {parts : List (List Char)}
      {query fragment : Option (List Char)} (hscheme : IsScheme scheme) (htype : schemeType scheme = type)
      (hfile : type ≠ .file) (ha : a.Settled (type != .other) (defaultPort? scheme))
      (hparts : ∀ part ∈ parts, IsSegment (type != .other) part) (hne : type = .special → parts ≠ [])
      (hend : Ended type query fragment) :
      Settled ⟨scheme, a.username, a.password, some a.host, a.port, .segments parts, query, fragment⟩
  | file {scheme : List Char} {host : Host} {parts : List (List Char)} {query fragment : Option (List Char)}
      (hscheme : IsScheme scheme) (htype : schemeType scheme = .file) (hfile : FileSettled host parts)
      (hend : Ended .file query fragment) :
      Settled ⟨scheme, [], [], some host, none, .segments parts, query, fragment⟩
  | rooted {scheme : List Char} {parts : List (List Char)} {query fragment : Option (List Char)}
      (hscheme : IsScheme scheme) (htype : schemeType scheme = .other)
      (hparts : ∀ part ∈ parts, IsSegment false part) (hne : parts ≠ []) (hend : Ended .other query fragment) :
      Settled ⟨scheme, [], [], none, none, .segments parts, query, fragment⟩
  | plain {scheme path : List Char} {query fragment : Option (List Char)} (hscheme : IsScheme scheme)
      (htype : schemeType scheme = .other) (hpath : Free isControl path) (hmark : Unmarked path)
      (hslash : ∀ c ∈ path.head?, c ≠ '/') (hend : Ended .other query fragment) :
      Settled ⟨scheme, [], [], none, none, .plain path, query, fragment⟩

/-! ## 2. Reading the text -/

section Text

variable {u : Url} {scheme rest : List Char} {type : SchemeType} {parts : List (List Char)}

/-- The two slashes and the authority behind them, if there is one. -/
def seatText (u : Url) : List Char :=
  match u.host with
  | none => []
  | some h => ['/', '/'] ++ authorityText u h

/-- What stands behind the colon of a URL's scheme. -/
def behindScheme (u : Url) : List Char := u.seatText ++ (u.pathText ++ (u.queryText ++ u.fragmentText))

theorem frontText_eq (u : Url) : u.frontText = u.scheme ++ ':' :: (u.seatText ++ u.pathText) := rfl

theorem chars_eq_scheme (u : Url) : u.chars = u.scheme ++ ':' :: u.behindScheme := by
  rw [chars_eq, frontText_eq, behindScheme, List.append_assoc, List.cons_append, List.append_assoc]

/-- What is read behind the colon of a scheme. -/
def readBehindScheme (scheme s : List Char) : Except ParseError Url :=
  match schemeType scheme with
  | .file => readFile scheme s
  | .special => readWithAuthority .special scheme (s.dropWhile (isSlash true))
  | .other => readOther scheme s

theorem parse_of_takeScheme? {input : String} (h : takeScheme? (strip input.toList) = some (scheme, rest)) :
    parse input = readBehindScheme scheme rest := by
  unfold parse
  split
  · rename_i heq
    rw [h] at heq
    cases heq
  · rename_i heq
    rw [h] at heq
    cases heq
    rfl

/-- What is read of a URL's text behind its scheme. -/
theorem parse_text (hscheme : IsScheme u.scheme) (hstrip : strip u.chars = u.chars) :
    parse u.text = readBehindScheme u.scheme u.behindScheme := by
  refine parse_of_takeScheme? ?_
  rw [text, String.toList_ofList, hstrip, chars_eq_scheme, takeScheme?_append hscheme]

theorem authorityText_eq (u : Url) (host : Host) :
    u.authorityText host = Authority.text ⟨u.username, u.password, host, u.port⟩ := by
  rw [authorityText, Authority.text, List.append_assoc]
  rfl

/-- Behind the scheme of a URL with an authority stand two slashes, and then that. -/
theorem behindScheme_of_host {host : Host} (hhost : u.host = some host) (hpath : u.path = .segments parts) :
    u.behindScheme = '/' :: '/' :: (Authority.text ⟨u.username, u.password, host, u.port⟩ ++
      (segmentsText parts ++ (u.queryText ++ u.fragmentText))) := by
  have hsegments : u.pathText = segmentsText parts := by
    rw [pathText, hpath, hhost]
    cases parts with
    | nil => rfl
    | cons first others =>
      cases first with
      | nil => cases others <;> rfl
      | cons c first => rfl
  have hseat : u.seatText = '/' :: '/' :: u.authorityText host := by rw [seatText, hhost]; rfl
  rw [behindScheme, hseat, hsegments, authorityText_eq, List.cons_append, List.cons_append]

theorem behindScheme_of_no_host (hhost : u.host = none) :
    u.behindScheme = u.pathText ++ (u.queryText ++ u.fragmentText) := by
  have hseat : u.seatText = [] := by rw [seatText, hhost]
  rw [behindScheme, hseat, List.nil_append]

/-- Segments begin with a slash, and what stands behind them with a mark. -/
theorem head_segmentsText (special : Bool) (hrest : ∀ c ∈ rest.head?, endsPath c = true) :
    ∀ c ∈ (segmentsText parts ++ rest).head?, endsAuthority special c = true := by
  intro c hc
  cases parts with
  | nil => exact Bool.or_eq_true_iff.mpr (.inr (hrest c hc))
  | cons part parts =>
    obtain rfl := Option.some.inj hc
    cases special <;> rfl

/-- The segments behind an authority, and the rest: in a special scheme there is at least one. -/
def takePath (type : SchemeType) (s : List Char) : List (List Char) × List Char :=
  if type != .other then takeSegments type (dropSlash (type != .other) s)
  else
    match s with
    | [] => ([], [])
    | c :: _ => if endsPath c then ([], s) else takeSegments type (dropSlash (type != .other) s)

/-- What is read of a URL with an authority is that, then segments, and then a query and a fragment. -/
theorem readWithAuthority_eq (type : SchemeType) (scheme s : List Char) : readWithAuthority type scheme s =
    (readAuthority (type != .other) (defaultPort? scheme) s).map fun (a, s) =>
      ⟨scheme, a.username, a.password, some a.host, a.port, .segments (takePath type s).1,
        (readEnd type (takePath type s).2).1, (readEnd type (takePath type s).2).2⟩ := by
  unfold readWithAuthority
  dsimp only
  cases readAuthority (type != .other) (defaultPort? scheme) s with
  | error e => rfl
  | ok read => rfl

/-- Segments behind an authority are found again. -/
theorem takePath_append (hfile : type ≠ .file) (hparts : ∀ part ∈ parts, IsSegment (type != .other) part)
    (hne : type = .special → parts ≠ []) (hrest : ∀ c ∈ rest.head?, endsPath c = true) :
    takePath type (segmentsText parts ++ rest) = (parts, rest) := by
  have hsegments (h : parts ≠ []) := takeSegments_append h hparts (fun h => absurd h hfile) hrest
  unfold takePath
  cases type with
  | file => exact absurd rfl hfile
  | special => exact hsegments (hne rfl)
  | other =>
    rw [if_neg (by decide)]
    cases parts with
    | nil =>
      cases rest with
      | nil => rfl
      | cons c rest =>
        show (if endsPath c = true then ([], c :: rest) else _) = _
        rw [if_pos (hrest c rfl)]
    | cons part parts => exact hsegments (List.cons_ne_nil part parts)

/-- The slashes in front of an authority in a special scheme are no more than those. -/
theorem dropWhile_slashes {a : Authority} {default : Option Nat} (ha : a.Settled true default) (rest : List Char) :
    ('/' :: '/' :: (a.text ++ rest)).dropWhile (isSlash true) = a.text ++ rest := by
  have hne : a.text ≠ [] := by
    intro hnil
    obtain ⟨-, hnil⟩ := List.append_eq_nil_iff.mp hnil
    have hhost := Host.eq_of_text_eq_nil (List.append_eq_nil_iff.mp hnil).1
    exact absurd (ha.alone hhost).1 Bool.noConfusion
  obtain ⟨c, text, htext⟩ := List.exists_cons_of_ne_nil hne
  have hslash : isSlash true c = false :=
    (Bool.or_eq_false_iff.mp (free_cons.mp (htext ▸ ha.free_text)).1).1
  rw [htext, List.dropWhile_cons_of_pos rfl, List.dropWhile_cons_of_pos rfl]
  exact dropWhile_of_head fun d hd => Option.some.inj hd ▸ hslash

/-- **What stands behind the two slashes of a URL with an authority is read back.** -/
theorem readWithAuthority_append {a : Authority} (ha : a.Settled (type != .other) (defaultPort? scheme))
    (hfile : type ≠ .file) (hparts : ∀ part ∈ parts, IsSegment (type != .other) part)
    (hne : type = .special → parts ≠ []) (hend : Ended type u.query u.fragment) :
    readWithAuthority type scheme (a.text ++ (segmentsText parts ++ (u.queryText ++ u.fragmentText))) =
      .ok ⟨scheme, a.username, a.password, some a.host, a.port, .segments parts, u.query, u.fragment⟩ := by
  rw [readWithAuthority_eq, readAuthority_append ha (head_segmentsText _ u.head_end)]
  dsimp only [Except.map]
  rw [takePath_append hfile hparts hne u.head_end, readEnd_append hend]

/-- Where no empty segment stands in front of others, none is taken off. -/
theorem trimSegments_of_head (h : parts.head? = some [] → parts = [[]]) (hne : parts ≠ []) :
    trimSegments parts = parts := by
  cases parts with
  | nil => exact absurd rfl hne
  | cons part parts =>
    cases part with
    | nil =>
      rw [h rfl]
      rfl
    | cons c part => rfl

/-- The host of a file's URL is found again. -/
theorem readFileHost_append {host : Host} (h : FileSettled host parts)
    (hrest : ∀ c ∈ rest.head?, endsAuthority true c = true) :
    readFileHost (host.text ++ rest) = .ok (host, dropSlash true rest) := by
  have hfree : Free (endsAuthority true) host.text :=
    h.closed.free.mono fun _ hc => (Bool.or_eq_false_iff.mp hc).2
  have hspan : (host.text ++ rest).span (fun c => !endsAuthority true c) = (host.text, rest) :=
    span_of_free hfree hrest
  unfold readFileHost
  rw [hspan]
  dsimp only
  rw [if_neg (by rw [h.closed.not_isDrive]; exact Bool.false_ne_true)]
  by_cases hempty : host = .named []
  · rw [hempty]
    rfl
  · obtain ⟨hread, hlocal⟩ := h.back hempty
    have htext : ¬ host.text.isEmpty = true := fun h => hempty (Host.eq_of_text_eq_nil (List.isEmpty_iff.mp h))
    have hread : Host.readDomain host.text = .ok host := hread
    rw [if_neg htext, hread]
    show Except.ok (if host = .named "localhost".toList then _ else host, _) = _
    rw [if_neg hlocal]

/-- A drive takes no host away where there is none. -/
theorem FileSettled.host_kept {host : Host} (h : FileSettled host parts) :
    (if parts.head?.any isDrive then Host.named [] else host) = host := by
  split
  · rename_i hany
    obtain ⟨part, hpart, hd⟩ := (Option.any_eq_true ..).mp hany
    exact (h.drive part hpart hd).2.symm
  · rfl

/-- **What stands behind the two slashes of a file's URL is read back.** -/
theorem readFile_append {host : Host} (h : FileSettled host parts) (hend : Ended .file u.query u.fragment) :
    readFile scheme ('/' :: '/' :: (host.text ++ (segmentsText parts ++ (u.queryText ++ u.fragmentText)))) =
      .ok ⟨scheme, [], [], some host, none, .segments parts, u.query, u.fragment⟩ := by
  have hsegments : takeSegments .file (dropSlash true (segmentsText parts ++ (u.queryText ++ u.fragmentText))) =
      (parts, u.queryText ++ u.fragmentText) :=
    takeSegments_append h.ne_nil h.segments (fun _ s hs hd => (h.drive s hs hd).1) u.head_end
  show (readFileHost _).bind (fun read => readBehindFileHost scheme read.1 read.2) = _
  rw [readFileHost_append h (head_segmentsText true u.head_end)]
  show readBehindFileHost scheme host _ = _
  unfold readBehindFileHost
  rw [hsegments]
  dsimp only
  rw [h.host_kept, readEnd_append hend, trimSegments_of_head h.trimmed h.ne_nil]

/-- A path behind a scheme has no second slash, but for the point that keeps it from an authority. -/
theorem readOther_slash (hrest : ∀ c ∈ rest.head?, c ≠ '/') : readOther scheme ('/' :: rest) =
    .ok ⟨scheme, [], [], none, none, .segments (takeSegments .other rest).1,
      (readEnd .other (takeSegments .other rest).2).1, (readEnd .other (takeSegments .other rest).2).2⟩ := by
  unfold readOther
  split
  · rename_i heq
    cases heq
    exact absurd rfl (hrest '/' rfl)
  · rename_i heq
    cases heq
    rfl
  · rename_i hne
    exact absurd rfl (hne rest)

/-- A point in front of segments that keeps the first, empty one from an authority goes when it is read. -/
theorem takeSegments_point {part : List Char} (hparts : ∀ p ∈ [] :: part :: parts, IsSegment false p)
    (hrest : ∀ c ∈ rest.head?, endsPath c = true) :
    takeSegments .other ('.' :: (segmentsText ([] :: part :: parts) ++ rest)) = ([] :: part :: parts, rest) := by
  have hmark : Unmarked ('.' :: segmentsText ([] :: part :: parts)) :=
    unmarked_cons.mpr ⟨by decide, unmarked_segmentsText (unmarked_of_isSegment hparts)⟩
  have hsplit : splitSlashes false ('.' :: segmentsText ([] :: part :: parts)) = ['.'] :: [] :: part :: parts :=
    splitSlashes_append (free_cons.mpr ⟨by decide, free_nil⟩)
      (splitSlashes_segmentsText fun p hp => (hparts p hp).slash)
  have hgone : addSegments .other [] (['.'] :: [] :: part :: parts) = addSegments .other [] ([] :: part :: parts) := by
    rw [addSegments, if_neg (by decide), if_pos (by decide)]
  rw [← List.cons_append, takeSegments_of_unmarked hmark hrest]
  show (addSegments .other [] (splitSlashes false _), rest) = _
  have hkept : addSegments .other [] ([] :: part :: parts) = [] ++ ([] :: part :: parts) :=
    addSegments_of_isSegment hparts fun _ h => absurd h (by decide)
  rw [hsplit, hgone, hkept, List.nil_append]

/-- **What stands behind the colon of a URL without an authority is read back**: segments. -/
theorem readOther_segments (hparts : ∀ part ∈ parts, IsSegment false part) (hne : parts ≠ [])
    (hend : Ended .other u.query u.fragment) (hhost : u.host = none) (hpath : u.path = .segments parts) :
    readOther scheme (u.pathText ++ (u.queryText ++ u.fragmentText)) =
      .ok ⟨scheme, [], [], none, none, .segments parts, u.query, u.fragment⟩ := by
  have hsegments : takeSegments .other (dropSlash false (segmentsText parts ++ (u.queryText ++ u.fragmentText))) =
      (parts, u.queryText ++ u.fragmentText) :=
    takeSegments_append hne hparts nofun u.head_end
  have hread := readEnd_append hend
  have hmark : ∀ c ∈ (u.queryText ++ u.fragmentText).head?, c ≠ '/' := by
    rintro _ hc rfl
    exact absurd (u.head_end '/' hc) (by decide)
  cases parts with
  | nil => exact absurd rfl hne
  | cons first others =>
    cases first with
    | nil =>
      cases others with
      | nil =>
        have htext : u.pathText = ['/'] := by rw [pathText, hpath]; rfl
        have hfound : takeSegments .other (u.queryText ++ u.fragmentText) = _ := hsegments
        rw [htext, List.singleton_append, readOther_slash hmark, hfound, hread]
      | cons part parts =>
        have htext : u.pathText = '/' :: '.' :: segmentsText ([] :: part :: parts) := by
          rw [pathText, hpath, hhost]
          rfl
        have hpoint : ∀ c ∈ ('.' :: (segmentsText ([] :: part :: parts) ++ (u.queryText ++ u.fragmentText))).head?,
            c ≠ '/' := by
          intro c hc
          rw [← Option.some.inj hc]
          decide
        rw [htext, List.cons_append, List.cons_append, readOther_slash hpoint,
          takeSegments_point hparts u.head_end, hread]
    | cons c first =>
      have htext : u.pathText = '/' :: (c :: first ++ segmentsText others) := by rw [pathText, hpath]; rfl
      have hfirst : ∀ d ∈ (c :: first ++ segmentsText others ++ (u.queryText ++ u.fragmentText)).head?, d ≠ '/' := by
        intro d hd
        rw [← Option.some.inj hd]
        rintro rfl
        exact absurd (free_cons.mp (hparts _ List.mem_cons_self).slash).1 (by decide)
      have hfound : takeSegments .other (c :: first ++ segmentsText others ++ (u.queryText ++ u.fragmentText)) = _ :=
        hsegments
      rw [htext, List.cons_append, readOther_slash hfirst, hfound, hread]

/-- The same of plain text. -/
theorem readOther_plain {path : List Char} (hpath : Free isControl path) (hmark : Unmarked path)
    (hslash : ∀ c ∈ path.head?, c ≠ '/') (hend : Ended .other u.query u.fragment) :
    readOther scheme (path ++ (u.queryText ++ u.fragmentText)) =
      .ok ⟨scheme, [], [], none, none, .plain path, u.query, u.fragment⟩ := by
  have hspan : (path ++ (u.queryText ++ u.fragmentText)).span (fun c => !endsPath c) =
      (path, u.queryText ++ u.fragmentText) := span_of_free hmark u.head_end
  have hother : ∀ rest, path ++ (u.queryText ++ u.fragmentText) ≠ '/' :: rest := by
    intro rest heq
    cases path with
    | nil =>
      have hhead : '/' ∈ (u.queryText ++ u.fragmentText).head? := by
        rw [show u.queryText ++ u.fragmentText = '/' :: rest from heq]
        rfl
      exact absurd (u.head_end '/' hhead) (by decide)
    | cons c path =>
      rw [List.cons_append, List.cons.injEq] at heq
      exact hslash c rfl heq.1
  unfold readOther
  split
  · rename_i heq
    exact absurd heq (hother _)
  · rename_i heq
    exact absurd heq (hother _)
  · rw [hspan]
    dsimp only
    rw [readEnd_append hend, percentEncode_of_free hpath]

end Text

/-! ## 3. Reading a settled URL back -/

section Settled

variable {u : Url}

theorem Settled.isScheme (h : Settled u) : IsScheme u.scheme := by
  cases h <;> assumption

/-- There are no breaks in segments that stay. -/
theorem free_break_pathText {special : Bool} {parts : List (List Char)}
    (h : ∀ part ∈ parts, IsSegment special part) (hpath : u.path = .segments parts) : Free isBreak u.pathText := by
  have hsegments : Free isBreak (segmentsText parts) := by
    intro c hc
    obtain ⟨part, hpart, hc⟩ := List.mem_flatMap.mp hc
    rcases List.mem_cons.mp hc with rfl | hc
    · rfl
    · exact isBreak_of_not_isControl (isControl_of_not_inPathSet ((h part hpart).free c hc))
  unfold pathText
  split <;> rename_i heq <;> rw [hpath] at heq
  · cases heq
  · cases heq
    refine free_append.mpr ⟨?_, hsegments⟩
    split <;> simp [isBreak]
  · cases heq
    exact hsegments

/-- There are no breaks in the path of a settled URL. -/
theorem Settled.free_break_pathText (h : Settled u) : Free isBreak u.pathText := by
  cases h with
  | plain _ _ hpath => exact hpath.mono fun _ => isBreak_of_not_isControl
  | seated _ _ _ _ hparts => exact free_break_pathText hparts rfl
  | file _ _ hfile => exact free_break_pathText hfile.segments rfl
  | rooted _ _ hparts => exact free_break_pathText hparts rfl

/-- There are no breaks in the authority of a settled URL. -/
theorem Settled.free_break_authorityText (h : Settled u) {host : Host} (hhost : u.host = some host) :
    Free isBreak (u.authorityText host) := by
  rw [authorityText_eq]
  cases h with
  | seated _ _ _ ha =>
    obtain rfl := Option.some.inj hhost
    exact ha.free_break
  | file _ _ hfile =>
    obtain rfl := Option.some.inj hhost
    exact free_append.mpr ⟨free_nil, free_append.mpr ⟨hfile.closed.free_break, free_nil⟩⟩
  | rooted => cases hhost
  | plain => cases hhost

theorem Settled.ended (h : Settled u) : ∃ type, Ended type u.query u.fragment := by
  cases h <;> exact ⟨_, by assumption⟩

/-- A settled URL has no breaks in it. -/
theorem Settled.free_break (h : Settled u) : Free isBreak u.chars := by
  have hscheme : Free isBreak u.scheme := h.isScheme.free_margin.mono fun _ => isBreak_of_not_isMargin
  obtain ⟨type, hend⟩ := h.ended
  have hrest : Free isBreak (u.queryText ++ u.fragmentText) := hend.free_margin.mono fun _ => isBreak_of_not_isMargin
  rw [chars_eq_scheme, free_append, free_cons, behindScheme, free_append, free_append]
  refine ⟨hscheme, rfl, ?_, h.free_break_pathText, hrest⟩
  unfold seatText
  split
  · exact free_nil
  · rename_i host hhost
    exact free_append.mpr ⟨by simp [isBreak], h.free_break_authorityText hhost⟩

/-- **A settled URL is read back from its text**, unless something is stripped off the end. -/
theorem Settled.readsBack (h : Settled u) (hlast : ∀ c ∈ u.chars.getLast?, isMargin c = false) : u.ReadsBack := by
  have hhead : ∀ c ∈ u.chars.head?, isMargin c = false := by
    obtain ⟨d, hd, -⟩ := h.isScheme.head
    have hin : d ∈ u.scheme := List.mem_of_mem_head? hd
    intro c hc
    rw [chars_eq_scheme, List.head?_append, Option.mem_def.mp hd] at hc
    obtain rfl := Option.some.inj hc
    exact h.isScheme.free_margin d hin
  have hparse := parse_text h.isScheme (strip_of_free hhead hlast h.free_break)
  rw [ReadsBack, hparse, readBehindScheme]
  cases h with
  | @seated scheme type a parts query fragment hscheme htype hfile ha hparts hne hend =>
    have hread := readWithAuthority_append (u := ⟨scheme, [], [], none, none, .segments parts, query, fragment⟩)
      ha hfile hparts hne hend
    rw [behindScheme_of_host rfl rfl]
    dsimp only
    rw [htype]
    cases type with
    | file => exact absurd rfl hfile
    | special =>
      dsimp only
      rw [dropWhile_slashes ha]
      exact hread
    | other => exact hread
  | @file scheme host parts query fragment hscheme htype hfile hend =>
    have htext : Authority.text ⟨[], [], host, none⟩ = host.text := List.append_nil _
    rw [behindScheme_of_host rfl rfl]
    dsimp only
    rw [htype, htext]
    exact readFile_append (u := ⟨scheme, [], [], none, none, .segments parts, query, fragment⟩) hfile hend
  | rooted hscheme htype hparts hne hend =>
    rw [behindScheme_of_no_host rfl]
    dsimp only
    rw [htype]
    exact readOther_segments hparts hne hend rfl rfl
  | plain hscheme htype hpath hmark hslash hend =>
    rw [behindScheme_of_no_host rfl]
    dsimp only
    rw [htype]
    exact readOther_plain hpath hmark hslash hend

end Settled

/-! ## 4. What is read is settled -/

/-- The first segment of a path that has segments. -/
def Path.first? : Path → Option (List Char)
  | .plain _ => none
  | .segments parts => parts.head?

/-- What the reader does not see to by itself: the host is read as it stands, and a drive in front of a
    file's path has its colon and no host before it. -/
structure Steady (u : Url) : Prop where
  host : ∀ h ∈ u.host, h ≠ .named [] → h.ReadsBack (schemeType u.scheme != .other)
  drive : schemeType u.scheme = .file → ∀ s ∈ u.path.first?, isDrive s = true →
    s.getLast? = some ':' ∧ u.host = some (.named [])

instance (u : Url) : Decidable u.Steady :=
  decidable_of_iff
    ((∀ h ∈ u.host, h ≠ .named [] → h.ReadsBack (schemeType u.scheme != .other)) ∧
      (schemeType u.scheme = .file → ∀ s ∈ u.path.first?, isDrive s = true →
        s.getLast? = some ':' ∧ u.host = some (.named [])))
    ⟨fun h => ⟨h.1, h.2⟩, fun h => ⟨h.host, h.drive⟩⟩

section Read

variable {u : Url} {type : SchemeType} {scheme s rest : List Char} {parts : List (List Char)} {host : Host}

theorem isSegment_takePath (type : SchemeType) (s : List Char) :
    ∀ part ∈ (takePath type s).1, IsSegment (type != .other) part := by
  unfold takePath
  split
  · exact isSegment_takeSegments type _
  · split
    · exact nofun
    · split
      · exact nofun
      · exact isSegment_takeSegments type _

theorem takePath_special_ne_nil (s : List Char) : (takePath .special s).1 ≠ [] := takeSegments_ne_nil _ _

theorem settled_of_readWithAuthority (hscheme : IsScheme scheme) (htype : schemeType scheme = type)
    (hfile : type ≠ .file) (h : readWithAuthority type scheme s = .ok u) (hu : u.Steady) : Settled u := by
  rw [readWithAuthority_eq] at h
  cases hread : readAuthority (type != .other) (defaultPort? scheme) s with
  | error e =>
    rw [hread] at h
    cases h
  | ok read =>
    rw [hread] at h
    cases h
    have hback := hu.host _ rfl
    rw [htype] at hback
    refine .seated hscheme htype hfile (settled_of_readAuthority hread hback) (isSegment_takePath type _) ?_
      (ended_readEnd type _)
    rintro rfl
    exact takePath_special_ne_nil _

theorem trimSegments_head (parts : List (List Char)) :
    trimSegments parts ≠ [] ∧ ((trimSegments parts).head? = some [] → trimSegments parts = [[]]) := by
  unfold trimSegments
  split
  · exact ⟨List.cons_ne_nil _ _, fun _ => rfl⟩
  · rename_i parts' hne
    refine ⟨hne, fun hhead => ?_⟩
    have hnot := List.head?_dropWhile_not List.isEmpty parts
    rw [hhead] at hnot
    cases hnot

theorem isSegment_trimSegments {special : Bool} (h : ∀ part ∈ parts, IsSegment special part) :
    ∀ part ∈ trimSegments parts, IsSegment special part := by
  unfold trimSegments
  split
  · exact fun part hpart => List.mem_singleton.mp hpart ▸ isSegment_nil
  · exact fun part hpart => h part ((List.dropWhile_sublist _).subset hpart)

/-- The host of a file's URL: the empty one, or one of a special scheme that is not the machine itself. -/
def IsFileHost (host : Host) : Prop := host.Closed true ∧ host ≠ .named "localhost".toList

theorem isFileHost_empty : IsFileHost (.named []) := ⟨.named [] free_nil, by decide⟩

theorem isFileHost_of_readFileHost (h : readFileHost s = .ok (host, rest)) : IsFileHost host := by
  unfold readFileHost at h
  dsimp only at h
  split at h
  · cases h
    exact isFileHost_empty
  split at h
  · cases h
    exact isFileHost_empty
  obtain ⟨read, hread, h⟩ := of_bind_ok h
  cases h
  split
  · exact isFileHost_empty
  · exact ⟨(closed_of_readDomain hread).1, ‹_›⟩

theorem settled_of_readBehindFileHost (hscheme : IsScheme scheme) (htype : schemeType scheme = .file)
    (hhost : IsFileHost host) (h : readBehindFileHost scheme host s = .ok u) (hu : u.Steady) : Settled u := by
  cases h
  have hkept : IsFileHost (if (takeSegments .file s).1.head?.any isDrive then .named [] else host) := by
    split
    · exact isFileHost_empty
    · exact hhost
  obtain ⟨hne, htrim⟩ := trimSegments_head (takeSegments .file s).1
  have hback := hu.host _ rfl
  have hdrive := hu.drive htype
  rw [htype] at hback
  refine .file hscheme htype ?_ (ended_readEnd .file _)
  constructor
  · exact hkept.1
  · exact fun hempty => ⟨hback hempty, hkept.2⟩
  · exact isSegment_trimSegments (isSegment_takeSegments .file s)
  · exact hne
  · exact htrim
  · intro part hpart hd
    obtain ⟨hcolon, hempty⟩ := hdrive part hpart hd
    exact ⟨hcolon, Option.some.inj hempty⟩

theorem settled_of_readFile (hscheme : IsScheme scheme) (htype : schemeType scheme = .file)
    (h : readFile scheme s = .ok u) (hu : u.Steady) : Settled u := by
  unfold readFile at h
  split at h
  · split at h
    · obtain ⟨⟨host, rest⟩, hhost, h⟩ := of_bind_ok h
      exact settled_of_readBehindFileHost hscheme htype (isFileHost_of_readFileHost hhost) h hu
    · exact settled_of_readBehindFileHost hscheme htype isFileHost_empty h hu
  · exact settled_of_readBehindFileHost hscheme htype isFileHost_empty h hu

theorem settled_of_readOther (hscheme : IsScheme scheme) (htype : schemeType scheme = .other)
    (h : readOther scheme s = .ok u) (hu : u.Steady) : Settled u := by
  unfold readOther at h
  split at h
  · exact settled_of_readWithAuthority hscheme htype (by decide) h hu
  · cases h
    exact .rooted hscheme htype (isSegment_takeSegments .other _) (takeSegments_ne_nil _ _) (ended_readEnd .other _)
  · rename_i hslash
    rw [List.span_eq_takeWhile_dropWhile] at h
    cases h
    have hmark : Unmarked (s.takeWhile fun c => !endsPath c) := fun c hc => by
      simpa using List.all_eq_true.mp List.all_takeWhile c hc
    refine .plain hscheme htype (free_percentEncode_self (by decide) (by decide) _)
      (unmarked_percentEncode fun c hc _ => hmark c hc) (fun c hc => ?_) (ended_readEnd .other _)
    rintro rfl
    -- a first slash of the encoded text is one of the text itself, which was looked for before
    rcases head_percentEncode '/' hc with hpercent | hhead
    · exact absurd hpercent (by decide)
    · rw [List.head?_takeWhile, Option.mem_def, Option.filter_eq_some_iff, List.head?_eq_some_iff] at hhead
      obtain ⟨⟨rest, rfl⟩, -⟩ := hhead
      exact hslash rest rfl

/-- **What is read is settled**, if its host is read as it stands and no drive was overlooked. -/
theorem settled_of_parse {input : String} (h : parse input = .ok u) (hu : u.Steady) : Settled u := by
  unfold parse at h
  split at h
  · cases h
  rename_i scheme s htaken
  have hscheme := isScheme_of_takeScheme? htaken
  split at h
  · exact settled_of_readFile hscheme ‹_› h hu
  · exact settled_of_readWithAuthority hscheme ‹_› (by decide) h hu
  · exact settled_of_readOther hscheme ‹_› h hu

end Read

/-! ## 5. Values given in a query -/

section Parameter

variable {u : Url} {q : List Char}

/-- Nothing that is written for a byte of a query is encoded in any query. -/
theorem any_writeByte : ∀ n : Fin 256, (Form.writeByte (UInt8.ofNat n.val)).any inSpecialQuerySet = false := by
  decide +kernel

theorem free_write (s : String) : Free inSpecialQuerySet (Form.write s) := by
  intro c hc
  obtain ⟨b, -, hc⟩ := List.mem_flatMap.mp hc
  have hnone := any_writeByte ⟨b.toNat, b.toNat_lt⟩
  dsimp only at hnone
  rw [UInt8.ofNat_toNat, List.any_eq_false] at hnone
  exact eq_false_of_ne_true (hnone c hc)

/-- **A query that is written has nothing left to encode.** -/
theorem free_formText (pairs : List (String × String)) : Free inSpecialQuerySet (Form.text pairs) := by
  refine free_intercalate (free_cons.mpr ⟨by decide, free_nil⟩) fun p hp => ?_
  obtain ⟨⟨name, value⟩, -, rfl⟩ := List.mem_map.mp hp
  exact free_append.mpr ⟨free_write name, free_cons.mpr ⟨by decide, free_write value⟩⟩

theorem Ended.with_query {type : SchemeType} {query fragment : Option (List Char)} (h : Ended type query fragment)
    (hq : Free inSpecialQuerySet q) : Ended type (some q) fragment where
  query := by
    intro p hp
    rw [← Option.mem_some_iff.mp hp]
    unfold querySet
    split
    · exact hq.mono fun _ hc => (Bool.or_eq_false_iff.mp hc).1
    · exact hq
  fragment := h.fragment

/-- A settled URL with another query is settled. -/
theorem Settled.with_query (h : Settled u) (hq : Free inSpecialQuerySet q) : Settled { u with query := some q } := by
  cases h with
  | seated hscheme htype hfile ha hparts hne hend =>
    exact .seated hscheme htype hfile ha hparts hne (hend.with_query hq)
  | file hscheme htype hfile hend => exact .file hscheme htype hfile (hend.with_query hq)
  | rooted hscheme htype hparts hne hend => exact .rooted hscheme htype hparts hne (hend.with_query hq)
  | plain hscheme htype hpath hmark hslash hend =>
    exact .plain hscheme htype hpath hmark hslash (hend.with_query hq)

/-- Nothing is stripped off a URL that has a query. -/
theorem Settled.last_with_query (h : Settled u) (hquery : u.query ≠ none) :
    ∀ c ∈ u.chars.getLast?, isMargin c = false := by
  obtain ⟨type, hend⟩ := h.ended
  obtain ⟨q, hq⟩ := Option.ne_none_iff_exists'.mp hquery
  have hne : u.queryText ++ u.fragmentText ≠ [] := by simp [queryText, hq]
  intro c hc
  rw [chars_eq, List.getLast?_append, List.getLast?_eq_some_getLast hne] at hc
  obtain rfl := Option.some.inj hc
  exact hend.free_margin _ (List.getLast_mem hne)

end Parameter

/-- **What is read is read back, whatever value a name is given in its query**, if its host is read as it
    stands and no drive was overlooked. -/
theorem readsBack_withParameter {input : String} {u : Url} (h : parse input = .ok u) (hu : u.Steady)
    (name value : String) : (u.withParameter name value).ReadsBack := by
  have hsettled : Settled (u.withParameter name value) := (settled_of_parse h hu).with_query (free_formText _)
  exact hsettled.readsBack (hsettled.last_with_query (Option.some_ne_none _))

example : (parse "https://me@[2001:db8::1]:8443/a/../b c?x#y").toOption.any (decide <| Steady ·) = true := by
  decide +kernel

/-- A drive behind an empty segment is overlooked: it keeps its stroke, and is found when the URL is read
    again. -/
theorem drive_not_read_back :
    let u : Url := ⟨"file".toList, [], [], some (.named []), none, .segments ["C|".toList, "x".toList], none, none⟩
    parse "file:////C|/x" = .ok u ∧ u.text = "file:///C|/x" ∧
      parse u.text = .ok { u with path := .segments ["C:".toList, "x".toList] } := by
  decide +kernel

end Vignette.Url
