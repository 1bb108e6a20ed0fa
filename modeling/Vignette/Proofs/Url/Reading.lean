import Vignette.Proofs.Url.Layout

/-!
# What is read is tidy

Each part of a URL is kept as it is written. In most parts a question mark and a number sign are
percent-encoded; in a scheme and in a domain name they cannot be, there they are refused; a port and an
address of numbers are written anew.

Main statement: **every URL that is read has its marks where they belong** (`tidy_of_parse`).
-/

namespace Vignette.Url

/-! ## 1. Percent-encoded text -/

section Encoded

variable {set : Char → Bool} {s : List Char}

theorem of_mem_percentEncode {c : Char} (h : c ∈ percentEncode set s) :
    (c ∈ s ∧ set c = false) ∨ c = '%' ∨ ∃ n : Fin 16, c = upperDigit n.val := by
  obtain ⟨d, hd, hc⟩ := List.mem_flatMap.mp h
  split at hc
  · obtain ⟨b, -, hb⟩ := List.mem_flatMap.mp hc
    have hlt : b.toNat < 256 := b.toNat_lt
    rw [percentByte, List.mem_cons, List.mem_cons, List.mem_singleton] at hb
    rcases hb with rfl | rfl | rfl
    · exact .inr (.inl rfl)
    · exact .inr (.inr ⟨⟨b.toNat / 16, by omega⟩, rfl⟩)
    · exact .inr (.inr ⟨⟨b.toNat % 16, by omega⟩, rfl⟩)
  · rename_i hset
    rw [List.mem_singleton] at hc
    subst hc
    exact .inl ⟨hd, eq_false_of_ne_true hset⟩

/-- An upper-case digit is no mark. -/
theorem endsPath_upperDigit : ∀ n : Fin 16, endsPath (upperDigit n.val) = false := by decide

/-- A text in which the marks are encoded, or were not there, has no mark. -/
theorem unmarked_percentEncode (h : ∀ c ∈ s, set c = false → endsPath c = false) :
    Unmarked (percentEncode set s) := by
  intro c hc
  rcases of_mem_percentEncode hc with ⟨hmem, hset⟩ | rfl | ⟨n, rfl⟩
  · exact h c hmem hset
  · decide
  · exact endsPath_upperDigit n

theorem endsPath_of_not_inPathSet {c : Char} (h : inPathSet c = false) : endsPath c = false := by
  simp only [inPathSet, Bool.or_eq_false_iff] at h
  simp_all [endsPath]

theorem unmarked_path (s : List Char) : Unmarked (percentEncode inPathSet s) :=
  unmarked_percentEncode fun _ _ h => endsPath_of_not_inPathSet h

theorem unmarked_userinfo (s : List Char) : Unmarked (percentEncode inUserinfoSet s) := by
  refine unmarked_percentEncode fun c _ h => endsPath_of_not_inPathSet ?_
  rw [inUserinfoSet, Bool.or_eq_false_iff] at h
  exact h.1

/-- The query of a special scheme has no more characters than that of any other. -/
theorem hash_not_mem_query {type : SchemeType} :
    '#' ∉ percentEncode (if type = .other then inQuerySet else inSpecialQuerySet) s := by
  intro h
  rcases of_mem_percentEncode h with ⟨-, hset⟩ | hc | ⟨n, hc⟩
  · split at hset
    · exact absurd hset (by decide)
    · exact absurd hset (by decide)
  · exact absurd hc (by decide)
  · have hmark := endsPath_upperDigit n
    rw [← hc] at hmark
    exact absurd hmark (by decide)

end Encoded

/-! ## 2. Domain names -/

namespace Punycode

theorem threshold_le (k bias : Nat) : threshold k bias ≤ 26 := by
  unfold threshold
  split
  · omega
  · split <;> omega

theorem isForbidden_digit {d : Nat} (h : d < 36) : Domain.isForbidden (digit d) = false := by
  have hall : ∀ d : Fin 36, Domain.isForbidden (digit d.val) = false := by decide
  exact hall ⟨d, h⟩

theorem free_writeSteps (q k bias : Nat) : Free Domain.isForbidden (writeSteps q k bias) := by
  have hle := threshold_le k bias
  rw [writeSteps]
  split
  · exact free_cons.mpr ⟨isForbidden_digit (by omega), free_nil⟩
  · have hmod : (q - threshold k bias) % (36 - threshold k bias) < 36 - threshold k bias :=
      Nat.mod_lt _ (by omega)
    exact free_cons.mpr ⟨isForbidden_digit (by omega), free_writeSteps _ _ bias⟩
termination_by q
decreasing_by
  have hpos := threshold_pos k bias
  have : (q - threshold k bias) / (36 - threshold k bias) ≤ q - threshold k bias := Nat.div_le_self ..
  omega

theorem free_writePass (n basic : Nat) (label : List Nat) {w : Writing} (h : Free Domain.isForbidden w.out) :
    Free Domain.isForbidden (writePass n basic label w).out := by
  unfold writePass
  induction label generalizing w with
  | nil => exact h
  | cons c label ih =>
    rw [List.foldl_cons]
    refine ih ?_
    split
    · exact h
    · split
      · exact free_append.mpr ⟨h, free_writeSteps _ _ _⟩
      · exact h

theorem free_writeAll (basic : Nat) (label : List Nat) : ∀ (fuel n : Nat) {w : Writing},
    Free Domain.isForbidden w.out → Free Domain.isForbidden (writeAll basic label fuel n w)
  | 0, _, _, h => h
  | fuel + 1, n, w, h => by
    rw [writeAll]
    split
    · exact h
    · exact free_writeAll basic label fuel _ (free_writePass _ basic label h)

/-- The ASCII form of a label has no forbidden character that the label has not. -/
theorem free_encode {label : List Char} (h : Free Domain.isForbidden label) :
    Free Domain.isForbidden (encode label) := by
  refine free_writeAll _ _ _ _ ?_
  dsimp only
  split
  · exact free_nil
  · rw [free_append, free_cons]
    exact ⟨fun c hc => h c (List.mem_filter.mp hc).1, by decide, free_nil⟩

end Punycode

namespace Domain

theorem of_mem_mapM {α β : Type} {f : α → Option β} {b : β} : ∀ {l : List α} {r : List β},
    l.mapM f = some r → b ∈ r → ∃ a ∈ l, f a = some b
  | [], r, h, hb => by
    rw [List.mapM_nil, Option.pure_def, Option.some.injEq] at h
    exact absurd hb (h ▸ List.not_mem_nil)
  | a :: l, r, h, hb => by
    rw [List.mapM_cons] at h
    obtain ⟨x, hx, h⟩ := Option.bind_eq_some_iff.mp h
    obtain ⟨xs, hxs, h⟩ := Option.bind_eq_some_iff.mp h
    rw [Option.pure_def, Option.some.injEq] at h
    rw [← h, List.mem_cons] at hb
    rcases hb with rfl | hb
    · exact ⟨a, List.mem_cons_self, hx⟩
    · obtain ⟨c, hc, hcb⟩ := of_mem_mapM hxs hb
      exact ⟨c, List.mem_cons_of_mem a hc, hcb⟩

/-- What is read from a mapped label passes the checks on a label. -/
theorem isLabel_of_label? {s l : List Char} (h : label? s = some l) : isLabel l = true := by
  unfold label? at h
  split at h
  · split at h
    · cases h
    · split at h
      · rename_i hl
        cases h
        exact (Bool.and_eq_true_iff.mp hl).2
      · cases h
  · split at h
    · cases h
      assumption
    · cases h

theorem free_of_isLabel {l : List Char} (h : isLabel l = true) : Free isForbidden l := by
  unfold isLabel at h
  rw [Bool.and_eq_true, Bool.and_eq_true, List.all_eq_true] at h
  intro c hc
  have hforbidden := (Bool.and_eq_true_iff.mp (h.1.2 c hc)).2
  rwa [Bool.not_eq_true'] at hforbidden

/-- **A name as it is looked up has no forbidden character.** -/
theorem free_of_toAscii? {name ascii : List Char} (h : toAscii? name = some ascii) :
    Free isForbidden ascii := by
  obtain ⟨mapped, -, h⟩ := Option.bind_eq_some_iff.mp h
  obtain ⟨labels, hlabels, h⟩ := Option.bind_eq_some_iff.mp h
  split at h
  · cases h
  rw [Option.some.injEq] at h
  rw [← h]
  refine free_intercalate (free_cons.mpr ⟨by decide, free_nil⟩) fun p hp => ?_
  obtain ⟨l, hl, rfl⟩ := List.mem_map.mp hp
  obtain ⟨s, -, hs⟩ := of_mem_mapM hlabels hl
  have hlabel := free_of_isLabel (isLabel_of_label? hs)
  unfold asciiLabel
  split
  · exact hlabel
  · exact free_append.mpr ⟨by simp [isForbidden], Punycode.free_encode hlabel⟩

/-- A name as it is looked up has no mark. -/
theorem unmarked_of_toAscii? {name ascii : List Char} (h : toAscii? name = some ascii) :
    Unmarked ascii := by
  refine (free_of_toAscii? h).unmarked fun c hc => ?_
  rw [endsPath, Bool.or_eq_false_iff, beq_eq_false_iff_ne, beq_eq_false_iff_ne]
  constructor <;> rintro rfl <;> exact absurd hc (by decide)

end Domain

/-! ## 3. Hosts -/

theorem unmarked_piecesText (pieces : List Nat) : Unmarked (piecesText pieces) := by
  refine unmarked_intercalate (by simp [endsPath]) fun p hp => ?_
  obtain ⟨n, -, rfl⟩ := List.mem_map.mp hp
  exact unmarked_toDigits (by decide) (by decide) n

namespace Host

theorem unmarked_empty : Unmarked (named []).text := unmarked_nil

theorem unmarked_ipv4 (a : Nat) : Unmarked (ipv4 a).text := by
  refine unmarked_intercalate (by simp [endsPath]) fun p hp => ?_
  obtain ⟨i, -, rfl⟩ := List.mem_map.mp hp
  exact unmarked_toDigits (by decide) (by decide) _

theorem unmarked_ipv6 (pieces : List Nat) : Unmarked (ipv6 pieces).text := by
  have hpieces : Unmarked (ipv6Text pieces) := by
    unfold ipv6Text
    split
    · exact unmarked_piecesText pieces
    · simp [unmarked_piecesText, endsPath]
  simp [text, hpieces, endsPath]

section Read

variable {s : List Char} {h : Host}

theorem unmarked_of_readBracketed (hread : readBracketed s = .ok h) : Unmarked h.text := by
  unfold readBracketed at hread
  split at hread
  · split at hread
    · cases hread
      exact unmarked_ipv6 _
    · cases hread
  · cases hread

/-- The host of a special scheme has no mark. -/
theorem unmarked_of_readDomain (hread : readDomain s = .ok h) : Unmarked h.text := by
  unfold readDomain at hread
  split at hread
  · exact unmarked_of_readBracketed hread
  split at hread
  · cases hread
  split at hread
  · cases hread
  · cases hread
  · rename_i name _ hname
    split at hread
    · cases haddress : readIpv4 name with
      | error e => rw [haddress] at hread; cases hread
      | ok a =>
        rw [haddress] at hread
        cases hread
        exact unmarked_ipv4 a
    · cases hread
      exact Domain.unmarked_of_toAscii? hname

/-- The host of any other scheme has no mark. -/
theorem unmarked_of_readPlain (hread : readPlain s = .ok h) : Unmarked h.text := by
  unfold readPlain at hread
  split at hread
  · exact unmarked_of_readBracketed hread
  split at hread
  · cases hread
  · rename_i hall
    cases hread
    refine unmarked_percentEncode fun c hc _ => ?_
    have hforbidden : isForbidden c = false := by
      rw [Bool.not_eq_true, List.any_eq_false] at hall
      exact eq_false_of_ne_true (hall c hc)
    simp [isForbidden] at hforbidden
    simp [endsPath, hforbidden]

end Read

end Host

/-! ## 4. Schemes, paths and queries -/

theorem endsPath_of_isLetter {c : Char} (h : isLetter c = true) : endsPath c = false := by
  rw [endsPath, Bool.or_eq_false_iff, beq_eq_false_iff_ne, beq_eq_false_iff_ne]
  constructor <;> rintro rfl <;> exact absurd h (by decide)

/-- A capital letter made small is a letter, any other character stays. -/
theorem endsPath_smallLetter {c : Char} (h : endsPath c = false) : endsPath (Domain.smallLetter c) = false := by
  have hsmall : ∀ n : Fin 26, endsPath (Char.ofNat (65 + n.val + 32)) = false := by decide
  unfold Domain.smallLetter
  split
  · rename_i hc
    have hlow : 65 ≤ c.toNat := hc.1
    have hhigh : c.toNat ≤ 90 := hc.2
    have hn := hsmall ⟨c.toNat - 65, by omega⟩
    dsimp only at hn
    rwa [Nat.add_sub_cancel' hlow] at hn
  · exact h

theorem unmarked_of_takeScheme? {s scheme rest : List Char} (h : takeScheme? s = some (scheme, rest)) :
    Unmarked scheme := by
  unfold takeScheme? at h
  split at h
  · rename_i c cs rest' hspan
    split at h
    · rw [Option.some.injEq, Prod.mk.injEq] at h
      rw [List.span_eq_takeWhile_dropWhile, Prod.mk.injEq] at hspan
      rw [← h.1]
      intro d hd
      obtain ⟨e, he, rfl⟩ := List.mem_map.mp hd
      have hscheme := List.all_eq_true.mp (List.all_takeWhile (p := isSchemeChar) (l := s)) e (hspan.1 ▸ he)
      refine endsPath_smallLetter ?_
      rw [endsPath, Bool.or_eq_false_iff, beq_eq_false_iff_ne, beq_eq_false_iff_ne]
      constructor <;> rintro rfl <;> exact absurd hscheme (by decide)
    · cases h
  · cases h

section Segments

variable {type : SchemeType} {path : List (List Char)}

theorem unmarked_keepSegment (type : SchemeType) (path : List (List Char)) (s : List Char) :
    Unmarked (keepSegment type path s) := by
  unfold keepSegment
  split
  · rename_i h
    have hdrive := h.2.2
    unfold isDrive at hdrive
    split at hdrive
    · rename_i c d
      rw [Bool.and_eq_true] at hdrive
      exact unmarked_append.mpr
        ⟨unmarked_cons.mpr ⟨endsPath_of_isLetter hdrive.1, unmarked_nil⟩, by simp [endsPath]⟩
    · cases hdrive
  · exact unmarked_path s

theorem mem_of_mem_goUp {part : List Char} (h : part ∈ goUp path) : part ∈ path := by
  unfold goUp at h
  split at h
  · split at h
    · exact h
    · exact (List.dropLast_sublist path).subset h
  · cases h

/-- **What is true of the segments there are, of an empty one and of all that are kept, is true of all
    segments in the end.** -/
theorem of_mem_addSegments {P : List Char → Prop} {parts : List (List Char)} (hnil : P [])
    (hkeep : ∀ path, ∀ s ∈ parts, isUp s = false → isHere s = false → P (keepSegment type path s))
    (h : ∀ part ∈ path, P part) : ∀ part ∈ addSegments type path parts, P part := by
  have hup : ∀ {path : List (List Char)}, (∀ part ∈ path, P part) → ∀ part ∈ goUp path, P part :=
    fun h part hpart => h part (mem_of_mem_goUp hpart)
  have hadd : ∀ {path : List (List Char)} {last : List Char}, (∀ part ∈ path, P part) →
      P last → ∀ part ∈ path ++ [last], P part := fun h hlast =>
    List.forall_mem_append.mpr ⟨h, fun _ hpart => List.mem_singleton.mp hpart ▸ hlast⟩
  induction path, parts using addSegments.induct type with
  | case1 path => simpa [addSegments] using h
  | case2 path s hs =>
    rw [addSegments, if_pos hs]
    exact hadd (hup h) hnil
  | case3 path s hs hhere =>
    rw [addSegments, if_neg hs, if_pos hhere]
    exact hadd h hnil
  | case4 path s hs hhere =>
    rw [addSegments, if_neg hs, if_neg hhere]
    exact hadd h (hkeep path s List.mem_cons_self (eq_false_of_ne_true hs) (eq_false_of_ne_true hhere))
  | case5 path s t rest hs ih =>
    rw [addSegments, if_pos hs]
    exact ih (fun path s hs => hkeep path s (List.mem_cons_of_mem _ hs)) (hup h)
  | case6 path s t rest hs hhere ih =>
    rw [addSegments, if_neg hs, if_pos hhere]
    exact ih (fun path s hs => hkeep path s (List.mem_cons_of_mem _ hs)) h
  | case7 path s t rest hs hhere ih =>
    rw [addSegments, if_neg hs, if_neg hhere]
    exact ih (fun path s hs => hkeep path s (List.mem_cons_of_mem _ hs))
      (hadd h (hkeep path s List.mem_cons_self (eq_false_of_ne_true hs) (eq_false_of_ne_true hhere)))

theorem unmarked_takeSegments (type : SchemeType) (s : List Char) :
    ∀ part ∈ (takeSegments type s).1, Unmarked part :=
  of_mem_addSegments unmarked_nil (fun path s _ _ _ => unmarked_keepSegment type path s) fun _ h => nomatch h

theorem unmarked_trimSegments (h : ∀ part ∈ path, Unmarked part) :
    ∀ part ∈ trimSegments path, Unmarked part := by
  unfold trimSegments
  split
  · exact fun part hpart => List.mem_singleton.mp hpart ▸ unmarked_nil
  · exact fun part hpart => h part ((List.dropWhile_sublist _).subset hpart)

end Segments

theorem hash_not_mem_readEnd (type : SchemeType) (s : List Char) :
    ∀ q ∈ (readEnd type s).1, '#' ∉ q := by
  intro q hq
  unfold readEnd at hq
  dsimp only at hq
  split at hq
  · rw [Option.mem_some_iff] at hq
    rw [← hq]
    exact hash_not_mem_query
  · cases hq

/-! ## 5. Whole URLs -/

theorem of_bind_ok {ε α β : Type} {x : Except ε α} {f : α → Except ε β} {b : β} (h : x >>= f = .ok b) :
    ∃ a, x = .ok a ∧ f a = .ok b := by
  cases x with
  | error e => cases h
  | ok a => exact ⟨a, rfl, h⟩

theorem of_ite_ok {ε α : Type} {c : Prop} [Decidable c] {e : ε} {a b : α}
    (h : (if c then .error e else .ok a : Except ε α) = .ok b) : ¬ c ∧ a = b := by
  split at h
  · cases h
  · cases h
    exact ⟨‹_›, rfl⟩

/-- What stands in front of a path has no mark. -/
structure Authority.Tidy (a : Authority) : Prop where
  username : Unmarked a.username
  password : Unmarked a.password
  host : Unmarked a.host.text

theorem unmarked_readUserinfo (s : List Char) :
    Unmarked (readUserinfo s).1 ∧ Unmarked (readUserinfo s).2 :=
  ⟨unmarked_userinfo _, unmarked_userinfo _⟩

/-- What is read of an authority behind the host. -/
def readBehindHost (default : Option Nat) (username password : List Char) (host : Host) (s : List Char) :
    Except ParseError (Authority × List Char) := do
  let named := !(username.isEmpty && password.isEmpty)
  match s with
  | ':' :: s =>
    if host = .named [] then .error .emptyHost
    let (port, s) ← readPort default s
    .ok (⟨username, password, host, port⟩, s)
  | s =>
    if host = .named [] && named then .error .emptyHost
    .ok (⟨username, password, host, none⟩, s)

/-- What is read of an authority behind the user. -/
def readBehindUser (special : Bool) (default : Option Nat) (username password s : List Char) :
    Except ParseError (Authority × List Char) := do
  let (hostText, s) := takeHost special false s
  if special && hostText.isEmpty then .error .emptyHost
  let host ← if special then Host.readDomain hostText else Host.readPlain hostText
  readBehindHost default username password host s

/-- What is read of a file's URL behind the host. -/
def readBehindFileHost (scheme : List Char) (host : Host) (s : List Char) : Except ParseError Url :=
  let (parts, s) := takeSegments .file s
  let host := if parts.head?.any isDrive then .named [] else host
  let (query, fragment) := readEnd .file s
  .ok ⟨scheme, [], [], some host, none, .segments (trimSegments parts), query, fragment⟩

section Parse

variable {scheme s rest : List Char} {u : Url}

section Authority

variable {special : Bool} {default : Option Nat} {username password : List Char} {a : Authority}

theorem tidy_of_readBehindHost {host : Host} (huser : Unmarked username) (hpassword : Unmarked password)
    (hhost : Unmarked host.text)
    (h : readBehindHost default username password host s = .ok (a, rest)) : a.Tidy := by
  unfold readBehindHost at h
  dsimp only at h
  split at h
  · split at h
    · cases h
    · obtain ⟨port, -, h⟩ := of_bind_ok h
      cases h
      exact ⟨huser, hpassword, hhost⟩
  · split at h
    · cases h
    · cases h
      exact ⟨huser, hpassword, hhost⟩

theorem tidy_of_readBehindUser (huser : Unmarked username) (hpassword : Unmarked password)
    (h : readBehindUser special default username password s = .ok (a, rest)) : a.Tidy := by
  unfold readBehindUser at h
  dsimp only at h
  split at h
  · cases h
  split at h
  · obtain ⟨host, hhost, h⟩ := of_bind_ok h
    exact tidy_of_readBehindHost huser hpassword (Host.unmarked_of_readDomain hhost) h
  · obtain ⟨host, hhost, h⟩ := of_bind_ok h
    exact tidy_of_readBehindHost huser hpassword (Host.unmarked_of_readPlain hhost) h

/-- **What is read in front of a path has no mark.** -/
theorem tidy_of_readAuthority (h : readAuthority special default s = .ok (a, rest)) : a.Tidy := by
  unfold readAuthority at h
  dsimp only at h
  split at h
  · exact tidy_of_readBehindUser unmarked_nil unmarked_nil h
  · split at h
    · exact tidy_of_readBehindUser unmarked_nil unmarked_nil h
    · cases h
  · rename_i userinfo _ _ _
    exact tidy_of_readBehindUser (unmarked_readUserinfo userinfo).1 (unmarked_readUserinfo userinfo).2 h

end Authority

theorem tidy_of_readWithAuthority {type : SchemeType} (hscheme : Unmarked scheme)
    (h : readWithAuthority type scheme s = .ok u) : Tidy u := by
  obtain ⟨⟨a, s'⟩, ha, h⟩ := of_bind_ok h
  have htidy := tidy_of_readAuthority ha
  dsimp only at h
  cases h
  constructor
  · exact hscheme
  · exact htidy.username
  · exact htidy.password
  · exact fun host hhost => Option.mem_some_iff.mp hhost ▸ htidy.host
  · change ∀ part ∈ _, Unmarked part
    split
    · exact unmarked_takeSegments _ _
    · split
      · exact fun _ hpart => nomatch hpart
      · split
        · exact fun _ hpart => nomatch hpart
        · exact unmarked_takeSegments _ _
  · exact hash_not_mem_readEnd type _

/-- A URL without a user is tidy if its host and its path are. -/
theorem tidy_of_userless {host : Option Host} {path : Path} {query fragment : Option (List Char)}
    (hscheme : Unmarked scheme) (hhost : ∀ h ∈ host, Unmarked h.text) (hpath : path.Unmarked)
    (hquery : ∀ q ∈ query, '#' ∉ q) : Tidy ⟨scheme, [], [], host, none, path, query, fragment⟩ where
  scheme := hscheme
  username := unmarked_nil
  password := unmarked_nil
  host := hhost
  path := hpath
  query := hquery

theorem unmarked_of_readFileHost {host : Host} (h : readFileHost s = .ok (host, rest)) :
    Unmarked host.text := by
  unfold readFileHost at h
  dsimp only at h
  split at h
  · cases h
    exact unmarked_nil
  split at h
  · cases h
    exact unmarked_nil
  obtain ⟨read, hread, h⟩ := of_bind_ok h
  cases h
  split
  · exact unmarked_nil
  · exact Host.unmarked_of_readDomain hread

theorem tidy_of_readBehindFileHost {host : Host} (hscheme : Unmarked scheme) (hhost : Unmarked host.text)
    (h : readBehindFileHost scheme host s = .ok u) : Tidy u := by
  cases h
  refine tidy_of_userless hscheme (fun host hhost => ?_) (unmarked_trimSegments (unmarked_takeSegments _ _))
    (hash_not_mem_readEnd _ _)
  rw [← Option.mem_some_iff.mp hhost]
  split
  · exact unmarked_nil
  · assumption

theorem tidy_of_readFile (hscheme : Unmarked scheme) (h : readFile scheme s = .ok u) : Tidy u := by
  unfold readFile at h
  split at h
  · split at h
    · obtain ⟨⟨host, rest⟩, hhost, h⟩ := of_bind_ok h
      exact tidy_of_readBehindFileHost hscheme (unmarked_of_readFileHost hhost) h
    · exact tidy_of_readBehindFileHost hscheme Host.unmarked_empty h
  · exact tidy_of_readBehindFileHost hscheme Host.unmarked_empty h

theorem tidy_of_readOther (hscheme : Unmarked scheme) (h : readOther scheme s = .ok u) : Tidy u := by
  unfold readOther at h
  split at h
  · exact tidy_of_readWithAuthority hscheme h
  · cases h
    exact tidy_of_userless hscheme (fun _ hhost => nomatch hhost) (unmarked_takeSegments _ _)
      (hash_not_mem_readEnd _ _)
  · rw [List.span_eq_takeWhile_dropWhile] at h
    cases h
    refine tidy_of_userless hscheme (fun _ hhost => nomatch hhost)
      (unmarked_percentEncode fun c hc _ => ?_) (hash_not_mem_readEnd _ _)
    simpa using List.all_eq_true.mp List.all_takeWhile c hc

/-- **Every URL that is read has its marks where they belong.** -/
theorem tidy_of_parse {input : String} (h : parse input = .ok u) : Tidy u := by
  unfold parse at h
  split at h
  · cases h
  rename_i scheme s hscheme
  have hunmarked := unmarked_of_takeScheme? hscheme
  split at h
  · exact tidy_of_readFile hunmarked h
  · exact tidy_of_readWithAuthority hunmarked h
  · exact tidy_of_readOther hunmarked h

end Parse

end Vignette.Url
