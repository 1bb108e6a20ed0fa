import Vignette.Proofs.Text.Numeral
import Vignette.Proofs.Url.Settled

/-!
# Authorities read again

Between the two slashes and the path stand a user, a host and a port. What separates them is encoded in a
user, refused in a name, and put in brackets with an address of version 6; so each is found again in the
text of an authority (`Authority.text`), whatever follows behind it.

What a host is read as again is another matter: that is up to the reader of hosts, and an authority has to
hold a host that it reads as it stands (`Authority.Settled.back`).

Main statements: **an authority is found again** (`readAuthority_append`); **what is read as an authority
is found again if its host is** (`settled_of_readAuthority`).
-/

namespace Vignette.Url

/-! ## 1. Hosts -/

/-- The characters that cannot stand in a host without brackets. -/
def endsHost (special : Bool) (c : Char) : Bool :=
  [':', '@', '[', '|'].contains c || isBreak c || endsAuthority special c

/-- The host of an address is written in brackets or holds nothing that ends it. -/
inductive Host.Closed (special : Bool) : Host → Prop
  | named (s : List Char) (h : Free (endsHost special) s) : Closed special (.named s)
  | ipv4 (a : Nat) : Closed special (.ipv4 a)
  | ipv6 (pieces : List Nat) : Closed special (.ipv6 pieces)

section Host

variable {special : Bool} {s rest : List Char} {host : Host}

/-- A text that ends no host is taken whole. -/
theorem takeHost_of_free (h : Free (endsHost special) s)
    (hrest : ∀ c ∈ rest.head?, c = ':' ∨ endsAuthority special c = true) :
    takeHost special false (s ++ rest) = (s, rest) := by
  induction s with
  | nil =>
    cases rest with
    | nil => rfl
    | cons c rest =>
      have hc : (c = ':' ∧ (!false) = true) ∨ endsAuthority special c = true :=
        (hrest c rfl).imp (fun hcolon => ⟨hcolon, rfl⟩) id
      rw [List.nil_append, takeHost, if_pos hc]
  | cons c s ih =>
    rw [free_cons] at h
    have hc : c ≠ ':' ∧ c ≠ '[' ∧ endsAuthority special c = false := by
      have hends := h.1
      simp [endsHost] at hends
      exact ⟨hends.1.1.1, hends.1.1.2.2.1, hends.2⟩
    rw [List.cons_append, takeHost, if_neg (by simp [hc])]
    simp [hc.2.1, ih h.2]

/-- Within brackets a colon ends no host. -/
theorem takeHost_bracketed (h : Free (fun c => c == '[' || c == ']' || endsAuthority special c) s) :
    takeHost special true (s ++ ']' :: rest) =
      ((s ++ [']']) ++ (takeHost special false rest).1, (takeHost special false rest).2) := by
  induction s with
  | nil =>
    have hc : endsAuthority special ']' = false := by cases special <;> rfl
    rw [List.nil_append, takeHost, if_neg (by simp [hc])]
    simp
  | cons c s ih =>
    rw [free_cons] at h
    have hc : c ≠ '[' ∧ c ≠ ']' ∧ endsAuthority special c = false := by
      have hends := h.1
      simp at hends
      exact ⟨hends.1.1, hends.1.2, hends.2⟩
    rw [List.cons_append, takeHost, if_neg (by simp [hc])]
    simp [hc.1, hc.2.1, ih h.2]

/-- A text that ends a host is of no digit and no point. -/
theorem endsHost_digitChar : ∀ special : Bool, ∀ k : Fin 16,
    endsHost special (Nat.digitChar k.val) = false ∧ endsHost special '.' = false := by
  decide

theorem free_ipv4Text (special : Bool) (a : Nat) : Free (endsHost special) (ipv4Text a) := by
  refine free_intercalate (free_cons.mpr ⟨(endsHost_digitChar special 0).2, free_nil⟩) fun p hp => ?_
  obtain ⟨i, -, rfl⟩ := List.mem_map.mp hp
  exact free_toDigits (fun k => (endsHost_digitChar special k).1) (by decide) (by decide) _

/-- Between the brackets of an address stand digits and colons only. -/
theorem free_ipv6Text {set : Char → Bool} (hcolon : set ':' = false)
    (hdigit : ∀ k : Fin 16, set (Nat.digitChar k.val) = false) (pieces : List Nat) :
    Free set (ipv6Text pieces) := by
  have hpieces (ps : List Nat) : Free set (piecesText ps) := by
    refine free_intercalate (free_cons.mpr ⟨hcolon, free_nil⟩) fun p hp => ?_
    obtain ⟨n, -, rfl⟩ := List.mem_map.mp hp
    exact free_toDigits hdigit (by decide) (by decide) n
  unfold ipv6Text
  split
  · exact hpieces pieces
  · rw [free_append, free_append]
    exact ⟨⟨hpieces _, free_cons.mpr ⟨hcolon, free_cons.mpr ⟨hcolon, free_nil⟩⟩⟩, hpieces _⟩

/-- Only the empty host has no text. -/
theorem Host.eq_of_text_eq_nil (h : host.text = []) : host = .named [] := by
  cases host with
  | named s => exact congrArg Host.named h
  | ipv4 a =>
    have hlength := congrArg List.length h
    simp [Host.text, ipv4Text, List.intercalate] at hlength
  | ipv6 pieces => cases h

/-- **The text of a host is found again**, in front of a port and a path. -/
theorem Host.Closed.takeHost (h : host.Closed special)
    (hrest : ∀ c ∈ rest.head?, c = ':' ∨ endsAuthority special c = true) :
    takeHost special false (host.text ++ rest) = (host.text, rest) := by
  cases h with
  | named s hs => exact takeHost_of_free hs hrest
  | ipv4 a => exact takeHost_of_free (free_ipv4Text special a) hrest
  | ipv6 pieces =>
    have hinside : Free (fun c => c == '[' || c == ']' || endsAuthority special c) (ipv6Text pieces) :=
      free_ipv6Text (by cases special <;> rfl) (by cases special <;> decide) pieces
    have hopen : endsAuthority special '[' = false := by cases special <;> rfl
    have hrest' : Url.takeHost special false rest = ([], rest) := takeHost_of_free free_nil hrest
    rw [Host.text, List.cons_append, List.append_assoc, List.singleton_append, Url.takeHost,
      if_neg (by simp [hopen])]
    dsimp only
    rw [if_pos rfl, takeHost_bracketed hinside, hrest']
    simp

/-- Nothing in the text of a host ends the authority or the user in front of it. -/
theorem Host.Closed.free (h : host.Closed special) :
    Free (fun c => c == '@' || endsAuthority special c) host.text := by
  have hsub {c : Char} (hc : endsHost special c = false) : (c == '@' || endsAuthority special c) = false := by
    simp [endsHost] at hc
    simp [hc]
  cases h with
  | named s hs => exact hs.mono fun _ => hsub
  | ipv4 a => exact (free_ipv4Text special a).mono fun _ => hsub
  | ipv6 pieces =>
    rw [Host.text, free_cons, free_append]
    exact ⟨by cases special <;> rfl, free_ipv6Text (by cases special <;> rfl) (by cases special <;> decide) _,
      free_cons.mpr ⟨by cases special <;> rfl, free_nil⟩⟩

theorem Host.Closed.free_break (h : host.Closed special) : Free isBreak host.text := by
  have hsub {c : Char} (hc : endsHost special c = false) : isBreak c = false :=
    (Bool.or_eq_false_iff.mp (Bool.or_eq_false_iff.mp hc).1).2
  cases h with
  | named s hs => exact hs.mono fun _ => hsub
  | ipv4 a => exact (free_ipv4Text special a).mono fun _ => hsub
  | ipv6 pieces =>
    rw [Host.text, free_cons, free_append]
    exact ⟨rfl, free_ipv6Text rfl (by decide) _, free_cons.mpr ⟨rfl, free_nil⟩⟩

/-- No host looks like a drive. -/
theorem Host.Closed.not_isDrive (h : host.Closed special) : isDrive host.text = false := by
  have hfree {s : List Char} (hs : Free (endsHost special) s) : isDrive s = false := by
    by_contra hdrive
    rw [Bool.not_eq_false, isDrive_iff] at hdrive
    obtain ⟨c, d, rfl, -, hd⟩ := hdrive
    have hend := (free_cons.mp (free_cons.mp hs).2).1
    rcases hd with rfl | rfl <;> cases special <;> cases hend
  cases h with
  | named s hs => exact hfree hs
  | ipv4 a => exact hfree (free_ipv4Text special a)
  | ipv6 pieces =>
    by_contra hdrive
    rw [Bool.not_eq_false, isDrive_iff] at hdrive
    obtain ⟨c, d, htext, hc, -⟩ := hdrive
    rw [Host.text, List.cons.injEq] at htext
    rw [← htext.1] at hc
    cases hc

/-- What is read in brackets is an address of version 6. -/
theorem exists_of_readBracketed (h : Host.readBracketed s = .ok host) : ∃ pieces, host = .ipv6 pieces := by
  unfold Host.readBracketed at h
  split at h
  · split at h
    · cases h
      exact ⟨_, rfl⟩
    · cases h
  · cases h

/-- **The host of a special scheme is closed**, and it is not the empty one. -/
theorem closed_of_readDomain (h : Host.readDomain s = .ok host) : host.Closed true ∧ host ≠ .named [] := by
  unfold Host.readDomain at h
  split at h
  · obtain ⟨pieces, rfl⟩ := exists_of_readBracketed h
    exact ⟨.ipv6 pieces, nofun⟩
  split at h
  · cases h
  split at h
  · cases h
  · cases h
  · rename_i name hne hname
    split at h
    · cases haddress : readIpv4 name with
      | error e => rw [haddress] at h; cases h
      | ok a =>
        rw [haddress] at h
        cases h
        exact ⟨.ipv4 a, nofun⟩
    · cases h
      refine ⟨.named name ((Domain.free_of_toAscii? hname).mono fun c hc => ?_), fun hnil => ?_⟩
      · simp [Domain.isForbidden] at hc
        have hmargin : isMargin c = false := by simp [isMargin, hc]
        simp [endsHost, endsAuthority, isSlash, endsPath, hc, isBreak_of_not_isMargin hmargin]
      · cases hnil
        exact hne rfl

/-- **The host of any other scheme is closed.** -/
theorem closed_of_readPlain (h : Host.readPlain s = .ok host) : host.Closed false := by
  unfold Host.readPlain at h
  split at h
  · obtain ⟨pieces, rfl⟩ := exists_of_readBracketed h
    exact .ipv6 pieces
  split at h
  · cases h
  · rename_i hall
    cases h
    refine .named _ (free_percentEncode (fun c hc hset => ?_) (by decide) (by decide))
    have hforbidden : Host.isForbidden c = false := by
      rw [Bool.not_eq_true, List.any_eq_false] at hall
      exact eq_false_of_ne_true (hall c hc)
    simp [Host.isForbidden] at hforbidden
    simp [endsHost, endsAuthority, isSlash, endsPath, hforbidden, isBreak_of_not_isControl hset]

end Host

/-! ## 2. Users -/

section User

variable {s after front username password : List Char}

theorem splitAt?_of_free (h : Free (· == '@') s) : splitAt? s = none := by
  have hspan : s.reverse.span (· != '@') = (s.reverse, []) := by
    have hback : Free (· == '@') s.reverse := fun c hc => h c (List.mem_reverse.mp hc)
    have hwhole := span_of_free hback (t := []) nofun
    rwa [List.append_nil] at hwhole
  rw [splitAt?, hspan]

/-- A text is cut at its last sign of a user. -/
theorem splitAt?_append (h : Free (· == '@') after) (front : List Char) :
    splitAt? (front ++ '@' :: after) = some (front, after) := by
  have hback : Free (· == '@') after.reverse := fun c hc => h c (List.mem_reverse.mp hc)
  have hspan : (front ++ '@' :: after).reverse.span (· != '@') = (after.reverse, '@' :: front.reverse) := by
    rw [List.reverse_append, List.reverse_cons, List.append_assoc]
    exact span_of_free hback fun c hc => by rw [← Option.some.inj hc]; rfl
  rw [splitAt?, hspan]
  dsimp only
  rw [List.reverse_reverse, List.reverse_reverse]

/-- A name and a password, without the sign behind them. -/
def credentials (username password : List Char) : List Char :=
  username ++ if password.isEmpty then [] else ':' :: password

theorem userinfoText_eq (h : username ≠ [] ∨ password ≠ []) :
    userinfoText username password = credentials username password ++ ['@'] := by
  rw [userinfoText, if_neg]
  · rfl
  · rw [Bool.and_eq_true, List.isEmpty_iff, List.isEmpty_iff]
    rintro ⟨rfl, rfl⟩
    exact h.elim (absurd rfl) (absurd rfl)

/-- **A name and a password are read again as they stand.** -/
theorem readUserinfo_credentials (hname : Free inUserinfoSet username) (hpassword : Free inUserinfoSet password) :
    readUserinfo (credentials username password) = (username, password) := by
  have hcolon : Free (· == ':') username := hname.mono fun c hc => by
    rw [beq_eq_false_iff_ne]
    rintro rfl
    exact absurd hc (by decide)
  have hrest : ∀ c ∈ (if password.isEmpty then [] else ':' :: password).head?, (c == ':') = true := by
    split
    · exact nofun
    · intro c hc
      rw [← Option.some.inj hc]
      rfl
  have hspan : (credentials username password).span (· != ':') =
      (username, if password.isEmpty then [] else ':' :: password) := span_of_free hcolon hrest
  have hdrop : (if password.isEmpty then [] else ':' :: password).drop 1 = password := by
    cases password <;> rfl
  rw [readUserinfo, hspan]
  dsimp only
  rw [hdrop, percentEncode_of_free hname, percentEncode_of_free hpassword]

end User

/-! ## 3. Ports -/

section Port

variable {default : Option Nat} {port : Option Nat} {s rest : List Char}

/-- A port with its colon. -/
def portText (port : Option Nat) : List Char :=
  match port with
  | none => []
  | some p => ':' :: Text.decimal p

theorem free_portText {set : Char → Bool} (hcolon : set ':' = false)
    (hdigit : ∀ k : Fin 16, set (Nat.digitChar k.val) = false) (port : Option Nat) : Free set (portText port) := by
  cases port with
  | none => exact free_nil
  | some p => exact free_cons.mpr ⟨hcolon, free_toDigits hdigit (by decide) (by decide) p⟩

/-- What ends an authority is no digit, and ends a port. -/
theorem of_endsAuthority {special : Bool} {c : Char} (h : endsAuthority special c = true) :
    Text.isDigit c = false ∧ (c == '/' || c == '\\' || endsPath c) = true := by
  simp only [endsAuthority, isSlash, endsPath, Bool.or_eq_true, Bool.and_eq_true, beq_iff_eq] at h
  rcases h with (rfl | ⟨-, rfl⟩) | rfl | rfl <;> decide

/-- What ends an authority ends a port, and so does the end of the text. -/
theorem endsPort {special : Bool} : ∀ {rest : List Char}, (∀ c ∈ rest.head?, endsAuthority special c = true) →
    (match rest with
      | [] => true
      | c :: _ => c == '/' || c == '\\' || endsPath c) = true
  | [], _ => rfl
  | c :: _, h => (of_endsAuthority (h c rfl)).2

/-- **A port is read again**, unless it is too large or the one that is left out. -/
theorem readPort_append {p : Nat} (hle : p ≤ 65535) (hne : default ≠ some p) {special : Bool}
    (hrest : ∀ c ∈ rest.head?, endsAuthority special c = true) :
    readPort default (Text.decimal p ++ rest) = .ok (some p, rest) := by
  have hnumeral := Text.numeral_decimal p
  have hspan : (Text.decimal p ++ rest).span Text.isDigit = (Text.decimal p, rest) :=
    span_append hnumeral.isDigit fun c hc => (of_endsAuthority (hrest c hc)).1
  have hempty : ¬ ((Text.decimal p).isEmpty = true ∨ default = some p) := by
    rw [List.isEmpty_iff]
    exact fun h => h.elim hnumeral.ne_nil hne
  have hread (ends : Bool) (hends : ends = true) :
      (if !ends || 65535 < Text.digitsValue (Text.decimal p) then .error .port
        else .ok (if (Text.decimal p).isEmpty ∨ default = some (Text.digitsValue (Text.decimal p)) then none
          else some (Text.digitsValue (Text.decimal p)), rest) : Except ParseError (Option Nat × List Char)) =
      .ok (some p, rest) := by
    rw [hends, hnumeral.value, if_neg (by simp [hle]), if_neg hempty]
  rw [readPort, hspan]
  exact hread _ (endsPort hrest)

theorem of_readPort (h : readPort default s = .ok (port, rest)) :
    ∀ p ∈ port, p ≤ 65535 ∧ default ≠ some p := by
  obtain ⟨hbound, hport⟩ := of_ite_ok h
  rw [Prod.mk.injEq] at hport
  intro p hp
  rw [← hport.1] at hp
  split at hp
  · cases hp
  · rename_i hkept
    obtain rfl := Option.some.inj hp
    simp only [Bool.or_eq_true, decide_eq_true_eq, not_or, Nat.not_lt] at hbound
    exact ⟨hbound.2, fun hdefault => hkept (.inr hdefault)⟩

end Port

/-! ## 4. Authorities -/

/-- The text of an authority. -/
def Authority.text (a : Authority) : List Char :=
  userinfoText a.username a.password ++ (a.host.text ++ portText a.port)

/-- The host is read back from its own text. -/
def Host.ReadsBack (special : Bool) (host : Host) : Prop :=
  (if special then Host.readDomain host.text else Host.readPlain host.text) = .ok host

instance (special : Bool) (host : Host) : Decidable (host.ReadsBack special) :=
  inferInstanceAs (Decidable (_ = _))

/-- An authority as its reader leaves it, with a host that is read as it stands. -/
structure Authority.Settled (special : Bool) (default : Option Nat) (a : Authority) : Prop where
  username : Free inUserinfoSet a.username
  password : Free inUserinfoSet a.password
  closed : a.host.Closed special
  back : a.host.ReadsBack special
  port : ∀ p ∈ a.port, p ≤ 65535 ∧ default ≠ some p
  /-- An empty host stands alone, and in no special scheme. -/
  alone : a.host = .named [] → special = false ∧ a.username = [] ∧ a.password = [] ∧ a.port = none

section Authority

variable {special : Bool} {default : Option Nat} {a : Authority} {s rest : List Char}

/-- The port of an authority is found again. -/
theorem Authority.Settled.readBehindHost (h : a.Settled special default)
    (hrest : ∀ c ∈ rest.head?, endsAuthority special c = true) :
    readBehindHost default a.username a.password a.host (portText a.port ++ rest) = .ok (a, rest) := by
  obtain ⟨username, password, host, port⟩ := a
  cases port with
  | none =>
    have hnamed : ¬ ((decide (host = .named []) && !(username.isEmpty && password.isEmpty)) = true) := by
      rw [Bool.and_eq_true, decide_eq_true_iff]
      rintro ⟨hhost, hnamed⟩
      obtain ⟨-, rfl, rfl, -⟩ := h.alone hhost
      cases hnamed
    unfold Url.readBehindHost
    dsimp only [portText, List.nil_append]
    split
    · have hcolon := hrest ':' rfl
      cases special <;> cases hcolon
    · rw [if_neg hnamed]
  | some p =>
    obtain ⟨hle, hne⟩ := h.port p rfl
    have hhost : host ≠ .named [] := fun hhost => nomatch (h.alone hhost).2.2.2
    show (if host = .named [] then _ else readPort default (Text.decimal p ++ rest) >>= _) = _
    rw [if_neg hhost, readPort_append hle hne hrest]
    rfl

/-- The host and the port of an authority are found again. -/
theorem Authority.Settled.readBehindUser (h : a.Settled special default)
    (hrest : ∀ c ∈ rest.head?, endsAuthority special c = true) :
    readBehindUser special default a.username a.password (a.host.text ++ (portText a.port ++ rest)) =
      .ok (a, rest) := by
  have htaken : takeHost special false (a.host.text ++ (portText a.port ++ rest)) =
      (a.host.text, portText a.port ++ rest) := by
    refine h.closed.takeHost fun c hc => ?_
    cases hport : a.port with
    | none =>
      rw [hport] at hc
      exact .inr (hrest c hc)
    | some p =>
      rw [hport] at hc
      exact .inl (Option.some.inj hc).symm
  have hnonempty : ¬ ((special && a.host.text.isEmpty) = true) := by
    rw [Bool.and_eq_true, List.isEmpty_iff]
    rintro ⟨hspecial, hempty⟩
    rw [(h.alone (Host.eq_of_text_eq_nil hempty)).1] at hspecial
    cases hspecial
  have hback := h.back
  unfold Host.ReadsBack at hback
  unfold Url.readBehindUser
  rw [htaken]
  dsimp only
  rw [if_neg hnonempty]
  split at hback
  · rename_i hspecial
    rw [if_pos hspecial, hback]
    exact h.readBehindHost hrest
  · rename_i hspecial
    rw [if_neg hspecial, hback]
    exact h.readBehindHost hrest

/-- No sign of a user stands in a host and a port. -/
theorem Authority.Settled.free_behindUser (h : a.Settled special default) :
    Free (· == '@') (a.host.text ++ portText a.port) :=
  free_append.mpr ⟨h.closed.free.mono fun _ hc => (Bool.or_eq_false_iff.mp hc).1,
    free_portText (by decide) (by decide) _⟩

/-- Nothing in an authority ends it. -/
theorem Authority.Settled.free_text (h : a.Settled special default) :
    Free (endsAuthority special) a.text := by
  have huser {c : Char} (hc : inUserinfoSet c = false) : endsAuthority special c = false := by
    simp [inUserinfoSet, inPathSet] at hc
    simp [endsAuthority, isSlash, endsPath, hc]
  have hhost : Free (endsAuthority special) a.host.text :=
    h.closed.free.mono fun _ hc => (Bool.or_eq_false_iff.mp hc).2
  have hport : Free (endsAuthority special) (portText a.port) :=
    free_portText (by cases special <;> rfl) (by cases special <;> decide) _
  have huserinfo : Free (endsAuthority special) (userinfoText a.username a.password) := by
    have hsigns : endsAuthority special ':' = false ∧ endsAuthority special '@' = false := by
      cases special <;> decide
    have hname : Free (endsAuthority special) a.username := h.username.mono fun _ => huser
    have hpassword : Free (endsAuthority special) a.password := h.password.mono fun _ => huser
    unfold userinfoText
    split
    · exact free_nil
    · split <;> simp [hname, hpassword, hsigns]
  exact free_append.mpr ⟨huserinfo, free_append.mpr ⟨hhost, hport⟩⟩

theorem Authority.Settled.free_break (h : a.Settled special default) : Free isBreak a.text := by
  have huser {c : Char} (hc : inUserinfoSet c = false) : isBreak c = false :=
    isBreak_of_not_isControl (isControl_of_not_inUserinfoSet hc)
  have huserinfo : Free isBreak (userinfoText a.username a.password) := by
    have hname : Free isBreak a.username := h.username.mono fun _ => huser
    have hpassword : Free isBreak a.password := h.password.mono fun _ => huser
    unfold userinfoText
    split
    · exact free_nil
    · split <;> simp [hname, hpassword, isBreak]
  exact free_append.mpr ⟨huserinfo, free_append.mpr ⟨h.closed.free_break, free_portText rfl (by decide) _⟩⟩

/-- **An authority is found again.** -/
theorem readAuthority_append (h : a.Settled special default)
    (hrest : ∀ c ∈ rest.head?, endsAuthority special c = true) :
    readAuthority special default (a.text ++ rest) = .ok (a, rest) := by
  have hspan : (a.text ++ rest).span (fun c => !endsAuthority special c) = (a.text, rest) :=
    span_of_free h.free_text hrest
  have hread := h.readBehindUser hrest
  unfold readAuthority
  rw [hspan]
  dsimp only
  by_cases huser : a.username = [] ∧ a.password = []
  · obtain ⟨hname, hpassword⟩ := huser
    have htext : a.text = a.host.text ++ portText a.port := by
      rw [Authority.text, hname, hpassword]
      rfl
    rw [hname, hpassword] at hread
    rw [htext, splitAt?_of_free h.free_behindUser, List.append_assoc]
    exact hread
  · have hcredentials : credentials a.username a.password ≠ [] := by
      intro hnil
      rw [credentials, List.append_eq_nil_iff] at hnil
      refine huser ⟨hnil.1, ?_⟩
      have hpassword := hnil.2
      split at hpassword
      · rwa [← List.isEmpty_iff]
      · cases hpassword
    have htext : a.text = credentials a.username a.password ++ '@' :: (a.host.text ++ portText a.port) := by
      rw [Authority.text, userinfoText_eq (not_and_or.mp huser), List.append_assoc]
      rfl
    rw [htext, splitAt?_append h.free_behindUser]
    split
    · rename_i heq
      cases heq
    · rename_i heq
      exact absurd (congrArg Prod.fst (Option.some.inj heq)) hcredentials
    · rename_i heq
      cases heq
      rw [readUserinfo_credentials h.username h.password, List.append_assoc]
      exact hread

section Read

variable {username password : List Char} {host : Host}

theorem settled_of_readBehindHost (hname : Free inUserinfoSet username) (hpassword : Free inUserinfoSet password)
    (hclosed : host.Closed special) (hspecial : host = .named [] → special = false)
    (h : readBehindHost default username password host s = .ok (a, rest))
    (hback : a.host ≠ .named [] → a.host.ReadsBack special) : a.Settled special default := by
  unfold readBehindHost at h
  dsimp only at h
  split at h
  · split at h
    · cases h
    · rename_i hne
      obtain ⟨⟨port, s'⟩, hport, h⟩ := of_bind_ok h
      cases h
      exact ⟨hname, hpassword, hclosed, hback hne, of_readPort hport, fun hhost => absurd hhost hne⟩
  · split at h
    · cases h
    · rename_i hne
      cases h
      have hread : host.ReadsBack special := by
        by_cases hempty : host = .named []
        · rw [hempty, hspecial hempty]
          rfl
        · exact hback hempty
      refine ⟨hname, hpassword, hclosed, hread, nofun, fun hhost => ⟨hspecial hhost, ?_⟩⟩
      have hempty : host = .named [] := hhost
      simp [hempty] at hne
      exact ⟨hne.1, hne.2, rfl⟩

theorem settled_of_readBehindUser (hname : Free inUserinfoSet username) (hpassword : Free inUserinfoSet password)
    (h : readBehindUser special default username password s = .ok (a, rest))
    (hback : a.host ≠ .named [] → a.host.ReadsBack special) : a.Settled special default := by
  unfold readBehindUser at h
  dsimp only at h
  split at h
  · cases h
  split at h
  · rename_i hspecial
    subst hspecial
    obtain ⟨host, hhost, h⟩ := of_bind_ok h
    obtain ⟨hclosed, hne⟩ := closed_of_readDomain hhost
    exact settled_of_readBehindHost hname hpassword hclosed (fun hempty => absurd hempty hne) h hback
  · rename_i hspecial
    obtain rfl : special = false := eq_false_of_ne_true hspecial
    obtain ⟨host, hhost, h⟩ := of_bind_ok h
    exact settled_of_readBehindHost hname hpassword (closed_of_readPlain hhost) (fun _ => rfl) h hback

end Read

/-- **What is read as an authority is found again if its host is**; the empty host always is. -/
theorem settled_of_readAuthority (h : readAuthority special default s = .ok (a, rest))
    (hback : a.host ≠ .named [] → a.host.ReadsBack special) : a.Settled special default := by
  have hencoded (s : List Char) : Free inUserinfoSet (percentEncode inUserinfoSet s) :=
    free_percentEncode_self (by decide) (by decide) _
  unfold readAuthority at h
  dsimp only at h
  split at h
  · exact settled_of_readBehindUser free_nil free_nil h hback
  · split at h
    · exact settled_of_readBehindUser free_nil free_nil h hback
    · cases h
  · exact settled_of_readBehindUser (hencoded _) (hencoded _) h hback

end Authority

end Vignette.Url
