import Vignette.Proofs.Url.Parameter
import Vignette.Proofs.Url.ReadBack

/-!
# A parameter given twice

A name that is given a value in an address, and then another, has the other: the address is the one that
it would be if the first value had never been given (`withParameter_override`). Two things carry this.
A query is written in one way only, whatever way it was spelled in before, so what is written is read as
it was meant. And a name that is given a value keeps the place of its first pair, or the last place if it
had none, so that it stays there when it is given another.

What is rewritten is a text, so the URL has to be found again in its text (`Url.ReadsBack`). This is what
a reader of URLs is relied upon for; where its reader of hosts can be, it is so, whatever value is given
(`Url.readsBack_withParameter`).

Main statement: **a later value overrides an earlier one, and so a page in the standalone mode of one kind
is asked for the other kind at the same address as the page itself** (`later_value_overrides`).
-/

namespace Vignette

/-! ## 1. Lists of names with values -/

namespace Url.Form

/-- **The later value is the one that counts.** -/
theorem put_put (name first second : String) : ∀ pairs : List (String × String),
    put name second (put name first pairs) = put name second pairs
  | [] => by simp [put]
  | (n, v) :: rest => by
    by_cases hn : n = name
    · rw [put, if_pos hn, put, if_pos rfl, put, if_pos hn, List.filter_filter]
      simp
    · rw [put, if_neg hn, put, if_neg hn, put, if_neg hn, put_put name first second rest]

end Url.Form

/-! ## 2. URLs -/

section Override

variable {address name first : String} {u : Url}

theorem withParameter_of_parse (h : Url.parse address = .ok u) (name value : String) :
    withParameter address name value = .ok (u.withParameter name value) := by
  rw [withParameter, h]

/-- **A URL has the later value as if there had been no earlier one**: its query says the same, and is
    written in the same way. -/
theorem Url.withParameter_withParameter (u : Url) (name first second : String) :
    (u.withParameter name first).withParameter name second = u.withParameter name second := by
  have hpairs : Form.put name second (u.withParameter name first).pairs = Form.put name second u.pairs := by
    rw [pairs_withParameter, Form.put_put]
  show { u with query := some (Form.text (Form.put name second (u.withParameter name first).pairs)) } = _
  rw [hpairs]
  rfl

/-- **An address has the later value as if there had been no earlier one.** -/
theorem withParameter_override (h : Url.parse address = .ok u)
    (hback : (u.withParameter name first).ReadsBack) (second : String) :
    withParameter (u.withParameter name first).text name second = withParameter address name second := by
  rw [withParameter_of_parse hback, withParameter_of_parse h, Url.withParameter_withParameter]

/-- A request depends on its address only by the address in the standalone mode of the kind. -/
theorem Request.make_congr {kind : Kind} {a b : String}
    (h : withParameter a modeParameter kind.standaloneMode =
      withParameter b modeParameter kind.standaloneMode) (digest : String) (window thumb : Option Size) :
    make kind a digest window thumb = make kind b digest window thumb := by
  rw [make, make, h]

theorem Request.address_of_make (h : Url.parse address = .ok u) (kind : Kind) (digest : String)
    (window thumb : Option Size) : ∃ r, make kind address digest window thumb = .ok r ∧
      r.address = (u.withParameter modeParameter kind.standaloneMode).text := by
  rw [make, withParameter_of_parse h]
  exact ⟨_, rfl, rfl⟩

end Override

/-- **A later value overrides an earlier one.** In an address that can be read, and that is read back after
    a name was given a first value in it, the name can be given a second: then the address is the one
    that the second value alone makes of it. Giving the same value again changes nothing. And the address
    of a request for one kind, taken for a request for the other, makes the request that the original
    address makes. An address is read back with any value given in it if its host is read as it stands and
    no drive was overlooked. -/
theorem later_value_overrides {address : String} {u : Url} (h : Url.parse address = .ok u) :
    (∀ name first second, (u.withParameter name first).ReadsBack →
      ∃ v w, withParameter address name first = .ok v ∧ withParameter v.text name second = .ok w ∧
        withParameter address name second = .ok w) ∧
    (∀ name value, (u.withParameter name value).ReadsBack →
      ∃ v, withParameter address name value = .ok v ∧ withParameter v.text name value = .ok v) ∧
    (∀ (a b : Kind), (u.withParameter Request.modeParameter a.standaloneMode).ReadsBack →
      ∀ digest window thumb, ∃ r, Request.make a address digest window thumb = .ok r ∧
        ∀ digest window thumb, ∃ q, Request.make b r.address digest window thumb = .ok q ∧
          Request.make b address digest window thumb = .ok q) ∧
    (u.Steady → ∀ name value, (u.withParameter name value).ReadsBack) := by
  refine ⟨fun name first second hback => ?_, fun name value hback => ?_, fun a b hback => ?_,
    fun hsteady => Url.readsBack_withParameter h hsteady⟩
  · have hsecond := withParameter_of_parse h name second
    exact ⟨_, _, withParameter_of_parse h name first, (withParameter_override h hback second).trans hsecond,
      hsecond⟩
  · have hvalue := withParameter_of_parse h name value
    exact ⟨_, hvalue, (withParameter_override h hback value).trans hvalue⟩
  · intro digest window thumb
    obtain ⟨r, hr, haddress⟩ := Request.address_of_make h a digest window thumb
    refine ⟨r, hr, fun digest window thumb => ?_⟩
    obtain ⟨q, hq, -⟩ := Request.address_of_make h b digest window thumb
    refine ⟨q, ?_, hq⟩
    rw [haddress, ← hq]
    exact Request.make_congr (withParameter_override h hback _) digest window thumb

/-- A page that has its mode twice: asked for as a chart and then as a dashboard, it has the mode of a
    dashboard in the first place, and its other parameter is spelled anew once. -/
theorem later_value_overrides_page :
    let address := "http://[::1]/page?standalone=0&x=%7e%201&standalone=1#top"
    let u : Url := ⟨"http".toList, [], [], some (.ipv6 [0, 0, 0, 0, 0, 0, 0, 1]), none,
      .segments ["page".toList], some "standalone=0&x=%7e%201&standalone=1".toList, some "top".toList⟩
    Url.parse address = .ok u ∧ u.Steady ∧ (u.withParameter "standalone" "true").ReadsBack ∧
      ∃ r q, Request.make .chart address "c0ffee" none none = .ok r ∧
        Request.make .dashboard r.address "c0ffee" none none = .ok q ∧
        q.address = "http://[::1]/page?standalone=3&x=%7E+1#top" := by
  intro address u
  have hparse : Url.parse address = .ok u := by decide +kernel
  have hsteady : u.Steady := by decide +kernel
  obtain ⟨-, -, hkinds, hreads⟩ := later_value_overrides hparse
  have hback : (u.withParameter "standalone" "true").ReadsBack := hreads hsteady "standalone" "true"
  obtain ⟨r, hr, hagain⟩ := hkinds .chart .dashboard hback "c0ffee" none none
  obtain ⟨q, hq, hdirect⟩ := hagain "c0ffee" none none
  refine ⟨hparse, hsteady, hback, r, q, hr, hq, ?_⟩
  have haddress : (u.withParameter "standalone" "3").text = "http://[::1]/page?standalone=3&x=%7E+1#top" := by
    decide +kernel
  obtain ⟨direct, hmake, htext⟩ := Request.address_of_make hparse .dashboard "c0ffee" none none
  rw [hdirect] at hmake
  cases hmake
  exact htext.trans haddress

end Vignette
