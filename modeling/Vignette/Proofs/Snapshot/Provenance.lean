import Vignette.Proofs.Snapshot.Service

/-!
# Where stored thumbnails come from

Only calls that were ordered to fill the store write into it, and what they write is made by the call
itself: from the one capture that it had made, under the key of the very sizes that it was made at.
`Provenance` says this of a call and what it wrote.

Main statement: **whatever is written in a run of calls, by whichever snapshots, has its provenance in
the call that wrote it, and so has every entry of the store that was not there at the start**
(`provenance_of_written`).
-/

namespace Vignette

/-- How a payload came to be written under a key by a call: the key is that of the call's own sizes, and
    the payload is the call's one capture, or a thumbnail of it in just the size of the key. -/
structure Provenance (v : Served) (o : Order) (key : Key) (payload : ByteArray) : Prop where
  ordered : v.call.order? = some o
  key_eq : key = Key.derive v.snapshot.request.kind v.snapshot.request.digest
    (o.windowFor v.snapshot.request) (o.thumbFor v.snapshot.request)
  not_empty : payload.isEmpty = false
  rendered : ∃ data,
    v.account.captures =
      [(⟨v.snapshot.request.address, v.snapshot.request.kind.selector, o.identity,
        o.windowFor v.snapshot.request⟩, .ok data)] ∧
    (o.windowFor v.snapshot.request = o.thumbFor v.snapshot.request → payload = data) ∧
    (o.windowFor v.snapshot.request ≠ o.thumbFor v.snapshot.request →
      (Thumbnail.make v.snapshot.decode data (o.windowFor v.snapshot.request)
        (o.thumbFor v.snapshot.request) v.snapshot.format v.snapshot.crop).2 = .ok payload ∧
      Thumbnail.Depicts v.snapshot.decode data (o.windowFor v.snapshot.request)
        (o.thumbFor v.snapshot.request) v.snapshot.format v.snapshot.crop payload)

/-- **What a served call writes has its provenance in that call.** -/
theorem Called.provenance {v : Served} (h : Called v.snapshot v.call v.account v.reply) {key : Key}
    {payload : ByteArray} {reply : Except StoreFailure Unit}
    (hw : (key, payload, reply) ∈ v.account.writes) : ∃ o, Provenance v o key payload := by
  obtain ⟨o, r, ho, hf⟩ := h.order_of_write hw
  obtain ⟨hkey, data, hcaptures, hy⟩ := hf.of_write hw
  refine ⟨o, ho, hkey, hy.not_empty, data, hcaptures, hy.verbatim, fun hs => ?_⟩
  obtain ⟨ns, hns⟩ := hy.made hs
  exact ⟨congrArg Prod.snd hns, Thumbnail.depicts_of_make hns⟩

/-- **Every thumbnail that is written in a run of calls has its provenance in the call that wrote it,
    and every entry of the store is as it was or has such a provenance.** -/
theorem provenance_of_written {σ : Type} (env : Surroundings σ) (calls : List (Snapshot × Call))
    (w : World σ) :
    (∀ v ∈ (serve env calls w).1, ∀ key payload reply,
      (key, payload, reply) ∈ v.account.writes → ∃ o, Provenance v o key payload) ∧
    ∀ entries, env.Keeps entries → ∀ key,
      entries (serve env calls w).2.state key = entries w.state key ∨
      ∃ v ∈ (serve env calls w).1, ∃ o payload,
        entries (serve env calls w).2.state key = some payload ∧ Provenance v o key payload := by
  refine ⟨fun v hv key payload reply hw => (called_of_mem_serve hv).provenance hw,
    fun entries hk key => ?_⟩
  rcases (leads_serve hk calls w).eq_or_written key with h | ⟨payload, hp, hm⟩
  · exact .inl h
  · obtain ⟨e, he, hwrite⟩ := List.mem_filterMap.mp hm
    obtain ⟨v, hv, hev⟩ := List.mem_flatMap.mp he
    have hw : (key, payload, .ok ()) ∈ v.account.writes := List.mem_filterMap.mpr ⟨e, hev, hwrite⟩
    obtain ⟨o, ho⟩ := (called_of_mem_serve hv).provenance hw
    exact .inr ⟨v, hv, o, payload, hp, ho⟩

end Vignette
