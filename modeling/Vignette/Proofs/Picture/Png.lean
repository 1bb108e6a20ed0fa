import Mathlib.Tactic.Ring
import Vignette.Picture.Png.Decode
import Vignette.Proofs.Picture.Header
import Vignette.Proofs.Picture.Inflate

/-!
# PNG read back

A reader goes through a written file from the front: the chunks one after the other
(`Png.Chunk.Found`), the rows of the deflated data without their filters
(`Png.unfilterRows?_of_toList`), and the samples of the rows pixel by pixel
(`Png.toList_putPicture`). Samples of two bytes change their order on the way in and again on the way
out (`Png.partner_partner`).

Main statement: **what is encoded as PNG is decoded to the picture that it was**
(`Png.decode?_of_encode?`).
-/

namespace Vignette.Png

open Binary (be be? bytes ascii byteAt Holds)

/-! ## 1. Chunks -/

theorem crcFrom_congr {a b : ByteArray} : ∀ (n i j : Nat) (c : UInt32),
    (∀ k < n, byteAt a (i + k) = byteAt b (j + k)) → Binary.crcFrom a n i c = Binary.crcFrom b n j c
  | 0, _, _, _, _ => rfl
  | n + 1, i, j, c, h => by
    have hbyte : byteAt a i = byteAt b j := h 0 (Nat.zero_lt_succ n)
    rw [Binary.crcFrom, Binary.crcFrom, hbyte]
    refine crcFrom_congr n (i + 1) (j + 1) _ fun k hk => ?_
    have hnext := h (k + 1) (Nat.succ_lt_succ hk)
    rwa [Nat.add_comm k 1, ← Nat.add_assoc, ← Nat.add_assoc] at hnext

/-- Bytes that stand in two places have the same check sum. -/
theorem crc32_of_toList {data : ByteArray} {first bs rest : List UInt8}
    (h : data.data.toList = first ++ (bs ++ rest)) :
    Binary.crc32 data first.length bs.length = Binary.crc32 (bytes bs) 0 bs.length := by
  refine congrArg (· ^^^ 0xFFFFFFFF) (crcFrom_congr _ _ _ _ fun k hk => ?_)
  rw [Binary.byteAt_eq, Binary.byteAt_eq, h, List.getElem?_append_right (Nat.le_add_right _ _),
    Nat.add_sub_cancel_left, List.getElem?_append_left hk, Nat.zero_add, Binary.toList_bytes]

namespace Chunk

/-- The text is the type of a chunk: its four letters are read as they are written. -/
def IsType (type : String) : Prop :=
  ∃ a b c d : UInt8, ascii type = [a, b, c, d] ∧
    String.ofList ([a, b, c, d].map fun x => Char.ofNat x.toNat) = type

theorem isType_IHDR : IsType "IHDR" := ⟨0x49, 0x48, 0x44, 0x52, ascii_IHDR, rfl⟩

theorem isType_IDAT : IsType "IDAT" := ⟨0x49, 0x44, 0x41, 0x54, ascii_IDAT, rfl⟩

theorem isType_IEND : IsType "IEND" := ⟨0x49, 0x45, 0x4E, 0x44, by decide +kernel, rfl⟩

theorem IsType.length {type : String} (h : IsType type) : (ascii type).length = 4 := by
  obtain ⟨_, _, _, _, hascii, -⟩ := h
  rw [hascii]
  rfl

section Written

variable {data contents : ByteArray} {type : String} {first rest : List UInt8} (htype : IsType type)
include htype

theorem length_front : (first ++ (be contents.size 4 ++ ascii type)).length = first.length + 8 := by
  rw [List.length_append, List.length_append, Binary.length_be, htype.length]

/-- Length and type are read where they were written. -/
theorem read?_of_toList (hsmall : contents.size < UInt32.size / 2)
    (h : data.data.toList = first ++ ((be contents.size 4 ++ ascii type) ++ rest)) :
    read? data first.length = some ⟨type, first.length + 8, contents.size⟩ := by
  obtain ⟨a, b, c, d, hascii, hname⟩ := htype
  have hlt : contents.size < 256 ^ 4 := Nat.lt_trans hsmall (by decide)
  obtain ⟨hsize, hletters⟩ := Binary.holds_append.mp (Binary.holds_of_toList h)
  rw [Binary.length_be, hascii] at hletters
  obtain ⟨ha, hb, hc, hd, -⟩ := hletters
  rw [read?, Binary.be?_of_lt hsize hlt, ha, hb, hc, hd]
  dsimp only
  rw [if_pos hsmall, hname]

/-- The contents are those that were written. -/
theorem contents_of_toList (h : data.data.toList = (first ++ (be contents.size 4 ++ ascii type)) ++
    (contents.data.toList ++ rest)) : Chunk.contents ⟨type, first.length + 8, contents.size⟩ data = contents := by
  have hextract := Binary.extract_of_toList h
  rw [length_front htype, ← Binary.size_eq_length] at hextract
  rw [Chunk.contents, hextract]
  exact Binary.ext_toList rfl

/-- The check sum is that of what was written. -/
theorem sound?_of_toList (h : data.data.toList = (first ++ be contents.size 4) ++
    ((ascii type ++ contents.data.toList) ++ (be (sum type contents) 4 ++ rest))) :
    sound? ⟨type, first.length + 8, contents.size⟩ data = some true := by
  have hlength : (ascii type ++ contents.data.toList).length = contents.size + 4 := by
    rw [List.length_append, htype.length, ← Binary.size_eq_length, Nat.add_comm]
  have hread : be? data (first.length + 8 + contents.size) 4 = some (sum type contents) := by
    have hsum : data.data.toList = ((first ++ be contents.size 4) ++ (ascii type ++ contents.data.toList)) ++
        (be (sum type contents) 4 ++ rest) := by
      rw [h, List.append_assoc _ (ascii type ++ contents.data.toList)]
    have hbehind : ((first ++ be contents.size 4) ++ (ascii type ++ contents.data.toList)).length =
        first.length + 8 + contents.size := by
      rw [List.length_append, hlength, List.length_append, Binary.length_be]
      omega
    have hold := Binary.holds_of_toList hsum
    rw [hbehind] at hold
    exact Binary.be?_of_lt hold (UInt32.toNat_lt _)
  have hcrc := crc32_of_toList h
  rw [hlength, List.length_append, Binary.length_be] at hcrc
  have hjoin : bytes (ascii type ++ contents.data.toList) = bytes (ascii type) ++ contents := by
    refine Binary.ext_toList ?_
    rw [ByteArray.toList_data_append, Binary.toList_bytes, Binary.toList_bytes]
  have hjoined : (bytes (ascii type) ++ contents).size = contents.size + 4 := by
    rw [← hjoin]
    exact hlength
  have hbefore : first.length + 8 - 4 = first.length + 4 := by omega
  rw [sound?, hread, Option.map_some, hbefore, hcrc, hjoin, sum, hjoined, beq_self_eq_true]

end Written

/-- A chunk is found at a place, whole and undamaged, with its contents. -/
structure Found (data : ByteArray) (i : Nat) (type : String) (contents : ByteArray) : Prop where
  read : read? data i = some ⟨type, i + 8, contents.size⟩
  sound : sound? ⟨type, i + 8, contents.size⟩ data = some true
  contents_eq : Chunk.contents ⟨type, i + 8, contents.size⟩ data = contents

/-- **A chunk is found where it was written.** -/
theorem found_of_toList {data contents : ByteArray} {type : String} {first rest : List UInt8}
    (htype : IsType type) (hsmall : contents.size < UInt32.size / 2)
    (h : data.data.toList = first ++ ((write type contents).data.toList ++ rest)) :
    Found data first.length type contents := by
  rw [toList_write] at h
  have hfront : data.data.toList = first ++ ((be contents.size 4 ++ ascii type) ++
      (contents.data.toList ++ (be (sum type contents) 4 ++ rest))) := by
    simpa only [List.append_assoc] using h
  have hbody : data.data.toList = (first ++ be contents.size 4) ++
      ((ascii type ++ contents.data.toList) ++ (be (sum type contents) 4 ++ rest)) := by
    simpa only [List.append_assoc] using h
  have hcontents : data.data.toList = (first ++ (be contents.size 4 ++ ascii type)) ++
      (contents.data.toList ++ (be (sum type contents) 4 ++ rest)) := by
    simpa only [List.append_assoc] using h
  exact ⟨read?_of_toList htype hsmall hfront, sound?_of_toList htype hbody, contents_of_toList htype hcontents⟩

end Chunk

/-! ## 2. Rows -/

/-- The place of the byte that is written for a place: with `swap`, the other one of its pair. -/
def partner (swap : Bool) (i : Nat) : Nat := if swap then (if i % 2 = 0 then i + 1 else i - 1) else i

theorem partner_partner (swap : Bool) (i : Nat) : partner swap (partner swap i) = i := by
  unfold partner
  split
  · split
    · rw [if_neg (by omega), Nat.add_sub_cancel]
    · rw [if_pos (by omega)]
      omega
  · rfl

/-- Pairs do not reach over an even number of bytes. -/
theorem partner_lt {swap : Bool} {i n : Nat} (h : i < n) (heven : swap = true → n % 2 = 0) :
    partner swap i < n := by
  unfold partner
  split
  · rename_i hswap
    have hn := heven hswap
    split <;> omega
  · exact h

section Rows

variable {data out : ByteArray} {swap : Bool}

theorem toList_putBytes (data : ByteArray) (swap : Bool) : ∀ (n i : Nat) (out : ByteArray),
    (putBytes data swap n i out).data.toList =
      out.data.toList ++ (List.range' i n).map fun k => byteAt data (partner swap k)
  | 0, _, _ => (List.append_nil _).symm
  | n + 1, i, out => by
    rw [putBytes, toList_putBytes data swap n, Binary.toList_push, List.append_assoc, List.range'_succ,
      List.map_cons]
    rfl

/-- The bytes of `n` rows, each behind the number of its filter. -/
def rowBytesList (f : Nat → UInt8) (rowBytes : Nat) : (n i : Nat) → List UInt8
  | 0, _ => []
  | n + 1, i => 0 :: ((List.range' i rowBytes).map f ++ rowBytesList f rowBytes n (i + rowBytes))

theorem length_rowBytesList (f : Nat → UInt8) (rowBytes : Nat) : ∀ n i,
    (rowBytesList f rowBytes n i).length = n * (rowBytes + 1)
  | 0, _ => (Nat.zero_mul _).symm
  | n + 1, i => by
    rw [rowBytesList, List.length_cons, List.length_append, List.length_map, List.length_range',
      length_rowBytesList f rowBytes n, Nat.succ_mul]
    omega

theorem toList_putRows (data : ByteArray) (swap : Bool) (rowBytes : Nat) : ∀ (n i : Nat) (out : ByteArray),
    (putRows data swap rowBytes n i out).data.toList =
      out.data.toList ++ rowBytesList (fun k => byteAt data (partner swap k)) rowBytes n i
  | 0, _, _ => (List.append_nil _).symm
  | n + 1, i, out => by
    rw [putRows, toList_putRows data swap rowBytes n, toList_putBytes, Binary.toList_push, rowBytesList]
    simp only [List.append_assoc, List.cons_append, List.nil_append]

/-- Bytes of a row without a filter are taken as they are. -/
theorem toList_unfilter (data : ByteArray) (step rowBytes : Nat) (first : Bool) : ∀ (n i x : Nat) (out : ByteArray),
    (unfilter data 0 step rowBytes first n i x out).data.toList =
      out.data.toList ++ (List.range' i n).map (byteAt data)
  | 0, _, _, _ => (List.append_nil _).symm
  | n + 1, i, x, out => by
    have hbyte : UInt8.ofNat ((byteAt data i).toNat + 0) = byteAt data i := UInt8.ofNat_toNat
    rw [unfilter, hbyte, toList_unfilter data step rowBytes first n, Binary.toList_push, List.append_assoc,
      List.range'_succ, List.map_cons]
    rfl

/-- **Rows without filters are read as they were written.** -/
theorem unfilterRows?_of_toList {f : Nat → UInt8} (step : Nat) {rowBytes : Nat} {rest : List UInt8} :
    ∀ {n i : Nat} (top : Bool) {first : List UInt8} (out : ByteArray),
      data.data.toList = first ++ (rowBytesList f rowBytes n i ++ rest) →
      ∃ rows, unfilterRows? data step rowBytes n first.length top out = some rows ∧
        rows.data.toList = out.data.toList ++ (List.range' i (n * rowBytes)).map f
  | 0, i, _, first, out, _ => ⟨out, rfl, by rw [Nat.zero_mul]; exact (List.append_nil _).symm⟩
  | n + 1, i, top, first, out, h => by
    rw [rowBytesList, List.cons_append, List.append_assoc] at h
    have hrow : data.data.toList = (first ++ [0]) ++ ((List.range' i rowBytes).map f ++
        (rowBytesList f rowBytes n (i + rowBytes) ++ rest)) := by
      rw [h, List.append_assoc]
      rfl
    have hnext : data.data.toList = (first ++ [0] ++ (List.range' i rowBytes).map f) ++
        (rowBytesList f rowBytes n (i + rowBytes) ++ rest) := by
      rw [hrow]
      simp only [List.append_assoc]
    have hlength : ((List.range' i rowBytes).map f).length = rowBytes := by
      rw [List.length_map, List.length_range']
    have hfirst : (first ++ [0]).length = first.length + 1 := List.length_append
    have hbehind : (first ++ [0] ++ (List.range' i rowBytes).map f).length = first.length + 1 + rowBytes := by
      rw [List.length_append, hfirst, hlength]
    have hfilter : data[first.length]? = some 0 := by
      have hzero : data.data.toList = first ++ ([0] ++ ((List.range' i rowBytes).map f ++
        (rowBytesList f rowBytes n (i + rowBytes) ++ rest))) := h
      exact (Binary.holds_of_toList hzero).1
    have hsize : first.length + 1 + rowBytes ≤ data.size := by
      rw [Binary.size_eq_length, hnext, List.length_append, hbehind]
      exact Nat.le_add_right _ _
    have htaken := Binary.map_byteAt_of_toList hrow
    rw [hfirst, hlength] at htaken
    have htop : (0 : UInt8).toNat = 0 := rfl
    obtain ⟨rows, hrows, hlist⟩ := unfilterRows?_of_toList step false
      (unfilter data 0 step rowBytes top rowBytes (first.length + 1) 0 out) hnext
    rw [hbehind] at hrows
    refine ⟨rows, ?_, ?_⟩
    · rw [unfilterRows?, hfilter]
      dsimp only
      rw [htop, if_neg (by omega), hrows]
    · rw [hlist, toList_unfilter, htaken, List.append_assoc, ← List.map_append, List.range'_append_1,
        Nat.succ_mul, Nat.add_comm rowBytes]

end Rows

/-! ## 3. Pixels -/

/-- Model and depth of a color say how many samples a pixel has, and how many bytes a sample. -/
structure Suits (c : Color) (model : Model) (depth : Nat) : Prop where
  samples : model.samples = c.channels
  depth_eq : depth = 8 * c.sampleBytes
  bytes : c.sampleBytes = 1 ∨ c.sampleBytes = 2
  no_palette : model ≠ .palette
  color_eq : ∀ size, colorOf ⟨⟨size, depth, model, false⟩, none, none⟩ = c

theorem suits_of_modelOf? {c : Color} {model : Model} {depth : Nat}
    (h : modelOf? c = some (model, depth)) : Suits c model depth := by
  cases c <;> cases h <;> exact ⟨rfl, rfl, by decide, by decide, fun _ => rfl⟩

theorem Suits.wide {c : Color} {model : Model} {depth : Nat} (h : Suits c model depth) :
    (depth == 16) = (c.sampleBytes == 2) := by
  rw [h.depth_eq]
  rcases h.bytes with hb | hb <;> rw [hb] <;> rfl

section Pixels

variable {c : Color} {model : Model} {depth : Nat} {size : Size} {rows : ByteArray}

/-- The bytes of a sample, the lowest first. -/
def sampleBytesOf (wide : Bool) (v : Nat) : List UInt8 :=
  if wide then [UInt8.ofNat v, UInt8.ofNat (v / 256)] else [UInt8.ofNat v]

theorem toList_putSample (wide : Bool) (v : Nat) (out : ByteArray) :
    (putSample wide v out).data.toList = out.data.toList ++ sampleBytesOf wide v := by
  unfold putSample sampleBytesOf
  split
  · rw [Binary.toList_push, Binary.toList_push, List.append_assoc]
    rfl
  · exact Binary.toList_push _ _

theorem toList_foldl_putSample (wide : Bool) (f : Nat → Nat) : ∀ (vs : List Nat) (out : ByteArray),
    (vs.foldl (fun out v => putSample wide (f v) out) out).data.toList =
      out.data.toList ++ vs.flatMap fun v => sampleBytesOf wide (f v)
  | [], _ => (List.append_nil _).symm
  | v :: vs, out => by
    rw [List.foldl_cons, toList_foldl_putSample wide f vs, toList_putSample, List.append_assoc,
      List.flatMap_cons]

/-- Samples one after the other are bytes one after the other. -/
theorem flatMap_range (g : Nat → UInt8) (m i : Nat) : ∀ n,
    ((List.range n).flatMap fun k => (List.range' (i + m * k) m).map g) = (List.range' i (m * n)).map g
  | 0 => rfl
  | n + 1 => by
    rw [List.range_succ, List.flatMap_append, flatMap_range g m i n, List.flatMap_singleton, ← List.map_append,
      List.range'_append_1, Nat.mul_succ]

/-- The layer of a picture that is not interlaced. -/
def wholeLayer (rowBytes : Nat) (rows : ByteArray) : Layer := ⟨.whole, rowBytes, rows⟩

theorem holds_wholeLayer (rowBytes : Nat) (rows : ByteArray) (x y : Nat) :
    (wholeLayer rowBytes rows).holds x y = true := by
  simp [wholeLayer, Layer.holds, Pass.whole, Nat.mod_one]

/-- **The bytes of a sample are those that stand in its place of the rows**, in the order in which they were
    before they were written. -/
theorem sampleBytesOf_sample (h : Suits c model depth) (x y k : Nat) :
    sampleBytesOf (depth == 16) (fullSample depth
        ((wholeLayer (size.width.toNat * c.pixelBytes) rows).sample ⟨size, depth, model, false⟩ x y k)) =
      (List.range' ((y * size.width.toNat + x) * c.pixelBytes + c.sampleBytes * k) c.sampleBytes).map
        fun i => byteAt rows (partner (depth == 16) i) := by
  have hplace : (y * size.width.toNat + x) * c.pixelBytes =
      y * (size.width.toNat * c.pixelBytes) + c.sampleBytes * (x * c.channels) := by
    unfold Color.pixelBytes
    ring
  rw [hplace, Nat.add_assoc, ← Nat.mul_add]
  have hdepth := h.depth_eq
  rcases h.bytes with hb | hb
  · rw [hb] at hdepth
    subst hdepth
    simp only [Layer.sample, wholeLayer, Pass.whole, Nat.sub_zero, Nat.div_one, h.samples, hb]
    simp [sampleBytesOf, fullSample, partner]
  · rw [hb] at hdepth
    subst hdepth
    have heven : (y * (size.width.toNat * c.pixelBytes) + 2 * (x * c.channels + k)) % 2 = 0 := by
      rw [Color.pixelBytes, hb, ← Nat.mul_assoc, ← Nat.mul_assoc]
      omega
    simp only [Layer.sample, wholeLayer, Pass.whole, Nat.sub_zero, Nat.div_one, h.samples, hb]
    generalize y * (size.width.toNat * c.pixelBytes) + 2 * (x * c.channels + k) = i at heven
    have hfirst : partner true i = i + 1 := by rw [partner, if_pos rfl, if_pos heven]
    have hsecond : partner true (i + 1) = i := by
      rw [partner, if_pos rfl, if_neg (by omega), Nat.add_sub_cancel]
    have hlow (a b : UInt8) : UInt8.ofNat (a.toNat * 256 + b.toNat) = b := by
      refine UInt8.toNat_inj.mp ?_
      rw [UInt8.toNat_ofNat', Nat.mul_add_mod_self_right]
      exact Nat.mod_eq_of_lt b.toNat_lt
    have hhigh (a b : UInt8) : UInt8.ofNat ((a.toNat * 256 + b.toNat) / 256) = a := by
      refine UInt8.toNat_inj.mp ?_
      have ha := a.toNat_lt
      have hb := b.toNat_lt
      rw [UInt8.toNat_ofNat']
      omega
    have hwide : ((8 * 2 : Nat) == 16) = true := rfl
    simp only [hwide, sampleBytesOf, fullSample, if_true, if_neg (by decide : ¬ 8 * 2 < 8), hlow, hhigh,
      List.range'_succ, List.range'_zero, List.map_cons, List.map_nil, hfirst, hsecond]

/-- A pixel puts its bytes behind what was there. -/
theorem toList_putPixel (h : Suits c model depth) (x y : Nat) (out : ByteArray) :
    (putPixel ⟨⟨size, depth, model, false⟩, none, none⟩ (wholeLayer (size.width.toNat * c.pixelBytes) rows)
        x y out).data.toList =
      out.data.toList ++ (List.range' ((y * size.width.toNat + x) * c.pixelBytes) c.pixelBytes).map
        fun i => byteAt rows (partner (depth == 16) i) := by
  unfold putPixel
  dsimp only
  rw [if_neg h.no_palette, toList_foldl_putSample, List.flatMap_map, h.samples]
  simp only [sampleBytesOf_sample h]
  rw [flatMap_range, Nat.mul_comm c.sampleBytes]
  rfl

theorem toList_putRow (h : Suits c model depth) (y : Nat) : ∀ (n x : Nat) (out : ByteArray),
    (putRow ⟨⟨size, depth, model, false⟩, none, none⟩ [wholeLayer (size.width.toNat * c.pixelBytes) rows]
        y n x out).data.toList =
      out.data.toList ++ (List.range' ((y * size.width.toNat + x) * c.pixelBytes) (n * c.pixelBytes)).map
        fun i => byteAt rows (partner (depth == 16) i)
  | 0, _, _ => by rw [Nat.zero_mul]; exact (List.append_nil _).symm
  | n + 1, x, out => by
    have hfind : [wholeLayer (size.width.toNat * c.pixelBytes) rows].find? (·.holds x y) =
        some (wholeLayer (size.width.toNat * c.pixelBytes) rows) := by
      rw [List.find?_cons, holds_wholeLayer]
    rw [putRow, hfind]
    dsimp only
    rw [toList_putRow h y n (x + 1), toList_putPixel h, List.append_assoc, ← List.map_append, ← Nat.add_assoc,
      Nat.succ_mul (_ + x), List.range'_append_1, Nat.succ_mul n, Nat.add_comm (n * _)]

/-- **The picture that is put together has the bytes of the rows.** -/
theorem toList_putPicture (h : Suits c model depth) : ∀ (n y : Nat) (out : ByteArray),
    (putPicture ⟨⟨size, depth, model, false⟩, none, none⟩ [wholeLayer (size.width.toNat * c.pixelBytes) rows]
        n y out).data.toList =
      out.data.toList ++ (List.range' (y * (size.width.toNat * c.pixelBytes))
        (n * (size.width.toNat * c.pixelBytes))).map fun i => byteAt rows (partner (depth == 16) i)
  | 0, _, _ => by rw [Nat.zero_mul]; exact (List.append_nil _).symm
  | n + 1, y, out => by
    rw [putPicture, toList_putPicture h n (y + 1)]
    dsimp only
    rw [toList_putRow h, List.append_assoc, ← List.map_append, Nat.add_zero, Nat.mul_assoc y, Nat.succ_mul y,
      List.range'_append_1, Nat.succ_mul n, Nat.add_comm (n * _)]

end Pixels

/-! ## 4. Files -/

section Files

variable {p : Picture} {data : ByteArray} {model : Model} {depth : Nat}

/-- The rows of a picture as they are written. -/
def rowsOf (p : Picture) (depth : Nat) : ByteArray :=
  putRows p.data (depth == 16) p.rowBytes p.height 0 ByteArray.empty

theorem rowBytes_eq (p : Picture) : p.rowBytes = p.size.width.toNat * p.color.pixelBytes := rfl

theorem size_rowsOf (p : Picture) (depth : Nat) : (rowsOf p depth).size = p.height * (p.rowBytes + 1) := by
  rw [rowsOf, Binary.size_eq_length, toList_putRows, List.length_append, length_rowBytesList]
  exact Nat.zero_add _

/-- Pixels have from one byte to eight. -/
theorem Suits.pixelBytes_le (h : Suits p.color model depth) :
    0 < p.color.pixelBytes ∧ p.color.pixelBytes ≤ 8 := by
  have hbytes := h.bytes
  revert hbytes
  generalize p.color = c
  cases c <;> decide

/-- How large a picture within limits is. -/
theorem Suits.rowBytes_le (h : Suits p.color model depth) (hsize : p.size.InLimits) :
    p.rowBytes ≤ 8192 * 8 ∧ p.height ≤ 8192 := by
  obtain ⟨-, -, hw, hh⟩ := hsize
  exact ⟨Nat.mul_le_mul hw h.pixelBytes_le.2, hh⟩

/-- The pixels that are written fit into a chunk. -/
theorem Suits.size_deflate_lt (h : Suits p.color model depth) (hsize : p.size.InLimits) :
    (Deflate.deflate (rowsOf p depth)).size < UInt32.size / 2 := by
  obtain ⟨hrow, hheight⟩ := h.rowBytes_le hsize
  have hrows : p.height * (p.rowBytes + 1) ≤ 8192 * (8192 * 8 + 1) :=
    Nat.mul_le_mul hheight (Nat.succ_le_succ hrow)
  have hblock : Deflate.blockSize = 65535 := rfl
  have hlimit : UInt32.size / 2 = 2147483648 := rfl
  rw [Deflate.size_deflate, size_rowsOf, hblock, hlimit]
  omega

/-- **The rows of a written picture are read as one layer**, which holds the bytes that were written. -/
theorem readLayers?_rowsOf (h : Suits p.color model depth) (hsize : p.size.InLimits) :
    ∃ rows, readLayers? ⟨p.size, depth, model, false⟩ (rowsOf p depth) [.whole] 0 =
        some [wholeLayer p.rowBytes rows] ∧
      rows.data.toList = (List.range' 0 (p.height * p.rowBytes)).map
        fun i => byteAt p.data (partner (depth == 16) i) := by
  obtain ⟨hw, hh, -, -⟩ := hsize
  have hcolumns : metPlaces p.size.width.toNat 0 1 = p.size.width.toNat := by
    rw [metPlaces, Nat.sub_zero, Nat.add_sub_cancel, Nat.div_one]
  have hrows : metPlaces p.size.height.toNat 0 1 = p.height := by
    rw [metPlaces, Nat.sub_zero, Nat.add_sub_cancel, Nat.div_one]
    rfl
  have hbits : Header.pixelBits ⟨p.size, depth, model, false⟩ = 8 * p.color.pixelBytes := by
    rw [Header.pixelBits, h.samples, h.depth_eq, Color.pixelBytes, Nat.mul_left_comm]
  have hrow : (p.size.width.toNat * (8 * p.color.pixelBytes) + 7) / 8 = p.rowBytes := by
    rw [rowBytes_eq, Nat.mul_left_comm]
    omega
  have hlist : (rowsOf p depth).data.toList = ([] : List UInt8) ++
      (rowBytesList (fun i => byteAt p.data (partner (depth == 16) i)) p.rowBytes p.height 0 ++ []) := by
    rw [rowsOf, toList_putRows, List.append_nil]
    rfl
  obtain ⟨rows, hread, hbytes⟩ := unfilterRows?_of_toList ((8 * p.color.pixelBytes + 7) / 8) true
    ByteArray.empty hlist
  rw [List.length_nil] at hread
  refine ⟨rows, ?_, hbytes⟩
  rw [readLayers?]
  simp only [Pass.whole, hcolumns, hrows, hbits, hrow]
  rw [if_neg (by unfold Picture.height; omega), hread]
  rfl

/-- **What is put together from the rows that are read is the picture that was written.** -/
theorem putPicture_rows (h : Suits p.color model depth) {rows : ByteArray}
    (hrows : rows.data.toList = (List.range' 0 (p.height * p.rowBytes)).map
      fun i => byteAt p.data (partner (depth == 16) i)) :
    putPicture ⟨⟨p.size, depth, model, false⟩, none, none⟩ [wholeLayer p.rowBytes rows] p.size.height.toNat 0
      ByteArray.empty = p.data := by
  refine Binary.ext_toList ?_
  rw [rowBytes_eq, toList_putPicture h, ← rowBytes_eq, Nat.zero_mul, ← Binary.map_byteAt_range p.data,
    p.data_size_eq]
  refine (List.nil_append _).trans (List.map_congr_left fun i hi => ?_)
  have hlt : i < p.height * p.rowBytes := by
    have hi' := (List.mem_range'_1.mp hi).2
    rwa [Nat.zero_add] at hi'
  have heven : (depth == 16) = true → (p.height * p.rowBytes) % 2 = 0 := by
    intro hwide
    rw [h.wide, beq_iff_eq] at hwide
    rw [rowBytes_eq, Color.pixelBytes, hwide, ← Nat.mul_assoc, ← Nat.mul_assoc]
    exact Nat.mul_mod_left _ _
  have hpartner := partner_lt hlt heven
  rw [Binary.byteAt_eq rows, hrows, List.getElem?_map, List.getElem?_range' hpartner, Option.map_some,
    Option.getD_some, Nat.zero_add, Nat.one_mul, partner_partner]

theorem Chunk.length_write {type : String} (htype : IsType type) (contents : ByteArray) :
    (write type contents).data.toList.length = contents.size + 12 := by
  rw [toList_write]
  simp only [List.length_append, Binary.length_be, htype.length, ← Binary.size_eq_length]
  omega

/-- What stands in a written file: the header, the pixels, and the end, each in its chunk. -/
structure Chunks (data header pixels : ByteArray) : Prop where
  opening : Chunk.Found data 8 "IHDR" header
  middle : Chunk.Found data 33 "IDAT" pixels
  ending : Chunk.Found data (45 + pixels.size) "IEND" ByteArray.empty
  size : 2 ≤ data.size

/-- **The chunks of a file are found where they were written.** -/
theorem chunks_of_toList {header pixels : ByteArray} (hheader : header.size = 13)
    (hpixels : pixels.size < UInt32.size / 2)
    (h : data = bytes signature ++ Chunk.write "IHDR" header ++ Chunk.write "IDAT" pixels ++
      Chunk.write "IEND" ByteArray.empty) : Chunks data header pixels := by
  have hlist : data.data.toList = signature ++ ((Chunk.write "IHDR" header).data.toList ++
      ((Chunk.write "IDAT" pixels).data.toList ++ (Chunk.write "IEND" ByteArray.empty).data.toList)) := by
    rw [h]
    simp only [ByteArray.toList_data_append, Binary.toList_bytes, List.append_assoc]
  have hsecond : data.data.toList = (signature ++ (Chunk.write "IHDR" header).data.toList) ++
      ((Chunk.write "IDAT" pixels).data.toList ++ (Chunk.write "IEND" ByteArray.empty).data.toList) := by
    rw [hlist, List.append_assoc]
  have hthird : data.data.toList = (signature ++ (Chunk.write "IHDR" header).data.toList ++
      (Chunk.write "IDAT" pixels).data.toList) ++ ((Chunk.write "IEND" ByteArray.empty).data.toList ++ []) := by
    rw [hsecond, List.append_nil, List.append_assoc _ _ (Chunk.write "IEND" _).data.toList]
  have hplace : (signature ++ (Chunk.write "IHDR" header).data.toList).length = 33 := by
    rw [List.length_append, Chunk.length_write Chunk.isType_IHDR, hheader]
    rfl
  have hplace' : (signature ++ (Chunk.write "IHDR" header).data.toList ++
      (Chunk.write "IDAT" pixels).data.toList).length = 45 + pixels.size := by
    rw [List.length_append, hplace, Chunk.length_write Chunk.isType_IDAT]
    omega
  refine ⟨Chunk.found_of_toList Chunk.isType_IHDR ?_ hlist, ?_, ?_, ?_⟩
  · rw [hheader]
    decide
  · exact hplace ▸ Chunk.found_of_toList Chunk.isType_IDAT hpixels hsecond
  · exact hplace' ▸ Chunk.found_of_toList Chunk.isType_IEND (by decide) hthird
  · rw [Binary.size_eq_length, hlist, List.length_append]
    exact Nat.le_trans (by decide) (Nat.le_add_right signature.length _)

/-- **The pixels are read up to the chunk behind them.** -/
theorem Chunks.readPixels? {header pixels : ByteArray} (h : Chunks data header pixels) :
    readPixels? data data.size 33 ByteArray.empty = some pixels := by
  obtain ⟨fuel, hfuel⟩ := Nat.exists_eq_add_of_le' h.size
  have hnext : Chunk.next ⟨"IDAT", 33 + 8, pixels.size⟩ = 45 + pixels.size := by
    unfold Chunk.next
    dsimp only
    omega
  rw [hfuel, Png.readPixels?, h.middle.read]
  dsimp only
  rw [if_pos rfl, if_pos h.middle.sound, hnext, Png.readPixels?, h.ending.read]
  dsimp only
  rw [if_neg (by decide), h.middle.contents_eq, ByteArray.empty_append]

/-- Nothing stands between the header and the pixels. -/
theorem Chunks.readPreface? {header pixels : ByteArray} (h : Chunks data header pixels) (p : Preface) :
    readPreface? data data.size 33 p = some (p, 33) := by
  obtain ⟨fuel, hfuel⟩ := Nat.exists_eq_add_of_le' (Nat.le_trans (by decide : 1 ≤ 2) h.size)
  rw [hfuel, Png.readPreface?, h.middle.read]
  dsimp only
  rw [if_pos rfl]

/-- **What is encoded as PNG is decoded to the picture that it was**, byte by byte. -/
theorem decode?_of_encode? (hsize : p.size.InLimits) (h : encode? p = some data) : decode? data = some p := by
  obtain ⟨model, depth, hmodel, hold, -⟩ := holds_of_encode? h
  have hsuits := suits_of_modelOf? hmodel
  have hheader := Header.read?_of_holds hold hsize (mem_depths_of_modelOf? hmodel)
  have hchunks : Chunks data (bytes (Header.write ⟨p.size, depth, model, false⟩))
      (Deflate.deflate (rowsOf p depth)) := by
    unfold encode? at h
    rw [hmodel] at h
    exact chunks_of_toList (Header.length_write _) (hsuits.size_deflate_lt hsize) (Option.some.inj h).symm
  obtain ⟨rows, hlayers, hrows⟩ := readLayers?_rowsOf hsuits hsize
  have hlength : (bytes (Header.write ⟨p.size, depth, model, false⟩)).size = 13 := Header.length_write _
  have hread := hchunks.opening.read
  have hsound := hchunks.opening.sound
  have hpreface := hchunks.readPreface? ⟨⟨p.size, depth, model, false⟩, none, none⟩
  have hsmall : ¬ maxBytes < p.size.width.toNat * p.size.height.toNat * p.color.pixelBytes := by
    obtain ⟨-, -, hw, hh⟩ := hsize
    have hbytes := Nat.mul_le_mul (Nat.mul_le_mul hw hh) hsuits.pixelBytes_le.2
    exact Nat.not_lt.mpr (Nat.le_trans hbytes (by decide))
  rw [hlength] at hread hsound
  unfold decode?
  simp only [hread, hsound, Option.bind_eq_bind, Option.bind_some, hheader, Chunk.next, hpreface,
    hsuits.no_palette, hsuits.color_eq, hsmall, hchunks.readPixels?, Deflate.inflate?_deflate, hlayers,
    putPicture_rows hsuits hrows, Picture.ofData?_self, ne_eq, not_true_eq_false, false_or, if_false,
    Bool.false_eq_true, false_and]

end Files

end Vignette.Png
