import Lookout.Picture.Codec
import Lookout.Proofs.Picture.Resize
import Lookout.Proofs.Picture.StoredBlocks
/-!
# A picture in a PNG file comes back

The file that `Png.encode` writes for a picture is read by `Picture.decode` as that picture
(`decode_encode`), pixel by pixel, if the picture has pixels and fits the format: sides below
`2 ^ 31` and compressed data below `2 ^ 32` octets.
-/

namespace Lookout.Png

open Octets

/-! ### Chunks -/

/-- A chunk that stands in a file is read: it ends the file or precedes the chunks after it. -/
theorem readChunks?_chunk {file content : ByteArray} {tag : String} {pos : Nat}
    (h : StandsAt file pos (chunk tag content)) (htag : (tagOctets tag).size = 4)
    (hname : String.ofList ((tagOctets tag).toList.map fun o => Char.ofNat o.toNat) = tag)
    (hsize : content.size < 0x100000000) (fuel : Nat) :
    readChunks? file (fuel + 1) pos =
      if tag = "IEND" then some []
      else (readChunks? file fuel (pos + 12 + content.size)).map ((tag, content) :: ·) := by
  unfold chunk at h
  have hend : pos + 4 + (tagOctets tag ++ content).size = pos + 8 + content.size := by
    rw [ByteArray.size_append, htag]
    omega
  have hlength : nat32? file pos = some content.size := h.left.left.nat32?_eq hsize
  have hbody : slice? file (pos + 4) (pos + 8 + content.size) = some (tagOctets tag ++ content) := by
    rw [← hend]
    exact h.left.right.slice?_eq
  have hcheck : nat32? file (pos + 8 + content.size) =
      some (Checksum.crc32 (tagOctets tag ++ content)).toNat := by
    have hcheck := h.right
    rw [ByteArray.size_append, ← Nat.add_assoc] at hcheck
    rw [← hend]
    exact hcheck.nat32?_eq (UInt32.toNat_lt _)
  have hfirst : (tagOctets tag ++ content).extract 0 4 = tagOctets tag :=
    ByteArray.extract_append_eq_left htag.symm
  have hrest : (tagOctets tag ++ content).extract 4 (tagOctets tag ++ content).size = content :=
    ByteArray.extract_append_eq_right htag.symm ByteArray.size_append
  rw [readChunks?]
  simp only [hlength, hbody, hcheck, hfirst, hname, hrest, Option.bind_eq_bind, Option.bind_some]
  simp only [decide_true, Bool.not_true, Bool.false_and, Bool.false_eq_true, if_false, if_true]
  split
  · rfl
  · cases readChunks? file fuel (pos + 12 + content.size) <;> rfl

/-- A chunk has twelve octets besides its data. -/
theorem size_chunk {tag : String} (htag : (tagOctets tag).size = 4) (content : ByteArray) :
    (chunk tag content).size = 12 + content.size := by
  have hfour : ∀ n, (⟨(write32 n).toArray⟩ : ByteArray).size = 4 := fun _ => rfl
  unfold chunk
  simp only [ByteArray.size_append, hfour, htag]
  omega

/-- A whole file is its three chunks. -/
theorem readChunks?_file {header pixels : ByteArray} (hheader : header.size < 0x100000000)
    (hpixels : pixels.size < 0x100000000) (fuel : Nat) :
    readChunks? (mark ++ chunk "IHDR" header ++ chunk "IDAT" pixels ++ chunk "IEND" .empty)
        (fuel + 3) 8 =
      some [("IHDR", header), ("IDAT", pixels)] := by
  have hfront := StandsAt.append_left (mark ++ chunk "IHDR" header ++ chunk "IDAT" pixels)
    (chunk "IEND" .empty)
  have hfirst := hfront.left.right
  have hsecond := hfront.right
  have hthird := StandsAt.append_right (mark ++ chunk "IHDR" header ++ chunk "IDAT" pixels)
    (chunk "IEND" .empty)
  have hmark : mark.size = 8 := rfl
  simp only [ByteArray.size_append, hmark, size_chunk (show (tagOctets "IHDR").size = 4 from rfl),
    size_chunk (show (tagOctets "IDAT").size = 4 from rfl), Nat.zero_add, ← Nat.add_assoc] at hfirst hsecond hthird
  rw [readChunks?_chunk hfirst rfl (by decide +kernel) hheader, if_neg (by decide),
    readChunks?_chunk hsecond rfl (by decide +kernel) hpixels, if_neg (by decide),
    readChunks?_chunk hthird rfl (by decide +kernel) (by decide), if_pos rfl]
  rfl

/-! ### The header -/

/-- The header has thirteen octets. -/
theorem size_header (r : Raster Rgb) : (header r).size = 13 := rfl

/-- The header of a picture whose sides fit is read as it was written. -/
theorem readHeader?_header {r : Raster Rgb} (hwidth : 0 < r.width ∧ r.width < 0x80000000)
    (hheight : 0 < r.height ∧ r.height < 0x80000000) :
    readHeader? (header r) = some ⟨r.width, r.height, 8, 2, false⟩ := by
  have hwhole : StandsAt (header r) 0
      (⟨(write32 r.width).toArray⟩ ++ ⟨(write32 r.height).toArray⟩ ++ ⟨#[8, 2, 0, 0, 0]⟩) := by
    unfold header
    rw [mk_append, mk_append]
    exact StandsAt.refl _
  have hw : nat32? (header r) 0 = some r.width := hwhole.left.left.nat32?_eq (by omega)
  have hh : nat32? (header r) 4 = some r.height := hwhole.left.right.nat32?_eq (by omega)
  have hdepth : natAt? (header r) 8 1 = some 8 :=
    hwhole.right.natAt?_eq 0 1 (by decide)
  have hcolour : natAt? (header r) 9 1 = some 2 :=
    hwhole.right.natAt?_eq 1 1 (by decide)
  have hmethod : nat16? (header r) 10 = some 0 :=
    hwhole.right.natAt?_eq 2 2 (by decide)
  have hinterlace : natAt? (header r) 12 1 = some 0 :=
    hwhole.right.natAt?_eq 4 1 (by decide)
  have hsides : ¬(r.width = 0 ∨ r.height = 0 ∨ 0x80000000 ≤ r.width ∨ 0x80000000 ≤ r.height) := by
    omega
  unfold readHeader?
  simp only [size_header, hw, hh, hdepth, hcolour, hmethod, hinterlace, hsides, Option.bind_eq_bind,
    Option.bind_some, if_false]
  rfl

/-! ### Rows -/

/-- A row without a filter stays as it is. -/
theorem unfilterRow_zero (step : Nat) (above row : ByteArray) :
    unfilterRow 0 step above row = row := by
  have hcopied : ∀ k ≤ row.size,
      k.fold (fun i _ out => ByteArray.push out (octetAt row i)) .empty = row.extract 0 k := by
    intro k hk
    induction k with
    | zero => simp
    | succ k ih =>
      have hlt : k < row.size := by omega
      have hoctet : octetAt row k = row[k] := dif_pos hlt
      rw [Nat.fold_succ, ih (by omega), hoctet,
        ByteArray.extract_eq_extract_append_extract k (Nat.zero_le k) (Nat.le_succ k),
        ByteArray.extract_add_one (by omega), ByteArray.append_toByteArray_singleton]
  have hall := hcopied row.size (Nat.le_refl _)
  rw [ByteArray.extract_zero_size] at hall
  have hnothing : Nat.toUInt8 0 = 0 := rfl
  unfold unfilterRow
  simp only [expected, hnothing, UInt8.add_zero]
  exact hall

/-- Rows without filters that follow each other are read as they are. -/
theorem unfilterRows?_tiled {data : ByteArray} {row : Nat → ByteArray} {stride height : Nat}
    (h : Tiled (1 + stride) (fun y => ⟨#[0]⟩ ++ row y) height data)
    (hrow : ∀ y < height, (row y).size = stride) (step count y : Nat) (hy : y + count = height)
    (above : ByteArray) (done : Array ByteArray) :
    unfilterRows? data step stride count (y * (1 + stride)) above done =
      some (done ++ ((List.range' y count).map row).toArray, height * (1 + stride)) := by
  induction count generalizing y above done with
  | zero =>
    rw [unfilterRows?, ← hy]
    simp
  | succ count ih =>
    have hlt : y < height := by omega
    have hthis := h.standsAt y hlt
    have hfilter : natAt? data (y * (1 + stride)) 1 = some 0 := hthis.left.natAt?_eq 0 1 (Nat.le_refl 1)
    have hslice : slice? data (y * (1 + stride) + 1) (y * (1 + stride) + 1 + stride) = some (row y) := by
      have hslice := hthis.right.slice?_eq
      rwa [hrow y hlt] at hslice
    rw [unfilterRows?]
    simp only [hfilter, hslice, Option.bind_eq_bind, Option.bind_some, unfilterRow_zero]
    rw [if_neg (by decide), show y * (1 + stride) + 1 + stride = (y + 1) * (1 + stride) by
      rw [Nat.succ_mul, Nat.add_assoc], ih (y + 1) (by omega), List.range'_succ]
    simp

/-- The three octets of a colour. -/
def colourOctets (c : Rgb) : ByteArray := ⟨#[c.red, c.green, c.blue]⟩

/-- The channels of a colour are written one after the other. -/
theorem push_channels (c : Rgb) (out : ByteArray) :
    (Pixel.channels Rgb).fold (fun k _ acc => ByteArray.push acc (Pixel.channel c k)) out =
      out ++ colourOctets c := by
  show ((out.push c.red).push c.green).push c.blue = out ++ colourOctets c
  apply ByteArray.ext
  apply Array.toList_inj.mp
  simp [colourOctets]

/-- The octets of a picture are those of its colours. -/
theorem tiled_octets (r : Raster Rgb) :
    Tiled 3 (fun i => colourOctets (r.pixels[i]?.getD default)) (r.width * r.height) r.octets := by
  rw [← r.size_eq]
  refine Array.foldl_induction
    (motive := fun n out => Tiled 3 (fun i => colourOctets (r.pixels[i]?.getD default)) n out)
    Tiled.empty ?_
  intro i out ih
  have hthis : r.pixels[i.val]?.getD default = r.pixels[i] := by
    rw [Array.getElem?_eq_getElem i.isLt]
    rfl
  have hstep := ih.append rfl
  rw [hthis, ← push_channels] at hstep
  exact hstep

/-- The octets of a row. -/
def rowOctets (r : Raster Rgb) (y : Nat) : ByteArray :=
  r.octets.extract (y * (r.width * 3)) ((y + 1) * (r.width * 3))

/-- The rows end with the octets. -/
theorem rowEnd_le (r : Raster Rgb) {y : Nat} (hy : y < r.height) :
    (y + 1) * (r.width * 3) ≤ r.octets.size := by
  rw [(tiled_octets r).size_eq, Nat.mul_comm r.width r.height, Nat.mul_assoc]
  exact Nat.mul_le_mul_right _ hy

/-- A row has three octets for each of its pixels. -/
theorem size_rowOctets (r : Raster Rgb) {y : Nat} (hy : y < r.height) :
    (rowOctets r y).size = r.width * 3 := by
  unfold rowOctets
  rw [ByteArray.size_extract, Nat.min_eq_left (rowEnd_le r hy), Nat.succ_mul,
    Nat.add_sub_cancel_left]

/-- A picture is written row by row, each after a zero. -/
theorem tiled_rows (r : Raster Rgb) :
    Tiled (1 + r.width * 3) (fun y => ⟨#[0]⟩ ++ rowOctets r y) r.height (rows r) := by
  have hsome : ∀ n ≤ r.height, Tiled (1 + r.width * 3) (fun y => ⟨#[0]⟩ ++ rowOctets r y) n
      (n.fold (fun y _ out => ByteArray.push out 0 ++ rowOctets r y) .empty) := by
    intro n hn
    induction n with
    | zero => exact Tiled.empty
    | succ n ih =>
      have hsize : ((⟨#[0]⟩ : ByteArray) ++ rowOctets r n).size = 1 + r.width * 3 := by
        rw [ByteArray.size_append, size_rowOctets r (by omega)]
        rfl
      have hstep := (ih (by omega)).append hsize
      rw [Nat.fold_succ, ← ByteArray.append_toByteArray_singleton, ByteArray.append_assoc]
      exact hstep
  exact hsome r.height (Nat.le_refl _)

/-! ### Pixels -/

/-- The octets of a colour are its channels. -/
theorem getElem?_colourOctets (c : Rgb) {k : Nat} (hk : k < 3) :
    (colourOctets c)[k]? = some (Pixel.channel c k) := by
  rw [getElem?_data]
  match k with
  | 0 => rfl
  | 1 => rfl
  | 2 => rfl

/-- An octet of a row is a channel of one of its pixels. -/
theorem octetAt_rowOctets {r : Raster Rgb} {x y k : Nat} (hx : x < r.width) (hy : y < r.height)
    (hk : k < 3) :
    octetAt (rowOctets r y) (x * 3 + k) =
      Pixel.channel (r.pixels[y * r.width + x]?.getD default) k := by
  have hplace : y * (r.width * 3) + (x * 3 + k) = (y * r.width + x) * 3 + k := by
    rw [Nat.add_mul, Nat.mul_assoc, Nat.add_assoc]
  have hrow : (rowOctets r y)[x * 3 + k]? = r.octets[y * (r.width * 3) + (x * 3 + k)]? := by
    refine getElem?_extract ?_ (rowEnd_le r hy)
    rw [Nat.succ_mul]
    omega
  have hpixel : r.octets[(y * r.width + x) * 3 + k]? =
      (colourOctets (r.pixels[y * r.width + x]?.getD default))[k]? :=
    ((tiled_octets r).standsAt _ (Raster.place_lt hx hy)).getElem?_eq hk
  apply octetAt_of_getElem?
  rw [hrow, hplace, hpixel, getElem?_colourOctets _ hk]

/-- Eight bits stay what they are. -/
theorem toEight_eight (octet : UInt8) : toEight 8 octet.toNat = octet := by
  have hsame : octet.toNat * 255 / (1 <<< 8 - 1) = octet.toNat := Nat.mul_div_cancel _ (by decide)
  unfold toEight
  rw [if_neg (by decide), hsame]
  exact UInt8.ofNat_toNat

/-- The pixel at a position of a row is the one that was written there. -/
theorem pixelAt_rowOctets {r : Raster Rgb} {x y : Nat} (hx : x < r.width) (hy : y < r.height)
    (width height : Nat) :
    pixelAt ⟨width, height, 8, 2, false⟩ .empty .empty (rowOctets r y) x =
      (r.pixels[y * r.width + x]?.getD default).solid := by
  have hchannel : ∀ k < 3, toEight 8 (sampleAt (rowOctets r y) 8 (x * 3 + k)) =
      Pixel.channel (r.pixels[y * r.width + x]?.getD default) k := by
    intro k hk
    show toEight 8 (octetAt (rowOctets r y) (x * 3 + k)).toNat = _
    rw [toEight_eight, octetAt_rowOctets hx hy hk]
  have hnamed : nat16? .empty 0 = none := rfl
  have hred := hchannel 0 (by decide)
  have hgreen := hchannel 1 (by decide)
  have hblue := hchannel 2 (by decide)
  unfold pixelAt
  simp only [channelsOf, hred, hgreen, hblue]
  rfl

/-- All rows of a picture make up its only pass. -/
theorem readPasses?_rows {r : Raster Rgb} (hwidth : 0 < r.width) :
    readPasses? ⟨r.width, r.height, 8, 2, false⟩ (rows r) (passesOf false) 0 =
      some [(⟨0, 0, 1, 1⟩, ((List.range' 0 r.height).map (rowOctets r)).toArray)] := by
  have hplaces : ∀ n, placesFrom 0 1 n = n := by
    intro n
    unfold placesFrom
    omega
  have hstride : (r.width * (8 * channelsOf 2) + 7) / 8 = r.width * 3 := by
    show (r.width * 24 + 7) / 8 = r.width * 3
    omega
  have hrows := unfilterRows?_tiled (tiled_rows r) (fun y hy => size_rowOctets r hy)
    ((8 * channelsOf 2 + 7) / 8) r.height 0 (Nat.zero_add _) .empty #[]
  rw [Nat.zero_mul] at hrows
  show readPasses? _ _ [⟨0, 0, 1, 1⟩] 0 = _
  rw [readPasses?]
  simp only [hplaces, hstride, if_neg (Nat.ne_of_gt hwidth), hrows, Option.bind_eq_bind, Option.bind_some]
  simp [readPasses?]

/-- The only chunk after the header holds the pixels. -/
theorem joined_idat (data : ByteArray) : joined "IDAT" [("IDAT", data)] = data := by
  simp [joined]

/-- There are no chunks with other tags. -/
theorem joined_of_ne {tag : String} (h : tag ≠ "IDAT") (data : ByteArray) :
    joined tag [("IDAT", data)] = .empty := by
  simp [joined, h.symm]

/-- The only pass holds every pixel. -/
theorem holds_all (x y : Nat) : Pass.holds ⟨0, 0, 1, 1⟩ x y = true := by
  simp [Pass.holds, Nat.mod_one]

/-! ### Whole files -/

/-- A picture that has pixels and fits the format. -/
structure Fits (r : Raster Rgb) : Prop where
  /-- There are columns, and their number fits the header. -/
  width : 0 < r.width ∧ r.width < 0x80000000
  /-- There are rows, and their number fits the header. -/
  height : 0 < r.height ∧ r.height < 0x80000000
  /-- The number of compressed octets fits the head of a chunk. -/
  pixels : (Deflate.store (rows r)).size < 0x100000000

/-- Sides of up to 16384 pixels fit. -/
theorem fits_of_sides_le {r : Raster Rgb} (hwidth : 0 < r.width ∧ r.width ≤ 0x4000)
    (hheight : 0 < r.height ∧ r.height ≤ 0x4000) : Fits r where
  width := by omega
  height := by omega
  pixels := by
    have hrows : (rows r).size ≤ 0x4000 * (1 + 0x4000 * 3) := by
      rw [(tiled_rows r).size_eq]
      exact Nat.mul_le_mul hheight.2 (by omega)
    rw [Deflate.size_store]
    unfold Deflate.storedLimit
    omega

/-- A file starts with the mark. -/
theorem extract_mark (r : Raster Rgb) : (encode r).extract 0 8 = mark := by
  have hfirst := (StandsAt.append_left (mark ++ chunk "IHDR" (header r) ++
    chunk "IDAT" (Deflate.store (rows r))) (chunk "IEND" .empty)).left.left
  exact hfirst.extract_eq

/-- The file of a picture that fits is read as that picture, covered. -/
theorem decode?_encode {r : Raster Rgb} (h : Fits r) :
    decode? (encode r) = some (r.map Rgb.solid) := by
  have hchunks : readChunks? (encode r) ((encode r).size + 1) 8 =
      some [("IHDR", header r), ("IDAT", Deflate.store (rows r))] := by
    obtain ⟨fuel, hfuel⟩ : ∃ fuel, (encode r).size + 1 = fuel + 3 := by
      have hwhole := (StandsAt.refl (encode r)).left.left.left.size_le
      have hmark : mark.size = 8 := rfl
      exact ⟨(encode r).size - 2, by omega⟩
    rw [hfuel]
    exact readChunks?_file (by rw [size_header]; decide) h.pixels fuel
  unfold decode?
  simp only [extract_mark, hchunks, readHeader?_header h.width h.height, joined_idat,
    Deflate.inflate?_store, readPasses?_rows h.width.1, Option.bind_eq_bind, Option.bind_some]
  rw [if_neg (by decide), if_neg (fun h => absurd h.1 (by decide)), joined_of_ne (by decide),
    joined_of_ne (by decide)]
  refine congrArg some (Raster.build_eq (r := r.map Rgb.solid) fun x hx y hy => ?_)
  have hrow : ((List.range' 0 r.height).map (rowOctets r)).toArray[y]? = some (rowOctets r y) := by
    have hlt : y < r.height := hy
    simp [hlt]
  have hpixel := pixelAt_rowOctets hx hy r.width r.height
  have hplace : y * r.width + x < r.pixels.size := by
    rw [r.size_eq]
    exact Raster.place_lt hx hy
  rw [Array.getElem?_eq_getElem hplace, Option.getD_some] at hpixel
  simp only [List.find?_cons, holds_all, Nat.sub_zero, Nat.div_one, hrow, Option.getD_some, hpixel]
  rw [Raster.pixels_map, Array.getElem?_map, Raster.width_map, Array.getElem?_eq_getElem hplace]
  rfl

/-- **A picture that fits comes back** out of its file, pixel by pixel. -/
theorem decode_encode {r : Raster Rgb} (h : Fits r) : Picture.decode (encode r) = .ok r := by
  unfold Picture.decode
  rw [extract_mark, if_pos (by decide), decode?_encode h]
  exact congrArg Except.ok (Raster.map_solid_colour r)

end Lookout.Png
