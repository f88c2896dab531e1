import Lookout.Proofs.Display.Outlines
import Lookout.Proofs.Picture.Painting
/-!
# The frame that a line leaves around a box

The line around a box is drawn outline by outline, and each of them is one pixel wide.  A pixel has
a distance from the box (`Box.distance`): zero on its border, negative inside and positive outside.
The outline that was grown by `k` pixels is what lies at the distance `k`
(`Box.onBorder_grown_iff`), so there is no gap between two of them and no overlap.

* **A line as wide as an integer of 32 bits allows leaves a frame and nothing else**
  (`Canvas.framed_iff_lineWidth`): it covers what lies in the box grown by the line's width less
  one and not strictly inside the box, as far as there is a canvas.
* A width is converted to an integer of 32 bits with a sign.  If it is one too great for that, there
  still is a box whose frame could be drawn, and no line is left around it
  (`Canvas.no_line_if_overlong`).
-/

namespace Lookout

instance (n : Int) : Decidable (Canvas.Fits n) :=
  inferInstanceAs (Decidable (-0x80000000 ≤ n ∧ n < 0x80000000))

namespace Box

/-- The box with its left upper corner at a pixel and sides of so many pixels. -/
def ofSides (left top : Int) (width height : Nat) : Box :=
  ⟨left, top, left + width - 1, top + height - 1⟩

/-- The box grown by some pixels on every side. -/
def grown (b : Box) (k : Nat) : Box := ⟨b.left - k, b.top - k, b.right + k, b.bottom + k⟩

/-- The pixel lies in the box but not on its border. -/
def Encloses (b : Box) (x y : Int) : Prop :=
  (b.left < x ∧ x < b.right) ∧ b.top < y ∧ y < b.bottom

instance (b : Box) (x y : Int) : Decidable (b.Encloses x y) :=
  inferInstanceAs (Decidable ((b.left < x ∧ x < b.right) ∧ b.top < y ∧ y < b.bottom))

/-- The pixel lies on the border of the box. -/
def OnBorder (b : Box) (x y : Int) : Prop := b.Covers x y ∧ ¬b.Encloses x y

instance (b : Box) (x y : Int) : Decidable (b.OnBorder x y) :=
  inferInstanceAs (Decidable (b.Covers x y ∧ ¬b.Encloses x y))

/-- There is at least one pixel in the box. -/
structure Proper (b : Box) : Prop where
  /-- There is a column. -/
  columns : b.left ≤ b.right
  /-- There is a row. -/
  rows : b.top ≤ b.bottom

/-- How far outside a box a pixel lies, in steps to the side, up or down or along both. -/
def distance (b : Box) (x y : Int) : Int :=
  max (max (b.left - x) (x - b.right)) (max (b.top - y) (y - b.bottom))

variable {b : Box} {x y : Int}

/-- A box that grows gains twice as much in its sides. -/
theorem grown_ofSides (left top : Int) (width height k : Nat) :
    (ofSides left top width height).grown k =
      ofSides (left - k) (top - k) (width + 2 * k) (height + 2 * k) := by
  unfold ofSides grown
  dsimp only
  rw [mk.injEq]
  omega

/-- A box whose sides are not zero has a pixel. -/
theorem proper_ofSides {left top : Int} {width height : Nat} (hwidth : 1 ≤ width)
    (hheight : 1 ≤ height) : (ofSides left top width height).Proper := by
  constructor <;> unfold ofSides <;> dsimp only <;> omega

/-- A box that grows keeps its pixels. -/
theorem Proper.grown (h : b.Proper) (k : Nat) : (b.grown k).Proper := by
  obtain ⟨hcolumns, hrows⟩ := h
  constructor <;> unfold Box.grown <;> dsimp only <;> omega

/-- A grown box covers what is no farther away than it was grown. -/
theorem covers_grown_iff {k : Nat} : (b.grown k).Covers x y ↔ b.distance x y ≤ k := by
  unfold Covers grown distance
  dsimp only
  omega

/-- What is enclosed lies at a negative distance. -/
theorem encloses_iff : b.Encloses x y ↔ b.distance x y < 0 := by
  unfold Encloses distance
  omega

/-- **The border of a grown box is what lies as far away as it was grown.** -/
theorem onBorder_grown_iff (b : Box) (k : Nat) :
    (b.grown k).OnBorder x y ↔ b.distance x y = k := by
  unfold OnBorder Covers Encloses grown distance
  dsimp only
  omega

/-- The borders of a box and of those grown from it fill the frame between the outmost and the box:
there is no gap. -/
theorem exists_onBorder_grown_iff (b : Box) (count : Nat) :
    (∃ k < count, (b.grown k).OnBorder x y) ↔
      0 < count ∧ (b.grown (count - 1)).Covers x y ∧ ¬b.Encloses x y := by
  simp only [onBorder_grown_iff, covers_grown_iff, encloses_iff]
  constructor
  · rintro ⟨k, hk, hdistance⟩
    omega
  · rintro ⟨hcount, hnear, houtside⟩
    exact ⟨(b.distance x y).toNat, by omega, by omega⟩

/-- The corners of a box and its sides are integers of 32 bits, the corners with a sign and the
sides without. -/
structure Representable (b : Box) : Prop where
  /-- The left edge is. -/
  left : Canvas.Fits b.left
  /-- The top edge is. -/
  top : Canvas.Fits b.top
  /-- The right edge is. -/
  right : Canvas.Fits b.right
  /-- The bottom edge is. -/
  bottom : Canvas.Fits b.bottom
  /-- The width is. -/
  width : b.right - b.left + 1 < 0x100000000
  /-- The height is. -/
  height : b.bottom - b.top + 1 < 0x100000000

/-- What grows less stays within the integers of 32 bits. -/
theorem Representable.of_le {j k : Nat} (h : (b.grown k).Representable) (hb : b.Proper)
    (hjk : j ≤ k) : (b.grown j).Representable := by
  obtain ⟨hcolumns, hrows⟩ := hb
  obtain ⟨hleft, htop, hright, hbottom, hwidth, hheight⟩ := h
  unfold grown Canvas.Fits at *
  dsimp only at *
  constructor <;> (try unfold Canvas.Fits) <;> dsimp only <;> omega

end Box

/-- The box of whole pixels that a region is rounded to. -/
def Region.box (region : Region) : Box :=
  .ofSides (Canvas.toPixel region.x) (Canvas.toPixel region.y) (Canvas.toSide region.width)
    (Canvas.toSide region.height)

/-- There always is a pixel in it. -/
theorem Region.proper_box (region : Region) : region.box.Proper :=
  Box.proper_ofSides (Nat.le_max_left _ _) (Nat.le_max_left _ _)

namespace Canvas

/-! ### One outline -/

/-- An integer that comes out of the check is the one that went in, and fits. -/
theorem checked_eq_ok_iff {fault : Fault} {n m : Int} :
    checked fault n = .ok m ↔ Fits n ∧ m = n := by
  unfold checked
  split
  next h => simp [Fits, h, eq_comm]
  next h => simp [Fits, h]

/-- Where the last of some pixels can be computed and is representable, it is computed as it should
be.  A length that has a sign when read with one goes beyond the integers of 32 bits. -/
theorem lastPixel_eq {first last : Int} {length : Nat} (hfirst : Fits first)
    (hlast : Fits (first + length - 1)) (h : lastPixel first length = .ok last) :
    last = first + length - 1 := by
  obtain ⟨stop, hstop, hsecond⟩ := Results.bind_eq_ok_iff.mp h
  obtain ⟨hstopFits, rfl⟩ := checked_eq_ok_iff.mp hstop
  obtain ⟨hlastFits, rfl⟩ := checked_eq_ok_iff.mp hsecond
  unfold Fits at *
  rw [Int.bmod_def] at *
  split at * <;> omega

/-- The box at a place has its sides there, if it is representable. -/
theorem boxAt_eq {left top : Int} {width height : Nat} {b : Box}
    (hbox : (Box.ofSides left top width height).Representable)
    (h : boxAt left top width height = .ok b) : b = .ofSides left top width height := by
  obtain ⟨right, hlastColumn, hrows⟩ := Results.bind_eq_ok_iff.mp h
  obtain ⟨bottom, hlastRow, hb⟩ := Results.bind_eq_ok_iff.mp hrows
  cases hb
  rw [lastPixel_eq hbox.left hbox.right hlastColumn, lastPixel_eq hbox.top hbox.bottom hlastRow]
  rfl

/-- **An outline sets the pixels on the border of its box.** -/
theorem get?_outline {r s : Raster Rgba} {b : Box} {p : Rgba} (hb : b.Proper)
    (h : outline r b p = .ok s) {x y : Nat} (hx : x < r.width) (hy : y < r.height) :
    s.get? x y = if b.OnBorder x y then some p else r.get? x y := by
  have hsides : s = (((r.paint ⟨b.left, b.top, b.right, b.top⟩ p).paint
      ⟨b.left, b.bottom, b.right, b.bottom⟩ p).paint ⟨b.left, b.top, b.left, b.bottom⟩ p).paint
        ⟨b.right, b.top, b.right, b.bottom⟩ p := by
    unfold outline at h
    rw [Int.min_eq_left hb.columns, Int.max_eq_right hb.columns, Int.min_eq_left hb.rows,
      Int.max_eq_right hb.rows] at h
    obtain ⟨_, _, h⟩ := Results.bind_eq_ok_iff.mp h
    split at h
    · obtain ⟨_, _, h⟩ := Results.bind_eq_ok_iff.mp h
      exact (Except.ok.inj h).symm
    · exact (Except.ok.inj h).symm
  have hcolumns := hb.columns
  have hrows := hb.rows
  rw [hsides]
  repeat rw [Raster.get?_paint _ _ _ (by exact hx) (by exact hy)]
  simp only [← ite_or]
  refine if_congr ?_ rfl rfl
  unfold Box.OnBorder Box.Covers Box.Encloses
  dsimp only
  omega

/-! ### All outlines -/

section

variable {x y : Int} {width height : Nat} {p : Rgba} {count inset : Nat} {r s : Raster Rgba}

/-- One outline is drawn before those around it. -/
theorem exists_of_outlines_succ
    (hbox : ((Box.ofSides x y width height).grown inset).Representable)
    (h : outlines x y width height p (count + 1) inset r = .ok s) :
    ∃ t, outline r ((Box.ofSides x y width height).grown inset) p = .ok t ∧
      outlines x y width height p count (inset + 1) t = .ok s := by
  rw [Box.grown_ofSides] at hbox ⊢
  simp only [outlines] at h
  split at h
  · cases h
  · obtain ⟨left, hleft, h⟩ := Results.bind_eq_ok_iff.mp h
    obtain ⟨-, rfl⟩ := checked_eq_ok_iff.mp hleft
    obtain ⟨top, htop, h⟩ := Results.bind_eq_ok_iff.mp h
    obtain ⟨-, rfl⟩ := checked_eq_ok_iff.mp htop
    obtain ⟨box, hboxAt, h⟩ := Results.bind_eq_ok_iff.mp h
    obtain ⟨t, houtline, hrest⟩ := Results.bind_eq_ok_iff.mp h
    exact ⟨t, boxAt_eq hbox hboxAt ▸ houtline, hrest⟩

/-- **Outlines set the pixels on their borders**, and no others. -/
theorem get?_outlines (hproper : (Box.ofSides x y width height).Proper)
    (hboxes : ∀ k < count, ((Box.ofSides x y width height).grown (inset + k)).Representable)
    (h : outlines x y width height p count inset r = .ok s) {i j : Nat} (hi : i < r.width)
    (hj : j < r.height) :
    s.get? i j =
      if ∃ k < count, ((Box.ofSides x y width height).grown (inset + k)).OnBorder i j then some p
      else r.get? i j := by
  induction count generalizing inset r with
  | zero =>
    cases h
    rw [if_neg (by simp)]
  | succ count ih =>
    obtain ⟨t, houtline, hrest⟩ := exists_of_outlines_succ (hboxes 0 (Nat.succ_pos _)) h
    have hsize : (t.width, t.height) = (r.width, r.height) := size_outline houtline
    obtain ⟨hwidth, hheight⟩ := Prod.mk.inj hsize
    have hothers : ∀ k < count,
        ((Box.ofSides x y width height).grown (inset + 1 + k)).Representable := by
      intro k hk
      rw [Nat.add_assoc, Nat.add_comm 1]
      exact hboxes (k + 1) (Nat.succ_lt_succ hk)
    rw [ih hothers hrest (by rwa [hwidth]) (by rwa [hheight]),
      get?_outline (hproper.grown inset) houtline hi hj, ← ite_or]
    refine if_congr ?_ rfl rfl
    rw [Nat.exists_lt_succ_left]
    simp only [Nat.add_assoc, Nat.add_comm 1, Nat.add_zero]
    exact or_comm

end

/-! ### Where drawing comes to an end -/

/-- The outlines of a representable box have room. -/
theorem room_of_representable {x y : Int} {width height inset : Nat}
    (h : ((Box.ofSides x y width height).grown inset).Representable) :
    Room x y width height inset := by
  rw [Box.grown_ofSides] at h
  have hwidth := h.width
  have hheight := h.height
  unfold Box.ofSides at hwidth hheight
  dsimp only at hwidth hheight
  exact ⟨by omega, h.left, h.top⟩

/-- The library that draws comes to an end of the lines along a box: none of them reaches the end
of the coordinates, and its sides can be read with a sign. -/
structure Traceable (b : Box) : Prop where
  /-- The right edge lies before the end. -/
  right : b.right < traceLimit
  /-- So does the bottom edge. -/
  bottom : b.bottom < traceLimit
  /-- The width can be read with a sign. -/
  width : b.right - b.left + 1 < 0x80000000
  /-- So can the height. -/
  height : b.bottom - b.top + 1 < 0x80000000

/-- What grows less ends before. -/
theorem Traceable.of_le {b : Box} {j k : Nat} (h : Traceable (b.grown k)) (hjk : j ≤ k) :
    Traceable (b.grown j) := by
  obtain ⟨hright, hbottom, hwidth, hheight⟩ := h
  unfold Box.grown at *
  dsimp only at *
  constructor <;> dsimp only <;> omega

theorem lastPixel_of_traceable {first : Int} {length : Nat}
    (hlast : Fits (first + length - 1)) (hlength : length < 0x80000000)
    (htrace : first + length - 1 < traceLimit) :
    lastPixel first length = .ok (first + length - 1) := by
  have hsigned : (length : Int).bmod 0x100000000 = length :=
    Int.bmod_eq_of_le (by omega) (by omega)
  have hstop : Fits (first + length) := by
    unfold Fits at *
    unfold traceLimit at htrace
    omega
  refine Results.bind_eq_ok_iff.mpr ⟨first + length, ?_, checked_eq_ok_iff.mpr ⟨hlast, rfl⟩⟩
  rw [hsigned]
  exact checked_eq_ok_iff.mpr ⟨hstop, rfl⟩

theorem boxAt_of_traceable {x y : Int} {width height : Nat}
    (hbox : (Box.ofSides x y width height).Representable)
    (htrace : Traceable (Box.ofSides x y width height)) :
    boxAt x y width height = .ok (.ofSides x y width height) := by
  obtain ⟨hright, hbottom, hwidth, hheight⟩ := htrace
  unfold Box.ofSides at hright hbottom hwidth hheight
  dsimp only at hright hbottom hwidth hheight
  exact Results.bind_eq_ok_iff.mpr
    ⟨_, lastPixel_of_traceable hbox.right (by omega) hright, Results.bind_eq_ok_iff.mpr
      ⟨_, lastPixel_of_traceable hbox.bottom (by omega) hbottom, rfl⟩⟩

theorem exists_outline {b : Box} (hb : b.Proper) (htrace : Traceable b) (r : Raster Rgba)
    (p : Rgba) : ∃ s, outline r b p = .ok s := by
  have hcheck {first last : Int} (h : first ≤ last) (hlast : last < traceLimit) :
      checkTrace first last = .ok () := by
    unfold checkTrace
    rw [if_neg (by omega)]
  unfold outline
  rw [hcheck hb.columns htrace.right]
  simp only [hcheck hb.rows htrace.bottom, bind, Except.bind, ite_self]
  exact ⟨_, rfl⟩

theorem exists_outlines {x y : Int} {width height : Nat} {p : Rgba} {count inset : Nat}
    (hproper : (Box.ofSides x y width height).Proper)
    (hboxes : ∀ k < count, ((Box.ofSides x y width height).grown (inset + k)).Representable ∧
      Traceable ((Box.ofSides x y width height).grown (inset + k))) (r : Raster Rgba) :
    ∃ s, outlines x y width height p count inset r = .ok s := by
  induction count generalizing inset r with
  | zero => exact ⟨r, rfl⟩
  | succ count ih =>
    obtain ⟨hbox, htrace⟩ : ((Box.ofSides x y width height).grown inset).Representable ∧
        Traceable ((Box.ofSides x y width height).grown inset) := hboxes 0 (Nat.succ_pos _)
    obtain ⟨t, houtline⟩ := exists_outline (hproper.grown inset) htrace r p
    have hothers : ∀ k < count,
        ((Box.ofSides x y width height).grown (inset + 1 + k)).Representable ∧
          Traceable ((Box.ofSides x y width height).grown (inset + 1 + k)) := by
      intro k hk
      rw [Nat.add_assoc, Nat.add_comm 1]
      exact hboxes (k + 1) (Nat.succ_lt_succ hk)
    obtain ⟨s, hs⟩ := ih hothers t
    obtain ⟨hsides, hleft, htop⟩ := room_of_representable hbox
    rw [Box.grown_ofSides] at hbox htrace houtline
    refine ⟨s, ?_⟩
    simp only [outlines]
    rw [if_neg (Nat.not_le.mpr hsides), checked_eq_ok_iff.mpr ⟨hleft, rfl⟩,
      checked_eq_ok_iff.mpr ⟨htop, rfl⟩]
    simp only [bind, Except.bind, boxAt_of_traceable hbox htrace, houtline, hs]

/-! ### The line around a box -/

/-- The line around a region leaves a frame on the canvas: what lies in the box grown by the line's
width less one and is not strictly inside the box has the opaque colour of the line, and all else is
as it was. -/
def IsFramed (c : Canvas) (region : Region) (style : OverlayStyle) : Prop :=
  ∃ d, c.strokeBox region style = .ok d ∧ d.font = c.font ∧ d.picture.size = c.picture.size ∧
    ∀ x y : Nat, x < c.picture.width → y < c.picture.height → d.picture.get? x y =
      if (region.box.grown (style.lineWidth - 1)).Covers x y ∧ ¬region.box.Encloses x y then
        some style.stroke.solid
      else c.picture.get? x y

variable {region : Region} {style : OverlayStyle} {c : Canvas}

theorem strokeBox_eq_ok_iff {d : Canvas} : c.strokeBox region style = .ok d ↔
    ∃ picture, outlines (toPixel region.x) (toPixel region.y) (toSide region.width)
      (toSide region.height) style.stroke.solid (outlineCount style.lineWidth) 0 c.picture =
        .ok picture ∧ { c with picture } = d := by
  rw [← Results.map_eq_ok_iff]
  rfl

/-- Where the line has room, only the library stops the program. -/
theorem exists_strokeBox (hcount : outlineCount style.lineWidth ≤ style.lineWidth)
    (hbox : (region.box.grown (style.lineWidth - 1)).Representable)
    (hlibrary : c.strokeBox region style ≠ .error .edgeOverflow) :
    ∃ d, c.strokeBox region style = .ok d := by
  have hroom : region.HasRoom style := by
    intro inset hinset
    exact room_of_representable (hbox.of_le region.proper_box (by omega))
  have hdrawn : Drawn (· = .edgeOverflow) (region.HasRoom style) (c.strokeBox region style) :=
    @strokeBox_drawn (· = .edgeOverflow) rfl region style c
  refine (hdrawn.done_iff ?_).mpr hroom
  rintro fault rfl
  exact hlibrary

/-- A line that is no wider than an integer with a sign allows leaves a frame. -/
theorem isFramed_of_lt (hwidth : 1 ≤ style.lineWidth) (hlt : style.lineWidth < 0x80000000)
    (hbox : (region.box.grown (style.lineWidth - 1)).Representable)
    (hlibrary : c.strokeBox region style ≠ .error .edgeOverflow) : c.IsFramed region style := by
  have hcount : outlineCount style.lineWidth = style.lineWidth := by
    rw [outlineCount, if_pos hlt, Nat.max_eq_left hwidth]
  obtain ⟨d, hd⟩ := exists_strokeBox (Nat.le_of_eq hcount) hbox hlibrary
  refine ⟨d, hd, ?_⟩
  obtain ⟨picture, hpicture, rfl⟩ := strokeBox_eq_ok_iff.mp hd
  rw [hcount] at hpicture
  refine ⟨rfl, size_outlines hpicture, fun x y hx hy => ?_⟩
  have hboxes : ∀ k < style.lineWidth, (region.box.grown (0 + k)).Representable := by
    intro k hk
    exact hbox.of_le region.proper_box (by omega)
  have hset := get?_outlines region.proper_box hboxes hpicture hx hy
  rw [hset]
  refine if_congr ?_ rfl rfl
  simp only [Nat.zero_add]
  exact (Box.exists_onBorder_grown_iff region.box style.lineWidth).trans (and_iff_right hwidth)

/-- A line that is wider leaves nothing, not even on a canvas of one pixel. -/
theorem not_isFramed_of_le (hle : 0x80000000 ≤ style.lineWidth)
    (hbox : (region.box.grown (style.lineWidth - 1)).Representable) :
    (blank 1 1).strokeBox region style = .ok (blank 1 1) ∧
      ¬(blank 1 1).IsFramed region style := by
  have hnone : (blank 1 1).strokeBox region style = .ok (blank 1 1) := by
    refine strokeBox_eq_ok_iff.mpr ⟨_, ?_, rfl⟩
    rw [outlineCount, if_neg (Nat.not_lt.mpr hle)]
    rfl
  refine ⟨hnone, ?_⟩
  rintro ⟨d, hd, -, -, hpixels⟩
  rw [hnone] at hd
  cases hd
  -- so wide a line fits only around the pixel at the origin or one beside it
  have horigin : (region.box.grown (style.lineWidth - 1)).Covers 0 0 ∧
      ¬region.box.Encloses 0 0 := by
    obtain ⟨hcolumns, hrows⟩ := region.proper_box
    obtain ⟨hleft, htop, hright, hbottom, -, -⟩ := hbox
    unfold Box.grown Fits at *
    unfold Box.Covers Box.Encloses
    dsimp only at *
    omega
  have hpixel := hpixels 0 0 (by decide) (by decide)
  rw [if_pos (by exact_mod_cast horigin)] at hpixel
  have halpha := congrArg (Option.map Rgba.alpha) hpixel
  cases halpha

/-- Where all lines can be traced the library does not stop the program. -/
theorem strokeBox_ne_edgeOverflow
    (hbox : (region.box.grown (style.lineWidth - 1)).Representable)
    (htrace : Traceable (region.box.grown (style.lineWidth - 1))) :
    c.strokeBox region style ≠ .error .edgeOverflow := by
  have hcount : outlineCount style.lineWidth ≤ style.lineWidth - 1 + 1 := by
    unfold outlineCount
    split <;> omega
  have hboxes : ∀ k < outlineCount style.lineWidth,
      (region.box.grown (0 + k)).Representable ∧ Traceable (region.box.grown (0 + k)) := by
    intro k hk
    exact ⟨hbox.of_le region.proper_box (by omega), htrace.of_le (by omega)⟩
  obtain ⟨picture, hpicture⟩ := exists_outlines region.proper_box hboxes c.picture
  rw [strokeBox_eq_ok_iff.mpr ⟨picture, hpicture, rfl⟩]
  exact nofun

/-- **A line leaves a frame on every canvas exactly if its width is an integer of 32 bits with a
sign.**  Take any box and any line of at least one pixel such that the box, grown by the line's width
less one, can be given by integers of 32 bits.  If the library that draws does not stop the program,
the frame around the box is drawn, clipped to the canvas, and nothing else is changed, provided that
the width is below `2 ^ 31`.  If it is not, there is a canvas on which no frame appears.  The library
does not stop the program unless an edge is among the last coordinates or a side has no sign to
spare. -/
theorem framed_iff_lineWidth (hwidth : 1 ≤ style.lineWidth)
    (hbox : (region.box.grown (style.lineWidth - 1)).Representable) :
    ((∀ c : Canvas, c.strokeBox region style ≠ .error .edgeOverflow → c.IsFramed region style) ↔
        style.lineWidth < 0x80000000) ∧
      (Traceable (region.box.grown (style.lineWidth - 1)) →
        ∀ c : Canvas, c.strokeBox region style ≠ .error .edgeOverflow) := by
  refine ⟨⟨fun h => ?_, fun hlt c => isFramed_of_lt hwidth hlt hbox⟩,
    fun htrace c => strokeBox_ne_edgeOverflow hbox htrace⟩
  by_contra hnot
  obtain ⟨hnone, hframe⟩ := not_isFramed_of_le (Nat.le_of_not_lt hnot) hbox
  refine hframe (h _ ?_)
  rw [hnone]
  exact nofun

/-- A line of two pixels around a box of one pixel fills three rows and columns. -/
theorem framed_around_one_pixel :
    let region : Region := ⟨1.0, 1.0, 1.0, 1.0⟩
    let style : OverlayStyle := { lineWidth := 2 }
    1 ≤ style.lineWidth ∧ (region.box.grown (style.lineWidth - 1)).Representable ∧
      (blank 4 4).IsFramed region style := by
  intro region style
  have hbox : region.box = ⟨1, 1, 1, 1⟩ := by
    subst region
    decide +kernel
  have hrepresentable : (region.box.grown (style.lineWidth - 1)).Representable := by
    rw [hbox]
    constructor <;> decide
  have htraceable : Traceable (region.box.grown (style.lineWidth - 1)) := by
    rw [hbox]
    constructor <;> decide
  obtain ⟨hframed, hlibrary⟩ := framed_iff_lineWidth (by decide) hrepresentable
  exact ⟨by decide, hrepresentable, hframed.mpr (by decide) _ (hlibrary htraceable _)⟩

/-- A line that is one pixel too wide for an integer with a sign can be drawn around the pixel at
the origin without leaving the integers of 32 bits.  Nothing of it appears, not even the outline of
the box. -/
theorem no_line_if_overlong :
    let region : Region := ⟨0.0, 0.0, 1.0, 1.0⟩
    let style : OverlayStyle := { lineWidth := 0x80000000 }
    (region.box.grown (style.lineWidth - 1)).Representable ∧
      (blank 1 1).strokeBox region style = .ok (blank 1 1) ∧
        ¬(blank 1 1).IsFramed region style := by
  intro region style
  have hbox : region.box = ⟨0, 0, 0, 0⟩ := by
    subst region
    decide +kernel
  have hrepresentable : (region.box.grown (style.lineWidth - 1)).Representable := by
    rw [hbox]
    constructor <;> decide
  exact ⟨hrepresentable, not_isFramed_of_le (by decide) hrepresentable⟩

end Canvas

end Lookout
