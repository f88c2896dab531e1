import Lookout.Proofs.Display.Sizes
/-!
# Boxes at the ends of the coordinates

The lines of a box grow outwards: after the outline of the box itself comes one that lies a pixel
farther out, and so on, one for each pixel of the line's width.  Their corners and their sides are
computed in 32 bits, and the program stops where one of them does not fit.  Whether an outline has
`Room` is a matter of the rounded box alone.

The library that does the drawing may stop the program as well (`Lettering.Refuses`).  Apart from
that a box is drawn if all of its outlines have room, and only then (`Canvas.outlines_drawn`), a
label is always drawn on a surface with pixels, and so a render pass comes to an end if and only if
all boxes have room (`Renderer.rendered_iff_room`).

A coordinate is rounded to the nearest one that there is.  That leaves no room around a box that
lies at the very end of the coordinates or is as long as can be (`Region.hasRoom_default_iff`), and
a service can answer with such a box (`Renderer.far_left_box_stops`).
-/

namespace Lookout

/-! ### What is drawn where there is room -/

/-- How something comes out that has to be computed in 32 bits and fits where `room` holds.  The
library that draws has faults of its own. -/
inductive Drawn {α : Type} (own : Fault → Prop) (room : Prop) : Except Fault α → Prop where
  /-- It is drawn. -/
  | done (h : room) (a : α) : Drawn own room (.ok a)
  /-- A side does not fit. -/
  | side (h : ¬ room) : Drawn own room (.error .sideOverflow)
  /-- A corner does not fit. -/
  | corner (h : ¬ room) : Drawn own room (.error .coordinateOverflow)
  /-- The library has stopped the program. -/
  | refused {fault : Fault} (h : own fault) : Drawn own room (.error fault)

namespace Drawn

variable {α β : Type} {own : Fault → Prop} {room more : Prop} {x : Except Fault α}

/-- Room may be described in another way. -/
theorem congr (h : room ↔ more) (hx : Drawn own room x) : Drawn own more x := by
  cases hx with
  | done hroom a => exact .done (h.mp hroom) a
  | side hroom => exact .side fun hmore => hroom (h.mpr hmore)
  | corner hroom => exact .corner fun hmore => hroom (h.mpr hmore)
  | refused hown => exact .refused hown

/-- One thing is drawn after the other. -/
theorem bind {f : α → Except Fault β} (hx : Drawn own room x)
    (hf : ∀ a, x = .ok a → Drawn own more (f a)) : Drawn own (room ∧ more) (x >>= f) := by
  cases hx with
  | done hroom a =>
    refine (hf a rfl).congr ?_
    rw [and_iff_right hroom]
  | side hroom => exact .side fun h => hroom h.1
  | corner hroom => exact .corner fun h => hroom h.1
  | refused hown => exact .refused hown

/-- What needs no room comes first. -/
theorem free_bind {f : α → Except Fault β} (hx : Drawn own True x)
    (hf : ∀ a, Drawn own more (f a)) : Drawn own more (x >>= f) :=
  (hx.bind fun a _ => hf a).congr (and_iff_right trivial)

/-- What is done with what was drawn needs no room. -/
theorem map (f : α → β) (hx : Drawn own room x) : Drawn own room (x.map f) := by
  cases hx with
  | done hroom a => exact .done hroom (f a)
  | side hroom => exact .side hroom
  | corner hroom => exact .corner hroom
  | refused hown => exact .refused hown

/-- Where no faults but those of the library come up, no room is needed. -/
theorem of_faults (h : ∀ fault, x = .error fault → own fault) : Drawn own True x := by
  rcases x with fault | a
  · exact .refused (h fault rfl)
  · exact .done trivial a

/-- If the library does not stop the program, it is the lack of room that does. -/
theorem fault_cases {fault : Fault} (hx : Drawn own room (.error fault : Except Fault α)) :
    own fault ∨ ¬ room ∧ (fault = .sideOverflow ∨ fault = .coordinateOverflow) := by
  cases hx with
  | side hroom => exact .inr ⟨hroom, .inl rfl⟩
  | corner hroom => exact .inr ⟨hroom, .inr rfl⟩
  | refused hown => exact .inl hown

/-- If the library does not stop the program, something is drawn if and only if it has room. -/
theorem done_iff (hx : Drawn own room x) (hown : ∀ fault, own fault → x ≠ .error fault) :
    (∃ a, x = .ok a) ↔ room := by
  cases hx with
  | done hroom a => exact ⟨fun _ => hroom, fun _ => ⟨a, rfl⟩⟩
  | side hroom => exact ⟨nofun, fun h => absurd h hroom⟩
  | corner hroom => exact ⟨nofun, fun h => absurd h hroom⟩
  | @refused fault h => exact absurd rfl (hown fault h)

end Drawn

/-- The library that draws stops the program with this fault: at the far edge of a rectangle, or
when it writes letters on a picture with pixels. -/
def Lettering.Refuses (l : Lettering) (fault : Fault) : Prop :=
  fault = .edgeOverflow ∨ ∃ font text left top style r, r.isEmpty = false ∧
    l.write font text left top style r = .error fault

/-- Letters without glyphs are always written. -/
theorem Lettering.refuses_absent {fault : Fault} :
    Lettering.absent.Refuses fault ↔ fault = .edgeOverflow := by
  refine or_iff_left ?_
  rintro ⟨font, text, left, top, style, r, -, hwrite⟩
  cases hwrite

/-- What was read of a number is rounded to an integer in the given bounds. -/
theorem Decimal.Reading.nearestIn_mem {low high : Int} (hlow : low ≤ 0) (hhigh : 0 ≤ high)
    (r : Reading) : low ≤ r.nearestIn low high ∧ r.nearestIn low high ≤ high := by
  cases r with
  | finite b =>
    show low ≤ max low (min high b.nearest) ∧ max low (min high b.nearest) ≤ high
    omega
  | infinite negative =>
    cases negative with
    | false => exact ⟨Int.le_trans hlow hhigh, Int.le_refl high⟩
    | true => exact ⟨Int.le_refl low, Int.le_trans hlow hhigh⟩
  | notANumber => exact ⟨hlow, hhigh⟩

namespace Canvas

/-! ### Outlines -/

/-- An integer of 32 bits. -/
def Fits (n : Int) : Prop := -0x80000000 ≤ n ∧ n < 0x80000000

/-- A coordinate is rounded to one that there is. -/
theorem toPixel_fits (x : Float32) : Fits (toPixel x) := by
  have hbounds : -0x80000000 ≤ toPixel x ∧ toPixel x ≤ 0x7FFFFFFF :=
    (Decimal.readSingle x).nearestIn_mem (by decide) (by decide)
  exact ⟨hbounds.1, Int.lt_add_one_of_le hbounds.2⟩

/-- So is a side. -/
theorem toSide_lt (x : Float32) : toSide x < 0x100000000 := by
  have hbounds : 0 ≤ (Decimal.readSingle x).nearestIn 0 0xFFFFFFFF ∧
      (Decimal.readSingle x).nearestIn 0 0xFFFFFFFF ≤ 0xFFFFFFFF :=
    (Decimal.readSingle x).nearestIn_mem (by decide) (by decide)
  unfold toSide
  omega

/-- The outline at a distance from a box can be computed in 32 bits. -/
structure Room (x y : Int) (width height inset : Nat) : Prop where
  /-- Its sides fit. -/
  sides : max (width + 2 * inset) (height + 2 * inset) < 0x100000000
  /-- So does its left edge. -/
  left : Fits (x - inset)
  /-- So does its top edge. -/
  top : Fits (y - inset)

section

variable {own : Fault → Prop}

/-- A corner is drawn if it fits. -/
theorem checked_drawn (n : Int) : Drawn own (Fits n) (checked .coordinateOverflow n) := by
  unfold checked
  split
  next h => exact .done h n
  next h => exact .corner h

variable (hedge : own .edgeOverflow)
include hedge

/-- The far edge of a rectangle is up to the library. -/
theorem checked_edge_drawn (n : Int) : Drawn own True (checked .edgeOverflow n) := by
  unfold checked
  split
  · exact .done trivial n
  · exact .refused hedge

theorem lastPixel_drawn (first : Int) (length : Nat) : Drawn own True (lastPixel first length) :=
  (checked_edge_drawn hedge _).free_bind fun stop => checked_edge_drawn hedge (stop - 1)

theorem boxAt_drawn (left top : Int) (width height : Nat) :
    Drawn own True (boxAt left top width height) := by
  refine (lastPixel_drawn hedge left width).free_bind fun right => ?_
  exact (lastPixel_drawn hedge top height).free_bind fun bottom => .done trivial _

theorem checkTrace_drawn (first last : Int) : Drawn own True (checkTrace first last) := by
  unfold checkTrace
  split
  · exact .refused hedge
  · exact .done trivial ()

/-- So are the lines along a rectangle. -/
theorem outline_drawn (r : Raster Rgba) (b : Box) (p : Rgba) : Drawn own True (outline r b p) := by
  unfold outline
  refine (checkTrace_drawn hedge b.left b.right).free_bind fun _ => ?_
  split
  · exact (checkTrace_drawn hedge b.top b.bottom).free_bind fun _ => .done trivial _
  · exact .done trivial _

/-- An outline is drawn if it has room, and then those around it. -/
theorem outlines_succ_drawn {x y : Int} {width height count inset : Nat} {p : Rgba} {rest : Prop}
    (hrest : ∀ r, Drawn own rest (outlines x y width height p count (inset + 1) r))
    (r : Raster Rgba) :
    Drawn own (Room x y width height inset ∧ rest)
      (outlines x y width height p (count + 1) inset r) := by
  simp only [outlines]
  split
  next hsides => exact .side fun h => absurd h.1.sides (Nat.not_lt.mpr hsides)
  next hsides =>
    have hdrawn (left top : Int) : Drawn own rest
        (boxAt left top (width + 2 * inset) (height + 2 * inset) >>= fun b =>
          outline r b p >>= fun r => outlines x y width height p count (inset + 1) r) :=
      (boxAt_drawn hedge _ _ _ _).free_bind fun b => (outline_drawn hedge r b p).free_bind hrest
    refine ((checked_drawn (x - inset)).bind fun left _ =>
      (checked_drawn (y - inset)).bind fun top _ => hdrawn left top).congr ?_
    constructor
    · rintro ⟨hleft, htop, hmore⟩
      exact ⟨⟨Nat.not_le.mp hsides, hleft, htop⟩, hmore⟩
    · rintro ⟨hroom, hmore⟩
      exact ⟨hroom.left, hroom.top, hmore⟩

/-- **Outlines are drawn if each of them has room.** -/
theorem outlines_drawn (x y : Int) (width height : Nat) (p : Rgba) (count inset : Nat)
    (r : Raster Rgba) :
    Drawn own (∀ k < count, Room x y width height (inset + k))
      (outlines x y width height p count inset r) := by
  induction count generalizing inset r with
  | zero => exact .done (fun k hk => absurd hk k.not_lt_zero) r
  | succ count ih =>
    refine (outlines_succ_drawn hedge (ih (inset + 1)) r).congr ?_
    rw [Nat.forall_lt_succ_left]
    simp only [Nat.add_zero, Nat.add_assoc, Nat.add_comm 1]

end

end Canvas

/-! ### Boxes and labels -/

/-- All outlines that make up the line around a box have room. -/
def Region.HasRoom (region : Region) (style : OverlayStyle) : Prop :=
  ∀ inset < Canvas.outlineCount style.lineWidth,
    Canvas.Room (Canvas.toPixel region.x) (Canvas.toPixel region.y) (Canvas.toSide region.width)
      (Canvas.toSide region.height) inset

/-- In the default style, the line around a box has room if and only if there is a coordinate before
its left edge and one before its top edge, and its sides can grow by two. -/
theorem Region.hasRoom_default_iff (region : Region) :
    region.HasRoom {} ↔
      -0x80000000 < Canvas.toPixel region.x ∧ -0x80000000 < Canvas.toPixel region.y ∧
        Canvas.toSide region.width + 2 < 0x100000000 ∧
        Canvas.toSide region.height + 2 < 0x100000000 := by
  obtain ⟨hleft, hright⟩ := Canvas.toPixel_fits region.x
  obtain ⟨htop, hbottom⟩ := Canvas.toPixel_fits region.y
  have hwidth := Canvas.toSide_lt region.width
  have hheight := Canvas.toSide_lt region.height
  constructor
  · intro h
    -- What is farthest out takes up the most room.
    obtain ⟨hsides, houtmost, htopmost⟩ := h 1 (by decide)
    unfold Canvas.Fits at houtmost htopmost
    omega
  · rintro ⟨hx, hy, hwide, hhigh⟩ inset hinset
    have hcount : inset < 2 := hinset
    refine ⟨?_, ?_, ?_⟩
    · omega
    · exact ⟨by omega, by omega⟩
    · exact ⟨by omega, by omega⟩

/-- On a surface boxes are drawn if they have room, and labels if there are pixels. -/
structure Surface.Outlined (own : Fault → Prop) (σ : Type) [Surface σ] : Prop where
  /-- A box needs room. -/
  strokeBox : ∀ region style (s : σ),
    Drawn own (region.HasRoom style) (Surface.strokeBox region style s)
  /-- A label needs pixels. -/
  fillText : ∀ text x y style (s : σ), HasPixels s →
    Drawn own True (Surface.fillText text x y style s)

namespace Canvas

variable {own : Fault → Prop} (hedge : own .edgeOverflow)
include hedge

theorem strokeBox_drawn (region : Region) (style : OverlayStyle) (c : Canvas) :
    Drawn own (region.HasRoom style) (c.strokeBox region style) := by
  have hlines := outlines_drawn hedge (toPixel region.x) (toPixel region.y) (toSide region.width)
    (toSide region.height) style.stroke.solid (outlineCount style.lineWidth) 0 c.picture
  simp only [Nat.zero_add] at hlines
  exact hlines.map fun picture => { c with picture }

theorem fillText_drawn (text : String) (x y : Float32) (style : OverlayStyle) {c : Canvas}
    (hpixels : Surface.HasPixels c) : Drawn own True (c.fillText text x y style) := by
  unfold fillText
  rw [hasPixels_iff.mp hpixels]
  split
  · exact .done trivial c
  · exact (boxAt_drawn hedge _ _ _ _).free_bind fun box => .done trivial _

/-- Canvases draw boxes that have room, and labels. -/
theorem outlined : Surface.Outlined own Canvas where
  strokeBox := strokeBox_drawn hedge
  fillText text x y style _ hpixels := fillText_drawn hedge text x y style hpixels

end Canvas

/-- So do canvases that write with a font, up to what the library refuses. -/
theorem Lettered.outlined (l : Lettering) : Surface.Outlined l.Refuses (Lettered l) where
  strokeBox region style s := (s.canvas.strokeBox_drawn (.inl rfl) region style).map Lettered.mk
  fillText := by
    intro text x y style s hpixels
    refine Drawn.map Lettered.mk ?_
    have hcanvas : Surface.HasPixels s.canvas := hpixels
    unfold Canvas.fillTextIn
    split
    · exact Canvas.fillText_drawn (.inl rfl) text x y style hcanvas
    next font _ =>
      split
      · exact .done trivial _
      · refine Drawn.map (fun picture => { s.canvas with picture }) (.of_faults ?_)
        intro fault hwrite
        exact .inr ⟨_, _, _, _, _, _, Canvas.hasPixels_iff.mp hcanvas, hwrite⟩

namespace Renderer

/-! ### Render passes -/

section

variable {σ : Type} [Surface σ] {own : Fault → Prop} (hσ : Surface.Sized σ)
  (houtlined : Surface.Outlined own σ)
include hσ houtlined

/-- A box is drawn with its label if it has room. -/
theorem drawBox_drawn (style : OverlayStyle) (width height : Nat) (d : Detection) {s : σ}
    (hpixels : Surface.HasPixels s) :
    Drawn own ((d.region width height).HasRoom style) (drawBox style width height d s) := by
  have hstroke := houtlined.strokeBox (d.region width height) style s
  refine (hstroke.bind fun t ht => ?_).congr (and_iff_left trivial)
  exact houtlined.fillText _ _ _ style t ((hσ.strokeBox_kept trivial ht).hasPixels hpixels)

/-- Boxes are drawn if all of them have room. -/
theorem drawBoxes_drawn (style : OverlayStyle) (width height : Nat) (ds : List Detection) {s : σ}
    (hpixels : Surface.HasPixels s) :
    Drawn own (∀ d ∈ ds, (d.region width height).HasRoom style)
      (drawBoxes style width height ds s) := by
  induction ds generalizing s with
  | nil => exact .done (fun d hd => absurd hd List.not_mem_nil) s
  | cons d ds ih =>
    refine ((drawBox_drawn hσ houtlined style width height d hpixels).bind fun t ht => ?_).congr
      List.forall_mem_cons.symm
    exact ih ((drawBox_kept hσ.toKeeps trivial ht).hasPixels hpixels)

/-- **A frame is rendered if all boxes over it have room.** -/
theorem render_drawn (r : Renderer σ) (frame : Frame Float) (overlay : Overlay)
    (hpixels : Surface.HasPixels r.surface) :
    Drawn own (∀ d ∈ overlay.boxes, (d.region (Surface.size r.surface).1
      (Surface.size r.surface).2).HasRoom r.style) (r.render frame overlay) := by
  have hpictured := hσ.drawPicture_kept trivial frame.picture (s := r.surface)
  have hdrawn := drawBoxes_drawn hσ houtlined r.style (Surface.size r.surface).1
    (Surface.size r.surface).2 overlay.boxes (hpictured.hasPixels hpixels)
  rw [render_eq_painted]
  refine Drawn.map _ ?_
  unfold painted
  dsimp only
  rw [hpictured.2]
  exact hdrawn

end

/-- Rendering the boxes of an answer comes to an end if all of them have room, and it is the lack of
room that stops it. -/
structure RendersInRoom {σ : Type} [Surface σ] (r : Renderer σ) (frame : Frame Float)
    (result : DetectionResult) : Prop where
  /-- The boxes have room if and only if the frame is rendered. -/
  done_iff : (∃ done, r.render frame (.answered result) = .ok done) ↔
    ∀ d ∈ (Overlay.answered result).boxes,
      (d.region (Surface.size r.surface).1 (Surface.size r.surface).2).HasRoom r.style
  /-- Otherwise a corner or a side does not fit. -/
  stopped : ∀ fault, r.render frame (.answered result) = .error fault →
    fault = .sideOverflow ∨ fault = .coordinateOverflow

/-- What was drawn in room was rendered in room, if the library does not stop the program. -/
theorem rendersInRoom_of_drawn {σ : Type} [Surface σ] {own : Fault → Prop}
    (hσ : Surface.Sized σ) (houtlined : Surface.Outlined own σ) {r : Renderer σ}
    {frame : Frame Float} {result : DetectionResult} (hpixels : Surface.HasPixels r.surface)
    (hown : ∀ fault, own fault → r.render frame (.answered result) ≠ .error fault) :
    r.RendersInRoom frame result := by
  have hdrawn := render_drawn hσ houtlined r frame (.answered result) hpixels
  refine ⟨hdrawn.done_iff hown, ?_⟩
  intro fault hfault
  rw [hfault] at hdrawn
  rcases hdrawn.fault_cases with hrefused | ⟨-, hoverflow⟩
  · exact absurd hfault (hown fault hrefused)
  · exact hoverflow

/-- **Whether a frame can be rendered with the boxes of an answer is a matter of room.**  Take any
answer, any style and any canvas with pixels, and let letters be written in any way.  If the library
that draws does not stop the program, the frame is rendered if and only if all the outlines of all
the boxes can be computed in 32 bits.  In the default style those of a box can be computed unless
its left or its top edge was rounded to the least coordinate, or one of its sides to one of the two
greatest lengths. -/
theorem rendered_iff_room (l : Lettering) (result : DetectionResult) (frame : Frame Float) :
    (∀ r : Renderer Canvas, Surface.HasPixels r.surface →
      r.render frame (.answered result) ≠ .error .edgeOverflow → r.RendersInRoom frame result) ∧
    (∀ r : Renderer (Lettered l), Surface.HasPixels r.surface →
      (∀ fault, l.Refuses fault → r.render frame (.answered result) ≠ .error fault) →
      r.RendersInRoom frame result) ∧
    ∀ region : Region, region.HasRoom {} ↔
      -0x80000000 < Canvas.toPixel region.x ∧ -0x80000000 < Canvas.toPixel region.y ∧
        Canvas.toSide region.width + 2 < 0x100000000 ∧
        Canvas.toSide region.height + 2 < 0x100000000 := by
  refine ⟨?_, ?_, Region.hasRoom_default_iff⟩
  · intro r hpixels hedge
    refine rendersInRoom_of_drawn Canvas.sized (Canvas.outlined rfl) hpixels ?_
    rintro fault rfl
    exact hedge
  · intro r hpixels hrefused
    exact rendersInRoom_of_drawn (Lettered.sized l) (Lettered.outlined l) hpixels hrefused

/-- A box of one pixel is drawn on a surface of one pixel. -/
theorem rendered_in_one_pixel :
    let frame : Frame Float := ⟨.fill 1 1 ⟨200, 0, 0⟩, 0.0, ⟨1, 0.0, 0.0, 1, 1, "camera"⟩⟩
    let result : DetectionResult := ⟨none, [⟨1, 0.0, 0.0, 1.0, 1.0, 0.5⟩]⟩
    let canvas : Renderer Canvas := { surface := .blank 1 1 }
    let lettered : Renderer (Lettered .absent) := { surface := ⟨.blank 1 1⟩ }
    (Surface.HasPixels canvas.surface ∧
        canvas.render frame (.answered result) ≠ .error .edgeOverflow) ∧
      (Surface.HasPixels lettered.surface ∧
        ∀ fault, Lettering.absent.Refuses fault →
          lettered.render frame (.answered result) ≠ .error fault) ∧
      canvas.RendersInRoom frame result ∧ lettered.RendersInRoom frame result ∧
      ∃ done, canvas.render frame (.answered result) = .ok done := by
  intro frame result canvas lettered
  have hcome : (canvas.render frame (.answered result)).toOption.isSome = true := by
    subst frame result canvas
    rfl
  have hcome' : (lettered.render frame (.answered result)).toOption.isSome = true := by
    subst frame result lettered
    rfl
  obtain ⟨done, hdone⟩ := Results.exists_ok_of_isSome hcome
  obtain ⟨done', hdone'⟩ := Results.exists_ok_of_isSome hcome'
  have hpixels : Surface.HasPixels canvas.surface := by decide
  have hpixels' : Surface.HasPixels lettered.surface := by decide
  have hedge : canvas.render frame (.answered result) ≠ .error .edgeOverflow := by
    rw [hdone]
    exact nofun
  have hrefused : ∀ fault, Lettering.absent.Refuses fault →
      lettered.render frame (.answered result) ≠ .error fault := by
    intro fault _
    rw [hdone']
    exact nofun
  obtain ⟨hcanvas, hlettered, -⟩ := rendered_iff_room .absent result frame
  exact ⟨⟨hpixels, hedge⟩, ⟨hpixels', hrefused⟩, hcanvas canvas hpixels hedge,
    hlettered lettered hpixels' hrefused, done, hdone⟩

/-- A service can answer with a box that lies so far to the left that its edge becomes the least
coordinate.  Its line cannot be drawn. -/
theorem far_left_box_stops :
    let body := "\x7b\"detections\": [\x7b\"class\": 1, \"x\": -1000000000000, \"y\": 0, " ++
      "\"width\": 1, \"height\": 1\x7d]\x7d"
    let frame : Frame Float := ⟨.fill 1 1 ⟨200, 0, 0⟩, 0.0, ⟨1, 0.0, 0.0, 1, 1, "camera"⟩⟩
    let canvas : Renderer Canvas := { surface := .blank 1 1 }
    ∃ result, DetectionResult.read body = .ok result ∧
      canvas.render frame (.answered result) = .error .coordinateOverflow := by
  refine ⟨⟨none, [⟨1, Float32.ofInt (-1000000000000), Float32.ofInt 0, Float32.ofInt 1,
    Float32.ofInt 1, 0.0⟩]⟩, ?_, ?_⟩
  · rfl
  · rfl

end Renderer

end Lookout
