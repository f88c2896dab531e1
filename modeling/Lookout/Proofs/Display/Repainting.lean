import Mathlib.Data.List.Induction
import Lookout.Display.Canvas
import Lookout.Display.Renderer
import Lookout.Proofs.Results
import Lookout.Proofs.Snapshot.Payload
/-!
# Nothing old on a display

A renderer is resized, shows frames and shows its placeholder, in any order (`Renderer.after`).
Each frame is drawn over whatever was there: the frame before, its boxes and its labels, or what is
left of them after a resize.

* **What it shows is a function of little** (`shows_last_render`): of the size, the font, the style
  and the last thing that was drawn.  If a frame was rendered last and the size did not change since
  (`Renderer.Shown`), the surface is what rendering that frame makes of a blank one; otherwise it is
  blank.  A resize to the size it has changes nothing.
* So two histories that end alike look alike (`ShowsLast.surface_eq`).

Little of that is about pixels.  `Surface.Repaints` says what is asked of a surface: drawing a picture
makes the same of it as of a blank surface of its size, and boxes and labels keep the size.  One
operation then keeps `Renderer.Shows`, and so does a history.

Canvases do not draw the glyphs of a font.  How they are drawn does not matter: a `Lettering` is any
way of writing with a font that keeps the size of what it writes on, a `Lettered` surface is a canvas
that writes that way, and the statement is about both.
-/

namespace Lookout

/-! ### Surfaces that are painted over -/

namespace Surface

variable {σ : Type} [Surface σ]

/-- What was drawn on a surface of one kind left it of that kind and of the same size. -/
def Kept (own : σ → Prop) (s t : σ) : Prop := own t ∧ Surface.size t = Surface.size s

theorem Kept.trans {own : σ → Prop} {s t u : σ} (h : Kept own s t) (h' : Kept own t u) :
    Kept own s u :=
  ⟨h'.1, h'.2.trans h.2⟩

/-- Whatever is drawn on surfaces of one kind leaves them of that kind and of their size. -/
structure Keeps (own : σ → Prop) : Prop where
  /-- A picture does. -/
  drawPicture_kept : ∀ {s}, own s → ∀ picture, Kept own s (Surface.drawPicture picture s)
  /-- A box does. -/
  strokeBox_kept : ∀ {s t}, own s → ∀ {region style}, Surface.strokeBox region style s = .ok t →
    Kept own s t
  /-- A label does. -/
  fillText_kept : ∀ {s t}, own s → ∀ {text x y style}, Surface.fillText text x y style s = .ok t →
    Kept own s t

/-- Surfaces of one kind, each of them painted over as if it had been blank. -/
structure Repaints (own : σ → Prop) (blank : Nat × Nat → σ) : Prop extends Keeps own where
  /-- Blank surfaces are of that kind. -/
  own_blank : ∀ size, own (blank size)
  /-- They have the size that is asked for. -/
  size_blank : ∀ size, Surface.size (blank size) = size
  /-- A surface in another size is blank; one that has that size is kept. -/
  resize : ∀ {s}, own s → ∀ width height, Surface.resize width height s =
    if Surface.size s = (width, height) then s else blank (width, height)
  /-- A surface that is cleared is blank. -/
  clear : ∀ {s}, own s → Surface.clear s = blank (Surface.size s)
  /-- A picture covers all there was. -/
  drawPicture : ∀ {s}, own s → ∀ picture,
    Surface.drawPicture picture s = Surface.drawPicture picture (blank (Surface.size s))

end Surface

namespace Renderer

/-! ### Histories -/

/-- What a renderer is asked for. -/
inductive Op where
  /-- Another size. -/
  | resize (width height : Nat)
  /-- To show a frame. -/
  | render (frame : Frame Float) (overlay : Overlay)
  /-- To show that there is nothing to show. -/
  | placeholder

/-- The size after a request, if it was `size` before. -/
def Op.resized (size : Nat × Nat) : Op → Nat × Nat
  | .resize width height => (width, height)
  | .render _ _ => size
  | .placeholder => size

/-- The request is a resize to the size that there is. -/
def Op.Keeps (size : Nat × Nat) (op : Op) : Prop := op = .resize size.1 size.2

/-- The size after some requests. -/
def sizeAfter (start : Nat × Nat) (ops : List Op) : Nat × Nat := ops.foldl Op.resized start

/-- The frame was rendered, and nothing but resizes to the size that there was came after it. -/
def Shown (start : Nat × Nat) (ops : List Op) (frame : Frame Float) (overlay : Overlay) : Prop :=
  ∃ before later, ops = before ++ .render frame overlay :: later ∧
    ∀ op ∈ later, op.Keeps (sizeAfter start before)

variable {σ : Type} [Surface σ]

/-- The renderer after one request. -/
def perform (r : Renderer σ) : Op → Except Fault (Renderer σ)
  | .resize width height => .ok (r.resize width height)
  | .render frame overlay => (r.render frame overlay).map (·.2)
  | .placeholder => .ok r.placeholder

/-- The renderer after some requests. -/
def after (r : Renderer σ) (ops : List Op) : Except Fault (Renderer σ) := ops.foldlM perform r

/-- A surface that a frame is drawn on. -/
def painted (style : OverlayStyle) (frame : Frame Float) (overlay : Overlay) (s : σ) :
    Except Fault σ :=
  let s := Surface.drawPicture frame.picture s
  drawBoxes style (Surface.size s).1 (Surface.size s).2 overlay.boxes s

/-- What a renderer shows is told by its size, its style and the last thing that was drawn. -/
structure ShowsLast (blank : Nat × Nat → σ) (start : Nat × Nat) (style : OverlayStyle)
    (ops : List Op) (r : Renderer σ) : Prop where
  /-- It has the size it was given last. -/
  size : Surface.size r.surface = sizeAfter start ops
  /-- If a frame is shown, the surface is what rendering it makes of a blank one. -/
  rendered : ∀ {frame overlay}, Shown start ops frame overlay → ∀ clock readouts,
    ∃ report fresh, ({ surface := blank (sizeAfter start ops), style, clock, readouts } :
      Renderer σ).render frame overlay = .ok (report, fresh) ∧ fresh.surface = r.surface
  /-- If no frame is shown, the surface is blank. -/
  empty : (∀ frame overlay, ¬ Shown start ops frame overlay) →
    r.surface = blank (sizeAfter start ops)
  /-- A resize to the size it has changes nothing. -/
  resize_same : r.resize (sizeAfter start ops).1 (sizeAfter start ops).2 = r

/-- **Histories that end alike look alike.**  Nothing of what came before can be told from a
surface, if the size is the same and the same frame is shown, or none. -/
theorem ShowsLast.surface_eq {blank : Nat × Nat → σ} {start start' : Nat × Nat}
    {style : OverlayStyle} {ops ops' : List Op} {r r' : Renderer σ}
    (h : ShowsLast blank start style ops r) (h' : ShowsLast blank start' style ops' r')
    (hsize : sizeAfter start ops = sizeAfter start' ops')
    (hshown : ∀ frame overlay, Shown start ops frame overlay ↔ Shown start' ops' frame overlay) :
    r.surface = r'.surface := by
  by_cases hsome : ∃ frame overlay, Shown start ops frame overlay
  · obtain ⟨frame, overlay, hlast⟩ := hsome
    obtain ⟨_, _, hrender, hsurface⟩ := h.rendered hlast {} {}
    obtain ⟨_, _, hrender', hsurface'⟩ := h'.rendered ((hshown frame overlay).mp hlast) {} {}
    rw [hsize, hrender'] at hrender
    cases hrender
    exact hsurface.symm.trans hsurface'
  · have hnone : ∀ frame overlay, ¬ Shown start ops frame overlay := fun frame overlay hlast =>
      hsome ⟨frame, overlay, hlast⟩
    have hnone' : ∀ frame overlay, ¬ Shown start' ops' frame overlay := fun frame overlay hlast =>
      hnone frame overlay ((hshown frame overlay).mpr hlast)
    rw [h.empty hnone, h'.empty hnone', hsize]

/-! ### The size, and the frame that is shown -/

theorem sizeAfter_snoc (start : Nat × Nat) (ops : List Op) (op : Op) :
    sizeAfter start (ops ++ [op]) = op.resized (sizeAfter start ops) := by
  unfold sizeAfter
  rw [List.foldl_append, List.foldl_cons, List.foldl_nil]

/-- Resizes to the size that there is keep it. -/
theorem foldl_resized_of_keeps {size : Nat × Nat} {later : List Op}
    (h : ∀ op ∈ later, op.Keeps size) : later.foldl Op.resized size = size := by
  induction later with
  | nil => rfl
  | cons op later ih =>
    rw [List.foldl_cons, h op List.mem_cons_self]
    exact ih fun o ho => h o (List.mem_cons_of_mem _ ho)

/-- After a render and resizes to the size that there was, there is that size. -/
theorem sizeAfter_of_keeps {start : Nat × Nat} {before later : List Op} {frame : Frame Float}
    {overlay : Overlay} (h : ∀ op ∈ later, op.Keeps (sizeAfter start before)) :
    sizeAfter start (before ++ .render frame overlay :: later) = sizeAfter start before := by
  unfold sizeAfter
  rw [List.foldl_append, List.foldl_cons]
  exact foldl_resized_of_keeps h

/-- At first no frame is shown. -/
theorem not_shown_nil (start : Nat × Nat) (frame : Frame Float) (overlay : Overlay) :
    ¬ Shown start [] frame overlay := by
  rintro ⟨before, later, hops, _⟩
  cases before with
  | nil => cases hops
  | cons op before => cases hops

/-- A frame is shown from its render on, as long as the size is kept. -/
theorem shown_snoc_iff {start : Nat × Nat} {ops : List Op} {op : Op} {frame : Frame Float}
    {overlay : Overlay} : Shown start (ops ++ [op]) frame overlay ↔
      op = .render frame overlay ∨
        op.Keeps (sizeAfter start ops) ∧ Shown start ops frame overlay := by
  constructor
  · rintro ⟨before, later, hops, hlater⟩
    rcases List.eq_nil_or_concat later with rfl | ⟨later, last, rfl⟩
    · exact .inl (List.singleton_inj.mp (List.append_inj' hops rfl).2)
    · have hsplit : ops ++ [op] = (before ++ .render frame overlay :: later) ++ [last] := by
        simpa using hops
      obtain ⟨rfl, hop⟩ := List.append_inj' hsplit rfl
      obtain rfl := List.singleton_inj.mp hop
      rw [List.concat_eq_append, List.forall_mem_append, List.forall_mem_singleton] at hlater
      obtain ⟨hkept, hlast⟩ := hlater
      refine .inr ⟨?_, before, later, rfl, hkept⟩
      rw [sizeAfter_of_keeps hkept]
      exact hlast
  · rintro (rfl | ⟨hop, before, later, rfl, hlater⟩)
    · exact ⟨ops, [], rfl, nofun⟩
    · rw [sizeAfter_of_keeps hlater] at hop
      refine ⟨before, later ++ [op], by simp, ?_⟩
      rw [List.forall_mem_append, List.forall_mem_singleton]
      exact ⟨hlater, hop⟩

/-- A resize to the size that there is leaves the frame that is shown. -/
theorem shown_snoc_of_keeps {start : Nat × Nat} {ops : List Op} {op : Op} {frame : Frame Float}
    {overlay : Overlay} (h : op.Keeps (sizeAfter start ops)) :
    Shown start (ops ++ [op]) frame overlay ↔ Shown start ops frame overlay := by
  rw [shown_snoc_iff]
  refine ⟨?_, fun hshown => .inr ⟨h, hshown⟩⟩
  rintro (rfl | ⟨_, hshown⟩)
  · cases h
  · exact hshown

/-- Anything else that is no render leaves none. -/
theorem not_shown_snoc {start : Nat × Nat} {ops : List Op} {op : Op}
    (hrender : ∀ frame overlay, op ≠ .render frame overlay)
    (hkeeps : ¬ op.Keeps (sizeAfter start ops)) (frame : Frame Float) (overlay : Overlay) :
    ¬ Shown start (ops ++ [op]) frame overlay := by
  rw [shown_snoc_iff]
  rintro (hop | ⟨hop, _⟩)
  · exact hrender frame overlay hop
  · exact hkeeps hop

/-! ### One render -/

theorem render_eq_painted (r : Renderer σ) (frame : Frame Float) (overlay : Overlay) :
    r.render frame overlay = (painted r.style frame overlay r.surface).map fun surface =>
      (⟨overlay.boxes.length, (r.finish surface frame).1⟩, (r.finish surface frame).2) := by
  unfold render painted
  generalize Surface.drawPicture frame.picture r.surface = s
  cases h : drawBoxes r.style (Surface.size s).1 (Surface.size s).2 overlay.boxes s with
  | error e => simp only [h]; rfl
  | ok t => simp only [h]; rfl

/-- A render draws the frame on the surface and keeps the style. -/
theorem of_render {r after : Renderer σ} {report : RenderReport} {frame : Frame Float}
    {overlay : Overlay} (h : r.render frame overlay = .ok (report, after)) :
    painted r.style frame overlay r.surface = .ok after.surface ∧ after.style = r.style := by
  rw [render_eq_painted] at h
  obtain ⟨surface, hsurface, hafter⟩ := Results.map_eq_ok_iff.mp h
  cases hafter
  exact ⟨hsurface, rfl⟩

section

variable {own : σ → Prop} (keeps : Surface.Keeps own)

include keeps

/-- A box and its label keep the kind and the size. -/
theorem drawBox_kept {style : OverlayStyle} {width height : Nat} {d : Detection} {s t : σ}
    (hs : own s) (h : drawBox style width height d s = .ok t) : Surface.Kept own s t := by
  obtain ⟨boxed, hstroke, hlabel⟩ := Results.bind_eq_ok_iff.mp h
  have hboxed := keeps.strokeBox_kept hs hstroke
  exact hboxed.trans (keeps.fillText_kept hboxed.1 hlabel)

/-- So do boxes with their labels, one after the other. -/
theorem drawBoxes_kept {style : OverlayStyle} {width height : Nat} {ds : List Detection} {s t : σ}
    (hs : own s) (h : drawBoxes style width height ds s = .ok t) : Surface.Kept own s t := by
  induction ds generalizing s with
  | nil =>
    cases h
    exact ⟨hs, rfl⟩
  | cons d ds ih =>
    obtain ⟨labelled, hbox, hrest⟩ := Results.bind_eq_ok_iff.mp h
    have hlabelled := drawBox_kept keeps hs hbox
    exact hlabelled.trans (ih hlabelled.1 hrest)

/-- A frame with its boxes and labels keeps them as well. -/
theorem painted_kept {style : OverlayStyle} {frame : Frame Float} {overlay : Overlay} {s t : σ}
    (hs : own s) (h : painted style frame overlay s = .ok t) : Surface.Kept own s t := by
  have hdrawn := keeps.drawPicture_kept hs frame.picture
  exact hdrawn.trans (drawBoxes_kept keeps hdrawn.1 h)

end

section

variable {own : σ → Prop} {blank : Nat × Nat → σ} (repaints : Surface.Repaints own blank)

include repaints

/-- A frame makes the same of a surface as of a blank one of its size. -/
theorem painted_blank {s : σ} (hs : own s) (style : OverlayStyle) (frame : Frame Float)
    (overlay : Overlay) :
    painted style frame overlay s = painted style frame overlay (blank (Surface.size s)) := by
  unfold painted
  rw [repaints.drawPicture hs]

/-! ### Any history -/

omit repaints in
/-- What holds of a renderer after a history. -/
structure Shows (own : σ → Prop) (blank : Nat × Nat → σ) (start : Nat × Nat) (style : OverlayStyle)
    (ops : List Op) (r : Renderer σ) : Prop where
  /-- The surface is of the kind that is painted over. -/
  own_surface : own r.surface
  /-- The style is never changed. -/
  style_eq : r.style = style
  /-- The size is the one that was asked for last. -/
  size_eq : Surface.size r.surface = sizeAfter start ops
  /-- A frame that is shown was as good as drawn on nothing. -/
  drawn : ∀ {frame overlay}, Shown start ops frame overlay →
    painted style frame overlay (blank (sizeAfter start ops)) = .ok r.surface
  /-- Without a frame there is nothing. -/
  empty : (∀ frame overlay, ¬ Shown start ops frame overlay) →
    r.surface = blank (sizeAfter start ops)

variable {start : Nat × Nat} {style : OverlayStyle} {ops : List Op} {r : Renderer σ}

/-- A blank surface shows no frame. -/
theorem Shows.of_blank (hstyle : r.style = style) (hsurface : r.surface = blank (sizeAfter start ops))
    (hnone : ∀ frame overlay, ¬ Shown start ops frame overlay) :
    Shows own blank start style ops r where
  own_surface := by
    rw [hsurface]
    exact repaints.own_blank _
  style_eq := hstyle
  size_eq := by
    rw [hsurface]
    exact repaints.size_blank _
  drawn hshown := absurd hshown (hnone _ _)
  empty _ := hsurface

/-- A resize to the size that there is changes nothing. -/
theorem Shows.resize_same (h : Shows own blank start style ops r) :
    r.resize (sizeAfter start ops).1 (sizeAfter start ops).2 = r := by
  unfold resize
  rw [repaints.resize h.own_surface, if_pos h.size_eq]

omit repaints in
/-- A resize to the size that there is shows what was shown. -/
theorem Shows.keep (h : Shows own blank start style ops r) {op : Op}
    (hkeeps : op.Keeps (sizeAfter start ops)) : Shows own blank start style (ops ++ [op]) r := by
  have hsize : sizeAfter start (ops ++ [op]) = sizeAfter start ops := by
    rw [sizeAfter_snoc, hkeeps]
    rfl
  refine ⟨h.own_surface, h.style_eq, hsize ▸ h.size_eq, ?_, ?_⟩
  · intro frame overlay hshown
    rw [hsize]
    exact h.drawn ((shown_snoc_of_keeps hkeeps).mp hshown)
  · intro hnone
    rw [hsize]
    exact h.empty fun frame overlay hshown =>
      hnone frame overlay ((shown_snoc_of_keeps hkeeps).mpr hshown)

/-- A render shows its frame, as if there had been nothing before. -/
theorem Shows.render (h : Shows own blank start style ops r) {report : RenderReport}
    {after : Renderer σ} {frame : Frame Float} {overlay : Overlay}
    (hrender : r.render frame overlay = .ok (report, after)) :
    Shows own blank start style (ops ++ [.render frame overlay]) after := by
  obtain ⟨hpainted, hstyle⟩ := of_render hrender
  have hkept := painted_kept repaints.toKeeps h.own_surface hpainted
  have hsize : sizeAfter start (ops ++ [.render frame overlay]) = sizeAfter start ops :=
    sizeAfter_snoc start ops _
  refine ⟨hkept.1, hstyle.trans h.style_eq, ?_, ?_, ?_⟩
  · rw [hsize]
    exact hkept.2.trans h.size_eq
  · intro frame' overlay' hshown
    rcases shown_snoc_iff.mp hshown with hop | ⟨hkeeps, _⟩
    · cases hop
      rw [hsize, ← h.style_eq, ← h.size_eq, ← painted_blank repaints h.own_surface]
      exact hpainted
    · cases hkeeps
  · intro hnone
    exact absurd (shown_snoc_iff.mpr (.inl rfl)) (hnone frame overlay)

/-- One request keeps it. -/
theorem Shows.perform (h : Shows own blank start style ops r) {op : Op} {after : Renderer σ}
    (hop : r.perform op = .ok after) : Shows own blank start style (ops ++ [op]) after := by
  cases op with
  | resize width height =>
    cases hop
    by_cases hsame : sizeAfter start ops = (width, height)
    · have hr := h.resize_same repaints
      rw [hsame] at hr
      rw [hr]
      refine h.keep ?_
      unfold Op.Keeps
      rw [hsame]
    · refine Shows.of_blank repaints h.style_eq ?_ (not_shown_snoc nofun ?_)
      · rw [sizeAfter_snoc]
        change Surface.resize width height r.surface = blank (width, height)
        rw [repaints.resize h.own_surface, if_neg (h.size_eq ▸ hsame)]
      · intro hkeeps
        cases hkeeps
        exact hsame rfl
  | render frame overlay =>
    obtain ⟨⟨report, after⟩, hrender, rfl⟩ := Results.map_eq_ok_iff.mp hop
    exact h.render repaints hrender
  | placeholder =>
    cases hop
    refine Shows.of_blank repaints h.style_eq ?_ (not_shown_snoc nofun nofun)
    rw [sizeAfter_snoc]
    change Surface.clear r.surface = blank (sizeAfter start ops)
    rw [repaints.clear h.own_surface, h.size_eq]

/-- Requests one after the other keep it: the history grows at its end. -/
theorem shows_after {r₀ : Renderer σ} (hsurface : r₀.surface = blank start) (hstyle : r₀.style = style)
    (hr : r₀.after ops = .ok r) : Shows own blank start style ops r := by
  induction ops using List.reverseRecOn generalizing r with
  | nil =>
    cases hr
    exact Shows.of_blank repaints hstyle hsurface (not_shown_nil start)
  | append_singleton ops op ih =>
    unfold after at hr
    rw [List.foldlM_append] at hr
    obtain ⟨before, hbefore, hlast⟩ := Results.bind_eq_ok_iff.mp hr
    rw [List.foldlM_cons] at hlast
    obtain ⟨_, hop, hend⟩ := Results.bind_eq_ok_iff.mp hlast
    cases hend
    exact (ih hbefore).perform repaints hop

/-- What a renderer shows after a history that began with a blank surface. -/
theorem showsLast_after {r₀ : Renderer σ} (hsurface : r₀.surface = blank start)
    (hstyle : r₀.style = style) (hr : r₀.after ops = .ok r) :
    ShowsLast blank start style ops r := by
  have h := shows_after repaints hsurface hstyle hr
  refine ⟨h.size_eq, ?_, h.empty, h.resize_same repaints⟩
  intro frame overlay hshown clock readouts
  rw [render_eq_painted, h.drawn hshown]
  exact ⟨_, _, rfl, rfl⟩

end

end Renderer

/-! ### Canvases -/

/-- Rasters of one size without pixels are the same. -/
theorem Raster.eq_of_isEmpty {π : Type} {r s : Raster π} (hsize : r.size = s.size)
    (h : r.isEmpty = true) : r = s := by
  obtain ⟨hwidth, hheight⟩ := Prod.mk.inj hsize
  have hnone : r.width * r.height = 0 := by
    rw [Nat.mul_eq_zero]
    simpa [Raster.isEmpty] using h
  refine Raster.ext hwidth hheight ?_
  rw [Array.eq_empty_of_size_eq_zero (r.size_eq.trans hnone),
    Array.eq_empty_of_size_eq_zero (s.size_eq.trans (by rw [← hwidth, ← hheight, hnone]))]

/-- A way to write with a font, for the picture that is written on. -/
structure Lettering where
  /-- Write a text with its left edge and the top of its letters at a pixel. -/
  write : Font → String → Int → Int → OverlayStyle → Raster Rgba → Except Fault (Raster Rgba)
  /-- What is written stays on the picture. -/
  size_write : ∀ {font text left top style r s}, write font text left top style r = .ok s →
    s.size = r.size

/-- Letters without glyphs. -/
def Lettering.absent : Lettering where
  write _ _ _ _ _ r := .ok r
  size_write h := by
    cases h
    rfl

namespace Canvas

/-- Labels are written in the given font, or as boxes. -/
def InFont (font : Option Font) (c : Canvas) : Prop := c.font = font

/-- The transparent canvas of a size. -/
def blankIn (font : Option Font) (size : Nat × Nat) : Canvas := blank size.1 size.2 font

/-- Write a label, with a font in the given way.  The letters end at the height that is asked
for. -/
def fillTextIn (l : Lettering) (text : String) (x y : Float32) (style : OverlayStyle) (c : Canvas) :
    Except Fault Canvas :=
  match c.font with
  | none => c.fillText text x y style
  | some font =>
    if text.isEmpty then .ok c
    else do
      let top := toPixel (Resample.atLeast 0.0 (y - style.fontSize))
      let picture ← l.write font text (toPixel x) top style c.picture
      return { c with picture }

/-- Canvases write in letters without glyphs. -/
theorem fillTextIn_absent (text : String) (x y : Float32) (style : OverlayStyle) (c : Canvas) :
    c.fillTextIn .absent text x y style = c.fillText text x y style := by
  obtain ⟨picture, _ | font⟩ := c
  · rfl
  · cases h : text.isEmpty with
    | false => simp [fillTextIn, fillText, h]; rfl
    | true => simp [fillTextIn, fillText, h]

/-- A canvas without pixels is blank. -/
theorem eq_blankIn_of_isEmpty {c : Canvas} (h : c.picture.isEmpty = true) :
    c = blankIn c.font c.picture.size := by
  obtain ⟨picture, font⟩ := c
  exact congrArg (Canvas.mk · font) (Raster.eq_of_isEmpty rfl h)

/-- A picture makes the same of a canvas as of a blank one of its size. -/
theorem drawPicture_blankIn (picture : Raster Rgb) (c : Canvas) :
    c.drawPicture picture = (blankIn c.font c.picture.size).drawPicture picture := by
  rcases h : c.picture.isEmpty with _ | _
  · have hblank : (blankIn c.font c.picture.size).picture.isEmpty = false := h
    unfold drawPicture
    rw [if_neg (by simp [h]), if_neg (by simp [hblank])]
    rfl
  · rw [← eq_blankIn_of_isEmpty h]

/-- An outline keeps the size. -/
theorem size_outline {r s : Raster Rgba} {b : Box} {p : Rgba} (h : outline r b p = .ok s) :
    s.size = r.size := by
  unfold outline at h
  obtain ⟨_, _, h⟩ := Results.bind_eq_ok_iff.mp h
  split at h
  · obtain ⟨_, _, h⟩ := Results.bind_eq_ok_iff.mp h
    cases h
    rfl
  · cases h
    rfl

/-- So do outlines around a box. -/
theorem size_outlines {x y : Int} {width height : Nat} {p : Rgba} {count inset : Nat}
    {r s : Raster Rgba} (h : outlines x y width height p count inset r = .ok s) :
    s.size = r.size := by
  induction count generalizing inset r with
  | zero =>
    cases h
    rfl
  | succ count ih =>
    simp only [outlines] at h
    split at h
    · cases h
    · obtain ⟨left, _, h⟩ := Results.bind_eq_ok_iff.mp h
      obtain ⟨top, _, h⟩ := Results.bind_eq_ok_iff.mp h
      obtain ⟨box, _, h⟩ := Results.bind_eq_ok_iff.mp h
      obtain ⟨outlined, houtline, hrest⟩ := Results.bind_eq_ok_iff.mp h
      exact (ih hrest).trans (size_outline houtline)

section

variable {font : Option Font} {c d : Canvas}

/-- A picture keeps the font and the size. -/
theorem drawPicture_kept (hc : c.InFont font) (picture : Raster Rgb) :
    Surface.Kept (InFont font) c (c.drawPicture picture) := by
  obtain ⟨hwidth, hheight⟩ := drawPicture_size picture c
  refine ⟨?_, Prod.ext hwidth hheight⟩
  unfold drawPicture
  split
  · exact hc
  · exact hc

/-- So does a box. -/
theorem strokeBox_kept (hc : c.InFont font) {region : Region} {style : OverlayStyle}
    (h : c.strokeBox region style = .ok d) :
    Surface.Kept (InFont font) c d := by
  obtain ⟨picture, hpicture, hd⟩ := Results.bind_eq_ok_iff.mp h
  cases hd
  exact ⟨hc, size_outlines hpicture⟩

/-- So does a label without a font. -/
theorem fillText_kept_of_none (hnone : c.InFont none) {text : String} {x y : Float32}
    {style : OverlayStyle} (h : c.fillText text x y style = .ok d) :
    Surface.Kept (InFont none) c d := by
  unfold fillText at h
  split at h
  · cases h
    exact ⟨hnone, rfl⟩
  · split at h
    · cases h
    · obtain ⟨box, _, hd⟩ := Results.bind_eq_ok_iff.mp h
      cases hd
      exact ⟨hnone, rfl⟩

/-- So does a label, in whatever way it is written with a font. -/
theorem fillTextIn_kept (hc : c.InFont font) {l : Lettering} {text : String} {x y : Float32}
    {style : OverlayStyle} (h : c.fillTextIn l text x y style = .ok d) :
    Surface.Kept (InFont font) c d := by
  subst hc
  unfold fillTextIn at h
  split at h
  next hnone =>
    rw [hnone]
    exact fillText_kept_of_none hnone h
  next font hfont =>
    split at h
    · cases h
      exact ⟨rfl, rfl⟩
    · obtain ⟨picture, hpicture, hd⟩ := Results.bind_eq_ok_iff.mp h
      cases hd
      exact ⟨rfl, l.size_write hpicture⟩

end

/-- Canvases in a font are painted over. -/
theorem repaints (font : Option Font) :
    Surface.Repaints (InFont font) (blankIn font) where
  own_blank _ := rfl
  size_blank _ := rfl
  resize := by
    rintro c rfl width height
    rfl
  clear := by
    rintro c rfl
    rfl
  drawPicture := by
    rintro c rfl picture
    exact drawPicture_blankIn picture c
  drawPicture_kept := drawPicture_kept
  strokeBox_kept := strokeBox_kept
  fillText_kept := by
    intro c d hc text x y style h
    exact fillTextIn_kept hc ((fillTextIn_absent text x y style c).trans h)

end Canvas

/-- A canvas that writes with a font in the given way. -/
structure Lettered (l : Lettering) where
  /-- What is drawn on. -/
  canvas : Canvas

namespace Lettered

variable {l : Lettering}

instance : Surface (Lettered l) where
  size s := s.canvas.picture.size
  resize width height s := ⟨s.canvas.resize width height⟩
  drawPicture picture s := ⟨s.canvas.drawPicture picture⟩
  strokeBox region style s := (s.canvas.strokeBox region style).map Lettered.mk
  fillText text x y style s := (s.canvas.fillTextIn l text x y style).map Lettered.mk
  clear s := ⟨s.canvas.clear⟩

/-- The transparent surface of a size. -/
def blankIn (l : Lettering) (font : Option Font) (size : Nat × Nat) : Lettered l :=
  ⟨Canvas.blankIn font size⟩

/-- Such canvases are painted over as well. -/
theorem repaints (l : Lettering) (font : Option Font) :
    Surface.Repaints (fun s : Lettered l => s.canvas.InFont font) (blankIn l font) where
  own_blank _ := rfl
  size_blank _ := rfl
  resize := by
    rintro s rfl width height
    exact apply_ite Lettered.mk (s.canvas.picture.size = (width, height)) _ _
  clear := by
    rintro s rfl
    rfl
  drawPicture := by
    rintro s rfl picture
    exact congrArg Lettered.mk (Canvas.drawPicture_blankIn picture s.canvas)
  drawPicture_kept hs picture := Canvas.drawPicture_kept hs picture
  strokeBox_kept := by
    intro s t hs region style h
    obtain ⟨d, hd, rfl⟩ := Results.map_eq_ok_iff.mp h
    exact Canvas.strokeBox_kept hs hd
  fillText_kept := by
    intro s t hs text x y style h
    obtain ⟨d, hd, rfl⟩ := Results.map_eq_ok_iff.mp h
    exact Canvas.fillTextIn_kept hs hd

end Lettered

namespace Renderer

/-- **What a renderer shows is a function of its size, its font, its style and what was drawn
last.**  Begin with a transparent canvas, and let the renderer be resized, show frames with anything
over them and show its placeholder, in any order; however the letters of a font are written, and
unless the program stops, what it shows is told by the last frame that was rendered if the size was
kept since (`ShowsLast.rendered`), and is nothing otherwise (`ShowsLast.empty`). -/
theorem shows_last_render (l : Lettering) (font : Option Font) (start : Nat × Nat)
    (style : OverlayStyle) (clock : StreamClock) (readouts : Readouts) (ops : List Op) :
    (∀ r, ({ surface := Canvas.blankIn font start, style, clock, readouts } :
        Renderer Canvas).after ops = .ok r →
      ShowsLast (Canvas.blankIn font) start style ops r) ∧
    (∀ r, ({ surface := Lettered.blankIn l font start, style, clock, readouts } :
        Renderer (Lettered l)).after ops = .ok r →
      ShowsLast (Lettered.blankIn l font) start style ops r) := by
  constructor
  · intro r hr
    exact showsLast_after (Canvas.repaints font) rfl rfl hr
  · intro r hr
    exact showsLast_after (Lettered.repaints l font) rfl rfl hr

/-- A frame of four pixels, a smaller surface, the placeholder, and a frame of one pixel for which
the service failed: nothing but that pixel is left. -/
theorem shows_second_of_two :
    let frame (picture : Raster Rgb) : Frame Float := ⟨picture, 0.0, ⟨1, 0.0, 0.0, 1, 1, "camera"⟩⟩
    let ops := [
      Op.render (frame (.fill 2 2 ⟨200, 0, 0⟩)) (.answered {}), .resize 1 1, .placeholder,
      .render (frame (.fill 1 1 ⟨7, 8, 9⟩)) (.answered ⟨some 5, [⟨1, 0.0, 0.0, 1.0, 1.0, 0.5⟩]⟩),
      .resize 1 1]
    (∃ r, ({ surface := Canvas.blankIn none (2, 2) } : Renderer Canvas).after ops = .ok r ∧
      ShowsLast (Canvas.blankIn none) (2, 2) {} ops r ∧
      r.surface.picture = .fill 1 1 ⟨7, 8, 9, 255⟩) ∧
    ∃ r, ({ surface := Lettered.blankIn .absent none (2, 2) } :
        Renderer (Lettered .absent)).after ops = .ok r ∧
      ShowsLast (Lettered.blankIn .absent none) (2, 2) {} ops r := by
  intro frame ops
  obtain ⟨hcanvas, hlettered⟩ := shows_last_render .absent none (2, 2) {} {} {} ops
  exact ⟨⟨_, rfl, hcanvas _ rfl, Raster.map_fill Rgb.solid 1 1 _⟩, _, rfl, hlettered _ rfl⟩

end Renderer

end Lookout
