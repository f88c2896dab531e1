import Lookout.Proofs.Capture.Resolution
import Lookout.Proofs.Display.Outlines
import Lookout.Proofs.Pipeline.StandIn
/-!
# Surfaces without pixels

A label cannot be drawn on a surface without pixels, and the renderer does not look at the size
before it draws.  In a pipeline this does not happen: there are boxes to draw only if the service
was asked, it is asked only about a snapshot, and no snapshot has the size of such a surface.

A `Guarded` surface raises an alarm whenever a box or a label is asked for while it has no pixels.
Which fault the alarm is may be chosen freely.  Whatever is asked of a pipeline, with a guarded
surface it does the same as without the guard (`Pipeline.DrawsOnPixels`), so the alarm is never
raised: `Pipeline.draws_on_pixels_only`.  What the program can be stopped by at all is said by
`Pipeline.fault_cases`.
-/

namespace Lookout

/-- A surface that stops the program with the given fault when a box or a label is asked for while
it has no pixels.  Anything else is done by the surface within. -/
structure Guarded (alarm : Fault) (σ : Type) where
  /-- The surface within. -/
  within : σ

namespace Guarded

variable {alarm : Fault} {σ : Type} [Surface σ]

/-- Draw on the surface within if it has pixels. -/
def draw (f : σ → Except Fault σ) (s : Guarded alarm σ) : Except Fault (Guarded alarm σ) :=
  if Surface.HasPixels s.within then (f s.within).map mk else .error alarm

instance : Surface (Guarded alarm σ) where
  size s := Surface.size s.within
  resize width height s := ⟨Surface.resize width height s.within⟩
  drawPicture picture s := ⟨Surface.drawPicture picture s.within⟩
  strokeBox region style := draw (Surface.strokeBox region style)
  fillText text x y style := draw (Surface.fillText text x y style)
  clear s := ⟨Surface.clear s.within⟩

/-- A surface with pixels is drawn on. -/
theorem draw_of_hasPixels {s : σ} (h : Surface.HasPixels s) (f : σ → Except Fault σ) :
    draw f (⟨s⟩ : Guarded alarm σ) = (f s).map mk := if_pos h

end Guarded

namespace Renderer

variable {σ : Type} [Surface σ] {alarm : Fault}

/-- The renderer with its surface guarded. -/
def guarded (alarm : Fault) (r : Renderer σ) : Renderer (Guarded alarm σ) where
  surface := ⟨r.surface⟩
  style := r.style
  clock := r.clock
  readouts := r.readouts

section

variable (hσ : Surface.Sized σ) {s : σ}
include hσ

/-- The guard does not matter to a box and its label where there are pixels. -/
theorem drawBox_guarded (hpixels : Surface.HasPixels s) (style : OverlayStyle) (width height : Nat)
    (d : Detection) :
    drawBox style width height d (⟨s⟩ : Guarded alarm σ) =
      (drawBox style width height d s).map Guarded.mk := by
  have hstroke : Surface.strokeBox (d.region width height) style (⟨s⟩ : Guarded alarm σ) =
      (Surface.strokeBox (d.region width height) style s).map Guarded.mk :=
    Guarded.draw_of_hasPixels hpixels _
  unfold drawBox
  dsimp only
  rw [hstroke]
  rcases hboxed : Surface.strokeBox (d.region width height) style s with fault | t
  · rfl
  · exact Guarded.draw_of_hasPixels ((hσ.strokeBox_kept trivial hboxed).hasPixels hpixels) _

/-- Nor does it matter to boxes. -/
theorem drawBoxes_guarded (hpixels : Surface.HasPixels s) (style : OverlayStyle)
    (width height : Nat) (ds : List Detection) :
    drawBoxes style width height ds (⟨s⟩ : Guarded alarm σ) =
      (drawBoxes style width height ds s).map Guarded.mk := by
  induction ds generalizing s with
  | nil => rfl
  | cons d ds ih =>
    unfold drawBoxes
    rw [drawBox_guarded hσ hpixels]
    rcases hdrawn : drawBox style width height d s with fault | t
    · rfl
    · exact ih ((drawBox_kept hσ.toKeeps trivial hdrawn).hasPixels hpixels)

/-- **Nor to a render pass that draws boxes only where there are pixels.** -/
theorem render_guarded (r : Renderer σ) (frame : Frame Float) {overlay : Overlay}
    (hpixels : overlay.boxes ≠ [] → Surface.HasPixels r.surface) :
    (r.guarded alarm).render frame overlay =
      (r.render frame overlay).map fun x => (x.1, x.2.guarded alarm) := by
  have hpainted : painted r.style frame overlay (r.guarded alarm).surface =
      (painted r.style frame overlay r.surface).map Guarded.mk := by
    have hpictured := hσ.drawPicture_kept (s := r.surface) trivial frame.picture
    unfold painted
    by_cases hboxes : overlay.boxes = []
    · rw [hboxes]
      rfl
    · exact drawBoxes_guarded hσ (hpictured.hasPixels (hpixels hboxes)) _ _ _ _
  rw [render_eq_painted, render_eq_painted]
  show Except.map _ (painted r.style frame overlay (r.guarded alarm).surface) = _
  rw [hpainted]
  rcases painted r.style frame overlay r.surface with fault | t
  · rfl
  · rfl

end

end Renderer

namespace Pipeline

open Simulation

variable {σ κ δ ω : Type}

/-- The pipeline with its surface guarded. -/
def guarded (alarm : Fault) (p : Pipeline σ κ δ) : Pipeline (Guarded alarm σ) κ δ :=
  p.on ⟨p.renderer.surface⟩

/-- The pipelines and their worlds differ in nothing but that the surface of the second is
guarded. -/
def guarding (alarm : Fault) (σ κ δ ω : Type) [Surface σ] :
    Likeness σ κ δ ω (Guarded alarm σ) κ δ ω :=
  apart κ δ ω fun r₁ r₂ => r₂ = r₁.guarded alarm

variable [Surface σ] {alarm : Fault} {p : Pipeline σ κ δ} {q : Pipeline (Guarded alarm σ) κ δ}

/-- A pipeline is like itself with a guard. -/
theorem guarding_guarded (p : Pipeline σ κ δ) :
    (guarding alarm σ κ δ ω).Pipelines p (p.guarded alarm) := apart_on rfl

/-- A pipeline that is like it is the pipeline with a guard. -/
theorem eq_guarded (h : (guarding alarm σ κ δ ω).Pipelines p q) : q = p.guarded alarm := by
  have hrenderer : q.renderer = p.renderer.guarded alarm := h.renderer
  have hon : q = p.on q.renderer.surface := by
    refine eq_on_of_apart ?_ ?_ ?_ h
    · rw [hrenderer]
      rfl
    · rw [hrenderer]
      rfl
    · rw [hrenderer]
      rfl
  rw [hon, hrenderer]
  rfl

variable [FrameSource κ ω Float] [DetectionService δ ω]

/-- **A pipeline never meets the guard.** -/
theorem guarding_lawful (hσ : Surface.Sized σ) : (guarding alarm σ κ δ ω).Lawful := by
  refine apart_lawful ?_ ?_ ?_ ?_
  · rintro r _ rfl
    rfl
  · rintro r _ rfl
    rfl
  · rintro r _ width height rfl
    rfl
  · rintro r _ frame overlay rfl hpixels
    rw [r.render_guarded hσ frame hpixels]
    rcases r.render frame overlay with fault | ⟨report, after⟩
    · exact .failed fault
    · exact .come ⟨rfl, rfl⟩

/-- Boxes and labels are asked for only of surfaces with pixels: with a guard everything goes the
same way, and whatever the alarm is, it is not raised. -/
def DrawsOnPixels (requests : List (Request κ)) (p : Pipeline σ κ δ) (w : ω) : Prop :=
  ∀ alarm, enactAll requests (p.guarded alarm) w =
    let (replies, q, v) := enactAll requests p w
    (replies, q.guarded alarm, v)

/-- Surfaces that have the size they were given last are drawn on only if they have pixels. -/
theorem drawsOnPixels (hσ : Surface.Sized σ) (requests : List (Request κ)) (p : Pipeline σ κ δ)
    (w : ω) : DrawsOnPixels requests p w := by
  intro alarm
  have hlawful : (guarding alarm σ κ δ ω).Lawful := guarding_lawful hσ
  have hrequests :=
    Likeness.requests_refl (L := guarding alarm σ κ δ ω) (fun _ => rfl) requests
  obtain ⟨hreplies, hpipelines, hworld⟩ :=
    Likeness.enactAll hlawful hrequests (guarding_guarded p) (rfl : w = w)
  have hworlds : (enactAll requests p w).2.2 = (enactAll requests (p.guarded alarm) w).2.2 := hworld
  refine Prod.ext (Likeness.replies_eq (fun _ _ => id) hreplies).symm (Prod.ext ?_ hworlds.symm)
  exact eq_guarded hpipelines

/-! ### What can stop the program -/

/-- If operations stop the program, one of them does. -/
theorem exists_of_carryOut {ops : List (Op κ)} {p : Pipeline σ κ δ} {w : ω} {fault : Fault}
    (h : carryOut ops p w = .error fault) :
    ∃ (op : Op κ) (q : Pipeline σ κ δ) (v : ω), perform op q v = .error fault := by
  induction ops generalizing p w with
  | nil => cases h
  | cons op ops ih =>
    rcases hact : perform op p w with fault' | ⟨answer, q, v⟩
    · rw [carryOut_cons_of_error hact] at h
      cases h
      exact ⟨op, p, w, hact⟩
    · rw [carryOut_cons_of_ok hact] at h
      exact ih h

/-- If a request stops the program, an operation does. -/
theorem exists_of_enact {r : Request κ} {p : Pipeline σ κ δ} {w : ω} {fault : Fault}
    (h : (enact r p w).1 = .error fault) :
    ∃ (op : Op κ) (q : Pipeline σ κ δ) (v : ω), perform op q v = .error fault := by
  unfold enact at h
  cases r with
  | act op =>
    rcases hact : perform op p w with fault' | ⟨answer, q, v⟩
    · simp only [hact] at h
      cases h
      exact ⟨op, p, w, hact⟩
    · simp only [hact] at h
      cases h
  | run limit fuel i =>
    have heffect := (runNoting_conducted limit fuel 0 p i w).effect
    rcases hrun : runNoting limit fuel 0 p i w with ⟨course, fault' | ⟨how, q, left, v⟩⟩
    · rw [hrun] at heffect
      simp only [hrun] at h
      cases h
      exact exists_of_carryOut heffect
    · simp only [hrun] at h
      cases h

/-- **If the program stops, an operation stops it.** -/
theorem exists_of_enactAll {requests : List (Request κ)} {p : Pipeline σ κ δ} {w : ω}
    {fault : Fault} (h : .error fault ∈ (enactAll requests p w).1) :
    ∃ (op : Op κ) (q : Pipeline σ κ δ) (v : ω), perform op q v = .error fault := by
  induction requests generalizing p w with
  | nil => cases h
  | cons r rs ih =>
    unfold enactAll at h
    rcases henact : enact r p w with ⟨fault' | reply, q, v⟩
    · rw [henact] at h
      obtain rfl : fault = fault' := Except.error.inj (List.mem_singleton.mp h)
      exact exists_of_enact (congrArg Prod.fst henact)
    · rw [henact] at h
      rcases List.mem_cons.mp h with hreply | hlater
      · cases hreply
      · exact ih hlater

omit [FrameSource κ ω Float] in
/-- If dealing with a frame stops the program, rendering it does, and boxes are drawn only where
there are pixels. -/
theorem render_of_process {p : Pipeline σ κ δ} {frame : Frame Float} {w : ω} {fault : Fault}
    (h : p.process frame w = .error fault) :
    ∃ (r : Renderer σ) (overlay : Overlay), r.render frame overlay = .error fault ∧
      (overlay.boxes ≠ [] → Surface.HasPixels r.surface) := by
  have hpixels := (p.fit frame).hasPixels_of_boxes frame w
  unfold process at h
  rcases hasked : (p.fit frame).detect frame w with ⟨overlay, status, asked, w'⟩
  rw [hasked] at hpixels
  rcases hrender : asked.renderer.render frame overlay with fault' | rendered
  · simp only [hasked, hrender, bind, Except.bind] at h
    cases h
    exact ⟨asked.renderer, overlay, hrender, hpixels⟩
  · simp only [hasked, hrender, bind, Except.bind] at h
    cases h

/-- An operation stops the program where a request for a device has bounds in the wrong order, where
a picture is too large for its source, or where a frame is rendered. -/
theorem fault_of_perform {op : Op κ} {p : Pipeline σ κ δ} {w : ω} {fault : Fault}
    (h : perform op p w = .error fault) :
    fault = .rangeInverted ∨ fault = .pictureTooLarge ∨
      ∃ (r : Renderer σ) (frame : Frame Float) (overlay : Overlay),
        r.render frame overlay = .error fault ∧
          (overlay.boxes ≠ [] → Surface.HasPixels r.surface) := by
  cases op with
  | start constraints =>
    rw [perform_start] at h
    rcases hdevice : deviceFor p.catalog p.sourceOf p.settings.rate constraints with
      fault' | found
    · rw [hdevice] at h
      cases h
      exact .inl (Catalog.resolve_eq_error_iff.mp (resolve_of_deviceFor_error hdevice)).1
    · rw [hdevice] at h
      cases h
  | startWith deviceId source =>
    rw [perform_startWith] at h
    cases h
  | pause => cases h
  | resume => cases h
  | stop => cases h
  | step =>
    right
    have hstep : p.step w = .error fault := by
      rcases hstep : p.step w with fault' | outcome
      · simp only [perform, hstep, bind, Except.bind] at h
        cases h
        rfl
      · simp only [perform, hstep, bind, Except.bind] at h
        cases h
    rcases hrunning : p.isRunning with _ | _
    · rw [step_of_idle hrunning] at hstep
      cases hstep
    · obtain ⟨s, hsession, hpaused⟩ := p.isRunning_iff.1 hrunning
      rw [step_of_running hsession hpaused] at hstep
      rcases hnext : s.next w with ⟨_ | e | frame, s', w'⟩
      · rw [hnext] at hstep
        cases hstep
        exact .inl rfl
      · rw [hnext] at hstep
        cases hstep
      · rcases hprocess : process { p with session := some s' } frame w' with fault' | dealt
        · simp only [hnext, hprocess] at hstep
          cases hstep
          obtain ⟨r, overlay, hrender⟩ := render_of_process hprocess
          exact .inr ⟨r, frame, overlay, hrender⟩
        · simp only [hnext, hprocess] at hstep
          cases hstep

/-- **What can stop the program**: bounds in the wrong order, pictures that are too large for their
source, the library that draws, and boxes at the ends of the coordinates. -/
theorem fault_cases {own : Fault → Prop} (hσ : Surface.Sized σ)
    (houtlined : Surface.Outlined own σ) {requests : List (Request κ)} {p : Pipeline σ κ δ} {w : ω}
    {fault : Fault} (h : .error fault ∈ (enactAll requests p w).1) :
    fault = .rangeInverted ∨ fault = .pictureTooLarge ∨ own fault ∨ fault = .sideOverflow ∨
      fault = .coordinateOverflow := by
  obtain ⟨op, q, v, hact⟩ := exists_of_enactAll h
  rcases fault_of_perform hact with hinverted | hlarge | ⟨r, frame, overlay, hrender, hpixels⟩
  · exact .inl hinverted
  · exact .inr (.inl hlarge)
  · right
    right
    by_cases hboxes : overlay.boxes = []
    · -- Nothing is drawn over the picture.
      unfold Renderer.render at hrender
      rw [hboxes] at hrender
      cases hrender
    · have hdrawn := Renderer.render_drawn hσ houtlined r frame overlay (hpixels hboxes)
      rw [hrender] at hdrawn
      exact hdrawn.fault_cases.imp_right And.right

/-- **A pipeline draws on pixels only.**  Whatever the state of a pipeline over a canvas is and
whatever is asked of it, with any sources, any service and any way to write letters, boxes and
labels are asked for only while both sides of the canvas are above zero.  So a pipeline is never
stopped for want of pixels, unless the letters that are written on a picture with pixels stop it
that way. -/
theorem draws_on_pixels_only (l : Lettering) (requests : List (Request κ)) (w : ω) :
    (∀ p : Pipeline Canvas κ δ, DrawsOnPixels requests p w ∧
      .error .emptySurface ∉ (enactAll requests p w).1) ∧
    (∀ p : Pipeline (Lettered l) κ δ, DrawsOnPixels requests p w ∧
      (¬ l.Refuses .emptySurface → .error .emptySurface ∉ (enactAll requests p w).1)) := by
  constructor
  · intro p
    refine ⟨drawsOnPixels Canvas.sized requests p w, ?_⟩
    intro hempty
    have houtlined : Surface.Outlined (· = .edgeOverflow) Canvas := Canvas.outlined rfl
    have hcases := fault_cases Canvas.sized houtlined hempty
    simp at hcases
  · intro p
    refine ⟨drawsOnPixels (Lettered.sized l) requests p w, ?_⟩
    intro hrefuses hempty
    have hcases := fault_cases (Lettered.sized l) (Lettered.outlined l) hempty
    simp [hrefuses] at hcases

/-- A frame of one pixel is shown with the box that was found in it.  Nothing is asked about the
frame without pixels after it, though there would be an answer, and there are no pixels to draw
on. -/
theorem draws_on_one_pixel :
    let frame (width : Nat) : Frame Float :=
      ⟨.fill width 1 ⟨200, 0, 0⟩, 0.0, ⟨1, 0.0, 0.0, width, 1, "camera"⟩⟩
    let requests : List (Request (ReplaySource Float)) :=
      [.act (.startWith "camera" { outcomes := [.ok (frame 1)] }), .act .step,
        .act (.startWith "camera" { outcomes := [.ok (frame 0)] }), .act .step]
    let found : DetectionResult := ⟨none, [⟨1, 0.0, 0.0, 1.0, 1.0, 0.5⟩]⟩
    let camera {σ : Type} (surface : σ) : Pipeline σ (ReplaySource Float) ReplayService :=
      { catalog := ⟨[]⟩, settings := { format := .png }, sourceOf := fun _ => .error .streamEnded,
        detector := { outcomes := [.ok found, .ok found] }, renderer := { surface } }
    let w : World Float := World.start []
    let canvas : Canvas := .blank 0 0
    let lettered : Lettered .absent := ⟨canvas⟩
    let after := (enactAll requests (camera canvas) w).2.1
    DrawsOnPixels requests (camera canvas) w ∧ DrawsOnPixels requests (camera lettered) w ∧
      ¬ Lettering.absent.Refuses .emptySurface ∧
      .error .emptySurface ∉ (enactAll requests (camera lettered) w).1 ∧
      after.detector.outcomes.length = 1 ∧ ¬ Surface.HasPixels after.renderer.surface := by
  intro frame requests found camera w canvas lettered after
  have hrefuses : ¬ Lettering.absent.Refuses .emptySurface := by
    rw [Lettering.refuses_absent]
    exact nofun
  obtain ⟨hcanvas, hlettered⟩ := draws_on_pixels_only (δ := ReplayService) .absent requests w
  refine ⟨(hcanvas (camera canvas)).1, (hlettered (camera lettered)).1, hrefuses,
    (hlettered (camera lettered)).2 hrefuses, ?_⟩
  subst frame requests found camera w canvas lettered after
  decide +kernel

end Pipeline

end Lookout
