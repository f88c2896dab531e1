import Lookout.Proofs.Display.Sizes
import Lookout.Proofs.Pipeline.Blocks
import Lookout.Proofs.Pipeline.Likeness
import Lookout.Simulation.Replay
/-!
# A recorder in place of a canvas

All that a pipeline learns from its surface is its size.  Where a recorder takes the place of a
canvas of the same size, everything goes the same way as long as drawing on the canvas does not stop
the program: `Pipeline.recorder_stands_in`.

Pipelines that differ only in their surface (`Pipeline.on`) are alike in that sense
(`Pipeline.recording`).  The likeness is lawful up to what cannot be drawn on a canvas, since a
canvas has the size that it was given last (`Surface.Sized`), as a recorder has, and anything can be
drawn on a recorder.
-/

namespace Lookout

/-- Renderers that differ in nothing but their surfaces, which have the same size. -/
structure Renderer.SameApart {σ τ : Type} [Surface σ] [Surface τ] (r₁ : Renderer σ)
    (r₂ : Renderer τ) : Prop where
  /-- The surfaces have the same size. -/
  size : Surface.size r₁.surface = Surface.size r₂.surface
  /-- The styles are the same. -/
  style : r₁.style = r₂.style
  /-- The stream clocks are the same. -/
  clock : r₁.clock = r₂.clock
  /-- The readouts are the same. -/
  readouts : r₁.readouts = r₂.readouts

/-- Rendering a frame on two surfaces of the same size gives the same account and leaves the sizes
the same. -/
theorem Renderer.SameApart.render {σ τ : Type} [Surface σ] [Surface τ] (hσ : Surface.Sized σ)
    (hτ : Surface.Sized τ) {r₁ after₁ : Renderer σ} {r₂ after₂ : Renderer τ}
    (h : r₁.SameApart r₂) {frame : Frame Float} {overlay : Overlay} {report₁ report₂ : RenderReport}
    (h₁ : r₁.render frame overlay = .ok (report₁, after₁))
    (h₂ : r₂.render frame overlay = .ok (report₂, after₂)) :
    report₁ = report₂ ∧ after₁.SameApart after₂ := by
  obtain ⟨htick₁, hreadouts₁, hboxes₁⟩ := counts_of_render h₁
  obtain ⟨htick₂, hreadouts₂, hboxes₂⟩ := counts_of_render h₂
  rw [← h.clock, ← htick₁] at htick₂
  obtain ⟨hfps, hclock⟩ := Prod.mk.inj htick₂
  obtain ⟨boxes₁, fps₁⟩ := report₁
  obtain ⟨boxes₂, fps₂⟩ := report₂
  cases hfps
  cases hboxes₁.trans hboxes₂.symm
  refine ⟨rfl, ?_, ?_, hclock.symm, hreadouts₁.trans hreadouts₂.symm⟩
  · rw [size_of_render hσ h₁, size_of_render hτ h₂]
    exact h.size
  · rw [(of_render h₁).2, (of_render h₂).2]
    exact h.style

namespace Pipeline

open Simulation

variable {σ κ δ ω : Type}

/-- The pipeline with another surface. -/
def on {τ : Type} (p : Pipeline σ κ δ) (surface : τ) : Pipeline τ κ δ where
  catalog := p.catalog
  settings := p.settings
  sourceOf := p.sourceOf
  detector := p.detector
  renderer := {
    surface
    style := p.renderer.style
    clock := p.renderer.clock
    readouts := p.renderer.readouts }
  session := p.session
  paused := p.paused
  fitSurface := p.fitSurface

/-! ### Pipelines that differ in their surfaces -/

/-- The pipelines and their worlds differ in nothing but their renderers, which are related. -/
def apart {σ τ : Type} (κ δ ω : Type) (R : Renderer σ → Renderer τ → Prop) :
    Likeness σ κ δ ω τ κ δ ω where
  source := (· = ·)
  world := (· = ·)
  detector := (· = ·)
  renderer := R
  overlay := (· = ·)
  report := (· = ·)

section

variable {τ : Type} {R : Renderer σ → Renderer τ → Prop} {p : Pipeline σ κ δ}

/-- A pipeline is like itself over another surface, if the renderers are related. -/
theorem apart_on {surface : τ} (h : R p.renderer (p.on surface).renderer) :
    (apart κ δ ω R).Pipelines p (p.on surface) where
  catalog := rfl
  settings := rfl
  sourceOf := Likeness.sourceOf_refl (fun _ => rfl) p.sourceOf
  detector := rfl
  renderer := h
  session := Likeness.session_refl (fun _ => rfl) p.session
  paused := rfl
  fitSurface := rfl

/-- A pipeline that is like it is the pipeline over another surface, if the renderers differ in
nothing but their surfaces. -/
theorem eq_on_of_apart {q : Pipeline τ κ δ} (hstyle : p.renderer.style = q.renderer.style)
    (hclock : p.renderer.clock = q.renderer.clock)
    (hreadouts : p.renderer.readouts = q.renderer.readouts) (h : (apart κ δ ω R).Pipelines p q) :
    q = p.on q.renderer.surface := by
  have hsourceOf := Likeness.sourceOf_eq (fun _ _ => id) h.sourceOf
  have hsession := Likeness.session_eq (fun _ _ => id) h.session
  obtain ⟨catalog, settings, sourceOf, detector, ⟨surface, style, clock, readouts⟩, session,
    paused, fitSurface⟩ := q
  cases h.catalog
  cases h.settings
  cases hsourceOf
  cases h.detector
  cases hstyle
  cases hclock
  cases hreadouts
  cases hsession
  cases h.paused
  cases h.fitSurface
  rfl

/-- Such a likeness is lawful if what is done with renderers relates them again. -/
theorem apart_lawful [Surface σ] [Surface τ] [FrameSource κ ω Float] [DetectionService δ ω]
    {may : Prop} (hresetClock : ∀ {r₁ r₂}, R r₁ r₂ → R r₁.resetClock r₂.resetClock)
    (hsize : ∀ {r₁ r₂}, R r₁ r₂ → Surface.size r₁.surface = Surface.size r₂.surface)
    (hresize : ∀ {r₁ r₂} (width height : Nat), R r₁ r₂ →
      R (r₁.resize width height) (r₂.resize width height))
    (hrender : ∀ {r₁ r₂} (frame : Frame Float) (overlay : Overlay), R r₁ r₂ →
      (overlay.boxes ≠ [] → Surface.HasPixels r₁.surface) →
      Upto may (fun x y => x.1 = y.1 ∧ R x.2 y.2) (r₁.render frame overlay)
        (r₂.render frame overlay)) :
    (apart κ δ ω R).Lawful may where
  connect := by
    rintro source _ w _ rfl rfl
    exact ⟨rfl, rfl, rfl⟩
  next := by
    rintro source _ w _ rfl rfl
    exact ⟨rfl, rfl, rfl⟩
  stop := by
    rintro source _ w _ rfl rfl
    exact ⟨rfl, rfl⟩
  resetClock := hresetClock
  size := hsize
  resize := hresize
  unasked := rfl
  submit := by
    rintro detector _ w _ octets mediaType rfl rfl
    exact ⟨rfl, rfl, rfl⟩
  render := by
    rintro r₁ r₂ asked _ frame h rfl hpixels
    have hrendered := hrender frame asked.1 h hpixels
    generalize r₁.render frame asked.1 = x at hrendered ⊢
    generalize r₂.render frame asked.1 = y at hrendered ⊢
    cases hrendered with
    | failed fault => exact .failed fault
    | come hresult =>
      obtain ⟨hreport, hafter⟩ := hresult
      refine .come ⟨?_, hafter⟩
      rw [hreport]
      rfl
    | halted hmay fault y => exact .halted hmay fault y

end

/-! ### A recorder for a surface -/

/-- The pipelines and their worlds differ in nothing but their surfaces, of which the second is a
recorder. -/
def recording (σ κ δ ω : Type) [Surface σ] : Likeness σ κ δ ω Recorder κ δ ω where
  source := (· = ·)
  world := (· = ·)
  detector := (· = ·)
  renderer := Renderer.SameApart
  overlay := (· = ·)
  report := (· = ·)

variable [Surface σ] {p : Pipeline σ κ δ} {q : Pipeline Recorder κ δ}

/-- A pipeline is like itself over a recorder of the size of its surface. -/
theorem recording_on {r : Recorder} (hsize : Surface.size p.renderer.surface = Surface.size r) :
    (recording σ κ δ ω).Pipelines p (p.on r) := apart_on ⟨hsize, rfl, rfl, rfl⟩

/-- A pipeline that is like it is the pipeline over another surface. -/
theorem eq_on (h : (recording σ κ δ ω).Pipelines p q) : q = p.on q.renderer.surface :=
  eq_on_of_apart h.renderer.style h.renderer.clock h.renderer.readouts h

variable [FrameSource κ ω Float] [DetectionService δ ω]

/-- **A recorder can stand in for a surface that has the size it was given last.** -/
theorem recording_lawful (hσ : Surface.Sized σ) : (recording σ κ δ ω).Lawful True := by
  refine apart_lawful ?_ ?_ ?_ ?_
  · intro r₁ r₂ h
    exact ⟨h.size, h.style, rfl, h.readouts⟩
  · intro r₁ r₂ h
    exact h.size
  · intro r₁ r₂ width height h
    refine ⟨?_, h.style, h.clock, h.readouts⟩
    exact (hσ.size_resize width height _).trans (Recorder.sized.size_resize width height _).symm
  · intro r₁ r₂ frame overlay h _
    obtain ⟨report₂, after₂, h₂, -⟩ := r₂.render_recorder frame overlay
    rw [h₂]
    rcases h₁ : r₁.render frame overlay with fault | ⟨report₁, after₁⟩
    · exact .halted trivial fault _
    · obtain ⟨rfl, hafter⟩ := h.render hσ Recorder.sized h₁ h₂
      exact .come ⟨rfl, hafter⟩

/-- What is asked goes the same way when a recorder takes the place of the surface. -/
structure StandsIn (p : Pipeline σ κ δ) (r : Recorder) (requests : List (Request κ))
    (j : Journal ω) : Prop where
  /-- The same is given back. -/
  replies : (enactAll requests (p.on r) j).1 = (enactAll requests p j).1
  /-- The pipelines differ in nothing but their surfaces. -/
  pipelines : (enactAll requests (p.on r) j).2.1 =
    (enactAll requests p j).2.1.on (enactAll requests (p.on r) j).2.1.renderer.surface
  /-- The surfaces have the same size. -/
  size : Surface.size (enactAll requests (p.on r) j).2.1.renderer.surface =
    Surface.size (enactAll requests p j).2.1.renderer.surface
  /-- The same was asked of the sources and sent to the service, and the same was answered. -/
  journals : (enactAll requests (p.on r) j).2.2 = (enactAll requests p j).2.2
  /-- A run from there takes the same course. -/
  courses : ∀ limit fuel i, let p' := (enactAll requests p j).2.1
    let q' := (enactAll requests (p.on r) j).2.1
    let j' := (enactAll requests p j).2.2
    (∀ fault, (runNoting limit fuel 0 p' i j').2 ≠ .error fault) →
    (runNoting limit fuel 0 q' i j').1 = (runNoting limit fuel 0 p' i j').1

/-- A recorder stands in for a surface that has the size it was given last, as long as that does not
stop the program. -/
theorem standsIn_of_sized (hσ : Surface.Sized σ) {r : Recorder}
    (hsize : Surface.size p.renderer.surface = Surface.size r) {requests : List (Request κ)}
    {j : Journal ω} (hgoes : ∀ fault, .error fault ∉ (enactAll requests p j).1) :
    StandsIn p r requests j := by
  have hlawful : (recording σ κ δ (Journal ω)).Lawful True := recording_lawful hσ
  have hrequests :=
    Likeness.requests_refl (L := recording σ κ δ (Journal ω)) (fun _ => rfl) requests
  have hall := Likeness.enactAll_upto hlawful hrequests (recording_on hsize) (rfl : j = j)
  rcases hall with ⟨-, fault, hfault⟩ | ⟨hreplies, hpipelines, hworld⟩
  · exact absurd hfault (hgoes fault)
  · have hjournals : (enactAll requests p j).2.2 = (enactAll requests (p.on r) j).2.2 := hworld
    refine ⟨(Likeness.replies_eq (fun _ _ => id) hreplies).symm, eq_on hpipelines,
      hpipelines.renderer.size.symm, hjournals.symm, ?_⟩
    intro limit fuel i p' q' j' hends
    rcases Likeness.runNoting_upto hlawful limit fuel 0 hpipelines (rfl : j' = j') i with
      ⟨-, fault, hfault⟩ | hnoted
    · exact absurd hfault (hends fault)
    · exact hnoted.course.symm

/-- **A recorder is as good as a canvas.**  Take a pipeline over a canvas, and the same pipeline
over a recorder of the size of the canvas.  Whatever is asked of them in the same world, and however
letters are written, as long as the canvas does not stop the program both give back the same, ask
their sources and their services for the same, and differ afterwards in nothing but their surfaces,
which have the same size. -/
theorem recorder_stands_in (l : Lettering) (r : Recorder) (requests : List (Request κ))
    (j : Journal ω) :
    (∀ p : Pipeline Canvas κ δ, Surface.size p.renderer.surface = Surface.size r →
      (∀ fault, .error fault ∉ (enactAll requests p j).1) → StandsIn p r requests j) ∧
    (∀ p : Pipeline (Lettered l) κ δ, Surface.size p.renderer.surface = Surface.size r →
      (∀ fault, .error fault ∉ (enactAll requests p j).1) → StandsIn p r requests j) := by
  constructor
  · intro p hsize hgoes
    exact standsIn_of_sized Canvas.sized hsize hgoes
  · intro p hsize hgoes
    exact standsIn_of_sized (Lettered.sized l) hsize hgoes

/-- Two frames are asked for, of which there is one; a canvas of one pixel takes on its size, and
the service finds nothing. -/
theorem recorder_stands_in_for_two_pixels :
    let frame : Frame Float := ⟨.fill 2 1 ⟨200, 0, 0⟩, 0.0, ⟨1, 0.0, 0.0, 2, 1, "camera"⟩⟩
    let requests : List (Request (ReplaySource Float)) :=
      [.act (.startWith "camera" { outcomes := [.ok frame] }), .act .step, .act .step]
    let camera {σ : Type} (surface : σ) : Pipeline σ (ReplaySource Float) Detector :=
      { catalog := ⟨[]⟩, settings := { format := .png }, sourceOf := fun _ => .error .streamEnded,
        detector := .stub 0, renderer := { surface } }
    let j : Journal (World Float) := { world := World.start [] }
    let r : Recorder := { width := 1, height := 1 }
    let canvas : Canvas := .blank 1 1
    let lettered : Lettered .absent := ⟨canvas⟩
    (∀ fault, .error fault ∉ (enactAll requests (camera canvas) j).1) ∧
      StandsIn (camera canvas) r requests j ∧
      (∀ fault, .error fault ∉ (enactAll requests (camera lettered) j).1) ∧
      StandsIn (camera lettered) r requests j := by
  intro frame requests camera j r canvas lettered
  have hcomes (replies : List (Except Fault Reply)) :
      (∃ x y z, replies = [.ok x, .ok y, .ok z]) → ∀ fault, .error fault ∉ replies := by
    rintro ⟨x, y, z, rfl⟩
    simp
  have hgoes := hcomes (enactAll requests (camera canvas) j).1 ⟨_, _, _, rfl⟩
  have hgoes' := hcomes (enactAll requests (camera lettered) j).1 ⟨_, _, _, rfl⟩
  obtain ⟨hcanvas, hlettered⟩ := recorder_stands_in (δ := Detector) .absent r requests j
  exact ⟨hgoes, hcanvas (camera canvas) rfl hgoes, hgoes', hlettered (camera lettered) rfl hgoes'⟩

end Pipeline

end Lookout
