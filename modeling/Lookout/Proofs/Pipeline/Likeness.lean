import Lookout.Proofs.Display.Sizes
import Lookout.Proofs.Pipeline.Requests
import Mathlib.Data.List.Forall2
/-!
# Two pipelines that are alike

Two pipelines may differ in what their surfaces, sources, services and worlds are, and still go the
same way.  A `Likeness` says what is related to what in them, and it is `Lawful` when each thing
that a pipeline does with these parts takes related parts to related parts: what it does with a
source, with a service and with a renderer.

Under a lawful likeness everything that is asked of two pipelines that are alike is answered alike
and leaves them alike (`Likeness.enactAll`).  Rendering may stop the program on one surface and not
on another; a likeness that is lawful up to that is one from the first pipeline to the second as
long as the first goes on (`Likeness.enactAll_upto`).  The lemmas follow the definitions of the
pipeline from the inside to the outside: sessions, operations, what is done before an iteration,
runs, histories.
-/

namespace Lookout

/-- Two computations that fail in the same way, or whose results are related. -/
inductive Both {ε α β : Type} (R : α → β → Prop) : Except ε α → Except ε β → Prop where
  /-- Both fail. -/
  | failed (e : ε) : Both R (.error e) (.error e)
  /-- Both have results. -/
  | come {a : α} {b : β} (h : R a b) : Both R (.ok a) (.ok b)

namespace Both

variable {ε α β α' β' : Type} {R : α → β → Prop} {R' : α' → β' → Prop} {x : Except ε α}
  {y : Except ε β}

/-- What is done with related results. -/
theorem map {f : α → α'} {g : β → β'} (h : Both R x y) (hfg : ∀ a b, R a b → R' (f a) (g b)) :
    Both R' (x.map f) (y.map g) := by
  cases h with
  | failed e => exact .failed e
  | come h => exact .come (hfg _ _ h)

/-- Computations that go on from related results. -/
theorem bind {f : α → Except ε α'} {g : β → Except ε β'} (h : Both R x y)
    (hfg : ∀ a b, R a b → Both R' (f a) (g b)) : Both R' (x >>= f) (y >>= g) := by
  cases h with
  | failed e => exact .failed e
  | come h => exact hfg _ _ h

end Both

/-- As `Both`, but where `may` holds the first computation may fail whatever the second does. -/
inductive Upto {ε α β : Type} (may : Prop) (R : α → β → Prop) :
    Except ε α → Except ε β → Prop where
  /-- Both fail. -/
  | failed (e : ε) : Upto may R (.error e) (.error e)
  /-- Both have results. -/
  | come {a : α} {b : β} (h : R a b) : Upto may R (.ok a) (.ok b)
  /-- The first fails. -/
  | halted (h : may) (e : ε) (y : Except ε β) : Upto may R (.error e) y

namespace Upto

variable {ε α β α' β' : Type} {may : Prop} {R : α → β → Prop} {R' : α' → β' → Prop}
  {x : Except ε α} {y : Except ε β}

/-- Computations that go together need no leave to fail. -/
theorem of_both (h : Both R x y) : Upto may R x y := by
  cases h with
  | failed e => exact .failed e
  | come h => exact .come h

/-- What is done with related results. -/
theorem map {f : α → α'} {g : β → β'} (h : Upto may R x y)
    (hfg : ∀ a b, R a b → R' (f a) (g b)) : Upto may R' (x.map f) (y.map g) := by
  cases h with
  | failed e => exact .failed e
  | come h => exact .come (hfg _ _ h)
  | halted h e y => exact .halted h e _

/-- Computations that go on from related results. -/
theorem bind {f : α → Except ε α'} {g : β → Except ε β'} (h : Upto may R x y)
    (hfg : ∀ a b, R a b → Upto may R' (f a) (g b)) : Upto may R' (x >>= f) (y >>= g) := by
  cases h with
  | failed e => exact .failed e
  | come h => exact hfg _ _ h
  | halted h e y => exact .halted h e _

end Upto

/-- Where boxes were found, the service was asked, and what it was asked about has pixels. -/
theorem Pipeline.hasPixels_of_boxes {σ κ δ ω : Type} [Surface σ] [DetectionService δ ω]
    (p : Pipeline σ κ δ) (frame : Frame Float) (w : ω)
    (h : (p.detect frame w).1.boxes ≠ []) :
    Surface.HasPixels (p.detect frame w).2.2.1.renderer.surface := by
  rw [detect_eq] at h ⊢
  unfold Snapshot.take at h ⊢
  by_cases hsides : (Surface.size p.renderer.surface).1 = 0 ∨
    (Surface.size p.renderer.surface).2 = 0 ∨ frame.picture.isEmpty
  · rw [if_pos hsides] at h
    exact absurd rfl h
  · obtain ⟨hwidth, hheight, -⟩ := not_or.mp hsides |>.imp_right not_or.mp
    rw [if_neg hsides]
    rcases Snapshot.write _ p.settings.format with e | octets
    · exact ⟨hwidth, hheight⟩
    · exact ⟨hwidth, hheight⟩

/-- What is related to what in two pipelines and their worlds. -/
structure Likeness (σ₁ κ₁ δ₁ ω₁ σ₂ κ₂ δ₂ ω₂ : Type) where
  /-- Sources. -/
  source : κ₁ → κ₂ → Prop
  /-- Worlds. -/
  world : ω₁ → ω₂ → Prop
  /-- Services. -/
  detector : δ₁ → δ₂ → Prop
  /-- Renderers. -/
  renderer : Renderer σ₁ → Renderer σ₂ → Prop
  /-- What is drawn over a frame and how its request went. -/
  overlay : Overlay × RequestStatus → Overlay × RequestStatus → Prop
  /-- Accounts of an iteration. -/
  report : IterationReport → IterationReport → Prop

namespace Likeness

open Pipeline

variable {σ₁ κ₁ δ₁ ω₁ σ₂ κ₂ δ₂ ω₂ : Type} (L : Likeness σ₁ κ₁ δ₁ ω₁ σ₂ κ₂ δ₂ ω₂)

/-- Sessions that are alike. -/
structure Sessions (s₁ : Session κ₁) (s₂ : Session κ₂) : Prop where
  /-- They capture from the same device. -/
  deviceId : s₁.deviceId = s₂.deviceId
  /-- They answer the same request. -/
  constraints : s₁.constraints = s₂.constraints
  /-- Their sources are related. -/
  source : L.source s₁.source s₂.source
  /-- They have stopped them or not. -/
  stopped : s₁.stopped = s₂.stopped

/-- Pipelines that are alike. -/
structure Pipelines (p₁ : Pipeline σ₁ κ₁ δ₁) (p₂ : Pipeline σ₂ κ₂ δ₂) : Prop where
  /-- The same devices can be opened. -/
  catalog : p₁.catalog = p₂.catalog
  /-- The same does not change. -/
  settings : p₁.settings = p₂.settings
  /-- The same settings have related sources. -/
  sourceOf : ∀ settings, Both L.source (p₁.sourceOf settings) (p₂.sourceOf settings)
  /-- The services are related. -/
  detector : L.detector p₁.detector p₂.detector
  /-- The renderers are related. -/
  renderer : L.renderer p₁.renderer p₂.renderer
  /-- The sessions are alike. -/
  session : Option.Rel L.Sessions p₁.session p₂.session
  /-- Both are paused or neither is. -/
  paused : p₁.paused = p₂.paused
  /-- The surface of both takes on the size of the next frame, or that of neither does. -/
  fitSurface : p₁.fitSurface = p₂.fitSurface

/-- Something is given back, and pipelines and worlds are as they are then. -/
structure After {α β : Type} (R : α → β → Prop) (x : α × Pipeline σ₁ κ₁ δ₁ × ω₁)
    (y : β × Pipeline σ₂ κ₂ δ₂ × ω₂) : Prop where
  /-- What is given back is related. -/
  answer : R x.1 y.1
  /-- The pipelines are alike. -/
  pipelines : L.Pipelines x.2.1 y.2.1
  /-- The worlds are related. -/
  world : L.world x.2.2 y.2.2

/-- Answers to an operation that are alike. -/
inductive Answers : Answer → Answer → Prop where
  /-- Nothing. -/
  | done : Answers .done .done
  /-- Whether there is a session. -/
  | opened (outcome : Except AcquisitionError Unit) : Answers (.opened outcome) (.opened outcome)
  /-- The account of an iteration. -/
  | stepped {x y : Except AcquisitionError (Option IterationReport)}
      (h : Both (Option.Rel L.report) x y) : Answers (.stepped x) (.stepped y)

/-- Operations that are alike. -/
inductive Ops : Op κ₁ → Op κ₂ → Prop where
  /-- The same device is asked for. -/
  | start (constraints : Constraints) : Ops (.start constraints) (.start constraints)
  /-- A session is started over related sources. -/
  | startWith (deviceId : String) {source₁ : κ₁} {source₂ : κ₂} (h : L.source source₁ source₂) :
      Ops (.startWith deviceId source₁) (.startWith deviceId source₂)
  /-- No more frames are taken for now. -/
  | pause : Ops .pause .pause
  /-- Frames are taken again. -/
  | resume : Ops .resume .resume
  /-- The session is ended. -/
  | stop : Ops .stop .stop
  /-- An iteration is made. -/
  | step : Ops .step .step

/-- Requests that are alike. -/
inductive Requests : Request κ₁ → Request κ₂ → Prop where
  /-- Operations. -/
  | act {op₁ : Op κ₁} {op₂ : Op κ₂} (h : L.Ops op₁ op₂) : Requests (.act op₁) (.act op₂)
  /-- The same run. -/
  | run (limit : Option Nat) (fuel : Nat) (i : Inbox) :
      Requests (.run limit fuel i) (.run limit fuel i)

/-- Replies that are alike. -/
inductive Replies : Reply → Reply → Prop where
  /-- Operations have given back something. -/
  | answered {x y : Answer} (h : L.Answers x y) : Replies (.answered x) (.answered y)
  /-- Runs have ended in the same way. -/
  | ended (how : RunEnd) (left : Inbox) : Replies (.ended how left) (.ended how left)

section

variable {L} (hreport : ∀ a b, L.report a b → a = b)
include hreport

/-- Where accounts that are related are equal, so are answers. -/
theorem answers_eq {x y : Answer} (h : L.Answers x y) : x = y := by
  cases h with
  | done => rfl
  | opened outcome => rfl
  | stepped h =>
    cases h with
    | failed e => rfl
    | come h =>
      cases h with
      | none => rfl
      | some h => rw [hreport _ _ h]

/-- Where accounts that are related are equal, so are replies. -/
theorem replies_eq {xs ys : List (Except Fault Reply)}
    (h : List.Forall₂ (Both L.Replies) xs ys) : xs = ys := by
  induction h with
  | nil => rfl
  | cons hreply _ ih =>
    rw [ih]
    cases hreply with
    | failed fault => rfl
    | come h =>
      cases h with
      | answered h => rw [answers_eq hreport h]
      | ended how left => rfl

end

/-! ### Sources that are not told apart -/

section

variable {κ : Type} {L : Likeness σ₁ κ δ₁ ω₁ σ₂ κ δ₂ ω₂}

/-- The sources of devices are related to themselves, if all sources are. -/
theorem sourceOf_refl (hrefl : ∀ source, L.source source source)
    (sourceOf : SourceSettings → Except AcquisitionError κ) (settings : SourceSettings) :
    Both L.source (sourceOf settings) (sourceOf settings) := by
  rcases sourceOf settings with e | source
  · exact .failed e
  · exact .come (hrefl source)

/-- So is a session, or none. -/
theorem session_refl (hrefl : ∀ source, L.source source source) (session : Option (Session κ)) :
    Option.Rel L.Sessions session session := by
  rcases session with _ | s
  · exact .none
  · exact .some ⟨rfl, rfl, hrefl s.source, rfl⟩

/-- An operation is like itself. -/
theorem ops_refl (hrefl : ∀ source, L.source source source) (op : Op κ) : L.Ops op op := by
  cases op with
  | start constraints => exact .start constraints
  | startWith deviceId source => exact .startWith deviceId (hrefl source)
  | pause => exact .pause
  | resume => exact .resume
  | stop => exact .stop
  | step => exact .step

/-- The same is asked of both. -/
theorem requests_refl (hrefl : ∀ source, L.source source source) (requests : List (Request κ)) :
    List.Forall₂ L.Requests requests requests := by
  induction requests with
  | nil => exact .nil
  | cons r rs ih =>
    refine .cons ?_ ih
    cases r with
    | act op => exact .act (ops_refl hrefl op)
    | run limit fuel i => exact .run limit fuel i

variable (heq : ∀ source₁ source₂, L.source source₁ source₂ → source₁ = source₂)
include heq

/-- Sessions that are alike are the same, if related sources are. -/
theorem session_eq {x y : Option (Session κ)} (h : Option.Rel L.Sessions x y) : x = y := by
  cases h with
  | none => rfl
  | @some s t hs =>
    obtain ⟨deviceId, constraints, source, stopped⟩ := t
    cases hs.deviceId
    cases hs.constraints
    cases heq _ _ hs.source
    cases hs.stopped
    rfl

/-- So are the sources of devices. -/
theorem sourceOf_eq {sourceOf₁ sourceOf₂ : SourceSettings → Except AcquisitionError κ}
    (h : ∀ settings, Both L.source (sourceOf₁ settings) (sourceOf₂ settings)) :
    sourceOf₁ = sourceOf₂ := by
  funext settings
  have hsource := h settings
  generalize sourceOf₁ settings = x at hsource ⊢
  generalize sourceOf₂ settings = y at hsource ⊢
  cases hsource with
  | failed e => rfl
  | come hsource => rw [heq _ _ hsource]

end

/-- Pipelines that are alike are the same, if sources, services and renderers that are related
are. -/
theorem pipelines_eq {σ κ δ : Type} {L : Likeness σ κ δ ω₁ σ κ δ ω₂}
    (heq : ∀ source₁ source₂, L.source source₁ source₂ → source₁ = source₂)
    (hdetector : ∀ d₁ d₂, L.detector d₁ d₂ → d₁ = d₂)
    (hrenderer : ∀ r₁ r₂, L.renderer r₁ r₂ → r₁ = r₂) {p q : Pipeline σ κ δ}
    (h : L.Pipelines p q) : p = q := by
  have hsourceOf := sourceOf_eq heq h.sourceOf
  have hsession := session_eq heq h.session
  obtain ⟨catalog, settings, sourceOf, detector, renderer, session, paused, fitSurface⟩ := q
  cases h.catalog
  cases h.settings
  cases hsourceOf
  cases hdetector _ _ h.detector
  cases hrenderer _ _ h.renderer
  cases hsession
  cases h.paused
  cases h.fitSurface
  rfl

variable [FrameSource κ₁ ω₁ Float] [FrameSource κ₂ ω₂ Float]
variable [Surface σ₁] [Surface σ₂] [DetectionService δ₁ ω₁] [DetectionService δ₂ ω₂]

/-- What pipelines do with related parts relates them again.  Where `may` holds, rendering may stop
the program with the first renderer and not with the second. -/
structure Lawful (may : Prop := False) : Prop where
  /-- Sources are connected. -/
  connect {s₁ : κ₁} {s₂ : κ₂} {w₁ : ω₁} {w₂ : ω₂} : L.source s₁ s₂ → L.world w₁ w₂ →
    (FrameSource.connect s₁ w₁).1 = (FrameSource.connect s₂ w₂).1 ∧
    L.source (FrameSource.connect s₁ w₁).2.1 (FrameSource.connect s₂ w₂).2.1 ∧
    L.world (FrameSource.connect s₁ w₁).2.2 (FrameSource.connect s₂ w₂).2.2
  /-- Sources are asked for a frame. -/
  next {s₁ : κ₁} {s₂ : κ₂} {w₁ : ω₁} {w₂ : ω₂} : L.source s₁ s₂ → L.world w₁ w₂ →
    (FrameSource.next s₁ w₁).1 = (FrameSource.next s₂ w₂).1 ∧
    L.source (FrameSource.next s₁ w₁).2.1 (FrameSource.next s₂ w₂).2.1 ∧
    L.world (FrameSource.next s₁ w₁).2.2 (FrameSource.next s₂ w₂).2.2
  /-- Sources are stopped. -/
  stop {s₁ : κ₁} {s₂ : κ₂} {w₁ : ω₁} {w₂ : ω₂} : L.source s₁ s₂ → L.world w₁ w₂ →
    L.source (FrameSource.stop s₁ w₁).1 (FrameSource.stop s₂ w₂).1 ∧
    L.world (FrameSource.stop s₁ w₁).2 (FrameSource.stop s₂ w₂).2
  /-- The frame rate starts over. -/
  resetClock {r₁ : Renderer σ₁} {r₂ : Renderer σ₂} : L.renderer r₁ r₂ →
    L.renderer r₁.resetClock r₂.resetClock
  /-- Surfaces have the same size. -/
  size {r₁ : Renderer σ₁} {r₂ : Renderer σ₂} : L.renderer r₁ r₂ →
    Surface.size r₁.surface = Surface.size r₂.surface
  /-- Surfaces are given another size. -/
  resize {r₁ : Renderer σ₁} {r₂ : Renderer σ₂} (width height : Nat) : L.renderer r₁ r₂ →
    L.renderer (r₁.resize width height) (r₂.resize width height)
  /-- There is nothing to send to the services. -/
  unasked : L.overlay (.failed, .encodeFailed) (.failed, .encodeFailed)
  /-- Services are sent a picture. -/
  submit {d₁ : δ₁} {d₂ : δ₂} {w₁ : ω₁} {w₂ : ω₂} (octets : ByteArray) (mediaType : String) :
    L.detector d₁ d₂ → L.world w₁ w₂ →
    L.overlay (shown (DetectionService.submit octets mediaType d₁ w₁).1)
      (shown (DetectionService.submit octets mediaType d₂ w₂).1) ∧
    L.detector (DetectionService.submit octets mediaType d₁ w₁).2.1
      (DetectionService.submit octets mediaType d₂ w₂).2.1 ∧
    L.world (DetectionService.submit octets mediaType d₁ w₁).2.2
      (DetectionService.submit octets mediaType d₂ w₂).2.2
  /-- A frame is rendered.  Boxes come from an answer, and the service is asked only about what is
  shown on a surface with pixels. -/
  render {r₁ : Renderer σ₁} {r₂ : Renderer σ₂} {a b : Overlay × RequestStatus}
    (frame : Frame Float) : L.renderer r₁ r₂ → L.overlay a b →
    (a.1.boxes ≠ [] → Surface.HasPixels r₁.surface) →
    Upto may (fun x y => L.report ⟨a.2, x.1.boxesDrawn, x.1.fps, frame.timestamp⟩
      ⟨b.2, y.1.boxesDrawn, y.1.fps, frame.timestamp⟩ ∧ L.renderer x.2 y.2)
      (r₁.render frame a.1) (r₂.render frame b.1)

variable {L} {may : Prop} (hL : L.Lawful may) {p₁ : Pipeline σ₁ κ₁ δ₁} {p₂ : Pipeline σ₂ κ₂ δ₂}
  {w₁ : ω₁} {w₂ : ω₂}
include hL

/-! ### Sessions -/

section

variable {s₁ : Session κ₁} {s₂ : Session κ₂}

/-- Sessions that are alike give the same frames. -/
theorem session_next (hs : L.Sessions s₁ s₂) (hw : L.world w₁ w₂) :
    (s₁.next w₁).1 = (s₂.next w₂).1 ∧ L.Sessions (s₁.next w₁).2.1 (s₂.next w₂).2.1 ∧
      L.world (s₁.next w₁).2.2 (s₂.next w₂).2.2 := by
  unfold Session.next
  rw [← hs.stopped]
  by_cases hstopped : s₁.stopped = true
  · rw [if_pos hstopped, if_pos hstopped]
    exact ⟨rfl, hs, hw⟩
  · rw [if_neg hstopped, if_neg hstopped]
    obtain ⟨hdelivery, hsource, hworld⟩ := hL.next hs.source hw
    exact ⟨hdelivery, ⟨hs.deviceId, hs.constraints, hsource, rfl⟩, hworld⟩

/-- Sessions that are alike are stopped. -/
theorem session_stop (hs : L.Sessions s₁ s₂) (hw : L.world w₁ w₂) :
    L.Sessions (s₁.stop w₁).1 (s₂.stop w₂).1 ∧ L.world (s₁.stop w₁).2 (s₂.stop w₂).2 := by
  unfold Session.stop
  rw [← hs.stopped]
  by_cases hstopped : s₁.stopped = true
  · rw [if_pos hstopped, if_pos hstopped]
    exact ⟨hs, hw⟩
  · rw [if_neg hstopped, if_neg hstopped]
    obtain ⟨hsource, hworld⟩ := hL.stop hs.source hw
    exact ⟨⟨hs.deviceId, hs.constraints, hsource, rfl⟩, hworld⟩

/-- Sessions over related sources are started alike. -/
theorem session_start (deviceId : String) (constraints : Constraints) {source₁ : κ₁} {source₂ : κ₂}
    (hsource : L.source source₁ source₂) (hw : L.world w₁ w₂) :
    Both L.Sessions (Session.start deviceId constraints source₁ w₁).1
        (Session.start deviceId constraints source₂ w₂).1 ∧
      L.world (Session.start deviceId constraints source₁ w₁).2
        (Session.start deviceId constraints source₂ w₂).2 := by
  have hconnect := hL.connect hsource hw
  unfold Session.start
  generalize FrameSource.connect source₁ w₁ = x at hconnect ⊢
  generalize FrameSource.connect source₂ w₂ = y at hconnect ⊢
  obtain ⟨outcome, s₁, v₁⟩ := x
  obtain ⟨outcome₂, s₂, v₂⟩ := y
  obtain ⟨houtcome, hs, hv⟩ := hconnect
  obtain rfl : outcome = outcome₂ := houtcome
  rcases outcome with e | _
  · exact ⟨.failed e, hv⟩
  · exact ⟨.come ⟨rfl, rfl, hs, rfl⟩, hv⟩

end

/-! ### Operations -/

/-- The sessions of pipelines that are alike are ended. -/
theorem stop (hp : L.Pipelines p₁ p₂) (hw : L.world w₁ w₂) :
    L.Pipelines (p₁.stop w₁).1 (p₂.stop w₂).1 ∧ L.world (p₁.stop w₁).2 (p₂.stop w₂).2 := by
  have hsessions := hp.session
  have hclock := hL.resetClock hp.renderer
  unfold Pipeline.stop
  rcases hs₁ : p₁.session with _ | s₁
  · rcases hs₂ : p₂.session with _ | s₂
    · have hnone : Option.Rel L.Sessions (none : Option (Session κ₁)) (none : Option (Session κ₂)) :=
        .none
      exact ⟨{ hp with session := hnone, paused := rfl }, hw⟩
    · rw [hs₁, hs₂] at hsessions
      cases hsessions
  · rcases hs₂ : p₂.session with _ | s₂
    · rw [hs₁, hs₂] at hsessions
      cases hsessions
    · rw [hs₁, hs₂] at hsessions
      cases hsessions with
      | some hs =>
        exact ⟨{ hp with renderer := hclock, session := .none, paused := rfl },
          (session_stop hL hs hw).2⟩

/-- Sessions that are alike are put in place. -/
theorem attach {s₁ : Session κ₁} {s₂ : Session κ₂} (hp : L.Pipelines p₁ p₂)
    (hs : L.Sessions s₁ s₂) : L.Pipelines (p₁.attach s₁) (p₂.attach s₂) :=
  { hp with
    renderer := hL.resetClock hp.renderer, session := .some hs, paused := rfl, fitSurface := rfl }

/-- Sessions over related sources take the place of others. -/
theorem restart (hp : L.Pipelines p₁ p₂) (hw : L.world w₁ w₂) (deviceId : String)
    (constraints : Constraints) {source₁ : κ₁} {source₂ : κ₂} (hsource : L.source source₁ source₂) :
    L.After (· = ·) (p₁.restart deviceId constraints source₁ w₁)
      (p₂.restart deviceId constraints source₂ w₂) := by
  obtain ⟨hstop, hstopped⟩ := stop hL hp hw
  obtain ⟨hsession, hworld⟩ := session_start hL deviceId constraints hsource hstopped
  unfold Pipeline.restart
  generalize Session.start deviceId constraints source₁ (p₁.stop w₁).2 = x at hsession hworld ⊢
  generalize Session.start deviceId constraints source₂ (p₂.stop w₂).2 = y at hsession hworld ⊢
  obtain ⟨r₁, v₁⟩ := x
  obtain ⟨r₂, v₂⟩ := y
  dsimp only at hsession
  cases hsession with
  | failed e => exact ⟨rfl, hstop, hworld⟩
  | come hs => exact ⟨rfl, attach hL hstop hs, hworld⟩

omit hL [FrameSource κ₁ ω₁ Float] [FrameSource κ₂ ω₂ Float] [Surface σ₁] [Surface σ₂]
  [DetectionService δ₁ ω₁] [DetectionService δ₂ ω₂] in
/-- A request for a device is given devices of the same name and with related sources. -/
theorem deviceFor (hp : L.Pipelines p₁ p₂) (constraints : Constraints) :
    Both (Both fun x y => x.1 = y.1 ∧ L.source x.2 y.2)
      (Pipeline.deviceFor p₁.catalog p₁.sourceOf p₁.settings.rate constraints)
      (Pipeline.deviceFor p₂.catalog p₂.sourceOf p₂.settings.rate constraints) := by
  rw [← hp.catalog, ← hp.settings]
  unfold Pipeline.deviceFor
  rcases p₁.catalog.resolve constraints with fault | e | device
  · exact .failed fault
  · exact .come (.failed e)
  · have hsource := hp.sourceOf (Session.settingsOf device p₁.settings.rate)
    simp only [bind, Except.bind]
    generalize p₁.sourceOf (Session.settingsOf device p₁.settings.rate) = x at hsource ⊢
    generalize p₂.sourceOf (Session.settingsOf device p₁.settings.rate) = y at hsource ⊢
    cases hsource with
    | failed e => exact .come (.failed e)
    | come h => exact .come (.come ⟨rfl, h⟩)

/-- A device is opened. -/
theorem start (hp : L.Pipelines p₁ p₂) (hw : L.world w₁ w₂) (constraints : Constraints) :
    Both (L.After (· = ·)) (p₁.start constraints w₁) (p₂.start constraints w₂) := by
  rw [start_eq, start_eq]
  refine (deviceFor hp constraints).map fun x y h => ?_
  cases h with
  | failed e =>
    obtain ⟨hstop, hstopped⟩ := stop hL hp hw
    exact ⟨rfl, hstop, hstopped⟩
  | @come x y h =>
    obtain ⟨id, source₁⟩ := x
    obtain ⟨id₂, source₂⟩ := y
    obtain ⟨rfl, hsource⟩ := h
    exact restart hL hp hw id constraints hsource

omit hL [FrameSource κ₁ ω₁ Float] [FrameSource κ₂ ω₂ Float] [Surface σ₁] [Surface σ₂]
  [DetectionService δ₁ ω₁] [DetectionService δ₂ ω₂] in
/-- Both pipelines have a session or neither has. -/
theorem isSome_session (hp : L.Pipelines p₁ p₂) : p₁.session.isSome = p₂.session.isSome := by
  have hsession := hp.session
  generalize p₁.session = x at hsession ⊢
  generalize p₂.session = y at hsession ⊢
  cases hsession with
  | some _ => rfl
  | none => rfl

omit hL [FrameSource κ₁ ω₁ Float] [FrameSource κ₂ ω₂ Float] [Surface σ₁] [Surface σ₂]
  [DetectionService δ₁ ω₁] [DetectionService δ₂ ω₂] in
/-- Frames are taken from both or from neither. -/
theorem isRunning (hp : L.Pipelines p₁ p₂) : p₁.isRunning = p₂.isRunning := by
  unfold Pipeline.isRunning
  rw [isSome_session hp, hp.paused]

omit hL [FrameSource κ₁ ω₁ Float] [FrameSource κ₂ ω₂ Float] [Surface σ₁] [Surface σ₂]
  [DetectionService δ₁ ω₁] [DetectionService δ₂ ω₂] in
/-- No more frames are taken for now. -/
theorem pause (hp : L.Pipelines p₁ p₂) : L.Pipelines p₁.pause p₂.pause := by
  have hpaused : (p₁.paused || p₁.session.isSome) = (p₂.paused || p₂.session.isSome) := by
    rw [isSome_session hp, hp.paused]
  exact { hp with paused := hpaused }

omit hL [FrameSource κ₁ ω₁ Float] [FrameSource κ₂ ω₂ Float] [Surface σ₁] [Surface σ₂]
  [DetectionService δ₁ ω₁] [DetectionService δ₂ ω₂] in
/-- Frames are taken again. -/
theorem resume (hp : L.Pipelines p₁ p₂) : L.Pipelines p₁.resume p₂.resume := by
  have hpaused : (p₁.paused && p₁.session.isNone) = (p₂.paused && p₂.session.isNone) := by
    rw [← Option.not_isSome, ← Option.not_isSome, isSome_session hp, hp.paused]
  exact { hp with paused := hpaused }

omit [FrameSource κ₁ ω₁ Float] [FrameSource κ₂ ω₂ Float] [DetectionService δ₁ ω₁]
  [DetectionService δ₂ ω₂] hL in
/-- The surfaces take on the size of the first frame of a session. -/
theorem fit
    (hresize : ∀ {r₁ : Renderer σ₁} {r₂ : Renderer σ₂} (width height : Nat), L.renderer r₁ r₂ →
      L.renderer (r₁.resize width height) (r₂.resize width height))
    (hp : L.Pipelines p₁ p₂) (frame : Frame Float) :
    L.Pipelines (p₁.fit frame) (p₂.fit frame) := by
  unfold Pipeline.fit
  rw [← hp.fitSurface]
  by_cases hfirst : p₁.fitSurface = true
  · rw [if_pos hfirst, if_pos hfirst]
    exact { hp with renderer := hresize _ _ hp.renderer, fitSurface := rfl }
  · rw [if_neg hfirst, if_neg hfirst]
    exact hp

/-- The services are asked about a frame. -/
theorem detect (hp : L.Pipelines p₁ p₂) (hw : L.world w₁ w₂) (frame : Frame Float) :
    L.overlay ((p₁.detect frame w₁).1, (p₁.detect frame w₁).2.1)
        ((p₂.detect frame w₂).1, (p₂.detect frame w₂).2.1) ∧
      L.Pipelines (p₁.detect frame w₁).2.2.1 (p₂.detect frame w₂).2.2.1 ∧
      L.world (p₁.detect frame w₁).2.2.2 (p₂.detect frame w₂).2.2.2 := by
  have hformat : p₁.settings.format = p₂.settings.format := congrArg _ hp.settings
  rw [detect_eq, detect_eq, ← hL.size hp.renderer, ← hformat]
  rcases Snapshot.take frame.picture (Surface.size p₁.renderer.surface).1
    (Surface.size p₁.renderer.surface).2 p₁.settings.format with e | snapshot
  · exact ⟨hL.unasked, hp, hw⟩
  · obtain ⟨hshown, hdetector, hworld⟩ :=
      hL.submit snapshot.octets snapshot.mediaType hp.detector hw
    exact ⟨hshown, { hp with detector := hdetector }, hworld⟩

/-- A frame is dealt with. -/
theorem process (hp : L.Pipelines p₁ p₂) (hw : L.world w₁ w₂) (frame : Frame Float) :
    Upto may (L.After L.report) (p₁.process frame w₁) (p₂.process frame w₂) := by
  have hdetect := detect hL (fit hL.resize hp frame) hw frame
  have hpixels := (p₁.fit frame).hasPixels_of_boxes frame w₁
  unfold Pipeline.process
  generalize (p₁.fit frame).detect frame w₁ = x at hdetect hpixels ⊢
  generalize (p₂.fit frame).detect frame w₂ = y at hdetect ⊢
  obtain ⟨overlay₁, status₁, asked₁, v₁⟩ := x
  obtain ⟨overlay₂, status₂, asked₂, v₂⟩ := y
  obtain ⟨hoverlay, hasked, hv⟩ := hdetect
  refine (hL.render frame hasked.renderer hoverlay hpixels).bind ?_
  rintro ⟨report₁, r₁⟩ ⟨report₂, r₂⟩ ⟨hreport, hr⟩
  exact .come ⟨hreport, { hasked with renderer := hr }, hv⟩

/-- An iteration is made. -/
theorem step (hp : L.Pipelines p₁ p₂) (hw : L.world w₁ w₂) :
    Upto may (L.After (Both (Option.Rel L.report))) (p₁.step w₁) (p₂.step w₂) := by
  have hrunning := isRunning hp
  rcases hrunning₁ : p₁.isRunning with _ | _
  · rw [step_of_idle hrunning₁, step_of_idle (hrunning.symm.trans hrunning₁)]
    exact .come ⟨.come .none, hp, hw⟩
  · obtain ⟨s₁, hs₁, hpaused₁⟩ := p₁.isRunning_iff.1 hrunning₁
    obtain ⟨s₂, hs₂, hpaused₂⟩ := p₂.isRunning_iff.1 (hrunning.symm.trans hrunning₁)
    have hsession := hp.session
    rw [hs₁, hs₂] at hsession
    rw [step_of_running hs₁ hpaused₁, step_of_running hs₂ hpaused₂]
    cases hsession with
    | some hs =>
      have hnext := session_next hL hs hw
      generalize s₁.next w₁ = x at hnext ⊢
      generalize s₂.next w₂ = y at hnext ⊢
      obtain ⟨delivery, s₁, v₁⟩ := x
      obtain ⟨delivery₂, s₂, v₂⟩ := y
      obtain ⟨hdelivery, hs, hv⟩ := hnext
      obtain rfl : delivery = delivery₂ := hdelivery
      have hwaited : L.Pipelines { p₁ with session := some s₁ } { p₂ with session := some s₂ } :=
        { hp with session := .some hs }
      rcases delivery with _ | e | frame
      · exact .failed Fault.pictureTooLarge
      · obtain ⟨hstop, hstopped⟩ := stop hL hwaited hv
        exact .come ⟨.failed e, hstop, hstopped⟩
      · refine (process hL hwaited hv frame).map fun x y h => ?_
        exact ⟨.come (.some h.answer), h.pipelines, h.world⟩

/-- An operation is carried out. -/
theorem perform {op₁ : Op κ₁} {op₂ : Op κ₂} (hop : L.Ops op₁ op₂) (hp : L.Pipelines p₁ p₂)
    (hw : L.world w₁ w₂) :
    Upto may (L.After L.Answers) (Pipeline.perform op₁ p₁ w₁)
      (Pipeline.perform op₂ p₂ w₂) := by
  cases hop with
  | start constraints =>
    refine (Upto.of_both (start hL hp hw constraints)).bind ?_
    rintro ⟨outcome, q₁, v₁⟩ ⟨outcome₂, q₂, v₂⟩ ⟨houtcome, hq, hv⟩
    obtain rfl : outcome = outcome₂ := houtcome
    exact .come ⟨.opened outcome, hq, hv⟩
  | startWith deviceId hsource =>
    rw [perform_startWith, perform_startWith]
    obtain ⟨houtcome, hq, hv⟩ := restart hL hp hw deviceId {} hsource
    rw [houtcome]
    exact .come ⟨.opened _, hq, hv⟩
  | pause => exact .come ⟨.done, pause hp, hw⟩
  | resume => exact .come ⟨.done, resume hp, hw⟩
  | stop =>
    obtain ⟨hq, hv⟩ := stop hL hp hw
    exact .come ⟨.done, hq, hv⟩
  | step =>
    refine (step hL hp hw).bind fun x y h => ?_
    exact .come ⟨.stepped h.answer, h.pipelines, h.world⟩

/-- Operations are carried out, one after the other. -/
theorem runWith (hmay : ¬ may) {ops₁ : List (Op κ₁)} {ops₂ : List (Op κ₂)}
    (hops : List.Forall₂ L.Ops ops₁ ops₂)
    (hp : L.Pipelines p₁ p₂) (hw : L.world w₁ w₂) :
    L.Pipelines (Pipeline.runWith Pipeline.perform ops₁ p₁ w₁).2.1
        (Pipeline.runWith Pipeline.perform ops₂ p₂ w₂).2.1 ∧
      L.world (Pipeline.runWith Pipeline.perform ops₁ p₁ w₁).2.2
        (Pipeline.runWith Pipeline.perform ops₂ p₂ w₂).2.2 := by
  induction hops generalizing p₁ p₂ w₁ w₂ with
  | nil => exact ⟨hp, hw⟩
  | @cons op₁ op₂ ops₁ ops₂ hop hops ih =>
    have hact := perform hL hop hp hw
    unfold Pipeline.runWith
    generalize Pipeline.perform op₁ p₁ w₁ = x at hact ⊢
    generalize Pipeline.perform op₂ p₂ w₂ = y at hact ⊢
    cases hact with
    | failed fault => exact ⟨hp, hw⟩
    | come h => exact ih h.pipelines h.world
    | halted h => exact absurd h hmay

omit hL [FrameSource κ₁ ω₁ Float] [FrameSource κ₂ ω₂ Float] [Surface σ₁] [Surface σ₂]
  [DetectionService δ₁ ω₁] [DetectionService δ₂ ω₂] in
/-- A course asks for the same of both. -/
theorem asked (course : List Deed) :
    List.Forall₂ L.Ops (Pipeline.asked course) (Pipeline.asked course) := by
  induction course with
  | nil => exact .nil
  | cons d course ih =>
    cases d with
    | arrived batch => exact ih
    | took c =>
      cases c with
      | start constraints => exact .cons (.start constraints) ih
      | pause => exact .cons .pause ih
      | resume => exact .cons .resume ih
      | stop => exact .cons .stop ih
    | iterated => exact .cons .step ih
    | closed => exact .cons .stop ih

/-! ### Runs -/

variable (L) in
/-- What is taken down is the same, and what comes of it is alike. -/
structure Noted {α : Type} (x : List Deed × Except Fault (α × Pipeline σ₁ κ₁ δ₁ × Inbox × ω₁))
    (y : List Deed × Except Fault (α × Pipeline σ₂ κ₂ δ₂ × Inbox × ω₂)) : Prop where
  /-- The same is done. -/
  course : x.1 = y.1
  /-- The same is given back and the same commands are left. -/
  outcome : Both (fun a b => a.1 = b.1 ∧ L.Pipelines a.2.1 b.2.1 ∧ a.2.2.1 = b.2.2.1 ∧
    L.world a.2.2.2 b.2.2.2) x.2 y.2

variable (L) (may) in
/-- What is taken down is the same, unless the first may stop the program and does. -/
def NotedUpto {α : Type} (x : List Deed × Except Fault (α × Pipeline σ₁ κ₁ δ₁ × Inbox × ω₁))
    (y : List Deed × Except Fault (α × Pipeline σ₂ κ₂ δ₂ × Inbox × ω₂)) : Prop :=
  (may ∧ ∃ fault, x.2 = .error fault) ∨ L.Noted x y

omit hL [FrameSource κ₁ ω₁ Float] [FrameSource κ₂ ω₂ Float] [Surface σ₁] [Surface σ₂]
  [DetectionService δ₁ ω₁] [DetectionService δ₂ ω₂] in
/-- The same is done before. -/
theorem Noted.noting {α : Type} (before : List Deed)
    {x : List Deed × Except Fault (α × Pipeline σ₁ κ₁ δ₁ × Inbox × ω₁)}
    {y : List Deed × Except Fault (α × Pipeline σ₂ κ₂ δ₂ × Inbox × ω₂)} (h : L.Noted x y) :
    L.Noted (Pipeline.noting before x) (Pipeline.noting before y) :=
  ⟨congrArg (before ++ ·) h.course, h.outcome⟩

/-- The same is done before an iteration. -/
theorem obeyNoting (hp : L.Pipelines p₁ p₂) (hw : L.world w₁ w₂) (i : Inbox) :
    L.Noted (p₁.obeyNoting i w₁) (p₂.obeyNoting i w₂) := by
  induction p₁, i, w₁ using obey.induct generalizing p₂ w₂ with
  | case1 p w queue later q v hstop =>
    obtain ⟨hq, hv⟩ := stop hL hp hw
    rw [Pipeline.obeyNoting, Pipeline.obeyNoting]
    exact ⟨rfl, .come ⟨rfl, hq, rfl, hv⟩⟩
  | case2 p w queue later ih =>
    rw [Pipeline.obeyNoting, Pipeline.obeyNoting]
    exact (ih (pause hp) hw).noting [.took .pause]
  | case3 p w queue later ih =>
    rw [Pipeline.obeyNoting, Pipeline.obeyNoting]
    exact (ih (resume hp) hw).noting [.took .resume]
  | case4 p w constraints queue later ih =>
    have hstart := start hL hp hw constraints
    rw [Pipeline.obeyNoting, Pipeline.obeyNoting]
    generalize p.start constraints w = x at hstart ⊢
    generalize p₂.start constraints w₂ = y at hstart ⊢
    cases hstart with
    | failed fault => exact ⟨rfl, .failed fault⟩
    | @come x y h =>
      obtain ⟨outcome, q₁, v₁⟩ := x
      obtain ⟨outcome₂, q₂, v₂⟩ := y
      obtain ⟨houtcome, hq, hv⟩ := h
      obtain rfl : outcome = outcome₂ := houtcome
      rcases outcome with e | _
      · exact ⟨rfl, .come ⟨rfl, hq, rfl, hv⟩⟩
      · exact (ih q₁ v₁ hq hv).noting [.took (.start constraints)]
  | case5 p w later hrunning =>
    have hrunning₂ := (isRunning hp).symm.trans hrunning
    rw [obeyNoting_of_running hrunning, obeyNoting_of_running hrunning₂]
    exact ⟨rfl, .come ⟨rfl, hp, rfl, hw⟩⟩
  | case6 p w hidle q v hstop =>
    have hidle₂ : ¬ p₂.isRunning = true := fun h => hidle ((isRunning hp).trans h)
    obtain ⟨hq, hv⟩ := stop hL hp hw
    rw [Pipeline.obeyNoting, Pipeline.obeyNoting, if_neg hidle, if_neg hidle₂]
    exact ⟨rfl, .come ⟨rfl, hq, rfl, hv⟩⟩
  | case7 p w hidle batch later ih =>
    have hidle₂ : ¬ p₂.isRunning = true := fun h => hidle ((isRunning hp).trans h)
    rw [Pipeline.obeyNoting, Pipeline.obeyNoting, if_neg hidle, if_neg hidle₂]
    exact (ih hp hw).noting [.arrived batch]

omit hL [FrameSource κ₁ ω₁ Float] [FrameSource κ₂ ω₂ Float] [Surface σ₁] [Surface σ₂]
  [DetectionService δ₁ ω₁] [DetectionService δ₂ ω₂] in
/-- The same is done before, as long as the first goes on. -/
theorem NotedUpto.noting {α : Type} (before : List Deed)
    {x : List Deed × Except Fault (α × Pipeline σ₁ κ₁ δ₁ × Inbox × ω₁)}
    {y : List Deed × Except Fault (α × Pipeline σ₂ κ₂ δ₂ × Inbox × ω₂)} (h : L.NotedUpto may x y) :
    L.NotedUpto may (Pipeline.noting before x) (Pipeline.noting before y) :=
  h.imp_right (Noted.noting before)

/-- Runs of pipelines that are alike take the same course, as long as the first goes on. -/
theorem runNoting_upto (limit : Option Nat) (fuel rendered : Nat) (hp : L.Pipelines p₁ p₂)
    (hw : L.world w₁ w₂) (i : Inbox) :
    L.NotedUpto may (Pipeline.runNoting limit fuel rendered p₁ i w₁)
      (Pipeline.runNoting limit fuel rendered p₂ i w₂) := by
  induction fuel generalizing rendered p₁ p₂ i w₁ w₂ with
  | zero => exact .inr ⟨rfl, .come ⟨rfl, hp, rfl, hw⟩⟩
  | succ fuel ih =>
    have hobey := obeyNoting hL hp hw i
    unfold Pipeline.runNoting
    generalize p₁.obeyNoting i w₁ = x at hobey ⊢
    generalize p₂.obeyNoting i w₂ = y at hobey ⊢
    obtain ⟨course, r₁⟩ := x
    obtain ⟨course₂, r₂⟩ := y
    obtain ⟨hcourse, houtcome⟩ := hobey
    obtain rfl : course = course₂ := hcourse
    dsimp only at houtcome
    cases houtcome with
    | failed fault => exact .inr ⟨rfl, .failed fault⟩
    | @come x y h =>
      obtain ⟨readiness, q₁, j, v₁⟩ := x
      obtain ⟨readiness₂, q₂, j₂, v₂⟩ := y
      obtain ⟨rfl, hq, rfl, hv⟩ := h
      rcases readiness with _ | ⟨_ | e⟩
      · refine NotedUpto.noting (course ++ [.iterated]) ?_
        have hstep := step hL hq hv
        generalize q₁.step v₁ = x at hstep ⊢
        generalize q₂.step v₂ = y at hstep ⊢
        cases hstep with
        | failed fault => exact .inr ⟨rfl, .failed fault⟩
        | halted hmay fault y => exact .inl ⟨hmay, fault, rfl⟩
        | @come x y h =>
          obtain ⟨outcome, q₁, v₁⟩ := x
          obtain ⟨outcome₂, q₂, v₂⟩ := y
          obtain ⟨houtcome, hq, hv⟩ := h
          have hon (rendered : Nat) :=
            NotedUpto.noting [.arrived j.arriving] (ih rendered hq hv j.receive)
          dsimp only at houtcome
          cases houtcome with
          | failed e => exact .inr ⟨rfl, .come ⟨rfl, hq, rfl, hv⟩⟩
          | come h =>
            cases h with
            | none => exact hon rendered
            | some h =>
              rcases limit with _ | most
              · exact hon (rendered + 1)
              · dsimp only
                by_cases hlimit : most ≤ rendered + 1
                · rw [if_pos hlimit, if_pos hlimit]
                  obtain ⟨hstop, hstopped⟩ := stop hL hq hv
                  exact .inr ⟨rfl, .come ⟨rfl, hstop, rfl, hstopped⟩⟩
                · rw [if_neg hlimit, if_neg hlimit]
                  exact hon (rendered + 1)
      · exact .inr ⟨rfl, .come ⟨rfl, hq, rfl, hv⟩⟩
      · exact .inr ⟨rfl, .come ⟨rfl, hq, rfl, hv⟩⟩

omit hL in
/-- **Runs of pipelines that are alike take the same course.** -/
theorem runNoting (hL : L.Lawful) (limit : Option Nat) (fuel rendered : Nat)
    (hp : L.Pipelines p₁ p₂) (hw : L.world w₁ w₂) (i : Inbox) :
    L.Noted (Pipeline.runNoting limit fuel rendered p₁ i w₁)
      (Pipeline.runNoting limit fuel rendered p₂ i w₂) :=
  (runNoting_upto hL limit fuel rendered hp hw i).resolve_left fun h => h.1

/-! ### Histories -/

/-- What is asked is done alike, unless the first pipeline stops the program. -/
theorem enact {r₁ : Request κ₁} {r₂ : Request κ₂} (hr : L.Requests r₁ r₂)
    (hp : L.Pipelines p₁ p₂) (hw : L.world w₁ w₂) :
    (may ∧ ∃ fault, (Pipeline.enact r₁ p₁ w₁).1 = .error fault) ∨
      L.After (Both L.Replies) (Pipeline.enact r₁ p₁ w₁) (Pipeline.enact r₂ p₂ w₂) := by
  cases hr with
  | @act op₁ op₂ hop =>
    have hact := perform hL hop hp hw
    unfold Pipeline.enact
    dsimp only
    generalize Pipeline.perform op₁ p₁ w₁ = x at hact ⊢
    generalize Pipeline.perform op₂ p₂ w₂ = y at hact ⊢
    cases hact with
    | failed fault => exact .inr ⟨.failed fault, hp, hw⟩
    | come h => exact .inr ⟨.come (.answered h.answer), h.pipelines, h.world⟩
    | halted hmay fault y => exact .inl ⟨hmay, fault, rfl⟩
  | run limit fuel i =>
    have hrun := runNoting_upto hL limit fuel 0 hp hw i
    have hbefore (hmay : ¬ may) (course : List Deed) := runWith hL hmay (asked course) hp hw
    unfold Pipeline.enact
    dsimp only
    generalize Pipeline.runNoting limit fuel 0 p₁ i w₁ = x at hrun ⊢
    generalize Pipeline.runNoting limit fuel 0 p₂ i w₂ = y at hrun ⊢
    obtain ⟨course, r₁⟩ := x
    obtain ⟨course₂, r₂⟩ := y
    rcases hrun with ⟨hmay, fault, hfault⟩ | ⟨hcourse, houtcome⟩
    · obtain rfl : r₁ = .error fault := hfault
      exact .inl ⟨hmay, fault, rfl⟩
    · obtain rfl : course = course₂ := hcourse
      dsimp only at houtcome
      cases houtcome with
      | failed fault =>
        -- Both stop the program; how far each had come is known if only that can happen.
        by_cases hmay : may
        · exact .inl ⟨hmay, fault, rfl⟩
        · exact .inr ⟨.failed fault, (hbefore hmay course).1, (hbefore hmay course).2⟩
      | @come x y h =>
        obtain ⟨how, q₁, left, v₁⟩ := x
        obtain ⟨how₂, q₂, left₂, v₂⟩ := y
        obtain ⟨rfl, hq, rfl, hv⟩ := h
        exact .inr ⟨.come (.ended how left), hq, hv⟩

/-- Pipelines that are alike do alike, unless the first stops the program. -/
theorem enactAll_upto {requests₁ : List (Request κ₁)} {requests₂ : List (Request κ₂)}
    (hrequests : List.Forall₂ L.Requests requests₁ requests₂) (hp : L.Pipelines p₁ p₂)
    (hw : L.world w₁ w₂) :
    (may ∧ ∃ fault, .error fault ∈ (Pipeline.enactAll requests₁ p₁ w₁).1) ∨
      L.After (List.Forall₂ (Both L.Replies)) (Pipeline.enactAll requests₁ p₁ w₁)
        (Pipeline.enactAll requests₂ p₂ w₂) := by
  induction hrequests generalizing p₁ p₂ w₁ w₂ with
  | nil => exact .inr ⟨.nil, hp, hw⟩
  | @cons r₁ r₂ rs₁ rs₂ hr hrs ih =>
    have hact := enact hL hr hp hw
    unfold Pipeline.enactAll
    generalize Pipeline.enact r₁ p₁ w₁ = x at hact ⊢
    generalize Pipeline.enact r₂ p₂ w₂ = y at hact ⊢
    obtain ⟨reply₁, q₁, v₁⟩ := x
    obtain ⟨reply₂, q₂, v₂⟩ := y
    rcases hact with ⟨hmay, fault, hfault⟩ | ⟨hreply, hq, hv⟩
    · obtain rfl : reply₁ = .error fault := hfault
      exact .inl ⟨hmay, fault, List.mem_singleton_self _⟩
    · dsimp only at hreply
      cases hreply with
      | failed fault => exact .inr ⟨.cons (.failed fault) .nil, hq, hv⟩
      | come h =>
        rcases ih hq hv with ⟨hmay, fault, hlater⟩ | ⟨hreplies, hend, hworld⟩
        · exact .inl ⟨hmay, fault, List.mem_cons_of_mem _ hlater⟩
        · exact .inr ⟨.cons (.come h) hreplies, hend, hworld⟩

omit hL in
/-- **Pipelines that are alike do alike.** -/
theorem enactAll (hL : L.Lawful) {requests₁ : List (Request κ₁)} {requests₂ : List (Request κ₂)}
    (hrequests : List.Forall₂ L.Requests requests₁ requests₂) (hp : L.Pipelines p₁ p₂)
    (hw : L.world w₁ w₂) :
    L.After (List.Forall₂ (Both L.Replies)) (Pipeline.enactAll requests₁ p₁ w₁)
      (Pipeline.enactAll requests₂ p₂ w₂) :=
  (enactAll_upto hL hrequests hp hw).resolve_left fun h => h.1

end Likeness

end Lookout
