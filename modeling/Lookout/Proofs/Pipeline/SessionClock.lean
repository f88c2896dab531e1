import Lookout.Proofs.Display.Sizes
import Lookout.Proofs.Pipeline.Chronicle
import Lookout.Proofs.Pipeline.Course
/-!
# The stream clock of a session

The stream clock counts the frames of the session that is there, from its first frame on, and is
unset while there is none.  What it has to show is read off the chronicle (`clockOf`), and that it
shows this is an invariant (`Clocked`): a session begins with a clock that is unset, every frame is
counted once, and whatever ends a session unsets the clock.
-/

namespace Lookout.Pipeline

variable {σ κ δ ω : Type}

/-- What the stream clock has counted in a session. -/
def clockOf (session : List (Entry κ)) : StreamClock where
  startTime := (firstFrame session).map (·.timestamp)
  frameCount := (session.filterMap Entry.report?).length

/-- An entry without a frame is not counted. -/
theorem clockOf_quiet (session : List (Entry κ)) {e : Entry κ} (h : e.Quiet) :
    clockOf (session ++ [e]) = clockOf session := by
  simp [clockOf, firstFrame, h.frame, h.report]

/-- A frame is counted. -/
theorem clockOf_frame (session : List (Entry κ)) {e : Entry κ} {frame : Frame Float}
    (hframe : e.frame? = some frame)
    (hreport : e.report?.map (·.timestamp) = some frame.timestamp) :
    clockOf (session ++ [e]) = ((clockOf session).tick frame.timestamp).2 := by
  obtain ⟨report, hreport, -⟩ := Option.map_eq_some_iff.1 hreport
  have hfirst : firstFrame (session ++ [e]) = (firstFrame session).or (some frame) := by
    simp [firstFrame, List.findSome?_append, hframe]
  have hcount : ((session ++ [e]).filterMap Entry.report?).length =
      (session.filterMap Entry.report?).length + 1 := by
    simp [hreport]
  unfold clockOf StreamClock.tick
  rw [hfirst, hcount]
  rcases firstFrame session with _ | first
  · rfl
  · rfl

/-- The pipeline has the session that its chronicle has, and the stream clock is that of the
session. -/
structure Clocked (entries : List (Entry κ)) (p : Pipeline σ κ δ) : Prop where
  /-- There is a session where the chronicle has one. -/
  session : p.session.isSome = (current entries).isSome
  /-- The stream clock is that of the session. -/
  clock : p.renderer.clock = clockOf ((current entries).getD [])
  /-- Nothing is paused without a session. -/
  paused : p.paused = true → p.session.isSome = true

section

variable {entries : List (Entry κ)} {p q : Pipeline σ κ δ} {e : Entry κ}

/-- The end of a session unsets the clock, and without a session it was unset before. -/
theorem Clocked.clock_ended (h : Clocked entries p) : p.ended.renderer.clock = .reset := by
  have hsession := h.session
  have hclock := h.clock
  unfold ended
  rcases hnow : current entries with _ | now
  · rw [hnow] at hsession hclock
    simp only [hsession]
    exact hclock
  · rw [hnow] at hsession
    simp only [hsession]
    rfl

variable [Surface σ]

/-- Giving the surface the size of a frame does not touch the clock. -/
theorem clock_fit (p : Pipeline σ κ δ) (frame : Frame Float) :
    (p.fit frame).renderer.clock = p.renderer.clock := by
  unfold fit
  split
  · rfl
  · rfl

/-- **Whatever happens, the stream clock is that of the session.** -/
theorem Clocked.turn (h : Clocked entries p) (hturn : Turn p e q) : Clocked (entries ++ [e]) q := by
  have hsession' := session_of_turn h.session hturn
  have hclock := h.clock
  cases hturn with
  | kept hopens hends hquiet hpaused =>
    refine ⟨hsession', ?_, fun hnow => (hpaused hnow).elim h.paused id⟩
    rw [current_continued entries hopens hends]
    refine hclock.trans ?_
    rcases current entries with _ | now
    · rfl
    · exact (clockOf_quiet now hquiet).symm
  | ended hopens hends hquiet =>
    refine ⟨hsession', ?_, ?_⟩
    · rw [current_ended entries hopens hends]
      exact h.clock_ended
    · intro hpaused
      cases hpaused
  | opened hopens hquiet s =>
    refine ⟨hsession', ?_, fun _ => rfl⟩
    rw [current_opened entries hopens]
    rfl
  | @shown s frame _ _ _ _ hopens hends hsession hframe hreport hsent hrender =>
    rw [h.session] at hsession
    obtain ⟨now, hnow⟩ := Option.isSome_iff_exists.1 hsession
    have htick := congrArg Prod.snd (Renderer.counts_of_render hrender).1
    rw [clock_fit, hclock, hnow] at htick
    refine ⟨hsession', ?_, fun _ => rfl⟩
    rw [current_continued entries hopens hends, hnow]
    exact htick.trans (clockOf_frame now hframe hreport).symm

/-- Every account is of the frame that the source gave. -/
theorem report_of_turn (h : Turn p e q) :
    e.report?.map (·.timestamp) = e.frame?.map (·.timestamp) := by
  have hquiet (hquiet : e.Quiet) :
      e.report?.map (·.timestamp) = e.frame?.map (·.timestamp) := by
    rw [hquiet.report, hquiet.frame]
    rfl
  cases h with
  | kept hopens hends hnothing hpaused => exact hquiet hnothing
  | ended hopens hends hnothing => exact hquiet hnothing
  | opened hopens hnothing s => exact hquiet hnothing
  | shown hopens hends hsession hframe hreport hsent hrender =>
    rw [hreport, hframe]
    rfl

end

variable [FrameSource κ ω Float] [Surface σ] [DetectionService δ ω]

/-- Taking frames or not, in any order, does not touch the stream clock. -/
theorem clock_of_pauses {pauses : List (Op κ)} (h : ∀ op ∈ pauses, op = .pause ∨ op = .resume)
    (p : Pipeline σ κ δ) (w : ω) :
    (runWith perform pauses p w).2.1.renderer.clock = p.renderer.clock := by
  refine runWith_keeps (I := fun q (_ : ω) => q.renderer.clock = p.renderer.clock) ?_ rfl
  intro op hop q q' v v' answer hclock hact
  rcases h op hop with rfl | rfl
  · cases hact
    exact hclock
  · cases hact
    exact hclock

/-- Every account in a chronicle is of the frame that the source gave. -/
theorem reports_of_chronicle (ops : List (Op κ)) (p : Pipeline σ κ δ) (w : ω) :
    ∀ e ∈ (chronicle ops p w).1, e.report?.map (·.timestamp) = e.frame?.map (·.timestamp) := by
  refine chronicle_keeps (I := fun entries (_ : Pipeline σ κ δ) => ∀ e ∈ entries,
    e.report?.map (·.timestamp) = e.frame?.map (·.timestamp)) ?_ ops (List.forall_mem_nil _) w
  intro entries e p q hentries hturn
  rw [List.forall_mem_append, List.forall_mem_singleton]
  exact ⟨hentries, report_of_turn hturn⟩

/-- **The stream clock counts the frames of its session.**  Whatever was done with a new pipeline,
and whatever failed: while there is a session, the stream clock has counted the iterations that gave
an account since it was opened, each of them of a frame, and it starts with the first of these
frames; without a session it is unset.  Nothing is paused without a session, and a pause does not
touch the clock. -/
theorem clock_counts_session (catalog : Catalog) (settings : PipelineSettings)
    (sourceOf : SourceSettings → Except AcquisitionError κ) (detector : δ) (surface : σ)
    (style : OverlayStyle) (readouts : Readouts) (ops : List (Op κ)) (w : ω) :
    let new : Pipeline σ κ δ :=
      { catalog, settings, sourceOf, detector, renderer := { surface, style, readouts } }
    let entries := (chronicle ops new w).1
    let p := (chronicle ops new w).2.1
    (entries.map fun e => (e.op, e.answer), (chronicle ops new w).2) =
        runWith perform ops new w ∧
      (∀ e ∈ entries, e.report?.map (·.timestamp) = e.frame?.map (·.timestamp)) ∧
      p.session.isSome = (current entries).isSome ∧
      (∀ now, current entries = some now →
        p.renderer.clock.frameCount = (now.filterMap Entry.report?).length ∧
          p.renderer.clock.startTime = (firstFrame now).map (·.timestamp)) ∧
      (p.session = none → p.renderer.clock = .reset) ∧
      (p.paused = true → p.session.isSome = true) ∧
      ∀ (pauses : List (Op κ)) (v : ω), (∀ op ∈ pauses, op = .pause ∨ op = .resume) →
        (runWith perform pauses p v).2.1.renderer.clock = p.renderer.clock := by
  intro new entries p
  have hnew : Clocked ([] : List (Entry κ)) new := by
    refine ⟨rfl, rfl, ?_⟩
    intro hpaused
    cases hpaused
  have hclocked : Clocked entries p :=
    chronicle_keeps (fun hentries hturn => hentries.turn hturn) ops hnew w
  refine ⟨chronicle_erase ops new w, reports_of_chronicle ops new w, hclocked.session, ?_, ?_,
    hclocked.paused, ?_⟩
  · intro now hnow
    have hclock := hclocked.clock
    rw [hnow] at hclock
    exact ⟨congrArg StreamClock.frameCount hclock, congrArg StreamClock.startTime hclock⟩
  · intro hnone
    have hclock := hclocked.clock
    have hcurrent : current entries = none := by
      rw [← Option.isNone_iff_eq_none, ← Option.not_isSome, ← hclocked.session, hnone]
      rfl
    rw [hcurrent] at hclock
    exact hclock
  · intro pauses v hpauses
    exact clock_of_pauses hpauses p v

end Lookout.Pipeline
