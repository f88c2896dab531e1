import Lookout.Proofs.Pipeline.Blocks
import Lookout.Proofs.Pipeline.Outcomes
/-!
# The chronicle of a pipeline

The chronicle of a list of operations has an entry for each that returned: the operation, what it
gave back, and what a journal took down meanwhile.  Without the journal it is the history that
`Pipeline.runWith` gives (`chronicle_erase`).

What is read off a chronicle does not depend on the pipeline.  An operation that opened a session
begins a new part of it (`sessions`, with the newest session first), and the session that is still
there is the newest, unless something has ended it since (`current`).

To the pipeline an entry does one of four things (`Turn`): it leaves the session that is there, ends
it, opens another or shows a frame in it.  What these keep, every chronicle keeps
(`chronicle_keeps`).
-/

namespace Lookout.Pipeline

variable {σ κ δ ω : Type}

/-- A session could not be opened, or a frame could not be had. -/
def Answer.isFailure : Answer → Bool
  | .done => false
  | .opened outcome => !outcome.isOk
  | .stepped outcome => !outcome.isOk

/-- An operation, what it gave back, and what happened meanwhile. -/
structure Entry (κ : Type) where
  /-- The operation. -/
  op : Op κ
  /-- What it gave back. -/
  answer : Answer
  /-- What was taken down. -/
  events : List Event

namespace Entry

/-- The frame that the source gave, if it gave one. -/
def frame? (e : Entry κ) : Option (Frame Float) :=
  e.events.findSome? fun
    | .asked (.ok frame) => some frame
    | _ => none

/-- The account of an iteration, if one was given back. -/
def report? (e : Entry κ) : Option IterationReport :=
  match e.answer with
  | .stepped (.ok report?) => report?
  | _ => none

/-- A session was opened. -/
def opens (e : Entry κ) : Bool :=
  match e.answer with
  | .opened (.ok _) => true
  | _ => false

/-- A session that was there was ended: it was stopped, another could not be opened in its place, or
a frame could not be had. -/
def ends (e : Entry κ) : Bool :=
  e.answer.isFailure ||
    match e.op with
    | .stop => true
    | _ => false

/-- No frame was given, nothing was sent, and there is no account of an iteration. -/
structure Quiet (e : Entry κ) : Prop where
  /-- If a source was asked for a frame, it failed. -/
  events : ∀ event ∈ e.events, ∃ error, event = .asked (.error error)
  /-- No account was given back. -/
  report : e.report? = none

/-- Nothing happened. -/
theorem quiet_of_nothing {op : Op κ} {answer : Answer}
    (h : (⟨op, answer, []⟩ : Entry κ).report? = none) : (⟨op, answer, []⟩ : Entry κ).Quiet := by
  refine ⟨?_, h⟩
  intro event hevent
  cases hevent

namespace Quiet

variable {e : Entry κ} (h : e.Quiet)
include h

/-- The source gave no frame. -/
theorem frame : e.frame? = none := by
  unfold frame?
  rw [List.findSome?_eq_none_iff]
  intro event hevent
  obtain ⟨error, rfl⟩ := h.events event hevent
  rfl

/-- Nothing was sent. -/
theorem not_submitted (octets : ByteArray) (mediaType : String)
    (answer : Except ClientError DetectionResult) :
    .submitted octets mediaType answer ∉ e.events := by
  intro hevent
  obtain ⟨error, herror⟩ := h.events _ hevent
  cases herror

end Quiet

end Entry

/-! ### Sessions -/

/-- One more entry in a chronicle that is divided into its sessions. -/
def divide (sessions : List (List (Entry κ))) (e : Entry κ) : List (List (Entry κ)) :=
  if e.opens then [] :: sessions else sessions.modifyHead (· ++ [e])

/-- The sessions of a chronicle, the newest first: for each what was done after it was opened and
before the next was. -/
def sessions (entries : List (Entry κ)) : List (List (Entry κ)) := entries.foldl divide []

/-- What was done in the session that is there, if there is one. -/
def current (entries : List (Entry κ)) : Option (List (Entry κ)) :=
  match sessions entries with
  | [] => none
  | now :: _ => if now.any Entry.ends then none else some now

/-- The first frame of a session. -/
def firstFrame (session : List (Entry κ)) : Option (Frame Float) :=
  session.findSome? Entry.frame?

theorem sessions_snoc (entries : List (Entry κ)) (e : Entry κ) :
    sessions (entries ++ [e]) = divide (sessions entries) e := by
  unfold sessions
  rw [List.foldl_append]
  rfl

/-- A session that was opened begins with nothing. -/
theorem sessions_opened (entries : List (Entry κ)) {e : Entry κ} (h : e.opens = true) :
    sessions (entries ++ [e]) = [] :: sessions entries := by
  rw [sessions_snoc, divide, if_pos h]

/-- What opens no session belongs to the one before. -/
theorem sessions_unopened (entries : List (Entry κ)) {e : Entry κ} (h : e.opens = false) :
    sessions (entries ++ [e]) = (sessions entries).modifyHead (· ++ [e]) := by
  rw [sessions_snoc, divide, h]
  rfl

/-- The session that is there is the newest. -/
theorem sessions_of_current {entries now : List (Entry κ)} (h : current entries = some now) :
    ∃ past, sessions entries = now :: past := by
  unfold current at h
  rcases hsessions : sessions entries with _ | ⟨newest, past⟩
  · rw [hsessions] at h
    cases h
  · rw [hsessions] at h
    dsimp only at h
    by_cases hended : newest.any Entry.ends = true
    · rw [if_pos hended] at h
      cases h
    · rw [if_neg hended] at h
      cases h
      exact ⟨past, rfl⟩

/-- A session that was opened is there. -/
theorem current_opened (entries : List (Entry κ)) {e : Entry κ} (h : e.opens = true) :
    current (entries ++ [e]) = some [] := by
  unfold current
  rw [sessions_opened entries h]
  rfl

/-- A session that was ended is not there any more. -/
theorem current_ended (entries : List (Entry κ)) {e : Entry κ} (hopens : e.opens = false)
    (hends : e.ends = true) : current (entries ++ [e]) = none := by
  unfold current
  rw [sessions_unopened entries hopens]
  rcases sessions entries with _ | ⟨newest, past⟩
  · rfl
  · simp [hends]

/-- Anything else is done in the session that is there. -/
theorem current_continued (entries : List (Entry κ)) {e : Entry κ} (hopens : e.opens = false)
    (hends : e.ends = false) : current (entries ++ [e]) = (current entries).map (· ++ [e]) := by
  unfold current
  rw [sessions_unopened entries hopens]
  rcases sessions entries with _ | ⟨newest, past⟩
  · rfl
  · by_cases hended : newest.any Entry.ends = true
    · simp [hended]
    · simp [hended, hends]

/-- A session that is opened, paused and stopped. -/
example :
    let opening : Entry Unit := ⟨.startWith "camera" (), .opened (.ok ()), []⟩
    let pause : Entry Unit := ⟨.pause, .done, []⟩
    let stop : Entry Unit := ⟨.stop, .done, []⟩
    current [opening, pause] = some [pause] ∧ sessions [opening, pause, stop] = [[pause, stop]] ∧
      current [opening, pause, stop] = none :=
  ⟨rfl, rfl, rfl⟩

/-! ### Chronicles -/

variable [FrameSource κ ω Float] [Surface σ] [DetectionService δ ω]

/-- Carry out operations one after the other, each in a new journal, up to one that stops the
program. -/
def chronicle : List (Op κ) → Pipeline σ κ δ → ω → List (Entry κ) × Pipeline σ κ δ × ω
  | [], p, w => ([], p, w)
  | op :: ops, p, w =>
    match perform op p ({ world := w } : Journal ω) with
    | .error _ => ([], p, w)
    | .ok (answer, q, j) =>
      let (entries, q, v) := chronicle ops q j.world
      (⟨op, answer, j.log⟩ :: entries, q, v)

/-- The first of several operations. -/
theorem chronicle_cons (op : Op κ) (ops : List (Op κ)) (p : Pipeline σ κ δ) (w : ω) :
    chronicle (op :: ops) p w =
      match perform op p w with
      | .error _ => ([], p, w)
      | .ok (answer, q, v) =>
        (⟨op, answer, op.events p w⟩ :: (chronicle ops q v).1, (chronicle ops q v).2) := by
  rw [chronicle, perform_takes_down]
  rcases perform op p w with fault | ⟨answer, q, v⟩
  · rfl
  · rfl

/-- **A chronicle is a history with what happened in it.** -/
theorem chronicle_erase (ops : List (Op κ)) (p : Pipeline σ κ δ) (w : ω) :
    ((chronicle ops p w).1.map fun e => (e.op, e.answer), (chronicle ops p w).2) =
      runWith perform ops p w := by
  induction ops generalizing p w with
  | nil => rfl
  | cons op ops ih =>
    rw [chronicle_cons]
    unfold runWith
    rcases perform op p w with fault | ⟨answer, q, v⟩
    · rfl
    · have hrest := ih q v
      simp only [List.map_cons, ← hrest]

/-! ### What an entry does to the pipeline -/

/-- What an entry of a chronicle does to the pipeline. -/
inductive Turn (p : Pipeline σ κ δ) : Entry κ → Pipeline σ κ δ → Prop where
  /-- Nothing but that frames are taken or not. -/
  | kept {e : Entry κ} {paused : Bool} (hopens : e.opens = false) (hends : e.ends = false)
    (hquiet : e.Quiet)
    (hpaused : paused = true → p.paused = true ∨ p.session.isSome = true) :
    Turn p e { p with paused }
  /-- The session is ended. -/
  | ended {e : Entry κ} (hopens : e.opens = false) (hends : e.ends = true) (hquiet : e.Quiet) :
    Turn p e p.ended
  /-- A session is opened. -/
  | opened {e : Entry κ} (hopens : e.opens = true) (hquiet : e.Quiet) (s : Session κ) :
    Turn p e (p.ended.attach s)
  /-- A frame is shown in the session. -/
  | shown {e : Entry κ} {s : Session κ} {frame : Frame Float} {overlay : Overlay} {detector : δ}
    {rendered : RenderReport} {renderer : Renderer σ} (hopens : e.opens = false)
    (hends : e.ends = false) (hsession : p.session.isSome = true)
    (hframe : e.frame? = some frame)
    (hreport : e.report?.map (·.timestamp) = some frame.timestamp)
    (hsent : ∀ octets mediaType answer, .submitted octets mediaType answer ∈ e.events →
      payload p.settings.format (Surface.size (p.fit frame).renderer.surface) frame.picture =
        some octets ∧ mediaType = p.settings.format.mediaType)
    (hrender : (p.fit frame).renderer.render frame overlay = .ok (rendered, renderer)) :
    Turn p e { p.fit frame with session := some s, detector, renderer }

omit [FrameSource κ ω Float] in
/-- What is sent is the snapshot of the frame. -/
theorem submitted_of_mem_requests {p : Pipeline σ κ δ} {frame : Frame Float} {w : ω}
    {octets : ByteArray} {mediaType : String} {answer : Except ClientError DetectionResult}
    (h : .submitted octets mediaType answer ∈ p.requests frame w) :
    payload p.settings.format (Surface.size p.renderer.surface) frame.picture = some octets ∧
      mediaType = p.settings.format.mediaType := by
  unfold requests at h
  rcases take_eq frame.picture (Surface.size p.renderer.surface) p.settings.format with
    ⟨e, htake, -⟩ | ⟨file, htake, hfile⟩
  · simp only [htake] at h
    cases h
  · simp only [htake] at h
    cases List.mem_singleton.1 h
    exact ⟨hfile, rfl⟩

omit [FrameSource κ ω Float] [DetectionService δ ω] in
/-- The size of a frame is taken on whatever the session is. -/
theorem fit_session (p : Pipeline σ κ δ) (session : Option (Session κ)) (frame : Frame Float) :
    { p with session }.fit frame = { p.fit frame with session } := by
  unfold fit
  by_cases hfirst : p.fitSurface = true
  · rw [if_pos hfirst, if_pos hfirst]
  · rw [if_neg hfirst, if_neg hfirst]

/-- **What an operation has come to, to the pipeline.** -/
theorem Came.turn {p q : Pipeline σ κ δ} {w v : ω} {op : Op κ} {answer : Answer}
    {events : List Event} (h : Came p w op answer events q v) : Turn p ⟨op, answer, events⟩ q := by
  cases h with
  | paused =>
    refine .kept rfl rfl (Entry.quiet_of_nothing rfl) ?_
    intro hpaused
    rwa [Bool.or_eq_true] at hpaused
  | resumed =>
    refine .kept rfl rfl (Entry.quiet_of_nothing rfl) ?_
    intro hpaused
    rw [Bool.and_eq_true] at hpaused
    exact .inl hpaused.1
  | stopped => exact .ended rfl rfl (Entry.quiet_of_nothing rfl)
  | unmatched hdevice => exact .ended rfl rfl (Entry.quiet_of_nothing rfl)
  | unconnected hop hstart => exact .ended rfl rfl (Entry.quiet_of_nothing rfl)
  | opened hop hstart => exact .opened rfl (Entry.quiet_of_nothing rfl) _
  | idle hidle => exact .kept rfl rfl (Entry.quiet_of_nothing rfl) .inl
  | @lost s s' w' e hsession hpaused hnext =>
    refine .ended rfl rfl ⟨?_, rfl⟩
    intro event hevent
    by_cases hstopped : s.stopped = true
    · rw [if_pos hstopped] at hevent
      cases hevent
    · rw [if_neg hstopped] at hevent
      exact ⟨e, List.mem_singleton.1 hevent⟩
  | @shown s s' w' _ frame report _ hsession hpaused hnext hprocess =>
    obtain ⟨⟨overlay, rendered, hrender, htime⟩, hq⟩ := process_renders hprocess
    rw [fit_session] at hrender hq ⊢
    rw [hq]
    refine .shown rfl rfl ?_ rfl (congrArg some htime) ?_ hrender
    · rw [hsession]
      rfl
    · intro octets mediaType answer hevent
      rcases List.mem_cons.1 hevent with hasked | hsent
      · cases hasked
      · have hfit : (p.fit frame).settings = p.settings := by
          unfold fit
          split
          · rfl
          · rfl
        rw [← hfit]
        exact submitted_of_mem_requests hsent

/-- The pipeline has a session where its chronicle has one. -/
theorem session_of_turn {entries : List (Entry κ)} {e : Entry κ} {p q : Pipeline σ κ δ}
    (h : p.session.isSome = (current entries).isSome) (hturn : Turn p e q) :
    q.session.isSome = (current (entries ++ [e])).isSome := by
  cases hturn with
  | kept hopens hends hquiet hpaused =>
    rw [current_continued entries hopens hends, Option.isSome_map]
    exact h
  | ended hopens hends hquiet =>
    rw [current_ended entries hopens hends]
    rfl
  | opened hopens hquiet s =>
    rw [current_opened entries hopens]
    rfl
  | shown hopens hends hsession hframe hreport hsent hrender =>
    rw [current_continued entries hopens hends, Option.isSome_map, ← h, hsession]
    rfl

/-- **What holds before an entry and after it holds of every chronicle.** -/
theorem chronicle_keeps {I : List (Entry κ) → Pipeline σ κ δ → Prop}
    (hkeep : ∀ {entries : List (Entry κ)} {e : Entry κ} {p q : Pipeline σ κ δ},
      I entries p → Turn p e q → I (entries ++ [e]) q)
    (ops : List (Op κ)) {entries : List (Entry κ)} {p : Pipeline σ κ δ} (h : I entries p) (w : ω) :
    I (entries ++ (chronicle ops p w).1) (chronicle ops p w).2.1 := by
  induction ops generalizing entries p w with
  | nil =>
    show I (entries ++ []) p
    rw [List.append_nil]
    exact h
  | cons op ops ih =>
    rw [chronicle_cons]
    rcases hact : perform op p w with fault | ⟨answer, q, v⟩
    · show I (entries ++ []) p
      rw [List.append_nil]
      exact h
    · have hnext := ih (hkeep h (came hact).turn) v
      rw [List.append_assoc] at hnext
      exact hnext

end Lookout.Pipeline
