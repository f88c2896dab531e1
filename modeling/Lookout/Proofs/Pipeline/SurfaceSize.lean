import Lookout.Proofs.Display.Sizes
import Lookout.Proofs.Pipeline.Chronicle
/-!
# The size of the surface of a pipeline

The surface takes on the size of the first frame of a session and keeps it until another session has
a frame.  Sessions without a frame do nothing to the surface, so its size is that of the first frame
of the newest session that has one (`firstShown`), and a snapshot that is sent has the size of the
first frame of its session.

The one thing to know about the pipeline is that its surface is waiting for a size exactly while the
session that is there has shown no frame (`Fitted.waits`).  What is left of that flag when a session
ends is not looked at before another is opened, which sets it.
-/

namespace Lookout

/-- The size of the picture of a frame. -/
def Frame.size {τ : Type} (frame : Frame τ) : Nat × Nat :=
  (frame.picture.width, frame.picture.height)

namespace Pipeline

variable {σ κ δ ω : Type}

/-- The first frame of the newest session that has one. -/
def firstShown (entries : List (Entry κ)) : Option (Frame Float) :=
  (sessions entries).findSome? firstFrame

/-- What has no frame changes no first frame. -/
theorem firstFrame_snoc_of_none (session : List (Entry κ)) {e : Entry κ} (h : e.frame? = none) :
    firstFrame (session ++ [e]) = firstFrame session := by
  simp [firstFrame, h]

/-- A frame is the first of its session if there was none before. -/
theorem firstFrame_snoc_of_some (session : List (Entry κ)) {e : Entry κ} {frame : Frame Float}
    (h : e.frame? = some frame) :
    firstFrame (session ++ [e]) = some ((firstFrame session).getD frame) := by
  unfold firstFrame
  rw [List.findSome?_append, List.findSome?_singleton, h]
  rcases session.findSome? Entry.frame? with _ | first
  · rfl
  · rfl

/-- What has no frame changes no first frame of any session. -/
theorem firstShown_snoc_of_none (entries : List (Entry κ)) {e : Entry κ} (h : e.frame? = none) :
    firstShown (entries ++ [e]) = firstShown entries := by
  unfold firstShown
  rcases hopens : e.opens with _ | _
  · rw [sessions_unopened entries hopens]
    rcases sessions entries with _ | ⟨newest, past⟩
    · rfl
    · rw [List.modifyHead_cons, List.findSome?_cons, List.findSome?_cons,
        firstFrame_snoc_of_none newest h]
  · rw [sessions_opened entries hopens]
    rfl

/-- The first frame of the session that is there, if it has one. -/
theorem firstShown_of_current {entries now : List (Entry κ)} (hnow : current entries = some now)
    {first : Frame Float} (hfirst : firstFrame now = some first) :
    firstShown entries = some first := by
  obtain ⟨past, hsessions⟩ := sessions_of_current hnow
  unfold firstShown
  rw [hsessions, List.findSome?_cons, hfirst]

/-- What an entry sent is the snapshot of its frame, at the size of the first frame of its
session. -/
def SentAtFirstSize (format : SnapshotFormat) (before : List (Entry κ)) (e : Entry κ) : Prop :=
  ∀ octets mediaType answer, .submitted octets mediaType answer ∈ e.events →
    ∃ now frame first, current (before ++ [e]) = some now ∧ e.frame? = some frame ∧
      firstFrame now = some first ∧ payload format first.size frame.picture = some octets ∧
      mediaType = format.mediaType

/-- A law of each entry with those before it, for one entry more. -/
theorem forall_split_snoc {P : List (Entry κ) → Entry κ → Prop} {entries : List (Entry κ)}
    {e : Entry κ} (h : ∀ before x after, entries = before ++ x :: after → P before x)
    (hlast : P entries e) (before : List (Entry κ)) (x : Entry κ) (after : List (Entry κ))
    (hsplit : entries ++ [e] = before ++ x :: after) : P before x := by
  rcases List.eq_nil_or_concat after with rfl | ⟨after, last, rfl⟩
  · obtain ⟨rfl, hx⟩ := List.append_inj' hsplit rfl
    obtain rfl := List.singleton_inj.1 hx
    exact hlast
  · have hsplit' : entries ++ [e] = (before ++ x :: after) ++ [last] := by
      rw [hsplit, List.concat_eq_append, List.append_assoc]
      rfl
    exact h before x after (List.append_inj' hsplit' rfl).1

/-- The surface has the size that the chronicle says, from some size on. -/
structure Fitted [Surface σ] (initial : Nat × Nat) (encoding : SnapshotFormat)
    (entries : List (Entry κ)) (p : Pipeline σ κ δ) : Prop where
  /-- There is a session where the chronicle has one. -/
  session : p.session.isSome = (current entries).isSome
  /-- The surface is waiting for a size while the session has no frame. -/
  waits : ∀ now, current entries = some now → p.fitSurface = (firstFrame now).isNone
  /-- The size is that of the first frame of the newest session that has one. -/
  size : Surface.size p.renderer.surface = (firstShown entries).elim initial Frame.size
  /-- The format of snapshots does not change. -/
  format : p.settings.format = encoding
  /-- What was sent had the size of the first frame of its session. -/
  sent : ∀ before e after, entries = before ++ e :: after → SentAtFirstSize encoding before e

section

variable [Surface σ] {initial : Nat × Nat} {encoding : SnapshotFormat}
  {entries now : List (Entry κ)} {p q : Pipeline σ κ δ} {e : Entry κ}

/-- A frame finds a surface of the size of the first frame of its session. -/
theorem Fitted.size_fit (hσ : Surface.Sized σ) (h : Fitted initial encoding entries p)
    (hnow : current entries = some now) (frame : Frame Float) :
    Surface.size (p.fit frame).renderer.surface = ((firstFrame now).getD frame).size ∧
      (p.fit frame).fitSurface = false ∧ (p.fit frame).settings = p.settings := by
  have hwaits := h.waits now hnow
  unfold fit
  rcases hfirst : firstFrame now with _ | first
  · have hwaiting : p.fitSurface = true := by
      rw [hwaits, hfirst]
      rfl
    rw [if_pos hwaiting]
    exact ⟨hσ.size_resize _ _ _, rfl, rfl⟩
  · have hfitted : p.fitSurface = false := by
      rw [hwaits, hfirst]
      rfl
    rw [if_neg (Bool.eq_false_iff.1 hfitted), h.size, firstShown_of_current hnow hfirst]
    exact ⟨rfl, hfitted, rfl⟩

/-- Where nothing is shown, the surface stays as it is. -/
theorem surface_of_turn (h : Turn p e q) (hframe : e.frame? = none) :
    q.renderer.surface = p.renderer.surface := by
  cases h with
  | kept hopens hends hquiet hpaused => rfl
  | ended hopens hends hquiet => exact p.ended_renderer.1
  | opened hopens hquiet s => exact p.ended_renderer.1
  | shown hopens hends hsession hsome hreport hsent hrender =>
    rw [hsome] at hframe
    cases hframe

/-- Nothing was sent without a frame. -/
theorem sentAtFirstSize_of_quiet (before : List (Entry κ)) (h : e.Quiet) :
    SentAtFirstSize encoding before e := by
  intro octets mediaType answer hevent
  exact absurd hevent (h.not_submitted octets mediaType answer)

/-- Where nothing is shown, all is as it was if the surface waits for a size as it should. -/
theorem Fitted.quiet (h : Fitted initial encoding entries p) (hturn : Turn p e q)
    (hquiet : e.Quiet) (hsettings : q.settings = p.settings)
    (hwaits : ∀ now, current (entries ++ [e]) = some now → q.fitSurface = (firstFrame now).isNone) :
    Fitted initial encoding (entries ++ [e]) q where
  session := session_of_turn h.session hturn
  waits := hwaits
  size := by
    rw [surface_of_turn hturn hquiet.frame, firstShown_snoc_of_none entries hquiet.frame]
    exact h.size
  format := (congrArg PipelineSettings.format hsettings).trans h.format
  sent := forall_split_snoc h.sent (sentAtFirstSize_of_quiet entries hquiet)

/-- **Whatever happens, the surface has the size that the chronicle says.** -/
theorem Fitted.turn (hσ : Surface.Sized σ) (h : Fitted initial encoding entries p)
    (hturn : Turn p e q) : Fitted initial encoding (entries ++ [e]) q := by
  cases hturn with
  | kept hopens hends hquiet hpaused =>
    refine h.quiet (.kept hopens hends hquiet hpaused) hquiet rfl ?_
    intro now hnow
    rw [current_continued entries hopens hends] at hnow
    obtain ⟨before, hbefore, rfl⟩ := Option.map_eq_some_iff.1 hnow
    rw [firstFrame_snoc_of_none before hquiet.frame]
    exact h.waits before hbefore
  | ended hopens hends hquiet =>
    refine h.quiet (.ended hopens hends hquiet) hquiet rfl ?_
    intro now hnow
    rw [current_ended entries hopens hends] at hnow
    cases hnow
  | opened hopens hquiet s =>
    refine h.quiet (.opened hopens hquiet s) hquiet rfl ?_
    intro now hnow
    rw [current_opened entries hopens] at hnow
    cases hnow
    rfl
  | @shown s frame _ _ _ _ hopens hends hsession hframe hreport hsent hrender =>
    rw [h.session] at hsession
    obtain ⟨now, hnow⟩ := Option.isSome_iff_exists.1 hsession
    obtain ⟨hsize, hfitted, hsettings⟩ := h.size_fit hσ hnow frame
    have hcurrent : current (entries ++ [e]) = some (now ++ [e]) := by
      rw [current_continued entries hopens hends, hnow]
      rfl
    have hfirst := firstFrame_snoc_of_some now hframe
    refine ⟨?_, ?_, ?_, ?_, forall_split_snoc h.sent ?_⟩
    · rw [hcurrent]
      rfl
    · intro now' hnow'
      obtain rfl := Option.some.inj (hcurrent.symm.trans hnow')
      rw [hfirst]
      exact hfitted
    · rw [firstShown_of_current hcurrent hfirst]
      exact (Renderer.size_of_render hσ hrender).trans hsize
    · exact (congrArg PipelineSettings.format hsettings).trans h.format
    · intro octets mediaType answer hevent
      obtain ⟨hpayload, hmedia⟩ := hsent octets mediaType answer hevent
      rw [hsize, h.format] at hpayload
      rw [h.format] at hmedia
      exact ⟨now ++ [e], frame, _, hcurrent, hframe, hfirst, hpayload, hmedia⟩

end

variable [FrameSource κ ω Float] [Surface σ] [DetectionService δ ω]

/-- Where nothing is shown for a while, the surface stays as it is. -/
theorem surface_of_chronicle {ops : List (Op κ)} {p : Pipeline σ κ δ} {w : ω}
    (h : ∀ e ∈ (chronicle ops p w).1, e.frame? = none) :
    (chronicle ops p w).2.1.renderer.surface = p.renderer.surface := by
  have hnothing : (∀ e ∈ ([] : List (Entry κ)), e.frame? = none) →
      p.renderer.surface = p.renderer.surface := fun _ => rfl
  refine chronicle_keeps (I := fun entries q => (∀ e ∈ entries, e.frame? = none) →
    q.renderer.surface = p.renderer.surface) ?_ ops hnothing w h
  intro entries e q q' hentries hturn hnone
  rw [List.forall_mem_append, List.forall_mem_singleton] at hnone
  exact (surface_of_turn hturn hnone.2).trans (hentries hnone.1)

/-- The surface of a pipeline goes by the frames of its sessions. -/
structure GoesByFrames (new : Pipeline σ κ δ) (ops : List (Op κ)) (w : ω) : Prop where
  /-- The chronicle is what was done. -/
  history : ((chronicle ops new w).1.map fun e => (e.op, e.answer), (chronicle ops new w).2) =
    runWith perform ops new w
  /-- There is a session where the chronicle has one. -/
  session : (chronicle ops new w).2.1.session.isSome = (current (chronicle ops new w).1).isSome
  /-- The size is that of the first frame of the newest session that has one, and else that of the
  beginning. -/
  size : Surface.size (chronicle ops new w).2.1.renderer.surface =
    (firstShown (chronicle ops new w).1).elim (Surface.size new.renderer.surface) Frame.size
  /-- What is done from there without a frame leaves the surface as it is. -/
  untouched : ∀ (more : List (Op κ)) (v : ω), let p := (chronicle ops new w).2.1
    (∀ e ∈ (chronicle more p v).1, e.frame? = none) →
    (chronicle more p v).2.1.renderer.surface = p.renderer.surface
  /-- What was sent was the snapshot of a frame at the size of the first frame of its session. -/
  sent : ∀ before e after, (chronicle ops new w).1 = before ++ e :: after →
    SentAtFirstSize new.settings.format before e

/-- So it does where surfaces have the size that they were given last. -/
theorem goesByFrames_of_sized (hσ : Surface.Sized σ) {new : Pipeline σ κ δ}
    (hsession : new.session = none) (ops : List (Op κ)) (w : ω) : GoesByFrames new ops w := by
  have hnew : Fitted (Surface.size new.renderer.surface) new.settings.format [] new := by
    refine ⟨?_, ?_, rfl, rfl, ?_⟩
    · rw [hsession]
      rfl
    · intro now hnow
      cases hnow
    · intro before e after hsplit
      simp at hsplit
  have hfitted := chronicle_keeps (fun hentries hturn => hentries.turn hσ hturn) ops hnew w
  rw [List.nil_append] at hfitted
  refine ⟨chronicle_erase ops new w, hfitted.session, hfitted.size, ?_, hfitted.sent⟩
  intro more v p hnone
  exact surface_of_chronicle hnone

/-- **The first frame of a session gives the surface its size.**  Whatever was done with a new
pipeline, and whatever failed: its surface has the size of the first frame of the newest session
that has shown one, and the size of the beginning if there is none; as long as no frame is shown it
is left alone; and all that is sent in a session has the size of the first frame of the session.
This is so on canvases, however letters are written, and on recorders. -/
theorem first_frame_gives_size (catalog : Catalog) (settings : PipelineSettings)
    (sourceOf : SourceSettings → Except AcquisitionError κ) (detector : δ) (l : Lettering)
    (ops : List (Op κ)) (w : ω) :
    (∀ renderer : Renderer Canvas,
      GoesByFrames { catalog, settings, sourceOf, detector, renderer } ops w) ∧
    (∀ renderer : Renderer (Lettered l),
      GoesByFrames { catalog, settings, sourceOf, detector, renderer } ops w) ∧
    ∀ renderer : Renderer Recorder,
      GoesByFrames { catalog, settings, sourceOf, detector, renderer } ops w := by
  refine ⟨?_, ?_, ?_⟩
  · intro renderer
    exact goesByFrames_of_sized Canvas.sized rfl ops w
  · intro renderer
    exact goesByFrames_of_sized (Lettered.sized l) rfl ops w
  · intro renderer
    exact goesByFrames_of_sized Recorder.sized rfl ops w

end Pipeline

end Lookout
