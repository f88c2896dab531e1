import Lookout.Picture.Png.Writer
import Lookout.Proofs.Capture.Cameras
import Lookout.Proofs.Time.Exact
import Lookout.Simulation.World
/-!
# The health of cameras on the network

A camera on the network counts as healthy for some time after its last frame, or after it was
connected if there was no frame.  It forgets its connection when it is stopped, and everything that
a connection sets when it is connected again, but it never forgets its last frame.

* **A camera that is connected again is a new one with a past** (`perform_withPast`,
  `again_eq_withPast`): it does what a new one does from there on.  Only its count of frames goes on
  from where it was, and before the first frame it still has the time of the last one.
* **Its health is told by the last frame of all** (`health_of_history`), also by one from an earlier
  connection.  A new camera is told by the frames of its connection; the two agree if there was a
  frame since, or if there was none before.
-/

namespace Lookout.HttpSource

open Capture

/-! ### Connections that are open -/

section record

variable {ω τ : Type} {past before since : List (Turn ω τ)} {c t : Turn ω τ}

/-- The connection that was made last, and that was not ended since. -/
structure Open (past before : List (Turn ω τ)) (c : Turn ω τ) (since : List (Turn ω τ)) : Prop
    extends Latest past before c since where
  /-- It was not ended. -/
  kept : ∀ t ∈ since, t.event ≠ .stopped

/-- The call connected the camera, which still is. -/
def Streaming (past : List (Turn ω τ)) (c : Turn ω τ) : Prop :=
  ∃ before since, Open past before c since

theorem not_streaming_nil : ¬Streaming ([] : List (Turn ω τ)) c := by
  rintro ⟨before, since, hopen⟩
  exact List.append_ne_nil_of_right_ne_nil before (List.cons_ne_nil c since) hopen.split.symm

/-- A connection takes the place of the one before it. -/
theorem streaming_snoc_connected (h : t.event = .connected) :
    Streaming (past ++ [t]) c ↔ c = t := by
  constructor
  · rintro ⟨before, since, hopen⟩
    rcases split_snoc hopen.split with ⟨-, -, rfl⟩ | ⟨earlier, rfl, -⟩
    · rfl
    · exact absurd h (hopen.last t (by simp))
  · rintro rfl
    exact ⟨past, [], ⟨rfl, h, nofun⟩, nofun⟩

/-- A stop ends the connection. -/
theorem not_streaming_snoc_stopped (h : t.event = .stopped) : ¬Streaming (past ++ [t]) c := by
  rintro ⟨before, since, hopen⟩
  rcases split_snoc hopen.split with ⟨-, -, rfl⟩ | ⟨earlier, rfl, -⟩
  · cases h.symm.trans hopen.connected
  · exact absurd h (hopen.kept t (by simp))

/-- Anything else leaves the connection as it is. -/
theorem streaming_snoc (hconnected : t.event ≠ .connected) (hstopped : t.event ≠ .stopped) :
    Streaming (past ++ [t]) c ↔ Streaming past c := by
  constructor
  · rintro ⟨before, since, hopen⟩
    rcases split_snoc hopen.split with ⟨-, -, rfl⟩ | ⟨earlier, rfl, hpast⟩
    · exact absurd hopen.connected hconnected
    · have hlast := (List.forall_mem_append.mp hopen.last).1
      have hkept := (List.forall_mem_append.mp hopen.kept).1
      exact ⟨before, earlier, ⟨hpast, hopen.connected, hlast⟩, hkept⟩
  · rintro ⟨before, since, hopen⟩
    refine ⟨before, since ++ [t], ⟨?_, hopen.connected, ?_⟩, ?_⟩
    · rw [hopen.split, List.append_assoc, List.cons_append]
    · rw [List.forall_mem_append, List.forall_mem_singleton]
      exact ⟨hopen.last, hconnected⟩
    · rw [List.forall_mem_append, List.forall_mem_singleton]
      exact ⟨hopen.kept, hstopped⟩

/-- When the last frame was delivered. -/
def lastTime (past : List (Turn ω τ)) : Option τ := (framesOf past).getLast?.map (·.timestamp)

/-- There is no such time exactly if there was no frame. -/
theorem lastTime_eq_none_iff : lastTime past = none ↔ framesOf past = [] := by
  unfold lastTime
  rw [Option.map_eq_none_iff, List.getLast?_eq_none_iff]

/-- The last frame, after one more call. -/
theorem lastTime_snoc (past : List (Turn ω τ)) (t : Turn ω τ) :
    lastTime (past ++ [t]) = (t.event.frame?.map (·.timestamp)).or (lastTime past) := by
  unfold lastTime
  rw [framesOf_snoc, List.getLast?_append, Option.map_or]
  cases t.event.frame? <;> rfl

/-- The last frame is one since the connection, or else one before it. -/
theorem Open.lastTime (h : Open past before c since) :
    lastTime past = (lastTime since).or (lastTime before) := by
  unfold HttpSource.lastTime
  rw [framesOf_of_split h.split h.connected, List.getLast?_append, Option.map_or]

end record

/-! ### What a camera remembers -/

section memory

variable {ω τ : Type} [Timeline τ] [Clock ω τ] [Net.Network ω] {settings : SourceSettings}
  {decode : Picture.Reader}

/-- What a camera remembers of its record. -/
structure Remembers (settings : SourceSettings) (decode : Picture.Reader)
    (past : List (Turn ω τ)) (s : HttpSource τ) : Prop where
  /-- What it is to deliver. -/
  settings_eq : s.settings = settings
  /-- How it reads pictures. -/
  decode_eq : s.decode = decode
  /-- Its rate. -/
  interval : s.pacer.interval = frameInterval settings.rate
  /-- When it was connected, if it is. -/
  connected_iff : ∀ answered, s.connectedAt = some answered ↔
    ∃ c, Streaming past c ∧ answered = answeredAt settings.url c.began
  /-- Without a stream it is not connected. -/
  closed : s.stream = none → s.connectedAt = none
  /-- How many frames it has delivered, in all connections. -/
  count : s.frameCount = (framesOf past).length
  /-- When the last frame came, in whatever connection. -/
  last : s.lastFrameAt = lastTime past

omit [Timeline τ] in
/-- A camera that is stopped has neither a stream nor a connection. -/
theorem stop_eq {s : HttpSource τ} (h : s.stream = none → s.connectedAt = none) :
    s.stop = { s with stream := none, connectedAt := none } := by
  unfold stop
  rcases hstream : s.stream with _ | stream
  · rw [if_neg (by simp), ← hstream, ← h hstream]
  · exact if_pos rfl

omit [Timeline τ] in
/-- A new camera remembers nothing. -/
theorem remembers_new (settings : SourceSettings) (decode : Picture.Reader) :
    Remembers (ω := ω) settings decode [] (ofSettings settings decode : HttpSource τ) where
  settings_eq := rfl
  decode_eq := rfl
  interval := rfl
  connected_iff answered := by
    constructor
    · exact nofun
    · rintro ⟨c, hstreaming, -⟩
      exact absurd hstreaming not_streaming_nil
  closed _ := rfl
  count := rfl
  last := rfl

/-- What is remembered after one more call. -/
theorem Remembers.perform {past : List (Turn ω τ)} {s : HttpSource τ}
    (h : Remembers settings decode past s) (op : Op) (w : ω) :
    Remembers settings decode (past ++ [turn s op w]) (op.perform s w).2.1 := by
  have hstep := HttpSource.step s w op
  have hlast := lastTime_snoc past (turn s op w)
  have hframes := congrArg List.length (framesOf_snoc past (turn s op w))
  have hevent := event_turn s op w
  have hbegan : (turn s op w).began = w := rfl
  rw [List.length_append, ← h.count] at hframes
  rw [← h.last] at hlast
  generalize turn s op w = t at hevent hbegan hlast hframes
  rw [← hevent] at hstep
  generalize (op.perform s w).2.1 = s' at hstep
  -- the calls that neither connect nor stop the camera keep what is known of its connection
  have hkept (hconnected : t.event ≠ .connected) (hstopped : t.event ≠ .stopped) (answered : τ) :
      s.connectedAt = some answered ↔
        ∃ c, Streaming (past ++ [t]) c ∧ answered = answeredAt settings.url c.began := by
    rw [h.connected_iff]
    simp only [streaming_snoc hconnected hstopped]
  generalize he : t.event = e at hstep hlast hframes hkept
  cases hstep with
  | refused | unconnected =>
    exact ⟨h.settings_eq, h.decode_eq, h.interval, hkept (by simp) (by simp), h.closed,
      hframes.symm, hlast.symm⟩
  | connected stream =>
    refine ⟨h.settings_eq, h.decode_eq, h.interval, ?_, by simp, hframes.symm, hlast.symm⟩
    intro answered
    simp only [streaming_snoc_connected he, exists_eq_left, hbegan, Option.some.injEq, url,
      h.settings_eq]
    exact eq_comm
  | exhausted | lost =>
    exact ⟨h.settings_eq, h.decode_eq, h.interval, hkept (by simp) (by simp), by simp,
      hframes.symm, hlast.symm⟩
  | delivered frame stream hopen granted number =>
    exact ⟨h.settings_eq, h.decode_eq, h.interval, hkept (by simp) (by simp), by simp,
      hframes.symm, hlast.symm⟩
  | stopped =>
    rw [stop_eq h.closed]
    refine ⟨h.settings_eq, h.decode_eq, h.interval, ?_, fun _ => rfl, hframes.symm, hlast.symm⟩
    simp [not_streaming_snoc_stopped he]

/-- What a camera remembers of all calls. -/
theorem remembers (settings : SourceSettings) (decode : Picture.Reader)
    (calls : List (Op × ω)) :
    Remembers settings decode (turns (ofSettings settings decode : HttpSource τ) calls)
      (sourceAfter (ofSettings settings decode : HttpSource τ) calls) := by
  apply turns_keep (P := Remembers settings decode) (remembers_new settings decode)
  intro past s op w h
  exact h.perform op w

end memory

end Lookout.HttpSource

/-! ### A camera with a past -/

namespace Lookout

variable {ω τ : Type}

/-- The frame, if so many had been delivered before. -/
def Frame.laterBy (frame : Frame τ) (count : Nat) : Frame τ :=
  { frame with metadata := { frame.metadata with
      presentedFrames := frame.metadata.presentedFrames + count } }

/-- What came of a call, if so many frames had been delivered before. -/
def Capture.Event.laterBy (count : Nat) : Capture.Event τ → Capture.Event τ
  | .delivered frame => .delivered (frame.laterBy count)
  | e => e

@[simp] theorem Capture.Event.laterBy_eq_connected_iff {e : Capture.Event τ} {count : Nat} :
    e.laterBy count = .connected ↔ e = .connected := by
  cases e <;> simp [laterBy]

@[simp] theorem Capture.Event.laterBy_eq_stopped_iff {e : Capture.Event τ} {count : Nat} :
    e.laterBy count = .stopped ↔ e = .stopped := by
  cases e <;> simp [laterBy]

/-- A call, if so many frames had been delivered before. -/
def Capture.Turn.laterBy (t : Turn ω τ) (count : Nat) : Turn ω τ :=
  { t with event := t.event.laterBy count }

namespace HttpSource

open Capture

/-- The camera, if it had delivered so many frames before, and the last of them at some time. -/
def withPast (s : HttpSource τ) (count : Nat) (last : Option τ) : HttpSource τ :=
  { s with frameCount := s.frameCount + count, lastFrameAt := s.lastFrameAt.or last }

/-- With a past there are the same frames, under other numbers. -/
theorem framesOf_laterBy (past : List (Turn ω τ)) (count : Nat) :
    framesOf (past.map (·.laterBy count)) = (framesOf past).map (·.laterBy count) := by
  have hframe : (fun t : Turn ω τ => (t.laterBy count).event.frame?) =
      fun t => t.event.frame?.map (·.laterBy count) := by
    funext t
    unfold Turn.laterBy
    cases t.event <;> rfl
  unfold framesOf
  rw [List.filterMap_map, List.map_filterMap]
  exact congrArg (List.filterMap · past) hframe

/-- They come at the same times. -/
theorem lastTime_laterBy (past : List (Turn ω τ)) (count : Nat) :
    lastTime (past.map (·.laterBy count)) = lastTime past := by
  unfold lastTime
  rw [framesOf_laterBy, List.getLast?_map, Option.map_map]
  rfl

section calls

variable [Timeline τ]

/-- A picture is a frame, with or without a past. -/
theorem deliver_withPast {s s' : HttpSource τ} {octets : ByteArray} {now : τ}
    {outcome : Except AcquisitionError (Frame τ)} (h : s.deliver octets now = (outcome, s'))
    (count : Nat) (last : Option τ) : (s.withPast count last).deliver octets now =
      (outcome.map (·.laterBy count), s'.withPast count last) := by
  unfold deliver at h ⊢
  have hdecode : (s.withPast count last).decode = s.decode := rfl
  rw [hdecode]
  cases hpicture : s.decode octets with
  | error reason =>
    rw [hpicture] at h
    obtain ⟨rfl, rfl⟩ := Prod.mk.inj h
    rfl
  | ok picture =>
    rw [hpicture] at h
    obtain ⟨rfl, rfl⟩ := Prod.mk.inj h
    simp [withPast, Frame.laterBy, Except.map, url, Nat.add_right_comm]

omit [Timeline τ] in
/-- What came of a frame or a failure, with a past. -/
theorem ofNext_laterBy (frame : Except AcquisitionError (Frame τ)) (count : Nat) :
    Capture.Event.ofNext (.ok (frame.map (·.laterBy count))) =
      (Capture.Event.ofNext (.ok frame)).laterBy count := by
  cases frame <;> rfl

omit [Timeline τ] in
/-- A stream ends with or without a past. -/
theorem stop_withPast (s : HttpSource τ) (count : Nat) (last : Option τ) :
    (s.withPast count last).stop = s.stop.withPast count last := by
  have hstream : (s.withPast count last).stream = s.stream := rfl
  unfold stop
  rw [hstream]
  by_cases hopen : s.stream.isSome = true
  · rw [if_pos hopen, if_pos hopen]
    rfl
  · rw [if_neg hopen, if_neg hopen]

variable [Clock ω τ] [Net.Network ω]

omit [Timeline τ] in
/-- A stream begins with or without a past. -/
theorem connect_withPast (s : HttpSource τ) (count : Nat) (last : Option τ) (w : ω) :
    (s.withPast count last).connect w =
      ((s.connect w).1, (s.connect w).2.1.withPast count last, (s.connect w).2.2) := by
  have hurl : (s.withPast count last).url = s.url := rfl
  unfold connect
  rw [hurl]
  rcases Net.get s.url none w with ⟨failure | response, w'⟩ <;> rfl

/-- There is a frame with or without a past. -/
theorem next_withPast (s : HttpSource τ) (count : Nat) (last : Option τ) (w : ω) :
    (s.withPast count last).next w =
      ((s.next w).1.map (·.laterBy count), (s.next w).2.1.withPast count last,
        (s.next w).2.2) := by
  rcases hstream : s.stream with _ | stream | _
  · have hstream' : (s.withPast count last).stream = none := hstream
    rw [next_of_closed hstream, next_of_closed hstream']
    rfl
  · have hstream' : (s.withPast count last).stream = some (.mjpeg stream) := hstream
    rcases hfound : nextDue s.pacer stream w with ⟨cause | ⟨picture, now⟩, p, rest, w'⟩
    · rw [next_of_exhausted hstream hfound,
        next_of_exhausted hstream' hfound]
      rfl
    · rcases hdeliver : deliver { s with pacer := p, stream := some (.mjpeg rest) }
        ⟨picture.toArray⟩ now with ⟨outcome, s'⟩
      rw [next_of_due hstream hfound hdeliver,
        next_of_due hstream' hfound (deliver_withPast hdeliver count last)]
  · have hstream' : (s.withPast count last).stream = some .single := hstream
    rcases hfetch : fetch { s with pacer := (s.pacer.wait w).2.1 } (s.pacer.wait w).2.2 with
      ⟨cause | octets, w'⟩
    · rw [next_of_unfetched hstream hfetch,
        next_of_unfetched hstream' hfetch]
      rfl
    · rcases hdeliver : deliver { s with pacer := (s.pacer.wait w).2.1 } octets
        (s.pacer.wait w).1 with ⟨outcome, s'⟩
      rw [next_of_fetched hstream hfetch hdeliver,
        next_of_fetched hstream' hfetch (deliver_withPast hdeliver count last)]

/-- **A camera with a past does what it would do without.** -/
theorem perform_withPast (s : HttpSource τ) (count : Nat) (last : Option τ) (op : Op) (w : ω) :
    op.perform (s.withPast count last) w =
      ((op.perform s w).1.laterBy count, (op.perform s w).2.1.withPast count last,
        (op.perform s w).2.2) := by
  cases op with
  | connect =>
    rw [perform_connect, perform_connect, connect_withPast]
    rcases s.connect w with ⟨outcome, s', w'⟩
    cases outcome <;> rfl
  | next => rw [perform_next, perform_next, next_withPast, ofNext_laterBy]
  | stop =>
    rw [perform_stop, perform_stop, stop_withPast]
    rfl

/-- All calls to a camera with a past leave it as they would without. -/
theorem sourceAfter_withPast (s : HttpSource τ) (count : Nat) (last : Option τ)
    (calls : List (Op × ω)) :
    sourceAfter (s.withPast count last) calls = (sourceAfter s calls).withPast count last := by
  induction calls generalizing s with
  | nil => rfl
  | cons call calls ih =>
    unfold sourceAfter
    rw [perform_withPast, ih]

/-- What comes of them is the same. -/
theorem turns_withPast (s : HttpSource τ) (count : Nat) (last : Option τ)
    (calls : List (Op × ω)) :
    turns (s.withPast count last) calls = (turns s calls).map (·.laterBy count) := by
  induction calls generalizing s with
  | nil => rfl
  | cons call calls ih =>
    unfold turns turn
    rw [perform_withPast, ih]
    rfl

/-- A camera connects as a new one does, and is then a new one that was connected in its place, with
a past. -/
theorem Remembers.connect {settings : SourceSettings} {decode : Picture.Reader}
    {past : List (Turn ω τ)} {s new : HttpSource τ} (h : Remembers settings decode past s)
    (hnew : new = ofSettings settings decode) (w : ω) :
    (Op.connect.perform s w).1 = (Op.connect.perform new w).1 ∧
      ((Op.connect.perform new w).1 = .connected → (Op.connect.perform s w).2.1 =
        (Op.connect.perform new w).2.1.withPast (framesOf past).length (lastTime past)) := by
  have hurl : s.url = new.url := by
    rw [hnew]
    exact congrArg SourceSettings.url h.settings_eq
  have hpacer : s.pacer.reset = new.pacer.reset := by
    unfold Pacer.reset
    rw [h.interval, hnew]
    rfl
  rw [perform_connect, perform_connect]
  unfold HttpSource.connect
  rw [hurl, hpacer, ← h.count, ← h.last]
  rcases Net.get new.url none w with ⟨failure | response, w'⟩
  · refine ⟨?_, nofun⟩
    unfold HttpSource.failure
    rw [hurl]
  · refine ⟨rfl, fun _ => ?_⟩
    simp [withPast, h.settings_eq, h.decode_eq, hnew, ofSettings]

/-- **A camera that is connected again is a new one with a past.**  From the connection on it does
what a new camera does that is asked the same. -/
theorem again_eq_withPast {settings : SourceSettings} {decode : Picture.Reader}
    {new : HttpSource τ} (hnew : new = ofSettings settings decode) {calls : List (Op × ω)}
    {before since : List (Turn ω τ)} {c : Turn ω τ}
    (hopen : Open (turns new calls) before c since) :
    let again := calls.drop before.length
    sourceAfter new calls =
        (sourceAfter new again).withPast (framesOf before).length (lastTime before) ∧
      ∃ d later, Open (turns new again) [] d later ∧ d.began = c.began ∧
        since = later.map (·.laterBy (framesOf before).length) := by
  intro again
  obtain ⟨earlier, op, rest, hcalls, hlength, hbefore, hc, hsince⟩ := turns_split hopen.split
  have hremembers := remembers settings decode (τ := τ) earlier
  rw [← hnew, ← hbefore] at hremembers
  have hafter := sourceAfter_append new earlier ((op, c.began) :: rest)
  have hagain : again = (op, c.began) :: rest := by
    show calls.drop _ = _
    rw [hcalls, List.drop_left' hlength]
  rw [← hcalls] at hafter
  rw [hagain, hafter]
  generalize sourceAfter new earlier = s at hremembers hc hsince
  obtain rfl := Op.eq_connect (hc.symm.trans hopen.connected)
  obtain ⟨hevent, hpast⟩ := hremembers.connect hnew c.began
  have hfirst := hevent.symm.trans (hc.symm.trans hopen.connected)
  rw [hpast hfirst, turns_withPast] at hsince
  constructor
  · unfold sourceAfter
    rw [hpast hfirst]
    exact sourceAfter_withPast _ _ _ _
  · refine ⟨turn new .connect c.began, _, ⟨⟨rfl, hfirst, ?_⟩, ?_⟩, rfl, hsince⟩
    · intro t ht hevent
      have hlater := hopen.last (t.laterBy (framesOf before).length) (by
        rw [hsince]
        exact List.mem_map_of_mem ht)
      exact hlater (Capture.Event.laterBy_eq_connected_iff.mpr hevent)
    · intro t ht hevent
      have hlater := hopen.kept (t.laterBy (framesOf before).length) (by
        rw [hsince]
        exact List.mem_map_of_mem ht)
      exact hlater (Capture.Event.laterBy_eq_stopped_iff.mpr hevent)

/-! ### Health -/

/-- Whether a camera that was connected at some time still counts as healthy, by its last frame if
there is one. -/
def InGrace (settings : SourceSettings) (answered : τ) (last : Option τ) (now : τ) : Prop :=
  match last with
  | some last => now - last ≤ Timeline.ofSpan (grace settings.rate)
  | none => now - answered ≤ Timeline.ofSpan connectGrace

/-- A connected camera is healthy by the last frame that it remembers. -/
theorem Remembers.isHealthy_iff {settings : SourceSettings} {decode : Picture.Reader}
    {past before since : List (Turn ω τ)} {c : Turn ω τ} {s : HttpSource τ}
    (h : Remembers settings decode past s) (hopen : Open past before c since) (w : ω) :
    (s.isHealthy w).1 = true ↔
      InGrace settings (answeredAt settings.url c.began) (lastTime past) (Clock.now w).1 := by
  have hconnected := (h.connected_iff _).mpr ⟨c, ⟨before, since, hopen⟩, rfl⟩
  unfold isHealthy InGrace
  simp only [hconnected, h.settings_eq, ← h.last]
  cases s.lastFrameAt <;> exact decide_eq_true_iff

/-- A camera that is not connected is not healthy. -/
theorem Remembers.not_healthy {settings : SourceSettings} {decode : Picture.Reader}
    {past : List (Turn ω τ)} {s : HttpSource τ} (h : Remembers settings decode past s)
    (hclosed : ¬∃ c, Streaming past c) (w : ω) :
    (s.isHealthy w).1 = false := by
  have hnone : s.connectedAt = none := by
    rw [Option.eq_none_iff_forall_ne_some]
    intro answered hconnected
    obtain ⟨c, hstreaming, -⟩ := (h.connected_iff answered).mp hconnected
    exact hclosed ⟨c, hstreaming⟩
  unfold isHealthy
  simp only [hnone]

/-- **A camera's health is told by the last frame of all.**  Without a connection a camera is not
healthy.  With one it is healthy by its last frame, from whatever connection that came, and by the
connection itself if there never was a frame.  A new camera to which the same was done since the
connection goes by the frames of that connection.  So the two agree exactly if there was a frame
since, or if the last frame before is as good as the connection.  How its pictures are read does not
matter. -/
theorem health_of_history (settings : SourceSettings) (decode : Picture.Reader)
    (calls : List (Op × ω)) (w : ω) :
    let new : HttpSource τ := ofSettings settings decode
    let healthy := ((sourceAfter new calls).isHealthy w).1
    let now : τ := (Clock.now w).1
    ((¬∃ c, Streaming (turns new calls) c) → healthy = false) ∧
      ∀ before c since, Open (turns new calls) before c since →
        let answered : τ := answeredAt settings.url c.began
        let healthyAnew := ((sourceAfter new (calls.drop before.length)).isHealthy w).1
        (healthyAnew = true ↔ InGrace settings answered (lastTime since) now) ∧
          (healthy = true ↔
            InGrace settings answered ((lastTime since).or (lastTime before)) now) ∧
          (healthy = healthyAnew ↔ framesOf since = [] → ∀ old, lastTime before = some old →
            (now - old ≤ Timeline.ofSpan (grace settings.rate) ↔
              now - answered ≤ Timeline.ofSpan connectGrace)) := by
  intro new healthy now
  have hnew : new = ofSettings settings decode := rfl
  have hremembers := remembers settings decode (τ := τ) calls
  refine ⟨fun hclosed => hremembers.not_healthy hclosed w, ?_⟩
  intro before c since hopen answered healthyAnew
  obtain ⟨-, d, later, hagain, hbegan, hsince⟩ := again_eq_withPast hnew hopen
  have hanew : healthyAnew = true ↔ InGrace settings answered (lastTime since) now := by
    have hiff := (remembers settings decode (calls.drop before.length)).isHealthy_iff hagain w
    have hlast : lastTime (turns new (calls.drop before.length)) = lastTime since := by
      rw [hagain.lastTime, hsince, lastTime_laterBy]
      exact Option.or_none
    rw [hlast, hbegan] at hiff
    exact hiff
  have hagain : healthy = true ↔
      InGrace settings answered ((lastTime since).or (lastTime before)) now := by
    rw [← hopen.lastTime]
    exact hremembers.isHealthy_iff hopen w
  refine ⟨hanew, hagain, ?_⟩
  rw [Bool.eq_iff_iff, hanew, hagain, ← lastTime_eq_none_iff]
  rcases lastTime since with _ | recent
  · rcases lastTime before with _ | old
    · simp [InGrace]
    · simp [InGrace]
  · simp [InGrace]

end calls

/-! ### A camera at the door -/

/-- Ten pictures a second from a camera that is asked for each. -/
def doorSettings : SourceSettings := { url := "http://[::1]/", rate := 10 }

/-- The camera, new. -/
def door : HttpSource ℚ := ofSettings doorSettings

/-- A black pixel. -/
def blackPixel : Raster Rgb := ⟨1, 1, #[⟨0, 0, 0⟩], rfl⟩

/-- An answer of the camera. -/
def doorAnswer : Net.Response where
  status := 200
  contentType := some "image/png"
  body := .ofOctets (Png.encode blackPixel) .complete

/-- A world at so many milliseconds in which the camera answers. -/
def doorAt (ms : ℚ) : Simulation.World ℚ where
  clock := { now := ms }
  replies := [.answer doorAnswer]

/-- The camera is connected, asked for a picture and stopped, all at once. -/
def doorFirst : List (Op × Simulation.World ℚ) :=
  [(.connect, doorAt 0), (.next, doorAt 0), (.stop, doorAt 0)]

/-- It is connected again after so many milliseconds. -/
def doorAgain (ms : ℚ) : Op × Simulation.World ℚ := (.connect, doorAt ms)

/-- What the camera remembers of all calls. -/
theorem remembers_door (calls : List (Op × Simulation.World ℚ)) :
    Remembers doorSettings Picture.read (turns door calls) (sourceAfter door calls) := by
  unfold door
  exact remembers doorSettings Picture.read calls

/-- The second connection is open. -/
theorem open_doorAgain (ms : ℚ) : Open (turns door (doorFirst ++ [doorAgain ms]))
    (turns door doorFirst) (turn (sourceAfter door doorFirst) .connect (doorAt ms)) [] where
  split := turns_append _ _ _
  connected := by
    have hfirst : (Op.connect.perform door (doorAt ms)).1 = .connected := by rfl
    have hdoor : door = ofSettings doorSettings := rfl
    have hevent := ((remembers_door doorFirst).connect hdoor (doorAt ms)).1
    rw [event_turn, hevent, hfirst]
  last := nofun
  kept := nofun

/-- In the first one there was a frame. -/
theorem lastTime_doorFirst : lastTime (turns door doorFirst) = some 0 := by
  decide +kernel

/-- Connected again after a second, the camera is healthy half a second later, as a new one. -/
theorem healthy_soon_after_connecting_again :
    Open (turns door (doorFirst ++ [doorAgain 1000])) (turns door doorFirst)
        (turn (sourceAfter door doorFirst) .connect (doorAt 1000)) [] ∧
      ((sourceAfter door (doorFirst ++ [doorAgain 1000])).isHealthy (doorAt 1500)).1 = true ∧
      ((sourceAfter door [doorAgain 1000]).isHealthy (doorAt 1500)).1 = true := by
  have hopen := open_doorAgain 1000
  unfold door at hopen ⊢
  obtain ⟨hanew, hagain, -⟩ := (health_of_history doorSettings Picture.read
    (doorFirst ++ [doorAgain 1000]) (doorAt 1500)).2 _ _ _ hopen
  refine ⟨hopen, hagain.mpr ?_, hanew.mpr ?_⟩
  · have hlast := lastTime_doorFirst
    unfold door at hlast
    rw [hlast]
    show (1500 - 0 : ℚ) ≤ Timeline.ofSpan (.ofMillis 2000)
    rw [Exact.ofSpan_ofMillis]
    norm_num
  · show (1500 - 1000 : ℚ) ≤ Timeline.ofSpan (.ofMillis 5000)
    rw [Exact.ofSpan_ofMillis]
    norm_num

/-- **A camera that has just been connected again may be unhealthy**: the frame of its first
connection is three seconds old when the second one is made, and a new camera is healthy then. -/
theorem unhealthy_when_connected_again :
    ∃ before c, Open (turns door (doorFirst ++ [doorAgain 3000])) before c [] ∧
      (answeredAt doorSettings.url c.began : ℚ) = 3000 ∧
      ((sourceAfter door (doorFirst ++ [doorAgain 3000])).isHealthy (doorAt 3000)).1 = false ∧
      ((sourceAfter door [doorAgain 3000]).isHealthy (doorAt 3000)).1 = true := by
  have hopen := open_doorAgain 3000
  have hiff := (remembers_door (doorFirst ++ [doorAgain 3000])).isHealthy_iff hopen (doorAt 3000)
  refine ⟨_, _, hopen, by rfl, ?_, by decide +kernel⟩
  rw [hopen.lastTime, lastTime_doorFirst] at hiff
  rw [Bool.eq_false_iff, ne_eq, hiff]
  show ¬(3000 - 0 : ℚ) ≤ Timeline.ofSpan (.ofMillis 2000)
  rw [Exact.ofSpan_ofMillis]
  norm_num

end HttpSource

end Lookout
