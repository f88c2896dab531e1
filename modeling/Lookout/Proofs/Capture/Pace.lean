import Mathlib.Data.Nat.Cast.Field
import Mathlib.Data.Nat.Cast.Order.Field
import Mathlib.Tactic.GCongr
import Lookout.Proofs.Capture.Cameras
import Lookout.Proofs.Time.Exact
import Lookout.Simulation.World
/-!
# The pace of cameras

A camera waits with each frame until the time between two frames is over that its rate asks for.
That time is a whole number of milliseconds, the quotient rounded down, so it may be a little
shorter than the rate says; and as it is slept in whole nanoseconds, a sleep may end half a
nanosecond early.  Times are exact here.

* `Pacer.Moved` says what a call does to the pacer of a camera, of whichever kind (`Paced`).
* **Two consecutive frames of a connection are an interval apart**, but for half a nanosecond
  (`interval_le_of_consecutive`), on any clock that is never early.
* **No larger gap is kept** (`keepsGap_iff`): on clocks that count nanoseconds the interval is the
  largest gap that there is between any two consecutive frames.  A camera so keeps to its rate in
  full exactly if the rate divides a thousand or is above a thousand (`keepsRate_iff`); at thirty
  frames a second two frames may be 33 milliseconds apart (`too_fast_at_thirty`).
-/

namespace Lookout

open Capture

/-! ### What calls do to a pacer -/

section moved

variable {τ ω : Type} [Timeline τ] [Clock ω τ]

/-- What a call does to the pacer of a camera. -/
inductive Pacer.Moved (ω : Type) [Clock ω τ] (p : Pacer τ) : Capture.Event τ → Pacer τ → Prop where
  /-- With a connection nothing is due. -/
  | connected : Moved ω p .connected p.reset
  /-- A frame claims its time. -/
  | delivered (frame : Frame τ) (granted : p.Grants ω frame.timestamp) :
    Moved ω p (.delivered frame) (p.claim frame.timestamp)
  /-- A frame that was lost has claimed its time, too. -/
  | lost (e : Capture.Event τ) (hplain : e.Plain) (now : τ) (granted : p.Grants ω now) :
    Moved ω p e (p.claim now)
  /-- Anything else leaves the pacer alone. -/
  | kept (e : Capture.Event τ) (hplain : e.Plain) : Moved ω p e p

namespace Pacer.Moved

variable {p p' : Pacer τ} {e : Capture.Event τ} {frame : Frame τ}

/-- The interval stays. -/
theorem interval_eq (h : p.Moved ω e p') : p'.interval = p.interval := by
  cases h <;> rfl

/-- The time of a frame was granted. -/
theorem granted (h : p.Moved ω (.delivered frame) p') : p.Grants ω frame.timestamp := by
  cases h with
  | delivered _ granted => exact granted
  | lost _ hplain => exact absurd hplain (Capture.Event.not_plain_delivered _)
  | kept _ hplain => exact absurd hplain (Capture.Event.not_plain_delivered _)

/-- The next frame is due an interval after it. -/
theorem nextDue_eq (h : p.Moved ω (.delivered frame) p') :
    p'.nextDue = some (frame.timestamp + Timeline.ofSpan p.interval) := by
  cases h with
  | delivered => rfl
  | lost _ hplain => exact absurd hplain (Capture.Event.not_plain_delivered _)
  | kept _ hplain => exact absurd hplain (Capture.Event.not_plain_delivered _)

end Pacer.Moved

/-- A source whose pacer is moved in this way and in no other. -/
def Paced {σ : Type} (ω : Type) [Clock ω τ] [FrameSource σ ω τ] (pacer : σ → Pacer τ) : Prop :=
  ∀ (s : σ) (op : Op) (w : ω), (pacer s).Moved ω (op.perform s w).1 (pacer (op.perform s w).2.1)

variable [Net.Network ω]

omit [Net.Network ω] in
/-- Cameras that make their frames up are paced. -/
theorem SyntheticSource.paced : Paced ω (SyntheticSource.pacer (τ := τ)) := by
  intro s op w
  have hstep := SyntheticSource.step s w op
  generalize (op.perform s w).1 = e, (op.perform s w).2.1 = s' at hstep
  cases hstep with
  | connected => exact .connected
  | delivered frame granted number => exact .delivered frame granted
  | refused cause => exact .kept _ (Capture.Event.plain_refused cause)
  | unconnected => exact .kept _ (Capture.Event.plain_failed _)
  | broken now granted large => exact .lost _ Capture.Event.plain_broken now granted
  | stopped => exact .kept _ Capture.Event.plain_stopped

/-- Cameras on the network are paced. -/
theorem HttpSource.paced : Paced ω (HttpSource.pacer (τ := τ)) := by
  intro s op w
  have hstep := HttpSource.step s w op
  generalize (op.perform s w).1 = e, (op.perform s w).2.1 = s' at hstep
  cases hstep with
  | connected => exact .connected
  | delivered frame stream hopen granted number => exact .delivered frame granted
  | lost cause stream now hopen granted =>
    exact .lost _ (Capture.Event.plain_failed cause) now granted
  | refused cause => exact .kept _ (Capture.Event.plain_refused cause)
  | unconnected | exhausted => exact .kept _ (Capture.Event.plain_failed _)
  | stopped =>
    rw [HttpSource.pacer_stop]
    exact .kept _ Capture.Event.plain_stopped

end moved

/-! ### The interval of a rate -/

/-- How early a frame may be: half a nanosecond. -/
def haste : ℚ := 1 / 2000000

section interval

variable {rate : ℕ}

/-- The interval in milliseconds. -/
theorem ofSpan_frameInterval (hrate : 0 < rate) :
    (Timeline.ofSpan (frameInterval rate) : ℚ) = (max (1000 / rate) 1 : ℕ) := by
  unfold frameInterval
  rw [if_neg hrate.ne', Exact.ofSpan_ofMillis]

/-- It is at least one. -/
theorem one_le_interval (hrate : 0 < rate) :
    (1 : ℚ) ≤ Timeline.ofSpan (frameInterval rate) := by
  rw [ofSpan_frameInterval hrate]
  exact_mod_cast le_max_right _ _

/-- So it is longer than the haste. -/
theorem haste_le_interval (hrate : 0 < rate) :
    haste ≤ Timeline.ofSpan (frameInterval rate) := by
  have hone := one_le_interval hrate
  unfold haste
  linarith

/-- The interval is a whole number of nanoseconds. -/
theorem whole_interval (hrate : 0 < rate) : Whole (Timeline.ofSpan (frameInterval rate)) := by
  rw [ofSpan_frameInterval hrate]
  exact whole_natCast _

/-- Up to a thousand frames a second the interval is the quotient, rounded down. -/
theorem interval_of_slow (hrate : 0 < rate) (hslow : rate ≤ 1000) :
    (Timeline.ofSpan (frameInterval rate) : ℚ) = (1000 / rate : ℕ) := by
  rw [ofSpan_frameInterval hrate, max_eq_left (Nat.div_pos hslow hrate)]

/-- It is not too long. -/
theorem interval_le (hrate : 0 < rate) (hslow : rate ≤ 1000) :
    Timeline.ofSpan (frameInterval rate) ≤ 1000 / (rate : ℚ) := by
  rw [interval_of_slow hrate hslow]
  exact_mod_cast Nat.cast_div_le

/-- It is exact if the rate divides a thousand. -/
theorem interval_of_dvd (hdvd : rate ∣ 1000) :
    Timeline.ofSpan (frameInterval rate) = 1000 / (rate : ℚ) := by
  have hrate : 0 < rate := Nat.pos_of_dvd_of_pos hdvd (by norm_num)
  rw [interval_of_slow hrate (Nat.le_of_dvd (by norm_num) hdvd),
    Nat.cast_div hdvd (by exact_mod_cast hrate.ne'), Nat.cast_ofNat]

/-- And only then. -/
theorem interval_lt (hrate : 0 < rate) (hslow : rate ≤ 1000) (hdvd : ¬rate ∣ 1000) :
    Timeline.ofSpan (frameInterval rate) < 1000 / (rate : ℚ) := by
  refine lt_of_le_of_ne (interval_le hrate hslow) fun heq => hdvd ?_
  have hpos : (rate : ℚ) ≠ 0 := by exact_mod_cast hrate.ne'
  rw [interval_of_slow hrate hslow, eq_div_iff hpos] at heq
  exact ⟨1000 / rate, by rw [Nat.mul_comm]; exact_mod_cast heq.symm⟩

/-- Above a thousand frames a second it is too long, by more than any haste. -/
theorem add_haste_le_interval (hfast : 1000 < rate) :
    1000 / (rate : ℚ) + haste ≤ Timeline.ofSpan (frameInterval rate) := by
  have hpos : (1001 : ℚ) ≤ rate := by exact_mod_cast hfast
  have hquotient : 1000 / (rate : ℚ) ≤ 1000 / 1001 := by gcongr
  have hone := one_le_interval (show 0 < rate by omega)
  unfold haste
  linarith

end interval

/-! ### The time between two frames -/

section exact

variable {ω : Type} [Clock ω ℚ]

/-- A pacer grants no time that is earlier than the next frame is due, but for the haste. -/
theorem Pacer.Grants.due_le (hclock : SteadyClock ω) {p : Pacer ℚ} {now due : ℚ}
    (h : p.Grants ω now) (hdue : p.nextDue = some due) : due ≤ now + haste := by
  have hhaste : 0 ≤ haste := by norm_num [haste]
  rcases h with hisDue | ⟨w, rfl⟩
  · unfold isDue at hisDue
    rw [hdue] at hisDue
    have hle : due ≤ now := of_decide_eq_true hisDue
    linarith
  · unfold wait sleepUntil
    simp only [hdue]
    by_cases hearly : (Clock.now w).1 < due
    · rw [if_pos hearly]
      have hslept := hclock.sleeps w (Timeline.toSpan (due - (Clock.now w).1))
      have hspan := Exact.le_ofSpan_toSpan (due - (Clock.now w).1)
      unfold haste
      linarith
    · rw [if_neg hearly]
      have hread := hclock.reads w
      linarith [not_lt.mp hearly]

/-- Where there is no frame, the next one is not due any earlier. -/
theorem Pacer.Moved.nextDue_le (hclock : SteadyClock ω) {p p' : Pacer ℚ} {e : Capture.Event ℚ}
    (h : p.Moved ω e p') (hlong : haste ≤ Timeline.ofSpan p.interval) (hplain : e.Plain) {due : ℚ}
    (hdue : p.nextDue = some due) : ∃ due', p'.nextDue = some due' ∧ due ≤ due' := by
  cases h with
  | connected => exact absurd rfl hplain.2
  | delivered => exact absurd hplain (Capture.Event.not_plain_delivered _)
  | lost _ _ now granted =>
    have hle := granted.due_le hclock hdue
    exact ⟨now + Timeline.ofSpan p.interval, rfl, by linarith⟩
  | kept => exact ⟨due, hdue, le_refl _⟩

/-- What is known of a paced source: since a frame was delivered the next one is an interval away,
and so it was with all frames before. -/
structure KeepsApart (interval : Span) (past : List (Turn ω ℚ)) (p : Pacer ℚ) : Prop where
  /-- The interval stays. -/
  interval_eq : p.interval = interval
  /-- The next frame is due an interval after the last one. -/
  next : ∀ f, Shown past f →
    ∃ due, p.nextDue = some due ∧ f.timestamp + Timeline.ofSpan interval ≤ due
  /-- A frame was delivered an interval after the one before it. -/
  apart : ∀ f g, Consecutive past f g →
    f.timestamp + Timeline.ofSpan interval ≤ g.timestamp + haste

/-- What one call keeps. -/
theorem KeepsApart.moved (hclock : SteadyClock ω) {interval : Span}
    (hlong : haste ≤ Timeline.ofSpan interval) {past : List (Turn ω ℚ)} {t : Turn ω ℚ}
    {p p' : Pacer ℚ} (h : KeepsApart interval past p) (hmoved : p.Moved ω t.event p') :
    KeepsApart interval (past ++ [t]) p' := by
  obtain ⟨rfl, hnext, hapart⟩ := h
  refine ⟨hmoved.interval_eq, ?_, ?_⟩
  · intro f hf
    rcases hf.of_snoc with hf | ⟨hplain, hf⟩
    · rw [hf] at hmoved
      exact ⟨_, hmoved.nextDue_eq, le_refl _⟩
    · obtain ⟨due, hdue, hle⟩ := hnext f hf
      obtain ⟨due', hdue', hlater⟩ := hmoved.nextDue_le hclock hlong hplain hdue
      exact ⟨due', hdue', hle.trans hlater⟩
  · intro f g hfg
    rcases hfg.of_snoc with hfg | ⟨hf, hg⟩
    · exact hapart f g hfg
    · rw [hg] at hmoved
      obtain ⟨due, hdue, hle⟩ := hnext f hf
      exact hle.trans (hmoved.granted.due_le hclock hdue)

/-- What all calls to a paced source keep, that was never used. -/
theorem Paced.keepsApart {σ : Type} [FrameSource σ ω ℚ] {pacer : σ → Pacer ℚ}
    (hpaced : Paced ω pacer) (hclock : SteadyClock ω) {s : σ}
    (hlong : haste ≤ Timeline.ofSpan (pacer s).interval) (calls : List (Op × ω)) :
    KeepsApart (pacer s).interval (turns s calls) (pacer (sourceAfter s calls)) := by
  have hnew : KeepsApart (pacer s).interval ([] : List (Turn ω ℚ)) (pacer s) :=
    ⟨rfl, fun _ hf => absurd hf not_shown_nil, fun _ _ hfg => absurd hfg not_consecutive_nil⟩
  refine turns_keep (P := fun past s' => KeepsApart _ past (pacer s')) hnew ?_ calls
  intro past s' op w h
  exact h.moved hclock hlong (hpaced s' op w)

variable [Net.Network ω]

/-- **Two consecutive frames of a connection are an interval apart**, but for half a nanosecond:
whatever is asked of a camera that was never used, and whatever fails, on any clock that is never
early. -/
theorem interval_le_of_consecutive (hclock : SteadyClock ω) {settings : SourceSettings}
    (hrate : 0 < settings.rate) {camera : Camera ℚ} (hunused : Unused settings camera)
    {calls : List (Op × ω)} {f g : Frame ℚ} (hfg : Consecutive (turns camera calls) f g) :
    f.timestamp + Timeline.ofSpan (frameInterval settings.rate) ≤ g.timestamp + haste := by
  have hlong := haste_le_interval hrate
  cases hunused with
  | synthetic noise =>
    rw [turns_inl] at hfg
    let new : SyntheticSource ℚ := { SyntheticSource.ofSettings settings with noise }
    have hinterval : new.pacer.interval = frameInterval settings.rate := rfl
    have hapart := SyntheticSource.paced.keepsApart hclock (s := new) hlong calls
    rw [← hinterval]
    exact hapart.apart f g hfg
  | http decode =>
    rw [turns_inr] at hfg
    have hapart := HttpSource.paced.keepsApart hclock (s := .ofSettings settings decode) hlong calls
    exact hapart.apart f g hfg

end exact

/-! ### Rates that are kept -/

/-- Time does not run backwards from one call to the next. -/
def InOrder {ω : Type} [Clock ω ℚ] (past : List (Turn ω ℚ)) : Prop :=
  past.IsChain fun t u => (Clock.now t.ended).1 ≤ (Clock.now u.began).1

/-- **A gap is kept** at a rate and at times of some kind: in no run of any camera with that rate
are two consecutive frames of a connection closer. -/
def KeepsGap (rate : ℕ) (gap : ℚ) (stamped : ℚ → Prop) : Prop :=
  ∀ (ω : Type) [Clock ω ℚ] [Net.Network ω], SteadyClock ω →
    ∀ (settings : SourceSettings) (camera : Camera ℚ) (calls : List (Op × ω)) (f g : Frame ℚ),
      settings.rate = rate → Unused settings camera → InOrder (turns camera calls) →
      Consecutive (turns camera calls) f g → stamped f.timestamp → stamped g.timestamp →
      gap ≤ g.timestamp - f.timestamp

/-- **A rate is kept** if the gap is that it asks for. -/
def KeepsRate (rate : ℕ) (stamped : ℚ → Prop) : Prop := KeepsGap rate (1000 / (rate : ℚ)) stamped

section rates

variable {rate : ℕ} {gap : ℚ}

/-- A gap that ends before the interval by the haste is kept at all times. -/
theorem keepsGap_of_add_haste_le (hrate : 0 < rate)
    (hgap : gap + haste ≤ Timeline.ofSpan (frameInterval rate)) (stamped : ℚ → Prop) :
    KeepsGap rate gap stamped := by
  rintro ω _ _ hclock settings camera calls f g rfl hunused - hfg - -
  have hapart := interval_le_of_consecutive hclock hrate hunused hfg
  linarith

/-- The interval itself is kept by clocks that count nanoseconds. -/
theorem keepsGap_of_le (hrate : 0 < rate) (hgap : gap ≤ Timeline.ofSpan (frameInterval rate)) :
    KeepsGap rate gap Whole := by
  rintro ω _ _ hclock settings camera calls f g rfl hunused - hfg hf hg
  have hapart := interval_le_of_consecutive hclock hrate hunused hfg
  have hexact := (hf.add (whole_interval hrate)).le_of_le_add hg hapart
  linarith

/-! ### The least time between two frames -/

/-- The clock of a simulated world is steady. -/
theorem Simulation.World.steady : SteadyClock (Simulation.World ℚ) where
  reads _ := le_refl _
  sleeps _ _ := le_refl _

/-- A world without servers at some time. -/
def quietAt (ms : ℚ) : Simulation.World ℚ := { clock := { now := ms } }

/-- So many frames a second, of one pixel. -/
def pixelSettings (rate : ℕ) : SourceSettings := { rate, width := 1, height := 1 }

/-- A camera that makes up such frames. -/
def pixelCamera (rate : ℕ) : Camera ℚ := .inl (.ofSettings (pixelSettings rate))

/-- It was never used. -/
theorem unused_pixelCamera (rate : ℕ) : Unused (pixelSettings rate) (pixelCamera rate) :=
  .synthetic fun _ => 0

/-- The camera is connected and asked for two frames, the second one at some time. -/
def twoFrames (ms : ℚ) : List (Op × Simulation.World ℚ) :=
  [(.connect, quietAt 0), (.next, quietAt 0), (.next, quietAt ms)]

/-- What is due is waited for in one sleep. -/
theorem wait_quietAt {p : Pacer ℚ} {due ms : ℚ} (hdue : p.nextDue = some due) (hms : ms < due) :
    (p.wait (quietAt ms)).1 = ms + Timeline.ofSpan (Timeline.toSpan (due - ms)) := by
  have hearly : (Clock.now (quietAt ms)).1 < due := hms
  unfold Pacer.wait Pacer.sleepUntil
  simp only [hdue]
  rw [if_pos hearly]
  rfl

/-- The first frame comes at once, and the second one when it was waited for. -/
theorem exists_consecutive (rate : ℕ) {ms : ℚ} (h0 : 0 ≤ ms)
    (hms : ms < Timeline.ofSpan (frameInterval rate)) :
    ∃ f g, InOrder (turns (pixelCamera rate) (twoFrames ms)) ∧
      Consecutive (turns (pixelCamera rate) (twoFrames ms)) f g ∧ f.timestamp = 0 ∧
      g.timestamp = ms +
        Timeline.ofSpan (Timeline.toSpan (Timeline.ofSpan (frameInterval rate) - ms)) := by
  let new : SyntheticSource ℚ := .ofSettings (pixelSettings rate)
  let connected : SyntheticSource ℚ := { new with connectedAt := some 0, pacer := new.pacer.reset }
  have hconnect : new.connect (quietAt 0) = (.ok (), connected, quietAt 0) := if_neg nofun
  have hroom : 1 * 1 * 3 < octetLimit := by decide
  obtain ⟨f, hf, hftime, -⟩ :=
    SyntheticSource.next_of_connected (s := connected) rfl hroom (quietAt 0)
  have hftime : f.timestamp = 0 := hftime
  obtain ⟨g, hg, hgtime, -⟩ := SyntheticSource.next_of_connected
    (s := { connected with
      pacer := connected.pacer.claim f.timestamp
      scene := connected.nextScene
      frameCount := connected.frameCount + 1 }) rfl hroom (quietAt ms)
  have hdue : (connected.pacer.claim f.timestamp).nextDue =
      some (Timeline.ofSpan (frameInterval rate)) := by
    unfold Pacer.claim
    rw [hftime, zero_add]
    rfl
  rw [wait_quietAt hdue hms] at hgtime
  have hturns : turns (pixelCamera rate) (twoFrames ms) =
      [⟨quietAt 0, .connected, quietAt 0⟩, ⟨quietAt 0, .delivered f, quietAt 0⟩,
        ⟨quietAt ms, .delivered g,
          ((connected.pacer.claim f.timestamp).wait (quietAt ms)).2.2⟩] := by
    unfold pixelCamera twoFrames
    rw [turns_inl]
    show turns new _ = _
    simp only [turns, turn, SyntheticSource.perform_connect, SyntheticSource.perform_next, hconnect,
      hf, hg]
    rfl
  rw [hturns]
  refine ⟨f, g, ?_, ?_, hftime, hgtime⟩
  · exact .cons_cons (le_refl _) (.cons_cons h0 (.singleton _))
  · exact ⟨_, _, [], rfl, rfl, [_], _, [], rfl, rfl, nofun⟩

/-- Asked for at once, the second frame comes exactly after the interval. -/
theorem exists_interval_apart (hrate : 0 < rate) :
    ∃ f g, InOrder (turns (pixelCamera rate) (twoFrames 0)) ∧
      Consecutive (turns (pixelCamera rate) (twoFrames 0)) f g ∧ f.timestamp = 0 ∧
      g.timestamp = Timeline.ofSpan (frameInterval rate) := by
  have hone := one_le_interval hrate
  obtain ⟨f, g, horder, hfg, hf, hg⟩ := exists_consecutive rate (le_refl (0 : ℚ)) (by linarith)
  refine ⟨f, g, horder, hfg, hf, ?_⟩
  rw [hg, zero_add, sub_zero, ofSpan_frameInterval hrate, Exact.ofSpan_toSpan_natCast]

/-- So no larger gap is kept, not even if nanoseconds are counted. -/
theorem le_interval_of_keepsGap (hrate : 0 < rate) (hkeeps : KeepsGap rate gap Whole) :
    gap ≤ Timeline.ofSpan (frameInterval rate) := by
  obtain ⟨f, g, horder, hfg, hf, hg⟩ := exists_interval_apart hrate
  have hgap := hkeeps _ Simulation.World.steady _ _ _ f g rfl (unused_pixelCamera rate) horder hfg
    (by rw [hf]; exact whole_natCast 0) (by rw [hg]; exact whole_interval hrate)
  rw [hf, hg] at hgap
  linarith

/-- The interval is as long as the rate asks for, or longer, exactly if the rate divides a thousand
or is above a thousand. -/
theorem le_interval_iff (hrate : 0 < rate) :
    1000 / (rate : ℚ) ≤ Timeline.ofSpan (frameInterval rate) ↔ rate ∣ 1000 ∨ 1000 < rate := by
  constructor
  · intro hle
    by_contra! hnot
    exact absurd hle (not_le.mpr (interval_lt hrate hnot.2 hnot.1))
  · rintro (hdvd | hfast)
    · exact (interval_of_dvd hdvd).ge
    · have hhaste : 0 ≤ haste := by norm_num [haste]
      exact (le_add_of_nonneg_right hhaste).trans (add_haste_le_interval hfast)

/-- Up to a thousand frames a second no rate is kept on finer clocks: a sleep that is rounded down
ends early. -/
theorem not_keepsRate_of_slow (hrate : 0 < rate) (hslow : rate ≤ 1000) :
    ¬KeepsRate rate fun _ => True := by
  intro hkeeps
  have hinterval := interval_of_slow hrate hslow
  have hone := one_le_interval hrate
  rw [hinterval] at hone
  obtain ⟨f, g, horder, hfg, hf, hg⟩ := exists_consecutive rate
    (show (0 : ℚ) ≤ 3 / 5000000 by norm_num) (by rw [hinterval]; linarith)
  have hgap := hkeeps _ Simulation.World.steady _ _ _ f g rfl (unused_pixelCamera rate) horder hfg
    trivial trivial
  have hle := interval_le hrate hslow
  rw [hinterval] at hle
  rw [hf, hg, hinterval, Exact.ofSpan_toSpan_sub (by exact_mod_cast hone)] at hgap
  linarith

/-- **A camera keeps to its rate in full exactly if the rate divides a thousand or is above a
thousand.**  This is so on clocks that count nanoseconds; on finer clocks only rates above a
thousand are kept. -/
theorem keepsRate_iff (hrate : 0 < rate) :
    (KeepsRate rate Whole ↔ rate ∣ 1000 ∨ 1000 < rate) ∧
      (KeepsRate rate (fun _ => True) ↔ 1000 < rate) := by
  refine ⟨?_, ?_, ?_⟩
  · rw [← le_interval_iff hrate]
    exact ⟨le_interval_of_keepsGap hrate, keepsGap_of_le hrate⟩
  · intro hkeeps
    by_contra! hslow
    exact not_keepsRate_of_slow hrate hslow hkeeps
  · intro hfast
    exact keepsGap_of_add_haste_le hrate (add_haste_le_interval hfast) _

/-- **Two consecutive frames are never closer than the interval of the rate**: the milliseconds of a
second divided by the rate, rounded down, and at least one.  On clocks that count nanoseconds this
is the largest gap that is kept; on finer clocks a sleep is rounded, and the gap may be shorter by
half a nanosecond.  It is all that the rate asks for exactly if the rate divides a thousand or is
above a thousand. -/
theorem keepsGap_iff (hrate : 0 < rate) :
    (∀ gap : ℚ, KeepsGap rate gap Whole ↔ gap ≤ (max (1000 / rate) 1 : ℕ)) ∧
      KeepsGap rate ((max (1000 / rate) 1 : ℕ) - haste) (fun _ => True) ∧
      (KeepsRate rate Whole ↔ rate ∣ 1000 ∨ 1000 < rate) ∧
      (KeepsRate rate (fun _ => True) ↔ 1000 < rate) := by
  rw [← ofSpan_frameInterval hrate]
  refine ⟨fun gap => ?_, ?_, keepsRate_iff hrate⟩
  · exact ⟨le_interval_of_keepsGap hrate, keepsGap_of_le hrate⟩
  · exact keepsGap_of_add_haste_le hrate (sub_add_cancel _ _).le _

/-- Thirty frames a second are 33 milliseconds apart and no more, which is less than the rate says;
that it is kept by clocks that count nanoseconds is so at twenty-five. -/
theorem gaps_at_thirty_and_twenty_five :
    0 < 30 ∧ KeepsGap 30 33 Whole ∧ ¬KeepsGap 30 34 Whole ∧ ¬KeepsRate 30 Whole ∧
      0 < 25 ∧ KeepsRate 25 Whole ∧ ¬KeepsRate 25 fun _ => True := by
  obtain ⟨hgap, -, hwhole, -⟩ := keepsGap_iff (show 0 < 30 by norm_num)
  obtain ⟨-, -, hwhole', hfine⟩ := keepsGap_iff (show 0 < 25 by norm_num)
  refine ⟨by norm_num, (hgap 33).mpr (by norm_num), mt (hgap 34).mp (by norm_num), ?_,
    by norm_num, hwhole'.mpr (Or.inl (by norm_num)), mt hfine.mp (by norm_num)⟩
  rw [hwhole]
  norm_num

/-- **Thirty frames a second come faster than the rate says**: two consecutive frames of a
connection are 33 milliseconds apart. -/
theorem too_fast_at_thirty :
    ∃ f g, Unused (pixelSettings 30) (pixelCamera 30) ∧
      InOrder (turns (pixelCamera 30) (twoFrames 0)) ∧
      Consecutive (turns (pixelCamera 30) (twoFrames 0)) f g ∧
      g.timestamp - f.timestamp = 33 ∧ (33 : ℚ) < 1000 / 30 := by
  obtain ⟨f, g, horder, hfg, hf, hg⟩ := exists_interval_apart (show 0 < 30 by norm_num)
  refine ⟨f, g, unused_pixelCamera 30, horder, hfg, ?_, by norm_num⟩
  rw [hf, hg, interval_of_slow (by norm_num) (by norm_num)]
  norm_num

end rates

end Lookout
