import Lookout.Proofs.Capture.Cameras
import Lookout.Simulation.World
/-!
# The numbers of frames

Every frame carries a number, which is to say how many frames its source has delivered with it.  A
source counts from when it was made, not from when it was connected:

* **Frames are numbered from one on, through all connections** (`numbers_eq`), whatever fails in
  between: the numbers of the frames that were delivered are 1, 2, 3 and so on.
* **A connection's frames are numbered from one on exactly if no frame came before it**
  (`numbered_since_creation`); that this can fail is `second_connection_begins_at_two`.

`Counts` says what one call does to the count, and the numbers follow by induction.
-/

namespace Lookout.Capture

section counts

variable {σ ω τ : Type} [FrameSource σ ω τ]

/-- A source that numbers each frame by its own count, and counts nothing but frames. -/
structure Counts (ω : Type) [FrameSource σ ω τ] (count : σ → Nat) : Prop where
  /-- The next number is given to a frame. -/
  number : ∀ (s : σ) (w : ω) (op : Op) (frame : Frame τ),
    (op.perform s w).1.frame? = some frame → frame.metadata.presentedFrames = count s + 1
  /-- A frame is counted. -/
  counted : ∀ (s : σ) (w : ω) (op : Op),
    count (op.perform s w).2.1 = count s + (op.perform s w).1.frame?.toList.length

/-- The numbers of the frames that were delivered, in order. -/
def numbersOf {ω : Type} (past : List (Turn ω τ)) : List Nat :=
  (framesOf past).map (·.metadata.presentedFrames)

/-- **Frames are numbered from one on**, through all connections and whatever fails in between. -/
theorem numbers_eq {count : σ → Nat} (h : Counts ω count) {s : σ} (hnew : count s = 0)
    (calls : List (Op × ω)) :
    numbersOf (turns s calls) = List.range' 1 (framesOf (turns s calls)).length := by
  let P : List (Turn ω τ) → σ → Prop := fun past s =>
    numbersOf past = List.range' 1 (framesOf past).length ∧ count s = (framesOf past).length
  have hall : P (turns s calls) (sourceAfter s calls) := by
    apply turns_keep (P := P) ⟨rfl, hnew⟩
    rintro past s op w ⟨hnumbers, hcount⟩
    have hevent := event_turn s op w
    have hcounted := h.counted s w op
    show numbersOf _ = List.range' 1 (framesOf _).length ∧ _ = (framesOf _).length
    unfold numbersOf at hnumbers ⊢
    rw [framesOf_snoc, hevent, hcounted, List.length_append, hcount]
    refine ⟨?_, rfl⟩
    cases hframe : (op.perform s w).1.frame? with
    | none => simpa using hnumbers
    | some frame =>
      have hnumber := h.number s w op frame hframe
      rw [hcount] at hnumber
      rw [Option.toList_some, List.length_singleton, List.map_append, hnumbers, List.range'_concat]
      simp [hnumber, Nat.add_comm]
  exact hall.1

/-- The number of a frame by its place since some point of the record. -/
theorem number_of_numbers {ω : Type} {past before since : List (Turn ω τ)} {n : Nat}
    {frame : Frame τ} (hnumbers : numbersOf past = List.range' 1 (framesOf past).length)
    (hsplit : framesOf past = framesOf before ++ framesOf since)
    (hframe : (framesOf since)[n]? = some frame) :
    frame.metadata.presentedFrames = (framesOf before).length + (n + 1) := by
  have hplace : (framesOf past)[(framesOf before).length + n]? = some frame := by
    rw [hsplit, List.getElem?_append_right (Nat.le_add_right _ _), Nat.add_sub_cancel_left]
    exact hframe
  have hlt := (List.getElem?_eq_some_iff.mp hplace).1
  have hnumber : (numbersOf past)[(framesOf before).length + n]? =
      some frame.metadata.presentedFrames := by
    unfold numbersOf
    rw [List.getElem?_map, hplace]
    rfl
  rw [hnumbers, List.getElem?_range' hlt, Option.some.injEq] at hnumber
  omega

end counts

section cameras

variable {ω τ : Type} [Timeline τ] [Clock ω τ] [Net.Network ω]

omit [Net.Network ω] in
/-- Cameras that make their frames up count them. -/
theorem counts_synthetic : Counts ω (SyntheticSource.frameCount (τ := τ)) where
  number s w op frame hframe := by
    have hstep := SyntheticSource.step s w op
    rw [Event.frame?_eq_some_iff] at hframe
    rw [hframe] at hstep
    generalize (op.perform s w).2.1 = s' at hstep
    cases hstep with
    | delivered _ _ hnumber => exact hnumber
  counted s w op := by
    have hstep := SyntheticSource.step s w op
    generalize (op.perform s w).1 = e, (op.perform s w).2.1 = s' at hstep
    cases hstep <;> rfl

/-- Cameras on the network count the frames that they deliver. -/
theorem counts_http : Counts ω (HttpSource.frameCount (τ := τ)) where
  number s w op frame hframe := by
    have hstep := HttpSource.step s w op
    rw [Event.frame?_eq_some_iff] at hframe
    rw [hframe] at hstep
    generalize (op.perform s w).2.1 = s' at hstep
    cases hstep with
    | delivered _ _ _ _ hnumber => exact hnumber
  counted s w op := by
    have hstep := HttpSource.step s w op
    generalize (op.perform s w).1 = e, (op.perform s w).2.1 = s' at hstep
    cases hstep with
    | stopped => exact HttpSource.frameCount_stop s
    | _ => rfl

/-- The frames of a camera that was never used are numbered from one on. -/
theorem Unused.numbers {settings : SourceSettings} {camera : Camera τ}
    (hunused : Unused settings camera) (calls : List (Op × ω)) :
    numbersOf (turns camera calls) = List.range' 1 (framesOf (turns camera calls)).length := by
  cases hunused with
  | synthetic noise =>
    rw [turns_inl]
    exact numbers_eq counts_synthetic rfl calls
  | http =>
    rw [turns_inr]
    exact numbers_eq counts_http rfl calls

/-- **A connection's frames are numbered from one on exactly if no frame came before it.**  Whatever
is asked of a camera that was never used, and whatever fails: the frames since the connection that
was made last carry the numbers that follow on the number of all frames before it. -/
theorem numbered_since_creation {settings : SourceSettings} {camera : Camera τ}
    (hunused : Unused settings camera) (calls : List (Op × ω)) {before since : List (Turn ω τ)}
    {c : Turn ω τ} (hlatest : Latest (turns camera calls) before c since) (n : Nat)
    {frame : Frame τ} (hframe : (framesOf since)[n]? = some frame) :
    frame.metadata.presentedFrames = (framesOf before).length + (n + 1) ∧
      (frame.metadata.presentedFrames = n + 1 ↔ framesOf before = []) := by
  have hnumber := number_of_numbers (hunused.numbers calls)
    (framesOf_of_split hlatest.split hlatest.connected) hframe
  refine ⟨hnumber, ?_⟩
  rw [hnumber, ← List.length_eq_zero_iff]
  omega

end cameras

/-! ### Two connections -/

/-- Ten frames a second, of one pixel. -/
def onePixelSettings : SourceSettings := { rate := 10, width := 1, height := 1 }

/-- A camera that makes up such frames. -/
def onePixel : Camera Float := .inl (.ofSettings onePixelSettings)

/-- It was never used. -/
theorem unused_onePixel : Unused onePixelSettings onePixel := .synthetic fun _ => 0

/-- So many calls, all in a world without servers whose clock stands still. -/
def callsAtStart (ops : List Op) : List (Op × Simulation.World Float) :=
  ops.map (·, Simulation.World.start [])

/-- The first frame of a second connection, which comes after a failure and after a frame, is the
second of all. -/
theorem second_connection_after_failure :
    let calls := callsAtStart [.next, .connect, .next, .stop, .next, .connect, .next]
    let past := turns onePixel calls
    ∃ c since frame, Latest past (past.take 5) c since ∧ (framesOf since)[0]? = some frame ∧
      frame.metadata.presentedFrames = 2 ∧
      (frame.metadata.presentedFrames = 1 ↔ framesOf (past.take 5) = []) := by
  intro calls past
  have hlatest : Latest past (past.take 5) past[5] (past.drop 6) :=
    ⟨rfl, rfl, by intro t ht; rw [List.mem_singleton.mp ht]; exact nofun⟩
  have hnumbered := numbered_since_creation unused_onePixel calls hlatest 0 rfl
  exact ⟨_, _, _, hlatest, rfl, hnumbered⟩

/-- **A second connection does not begin at one**: connected, asked for a frame and connected once
more, a camera gives the number 2 to the first frame since then. -/
theorem second_connection_begins_at_two :
    let past := turns onePixel (callsAtStart [.connect, .next, .connect, .next])
    ∃ before c since frame, Unused onePixelSettings onePixel ∧ Latest past before c since ∧
      (framesOf since)[0]? = some frame ∧ frame.metadata.presentedFrames = 2 := by
  intro past
  have hlatest : Latest past (past.take 2) past[2] (past.drop 3) :=
    ⟨rfl, rfl, by intro t ht; rw [List.mem_singleton.mp ht]; exact nofun⟩
  exact ⟨_, _, _, _, unused_onePixel, hlatest, rfl, rfl⟩

end Lookout.Capture
