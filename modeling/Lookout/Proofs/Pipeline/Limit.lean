import Lookout.Proofs.Pipeline.Conduct
import Lookout.Simulation.Replay
/-!
# Runs with a limit

A run with a limit looks at the number of its frames after each frame that it renders, and at no
other time.  So it renders as many frames as the limit allows, and one if the limit is zero.

* `Pipeline.Limited` says what the limit does to a run.  It is an invariant of the iterations: a
  frame that does not reach the limit leaves a run with one frame less to render
  (`Limited.of_frame`), and otherwise the run has no use for the limit (`limited_of_same`) or ends
  there.
* A run that is ended by its limit is told by the end of its course (`EndsAtLimit`); one that is not
  is the same as without a limit.
* **A run with a limit renders at most so many frames if the limit is at least one, and exactly so
  many if the limit ends it**: `Pipeline.frames_within_limit`.
-/

namespace Lookout.Pipeline

/-! ### The end of a course -/

/-- A run is ended by its limit: its last iteration is followed by the end of the session and by
nothing else. -/
def EndsAtLimit (course : List Deed) : Prop := [.iterated, .closed] <:+ course

/-- Where no iteration was made the limit was not reached. -/
theorem not_endsAtLimit_of_iterations {course : List Deed} (h : iterations course = 0) :
    ¬ EndsAtLimit course := by
  rintro ⟨before, hcourse⟩
  have hcount : iterations (before ++ [.iterated, .closed]) = 0 := by
    rw [hcourse]
    exact h
  rw [iterations_append, iterations_iterated] at hcount
  omega

/-- A run whose last deed is an iteration was not ended by its limit. -/
theorem not_endsAtLimit_iterated (course : List Deed) : ¬ EndsAtLimit (course ++ [.iterated]) := by
  rintro ⟨before, hcourse⟩
  have hlast := congrArg List.getLast? hcourse
  simp at hlast

/-- If commands arrive, the end of the run comes after them. -/
theorem endsAtLimit_append_arrived {first rest : List Deed} {batch : List Command} :
    EndsAtLimit (first ++ .arrived batch :: rest) ↔ EndsAtLimit rest := by
  constructor
  · intro h
    have hrest : Deed.arrived batch :: rest <:+ first ++ .arrived batch :: rest :=
      List.suffix_append _ _
    rcases List.suffix_or_suffix_of_suffix h hrest with hwithin | hshort
    · rcases List.suffix_cons_iff.mp hwithin with heq | hlater
      · cases heq
      · exact hlater
    · -- What is left would be no longer than the two last deeds.
      rcases List.suffix_cons_iff.mp hshort with heq | hlater
      · cases heq
      · rcases List.suffix_cons_iff.mp hlater with heq | hnone
        · cases heq
        · cases List.suffix_nil.mp hnone
  · intro h
    exact h.trans ((List.suffix_cons _ _).trans (List.suffix_append _ _))

variable {σ κ δ ω : Type} [FrameSource κ ω Float] [Surface σ] [DetectionService δ ω]

/-! ### Frames and iterations -/

omit [FrameSource κ ω Float] [Surface σ] [DetectionService δ ω] in
/-- One operation gives back the account of one frame at most. -/
theorem framesIn_cons_le (x : Op κ × Answer) (rest : List (Op κ × Answer)) :
    framesIn (x :: rest) ≤ framesIn rest + 1 := by
  unfold framesIn
  rw [List.countP_cons]
  refine Nat.add_le_add_left ?_ _
  split
  · exact Nat.le_refl 1
  · exact Nat.zero_le 1

/-- There are at most as many frames as iterations. -/
theorem framesIn_le_iterations (course : List Deed) (p : Pipeline σ κ δ) (w : ω) :
    framesIn (runWith perform (asked course) p w).1 ≤ iterations course := by
  induction course generalizing p w with
  | nil => exact Nat.le_refl 0
  | cons d course ih =>
    cases d with
    | arrived batch => exact ih p w
    | took c =>
      rw [asked_took]
      unfold runWith
      rcases hact : perform c.op p w with fault | ⟨answer, q, v⟩
      · exact Nat.zero_le _
      · show framesIn ((c.op, answer) :: _) ≤ _
        rw [framesIn_command hact]
        exact ih q v
    | iterated =>
      rw [asked_iterated, iterations_iterated]
      unfold runWith
      rcases perform .step p w with fault | ⟨answer, q, v⟩
      · exact Nat.zero_le _
      · exact Nat.le_trans (framesIn_cons_le _ _) (Nat.add_le_add_right (ih q v) 1)
    | closed =>
      rw [asked_closed]
      exact ih (p.stop w).1 (p.stop w).2

/-! ### What a limit does -/

/-- What a limit of `most` frames does to a run that has rendered `rendered` frames before. -/
structure Limited (most fuel rendered : Nat) (p : Pipeline σ κ δ) (i : Inbox) (w : ω)
    (r : List Deed × Except Fault (RunEnd × Pipeline σ κ δ × Inbox × ω)) : Prop where
  /-- As many iterations are made as there are frames left, and one if there are none. -/
  iterations : Pipeline.iterations r.1 ≤ max (most - rendered) 1
  /-- If the limit ends the run, there are as many frames as it allows. -/
  ending : EndsAtLimit r.1 → ∃ q j v, r.2 = .ok (.finished (max most (rendered + 1)), q, j, v)
  /-- If it does not, there might as well be no limit. -/
  unlimited : ¬ EndsAtLimit r.1 → runNoting none fuel rendered p i w = r
  /-- The run is cut off only before the limit. -/
  unfinished : ∀ n q j v, r.2 = .ok (.unfinished n, q, j, v) → fuel < max (most - rendered) 1

section

variable {most fuel rendered : Nat} {p q q' : Pipeline σ κ δ} {i j : Inbox} {w v v' : ω}
  {course : List Deed} {r : List Deed × Except Fault (RunEnd × Pipeline σ κ δ × Inbox × ω)}

/-- A run that makes one iteration at most, and is not ended by its limit, has no use for it. -/
theorem limited_of_same (hcount : Pipeline.iterations r.1 ≤ 1) (hlimit : ¬ EndsAtLimit r.1)
    (hend : ∀ n q j v, r.2 = .ok (.unfinished n, q, j, v) → fuel = 0)
    (hsame : runNoting none fuel rendered p i w = r) : Limited most fuel rendered p i w r := by
  constructor
  case iterations => exact Nat.le_trans hcount (Nat.le_max_right _ _)
  case ending =>
    intro h
    exact absurd h hlimit
  case unlimited =>
    intro _
    exact hsame
  case unfinished =>
    intro n q j v h
    rw [hend n q j v h]
    exact Nat.lt_of_lt_of_le Nat.zero_lt_one (Nat.le_max_right _ _)

/-- A run is over before the first iteration. -/
theorem limited_of_over (hnone : Pipeline.iterations r.1 = 0)
    (hend : ∀ n q j v, r.2 ≠ .ok (.unfinished n, q, j, v))
    (hsame : runNoting none fuel rendered p i w = r) : Limited most fuel rendered p i w r := by
  refine limited_of_same ?_ (not_endsAtLimit_of_iterations hnone) ?_ hsame
  · rw [hnone]
    exact Nat.zero_le 1
  · intro n q j v h
    exact absurd h (hend n q j v)

/-- An iteration without a frame is the last one. -/
theorem limited_of_last {outcome : Except Fault (RunEnd × Pipeline σ κ δ × Inbox × ω)}
    (hnone : Pipeline.iterations course = 0)
    (hend : ∀ n q j v, outcome ≠ .ok (.unfinished n, q, j, v))
    (hsame : runNoting none fuel rendered p i w = noting (course ++ [.iterated]) ([], outcome)) :
    Limited most fuel rendered p i w (noting (course ++ [.iterated]) ([], outcome)) := by
  have hcourse : (noting (course ++ [.iterated]) ([], outcome)).1 = course ++ [.iterated] :=
    List.append_nil _
  refine limited_of_same ?_ ?_ ?_ hsame
  · rw [hcourse, iterations_append, hnone]
    exact Nat.le_refl 1
  · rw [hcourse]
    exact not_endsAtLimit_iterated course
  · intro n q j v h
    exact absurd h (hend n q j v)

/-- The limit is reached with a frame. -/
theorem limited_of_reached (hnone : Pipeline.iterations course = 0) (hmost : most ≤ rendered + 1) :
    Limited most fuel rendered p i w
      (noting (course ++ [.iterated]) ([.closed], .ok (.finished (rendered + 1), q, j, v))) := by
  have hends : EndsAtLimit (course ++ [.iterated] ++ [.closed]) := ⟨course, by simp⟩
  constructor
  case iterations =>
    show Pipeline.iterations (course ++ [.iterated] ++ [.closed]) ≤ _
    rw [iterations_append, iterations_append, hnone]
    exact Nat.le_max_right _ _
  case ending =>
    intro _
    rw [Nat.max_eq_right hmost]
    exact ⟨q, j, v, rfl⟩
  case unlimited =>
    intro h
    exact absurd hends h
  case unfinished =>
    intro n q' j' v' h
    cases h

/-- A frame does not reach the limit, and the run goes on. -/
theorem Limited.of_frame (hnone : Pipeline.iterations course = 0) (hmost : ¬ most ≤ rendered + 1)
    (hrest : Limited most fuel (rendered + 1) q' j.receive v' r)
    (hsame : runNoting none (fuel + 1) rendered p i w =
      noting (course ++ [.iterated]) (noting [.arrived j.arriving]
        (runNoting none fuel (rendered + 1) q' j.receive v'))) :
    Limited most (fuel + 1) rendered p i w
      (noting (course ++ [.iterated]) (noting [.arrived j.arriving] r)) := by
  have hends : EndsAtLimit (course ++ [.iterated] ++ ([.arrived j.arriving] ++ r.1)) ↔
      EndsAtLimit r.1 := endsAtLimit_append_arrived
  constructor
  case iterations =>
    have hlater := hrest.iterations
    have hone : Pipeline.iterations [.arrived j.arriving] = 0 := rfl
    have htwo : Pipeline.iterations [.iterated] = 1 := rfl
    show Pipeline.iterations (course ++ [.iterated] ++ ([.arrived j.arriving] ++ r.1)) ≤ _
    rw [iterations_append, iterations_append, iterations_append, hnone, hone, htwo]
    omega
  case ending =>
    intro h
    obtain ⟨q, j, v, hend⟩ := hrest.ending (hends.mp h)
    refine ⟨q, j, v, ?_⟩
    rw [show max most (rendered + 1) = max most (rendered + 1 + 1) by omega]
    exact hend
  case unlimited =>
    intro h
    rw [hsame, hrest.unlimited fun hlimit => h (hends.mpr hlimit)]
  case unfinished =>
    intro n q j v h
    have hlater := hrest.unfinished n q j v h
    omega

end

/-- **What a limit does to a run.** -/
theorem runNoting_limited (most fuel rendered : Nat) (p : Pipeline σ κ δ) (i : Inbox) (w : ω) :
    Limited most fuel rendered p i w (runNoting (some most) fuel rendered p i w) := by
  induction fuel generalizing rendered p i w with
  | zero =>
    refine limited_of_same (Nat.zero_le 1) (not_endsAtLimit_of_iterations rfl) ?_ rfl
    intro _ _ _ _ _
    rfl
  | succ fuel ih =>
    have hobeyed := obeyNoting_obeyed p i w
    unfold runNoting
    rcases hobey : p.obeyNoting i w with ⟨course, fault | ⟨_ | ⟨_ | e⟩, q, j, v⟩⟩
    all_goals
      rw [hobey] at hobeyed
      have hnone : Pipeline.iterations course = 0 := hobeyed.apart
      dsimp only
    · refine limited_of_over hnone ?_ ?_
      · intro n q j v h
        cases h
      · simp only [runNoting, hobey]
    · rcases hstep : q.step v with fault | ⟨e | _ | report, q', v'⟩
      · refine limited_of_last hnone ?_ ?_
        · intro n q j v h
          cases h
        · simp only [runNoting, hobey, hstep]
      · refine limited_of_last hnone ?_ ?_
        · intro n q j v h
          cases h
        · simp only [runNoting, hobey, hstep]
      · exact absurd hstep (step_ne_none (hobeyed.ready q j v rfl).1 v v')
      · dsimp only
        by_cases hmost : most ≤ rendered + 1
        · rw [if_pos hmost]
          exact limited_of_reached hnone hmost
        · rw [if_neg hmost]
          refine Limited.of_frame hnone hmost (ih (rendered + 1) q' j.receive v') ?_
          simp only [runNoting, hobey, hstep]
    · refine limited_of_over hnone ?_ ?_
      · intro n q j v h
        cases h
      · simp only [runNoting, hobey]
    · refine limited_of_over hnone ?_ ?_
      · intro n q j v h
        cases h
      · simp only [runNoting, hobey]

/-- A limit of one, or of zero, is reached with the first frame. -/
theorem runNoting_of_first_frame {most : Nat} (hmost : most ≤ 1) {p q : Pipeline σ κ δ} {w v : ω}
    {report : IterationReport} (hrunning : p.isRunning = true)
    (hstep : p.step w = .ok (.ok (some report), q, v)) (fuel : Nat) (later : List (List Command)) :
    runNoting (some most) (fuel + 1) 0 p ⟨[], later⟩ w =
      ([.iterated, .closed], .ok (.finished 1, (q.stop v).1, ⟨[], later⟩, (q.stop v).2)) := by
  unfold runNoting
  rw [obeyNoting_of_running hrunning]
  dsimp only
  rw [hstep]
  dsimp only
  rw [if_pos hmost]
  rfl

/-- **A run with a limit renders as many frames as the limit allows, and one if it is zero.**
Whatever the state of the pipeline is and whatever the commands, the sources and the service do,
the frames of a run are no more than its limit if and only if the limit is at least one or there are
none.  If the limit ends the run, there are as many as the limit, but at least one, and the run gives
back their number; if it does not, the run is the same as without a limit.  It is never cut off when
so many iterations may be made. -/
theorem frames_within_limit (most fuel : Nat) (p : Pipeline σ κ δ) (i : Inbox) (w : ω) :
    let r := runNoting (some most) fuel 0 p i w
    let frames := framesIn (runWith perform (asked r.1) p w).1
    r.2 = run (some most) fuel 0 p i w ∧
      (frames ≤ most ↔ 1 ≤ most ∨ frames = 0) ∧
      (EndsAtLimit r.1 → frames = max most 1 ∧
        ∃ q j v, r.2 = .ok (.finished frames, q, j, v)) ∧
      (¬ EndsAtLimit r.1 → runNoting none fuel 0 p i w = r) ∧
      (max most 1 ≤ fuel → ∀ n q j v, r.2 ≠ .ok (.unfinished n, q, j, v)) := by
  intro r frames
  have hlimited : Limited most fuel 0 p i w r := runNoting_limited most fuel 0 p i w
  have hconducted : Conducted fuel 0 p i w r := runNoting_conducted _ _ _ _ _ _
  have hframes : frames ≤ max most 1 :=
    Nat.le_trans (framesIn_le_iterations r.1 p w) hlimited.iterations
  refine ⟨runNoting_snd _ _ _ _ _ _, ?_, ?_, hlimited.unlimited, ?_⟩
  · omega
  · intro hends
    obtain ⟨q, j, v, hend⟩ := hlimited.ending hends
    have hcount : max most (0 + 1) = frames := hconducted.framesIn_eq hend
    rw [hcount] at hend
    exact ⟨hcount.symm, q, j, v, hend⟩
  · intro hfuel n q j v hend
    exact absurd (hlimited.unfinished n q j v hend) (Nat.not_lt.mpr hfuel)

open Simulation in
/-- A camera has a frame, and the limit is one. -/
theorem one_frame_within_limit :
    let frame : Frame Float := ⟨.fill 1 1 ⟨200, 0, 0⟩, 0.0, ⟨1, 0.0, 0.0, 1, 1, "camera"⟩⟩
    let camera : Pipeline Recorder (ReplaySource Float) Detector :=
      { catalog := ⟨[]⟩, settings := { format := .png }, sourceOf := fun _ => .error .streamEnded,
        detector := .stub 0, renderer := { surface := {} } }
    let w : World Float := World.start []
    let opened := (camera.startWith "camera" { outcomes := [.ok frame, .ok frame] } w).2
    let r := runNoting (some 1) 2 0 opened.1 (.ofList []) opened.2
    EndsAtLimit r.1 ∧ framesIn (runWith perform (asked r.1) opened.1 opened.2).1 = 1 ∧
      ∀ n q j v, r.2 ≠ .ok (.unfinished n, q, j, v) := by
  intro frame camera w opened r
  have hends : EndsAtLimit r.1 := by
    obtain ⟨report, q, v, hstep⟩ :
        ∃ report q v, opened.1.step opened.2 = .ok (.ok (some report), q, v) := ⟨_, _, _, rfl⟩
    have hcourse : r.1 = [.iterated, .closed] :=
      congrArg Prod.fst (runNoting_of_first_frame (Nat.le_refl 1) rfl hstep 1 [])
    rw [hcourse]
    exact List.suffix_rfl
  obtain ⟨-, -, hending, -, hunfinished⟩ :=
    frames_within_limit 1 2 opened.1 (.ofList []) opened.2
  exact ⟨hends, (hending hends).1, hunfinished (by decide)⟩

open Simulation in
/-- With a limit of zero a frame is rendered as well. -/
theorem zero_limit_renders_one :
    let frame : Frame Float := ⟨.fill 1 1 ⟨200, 0, 0⟩, 0.0, ⟨1, 0.0, 0.0, 1, 1, "camera"⟩⟩
    let camera : Pipeline Recorder (ReplaySource Float) Detector :=
      { catalog := ⟨[]⟩, settings := { format := .png }, sourceOf := fun _ => .error .streamEnded,
        detector := .stub 0, renderer := { surface := {} } }
    let w : World Float := World.start []
    let opened := (camera.startWith "camera" { outcomes := [.ok frame] } w).2
    let r := runNoting (some 0) 1 0 opened.1 (.ofList []) opened.2
    framesIn (runWith perform (asked r.1) opened.1 opened.2).1 = 1 ∧
      ∃ q j v, run (some 0) 1 0 opened.1 (.ofList []) opened.2 = .ok (.finished 1, q, j, v) := by
  intro frame camera w opened r
  obtain ⟨report, q, v, hstep⟩ :
      ∃ report q v, opened.1.step opened.2 = .ok (.ok (some report), q, v) := ⟨_, _, _, rfl⟩
  have hrun : runNoting (some 0) 1 0 opened.1 (.ofList []) opened.2 =
      ([.iterated, .closed], .ok (.finished 1, (q.stop v).1, .ofList [], (q.stop v).2)) :=
    runNoting_of_first_frame (Nat.zero_le 1) rfl hstep 0 []
  have hcourse : r.1 = [.iterated, .closed] := congrArg Prod.fst hrun
  rw [← runNoting_snd, hrun, hcourse]
  exact ⟨rfl, _, _, _, rfl⟩

end Lookout.Pipeline
