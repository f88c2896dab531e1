import Lookout.Proofs.Pipeline.History
/-!
# The course of a run

A run takes commands, makes iterations and waits.  Its course is the list of what it does and of
what arrives meanwhile (`Deed`), in order.  `Pipeline.runNoting` is a run that takes down its
course; without the course it is the run itself (`runNoting_snd`), and a run that is not cut off
does not depend on how many iterations it might have made (`runNoting_add`).

* **A run does what its course asks for** (`Conducted.effect`): carrying out the operations of the
  course one after the other, by `Pipeline.carryOut`, leads where the run leads, and stops the
  program where the run stops it.
* **Commands are taken in order and between iterations** (`Conducted.order`,
  `Conducted.iterations`): those that were taken and those that are left are those that arrived, in
  their order, and when an iteration begins nothing is left of what has arrived by then, which is a
  batch at least for each iteration before it (`Begins.due`).

The laws of the commands before one iteration (`Obeyed`) follow the recursion of `Pipeline.obey`,
with one lemma for a command that is followed by more and one for each way to come to an end; those
of the whole run are by induction on the number of iterations.
-/

namespace Lookout

/-- What a command asks of a pipeline. -/
def Command.op {κ : Type} : Command → Pipeline.Op κ
  | .start constraints => .start constraints
  | .pause => .pause
  | .resume => .resume
  | .stop => .stop

namespace Pipeline

/-- Something that a run does, or that happens to it. -/
inductive Deed where
  /-- Commands arrive. -/
  | arrived (batch : List Command)
  /-- A command is taken and carried out. -/
  | took (c : Command)
  /-- An iteration is made. -/
  | iterated
  /-- The session is ended, since the run has nothing more to do. -/
  | closed

namespace Deed

/-- What a deed asks of the pipeline. -/
def op? {κ : Type} : Deed → Option (Op κ)
  | .arrived _ => none
  | .took c => some c.op
  | .iterated => some .step
  | .closed => some .stop

/-- The command that was taken. -/
def command? : Deed → Option Command
  | .took c => some c
  | _ => none

/-- The commands that arrived. -/
def batch : Deed → List Command
  | .arrived batch => batch
  | _ => []

/-- The deed is an iteration. -/
def isIteration : Deed → Bool
  | .iterated => true
  | _ => false

/-- Commands arrive. -/
def isArrival : Deed → Bool
  | .arrived _ => true
  | _ => false

end Deed

/-- The operations of a course. -/
def asked {κ : Type} (course : List Deed) : List (Op κ) := course.filterMap Deed.op?

/-- The commands that were taken in a course. -/
def taken (course : List Deed) : List Command := course.filterMap Deed.command?

/-- The commands that arrived in a course. -/
def arrived (course : List Deed) : List Command := course.flatMap Deed.batch

/-- How many iterations were made in a course. -/
def iterations (course : List Deed) : Nat := course.countP Deed.isIteration

/-- How often commands arrived in a course. -/
def arrivals (course : List Deed) : Nat := course.countP Deed.isArrival

section

variable {κ : Type} (first rest : List Deed)

@[simp] theorem asked_nil : (asked [] : List (Op κ)) = [] := rfl

theorem asked_took (c : Command) : (asked (.took c :: rest) : List (Op κ)) = c.op :: asked rest :=
  rfl

theorem asked_arrived (batch : List Command) :
    (asked (.arrived batch :: rest) : List (Op κ)) = asked rest := rfl

theorem asked_iterated : (asked (.iterated :: rest) : List (Op κ)) = .step :: asked rest := rfl

theorem asked_closed : (asked (.closed :: rest) : List (Op κ)) = .stop :: asked rest := rfl

theorem asked_append : (asked (first ++ rest) : List (Op κ)) = asked first ++ asked rest :=
  List.filterMap_append

theorem taken_append : taken (first ++ rest) = taken first ++ taken rest := List.filterMap_append

theorem arrived_append : arrived (first ++ rest) = arrived first ++ arrived rest :=
  List.flatMap_append

theorem iterations_append :
    iterations (first ++ rest) = iterations first + iterations rest := List.countP_append

theorem iterations_iterated : iterations (.iterated :: rest) = iterations rest + 1 :=
  List.countP_cons_of_pos rfl

theorem arrivals_append :
    arrivals (first ++ rest) = arrivals first + arrivals rest := List.countP_append

end

/-- Something was done before what was taken down. -/
def noting {α : Type} (before : List Deed) (r : List Deed × α) : List Deed × α :=
  (before ++ r.1, r.2)

variable {σ κ δ ω : Type} [FrameSource κ ω Float]

/-- Carry out the commands that have arrived, and take down what is done. -/
def obeyNoting (p : Pipeline σ κ δ) (i : Inbox) (w : ω) :
    List Deed × Except Fault (Readiness × Pipeline σ κ δ × Inbox × ω) :=
  match i with
  | ⟨.stop :: queue, later⟩ =>
    let (p, w) := p.stop w
    ([.took .stop], .ok (.over none, p, ⟨queue, later⟩, w))
  | ⟨.pause :: queue, later⟩ => noting [.took .pause] (obeyNoting p.pause ⟨queue, later⟩ w)
  | ⟨.resume :: queue, later⟩ => noting [.took .resume] (obeyNoting p.resume ⟨queue, later⟩ w)
  | ⟨.start constraints :: queue, later⟩ =>
    match p.start constraints w with
    | .error fault => ([.took (.start constraints)], .error fault)
    | .ok (.error e, p, w) =>
      ([.took (.start constraints)], .ok (.over (some e), p, ⟨queue, later⟩, w))
    | .ok (.ok (), p, w) => noting [.took (.start constraints)] (obeyNoting p ⟨queue, later⟩ w)
  | ⟨[], later⟩ =>
    if p.isRunning then ([], .ok (.ready, p, ⟨[], later⟩, w))
    else match later with
      | [] =>
        let (p, w) := p.stop w
        ([.closed], .ok (.over none, p, ⟨[], []⟩, w))
      | batch :: later => noting [.arrived batch] (obeyNoting p ⟨batch, later⟩ w)
termination_by i.measure
decreasing_by all_goals simp [Inbox.measure]; try omega

/-- Nothing is done before an iteration when frames are taken and no command has arrived. -/
theorem obeyNoting_of_running {p : Pipeline σ κ δ} (hrunning : p.isRunning = true)
    (later : List (List Command)) (w : ω) :
    p.obeyNoting ⟨[], later⟩ w = ([], .ok (.ready, p, ⟨[], later⟩, w)) := by
  rcases later with _ | ⟨batch, later⟩
  · rw [obeyNoting, if_pos hrunning]
  · rw [obeyNoting, if_pos hrunning]

/-- Taking things down changes nothing before an iteration. -/
theorem obeyNoting_snd (p : Pipeline σ κ δ) (i : Inbox) (w : ω) :
    (p.obeyNoting i w).2 = p.obey i w := by
  induction p, i, w using obey.induct with
  | case1 p w queue later q v hstop => rw [obeyNoting, obey]
  | case2 p w queue later ih =>
    rw [obeyNoting, obey]
    exact ih
  | case3 p w queue later ih =>
    rw [obeyNoting, obey]
    exact ih
  | case4 p w constraints queue later ih =>
    rw [obeyNoting, obey]
    rcases p.start constraints w with fault | ⟨e | _, q, v⟩
    · rfl
    · rfl
    · exact ih q v
  | case5 p w later hrunning =>
    rw [obeyNoting_of_running hrunning]
    rcases later with _ | ⟨batch, later⟩
    · rw [obey, if_pos hrunning]
    · rw [obey, if_pos hrunning]
  | case6 p w hidle q v hstop => rw [obeyNoting, obey, if_neg hidle, if_neg hidle]
  | case7 p w hidle batch later ih =>
    rw [obeyNoting, obey, if_neg hidle, if_neg hidle]
    exact ih

variable [Surface σ] [DetectionService δ ω]

/-! ### Carrying out operations -/

/-- Carry out operations one after the other. -/
def carryOut : List (Op κ) → Pipeline σ κ δ → ω → Except Fault (Pipeline σ κ δ × ω)
  | [], p, w => .ok (p, w)
  | op :: ops, p, w => do
    let (_, p, w) ← perform op p w
    carryOut ops p w

section

variable {p q : Pipeline σ κ δ} {w v : ω} {op : Op κ} {ops : List (Op κ)} {fault : Fault}

theorem carryOut_cons_of_ok {answer : Answer} (h : perform op p w = .ok (answer, q, v))
    (ops : List (Op κ)) : carryOut (op :: ops) p w = carryOut ops q v := by
  show (perform op p w >>= _) = _
  rw [h]
  rfl

theorem carryOut_cons_of_error (h : perform op p w = .error fault) (ops : List (Op κ)) :
    carryOut (op :: ops) p w = .error fault := by
  show (perform op p w >>= _) = _
  rw [h]
  rfl

/-- Operations that lead somewhere, and further operations from there. -/
theorem carryOut_append_of_ok (h : carryOut ops p w = .ok (q, v)) (more : List (Op κ)) :
    carryOut (ops ++ more) p w = carryOut more q v := by
  induction ops generalizing p w with
  | nil =>
    cases h
    rfl
  | cons op ops ih =>
    rcases hact : perform op p w with fault | ⟨answer, p', w'⟩
    · rw [carryOut_cons_of_error hact] at h
      cases h
    · rw [carryOut_cons_of_ok hact] at h
      rw [List.cons_append, carryOut_cons_of_ok hact]
      exact ih h

/-- Operations that lead somewhere make a history. -/
theorem runWith_of_carryOut (h : carryOut ops p w = .ok (q, v)) :
    (runWith perform ops p w).2 = (q, v) := by
  induction ops generalizing p w with
  | nil => exact Except.ok.inj h
  | cons op ops ih =>
    unfold runWith
    rcases hact : perform op p w with fault | ⟨answer, p', w'⟩
    · rw [carryOut_cons_of_error hact] at h
      cases h
    · rw [carryOut_cons_of_ok hact] at h
      exact ih h

/-- What operations keep, histories keep. -/
theorem runWith_keeps {I : Pipeline σ κ δ → ω → Prop}
    (hkeep : ∀ op ∈ ops, ∀ {p q : Pipeline σ κ δ} {w v : ω} {answer : Answer},
      I p w → perform op p w = .ok (answer, q, v) → I q v)
    (hp : I p w) : I (runWith perform ops p w).2.1 (runWith perform ops p w).2.2 := by
  induction ops generalizing p w with
  | nil => exact hp
  | cons op ops ih =>
    unfold runWith
    rcases hact : perform op p w with fault | ⟨answer, p', w'⟩
    · exact hp
    · have hnext := hkeep op List.mem_cons_self hp hact
      exact ih (fun op hop => hkeep op (List.mem_cons_of_mem _ hop)) hnext

end

/-! ### Before an iteration -/

/-- The commands that were taken and those that are left are those that arrived, in order. -/
structure TakenInOrder (i : Inbox) (course : List Deed) (rest : Inbox) : Prop where
  /-- What was in the queue and what arrived was taken or is in the queue. -/
  queue : taken course ++ rest.queue = i.queue ++ arrived course
  /-- What was to arrive first has arrived. -/
  arrived : arrived course = (i.later.take (arrivals course)).flatten
  /-- What was to arrive after it is still to arrive. -/
  later : rest.later = i.later.drop (arrivals course)

theorem TakenInOrder.trans {i j k : Inbox} {first more : List Deed} (h : TakenInOrder i first j)
    (h' : TakenInOrder j more k) : TakenInOrder i (first ++ more) k := by
  constructor
  · rw [taken_append, arrived_append, List.append_assoc, h'.queue, ← List.append_assoc, h.queue,
      List.append_assoc]
  · rw [arrived_append, arrivals_append, h.arrived, h'.arrived, h.later, List.take_add,
      List.flatten_append]
  · rw [arrivals_append, h'.later, h.later, List.drop_drop]

/-- What is done before an iteration. -/
structure Obeyed (p : Pipeline σ κ δ) (i : Inbox) (w : ω)
    (r : List Deed × Except Fault (Readiness × Pipeline σ κ δ × Inbox × ω)) : Prop where
  /-- It is what the commands ask for, and possibly the end of the session. -/
  effect : carryOut (asked r.1) p w = r.2.map fun x => (x.2.1, x.2.2.2)
  /-- Commands are taken in order. -/
  order : ∃ rest, TakenInOrder i r.1 rest ∧ ∀ x, r.2 = .ok x → x.2.2.1 = rest
  /-- No iteration is made. -/
  apart : iterations r.1 = 0
  /-- An iteration can be made when frames are taken and no command is left. -/
  ready : ∀ q j v, r.2 = .ok (.ready, q, j, v) → q.isRunning = true ∧ j.queue = []
  /-- The run is over when the session is. -/
  ended : ∀ failure q j v, r.2 = .ok (.over failure, q, j, v) → q.session = none ∧ q.paused = false

section

variable {p q : Pipeline σ κ δ} {w v : ω} {c : Command} {queue batch : List Command}
  {later : List (List Command)} {answer : Answer}
  {r : List Deed × Except Fault (Readiness × Pipeline σ κ δ × Inbox × ω)}

theorem takenInOrder_took (c : Command) (queue : List Command) (later : List (List Command)) :
    TakenInOrder ⟨c :: queue, later⟩ [.took c] ⟨queue, later⟩ :=
  ⟨(List.append_nil _).symm, rfl, rfl⟩

theorem takenInOrder_arrived (batch : List Command) (later : List (List Command)) :
    TakenInOrder ⟨[], batch :: later⟩ [.arrived batch] ⟨batch, later⟩ := by
  constructor
  · simp [taken, arrived, Deed.command?, Deed.batch]
  · simp [arrived, arrivals, Deed.batch, Deed.isArrival]
  · simp [arrivals, Deed.isArrival]

/-- Nothing is done to the commands. -/
theorem takenInOrder_of_idle (i : Inbox) {course : List Deed} (htaken : taken course = [])
    (harrived : Pipeline.arrived course = []) (harrivals : arrivals course = 0) :
    TakenInOrder i course i := by
  constructor
  · rw [htaken, harrived, List.append_nil, List.nil_append]
  · rw [harrived, harrivals, List.take_zero, List.flatten_nil]
  · rw [harrivals, List.drop_zero]

/-- A command is carried out, and others are after it. -/
theorem Obeyed.took (hact : perform c.op p w = .ok (answer, q, v))
    (h : Obeyed q ⟨queue, later⟩ v r) :
    Obeyed p ⟨c :: queue, later⟩ w (noting [.took c] r) := by
  obtain ⟨rest, horder, hrest⟩ := h.order
  have heffect : carryOut (asked (.took c :: r.1)) p w = r.2.map fun x => (x.2.1, x.2.2.2) := by
    rw [asked_took, carryOut_cons_of_ok hact]
    exact h.effect
  constructor
  case effect => exact heffect
  case order => exact ⟨rest, (takenInOrder_took c queue later).trans horder, hrest⟩
  case apart => exact h.apart
  case ready => exact h.ready
  case ended => exact h.ended

/-- Commands arrive, and are carried out after that. -/
theorem Obeyed.arrived (h : Obeyed p ⟨batch, later⟩ w r) :
    Obeyed p ⟨[], batch :: later⟩ w (noting [.arrived batch] r) := by
  obtain ⟨rest, horder, hrest⟩ := h.order
  constructor
  case effect => exact h.effect
  case order => exact ⟨rest, (takenInOrder_arrived batch later).trans horder, hrest⟩
  case apart => exact h.apart
  case ready => exact h.ready
  case ended => exact h.ended

/-- A command that is carried out ends the run. -/
theorem obeyed_last (hact : perform c.op p w = .ok (answer, q, v))
    (hover : q.session = none ∧ q.paused = false) (failure : Option AcquisitionError) :
    Obeyed p ⟨c :: queue, later⟩ w
      ([.took c], .ok (.over failure, q, ⟨queue, later⟩, v)) := by
  have heffect : carryOut (asked [.took c]) p w = .ok (q, v) := by
    rw [asked_took, carryOut_cons_of_ok hact]
    rfl
  constructor
  case effect => exact heffect
  case order =>
    refine ⟨⟨queue, later⟩, takenInOrder_took c queue later, ?_⟩
    rintro x ⟨⟩
    rfl
  case apart => rfl
  case ready =>
    intro q' j v' h
    cases h
  case ended =>
    rintro failure' q' j v' ⟨⟩
    exact hover

/-- A command stops the program. -/
theorem obeyed_fault {fault : Fault} (hact : perform c.op p w = .error fault) :
    Obeyed p ⟨c :: queue, later⟩ w ([.took c], .error fault) := by
  have heffect : carryOut (asked [.took c]) p w = .error fault := by
    rw [asked_took, carryOut_cons_of_error hact]
  constructor
  case effect => exact heffect
  case order =>
    refine ⟨⟨queue, later⟩, takenInOrder_took c queue later, ?_⟩
    intro x hx
    cases hx
  case apart => rfl
  case ready =>
    intro q j v hx
    cases hx
  case ended =>
    intro failure q j v hx
    cases hx

/-- Frames are taken and no command has arrived. -/
theorem obeyed_ready (hrunning : p.isRunning = true) :
    Obeyed p ⟨[], later⟩ w ([], .ok (.ready, p, ⟨[], later⟩, w)) := by
  constructor
  case effect => rfl
  case order =>
    refine ⟨⟨[], later⟩, takenInOrder_of_idle _ rfl rfl rfl, ?_⟩
    rintro x ⟨⟩
    rfl
  case apart => rfl
  case ready =>
    rintro q j v ⟨⟩
    exact ⟨hrunning, rfl⟩
  case ended =>
    intro failure q j v h
    cases h

end

/-- The end of the session is asked for. -/
theorem carryOut_closed (p : Pipeline σ κ δ) (w : ω) :
    carryOut (asked [.closed]) p w = .ok (p.stop w) := by
  have hact : perform .stop p w = .ok (.done, (p.stop w).1, (p.stop w).2) := rfl
  rw [asked_closed, carryOut_cons_of_ok hact]
  rfl

/-- Nothing more can be asked of an idle pipeline. -/
theorem obeyed_closed (p : Pipeline σ κ δ) (w : ω) :
    Obeyed p ⟨[], []⟩ w ([.closed], .ok (.over none, (p.stop w).1, ⟨[], []⟩, (p.stop w).2)) := by
  constructor
  case effect => exact p.carryOut_closed w
  case order =>
    refine ⟨⟨[], []⟩, takenInOrder_of_idle _ rfl rfl rfl, ?_⟩
    rintro x ⟨⟩
    rfl
  case apart => rfl
  case ready =>
    intro q j v h
    cases h
  case ended =>
    rintro failure q j v ⟨⟩
    exact p.session_stop w

omit [Surface σ] [DetectionService δ ω] in
/-- A session that could not be started leaves none, and nothing is paused. -/
theorem session_start_error {p q : Pipeline σ κ δ} {constraints : Constraints} {w v : ω}
    {e : AcquisitionError} (h : p.start constraints w = .ok (.error e, q, v)) :
    q.session = none ∧ q.paused = false := by
  rw [start_eq] at h
  rcases hdevice : deviceFor p.catalog p.sourceOf p.settings.rate constraints with
    fault | e' | ⟨id, source⟩
  · rw [hdevice] at h
    cases h
  · rw [hdevice] at h
    have hstop : p.stop w = (q, v) := (Prod.mk.inj (Except.ok.inj h)).2
    have hq : (p.stop w).1 = q := congrArg Prod.fst hstop
    rw [← hq]
    exact p.session_stop w
  · rw [hdevice] at h
    have hrestart : p.restart id constraints source w = (.error e, q, v) := Except.ok.inj h
    unfold restart at hrestart
    rcases hstart : Session.start id constraints source (p.stop w).2 with ⟨e' | s, w'⟩
    · rw [hstart] at hrestart
      have hq : (p.stop w).1 = q := (Prod.mk.inj (Prod.mk.inj hrestart).2).1
      rw [← hq]
      exact p.session_stop w
    · rw [hstart] at hrestart
      cases (Prod.mk.inj hrestart).1

/-- What is done before an iteration is lawful. -/
theorem obeyNoting_obeyed (p : Pipeline σ κ δ) (i : Inbox) (w : ω) :
    Obeyed p i w (p.obeyNoting i w) := by
  induction p, i, w using obey.induct with
  | case1 p w queue later q v hstop =>
    rw [obeyNoting]
    exact obeyed_last (c := .stop) rfl (p.session_stop w) none
  | case2 p w queue later ih =>
    rw [obeyNoting]
    exact ih.took (c := .pause) rfl
  | case3 p w queue later ih =>
    rw [obeyNoting]
    exact ih.took (c := .resume) rfl
  | case4 p w constraints queue later ih =>
    have hact : perform (Command.start constraints).op p w = (p.start constraints w >>=
      fun x => .ok (.opened x.1, x.2.1, x.2.2)) := rfl
    rw [obeyNoting]
    rcases hstart : p.start constraints w with fault | ⟨e | _, q, v⟩
    · rw [hstart] at hact
      exact obeyed_fault hact
    · rw [hstart] at hact
      exact obeyed_last hact (session_start_error hstart) (some e)
    · rw [hstart] at hact
      exact (ih q v).took hact
  | case5 p w later hrunning =>
    rw [obeyNoting_of_running hrunning]
    exact obeyed_ready hrunning
  | case6 p w hidle q v hstop =>
    rw [obeyNoting, if_neg hidle]
    exact p.obeyed_closed w
  | case7 p w hidle batch later ih =>
    rw [obeyNoting, if_neg hidle]
    exact ih.arrived

/-! ### Runs -/

/-- The commands that arrive next. -/
def Inbox.arriving (i : Inbox) : List Command := i.later.headD []

/-- Run under commands, and take down the course. -/
def runNoting (limit : Option Nat) : Nat → Nat → Pipeline σ κ δ → Inbox → ω →
    List Deed × Except Fault (RunEnd × Pipeline σ κ δ × Inbox × ω)
  | 0, rendered, p, i, w => ([], .ok (.unfinished rendered, p, i, w))
  | fuel + 1, rendered, p, i, w =>
    match p.obeyNoting i w with
    | (course, .error fault) => (course, .error fault)
    | (course, .ok (.over none, p, i, w)) => (course, .ok (.finished rendered, p, i, w))
    | (course, .ok (.over (some e), p, i, w)) => (course, .ok (.failed e, p, i, w))
    | (course, .ok (.ready, p, i, w)) => noting (course ++ [.iterated]) <|
      match p.step w with
      | .error fault => ([], .error fault)
      | .ok (.error e, p, w) => ([], .ok (.failed e, p, i, w))
      | .ok (.ok none, p, w) =>
        noting [.arrived i.arriving] (runNoting limit fuel rendered p i.receive w)
      | .ok (.ok (some _), p, w) =>
        let rendered := rendered + 1
        match limit with
        | some most =>
          if most ≤ rendered then
            let (p, w) := p.stop w
            ([.closed], .ok (.finished rendered, p, i, w))
          else noting [.arrived i.arriving] (runNoting limit fuel rendered p i.receive w)
        | none => noting [.arrived i.arriving] (runNoting limit fuel rendered p i.receive w)

/-- **Taking down the course changes nothing.** -/
theorem runNoting_snd (limit : Option Nat) (fuel rendered : Nat) (p : Pipeline σ κ δ) (i : Inbox)
    (w : ω) : (runNoting limit fuel rendered p i w).2 = run limit fuel rendered p i w := by
  induction fuel generalizing rendered p i w with
  | zero => rfl
  | succ fuel ih =>
    unfold runNoting run
    rw [← obeyNoting_snd]
    rcases p.obeyNoting i w with ⟨course, fault | ⟨_ | ⟨_ | e⟩, q, j, v⟩⟩
    · rfl
    · show Prod.snd (noting _ _) = (q.step v >>= _)
      rcases q.step v with fault | ⟨e | _ | report, q', v'⟩
      · rfl
      · rfl
      · exact ih _ _ _ _
      · rcases limit with _ | most
        · exact ih _ _ _ _
        · show Prod.snd (ite _ _ _) = ite _ _ _
          by_cases hlimit : most ≤ rendered + 1
          · rw [if_pos hlimit, if_pos hlimit]
            rfl
          · rw [if_neg hlimit, if_neg hlimit]
            exact ih _ _ _ _
    · rfl
    · rfl

/-- **A run that is not cut off** is the same however many iterations it might have made. -/
theorem runNoting_add {limit : Option Nat} {fuel rendered : Nat} {p : Pipeline σ κ δ} {i : Inbox}
    {w : ω} (hend : ∀ n q j v,
      (runNoting limit fuel rendered p i w).2 ≠ .ok (.unfinished n, q, j, v)) (more : Nat) :
    runNoting limit (fuel + more) rendered p i w = runNoting limit fuel rendered p i w := by
  induction fuel generalizing rendered p i w with
  | zero => exact absurd rfl (hend rendered p i w)
  | succ fuel ih =>
    rw [Nat.add_right_comm]
    unfold runNoting at hend ⊢
    rcases hobey : p.obeyNoting i w with ⟨course, fault | ⟨_ | ⟨_ | e⟩, q, j, v⟩⟩
    · rfl
    · rw [hobey] at hend
      dsimp only at hend ⊢
      rcases hstep : q.step v with fault | ⟨e | _ | report, q', v'⟩
      · rfl
      · rfl
      · rw [hstep] at hend
        dsimp only
        rw [ih hend]
      · rw [hstep] at hend
        dsimp only at hend ⊢
        rcases limit with _ | most
        · dsimp only
          rw [ih hend]
        · dsimp only at hend ⊢
          by_cases hlimit : most ≤ rendered + 1
          · rw [if_pos hlimit, if_pos hlimit]
          · rw [if_neg hlimit] at hend
            rw [if_neg hlimit, if_neg hlimit, ih hend]
    · rfl
    · rfl

/-- What becomes of an iteration with the pipeline `p` in the world `w`, where `after` is what the
run does then and `outcome` how it ends. -/
inductive Iterated (p : Pipeline σ κ δ) (w : ω) (after : List Deed)
    (outcome : Except Fault (RunEnd × Pipeline σ κ δ × Inbox × ω)) : Prop where
  /-- A frame is rendered. -/
  | rendered (report : IterationReport) (q : Pipeline σ κ δ) (v : ω)
      (h : p.step w = .ok (.ok (some report), q, v))
  /-- There is no frame, and that is the end of the run. -/
  | lost (e : AcquisitionError) (q : Pipeline σ κ δ) (i : Inbox) (v : ω)
      (h : p.step w = .ok (.error e, q, v)) (last : after = [])
      (ending : outcome = .ok (.failed e, q, i, v))
  /-- The surface stops the program. -/
  | stopped (fault : Fault) (h : p.step w = .error fault) (last : after = [])
      (ending : outcome = .error fault)

/-- What there is to say of an iteration in a run that began with the pipeline `p`, the commands
`i` and the world `w`. -/
structure Begins (p : Pipeline σ κ δ) (i : Inbox) (w : ω) (before after : List Deed)
    (outcome : Except Fault (RunEnd × Pipeline σ κ δ × Inbox × ω)) : Prop where
  /-- All commands that have arrived were taken. -/
  order : ∃ rest, TakenInOrder i before rest ∧ rest.queue = []
  /-- Commands have arrived at least once for each iteration before. -/
  due : iterations before ≤ arrivals before
  /-- They were carried out, frames are taken, and one is rendered unless the run is over. -/
  made : ∃ q v, carryOut (asked before) p w = .ok (q, v) ∧ q.isRunning = true ∧
    Iterated q v after outcome

/-- The run is over. -/
def RunEnd.isReturn : RunEnd → Bool
  | .unfinished _ => false
  | _ => true

/-- A run that had `rendered` so many frames before. -/
structure Conducted (fuel rendered : Nat) (p : Pipeline σ κ δ) (i : Inbox) (w : ω)
    (r : List Deed × Except Fault (RunEnd × Pipeline σ κ δ × Inbox × ω)) : Prop where
  /-- It does what its course asks for. -/
  effect : carryOut (asked r.1) p w = r.2.map fun x => (x.2.1, x.2.2.2)
  /-- Commands are taken in order. -/
  order : ∃ rest, TakenInOrder i r.1 rest ∧ ∀ x, r.2 = .ok x → x.2.2.1 = rest
  /-- An iteration begins when all commands that have arrived are carried out. -/
  iterations : ∀ before after, r.1 = before ++ .iterated :: after → Begins p i w before after r.2
  /-- A run that finishes says how many frames it has rendered. -/
  finished : ∀ n q j v, r.2 = .ok (.finished n, q, j, v) → n = rendered + Pipeline.iterations r.1
  /-- A run is cut off only after as many frames as were asked for. -/
  unfinished : ∀ n q j v, r.2 = .ok (.unfinished n, q, j, v) →
    n = rendered + Pipeline.iterations r.1 ∧ Pipeline.iterations r.1 = fuel
  /-- There is no session when the run is over, and nothing is paused. -/
  ended : ∀ e q j v, r.2 = .ok (e, q, j, v) → e.isReturn = true →
    q.session = none ∧ q.paused = false

/-- An iteration in a course comes after a beginning in which there is none. -/
theorem split_of_iterations_eq_zero {first rest before after : List Deed}
    (h : first ++ rest = before ++ .iterated :: after)
    (hnone : Pipeline.iterations first = 0) :
    ∃ between, before = first ++ between ∧ rest = between ++ .iterated :: after := by
  induction first generalizing before with
  | nil => exact ⟨before, rfl, h⟩
  | cons d first ih =>
    unfold Pipeline.iterations at hnone ih
    rw [List.countP_cons, Nat.add_eq_zero_iff] at hnone
    obtain ⟨hnone, hd⟩ := hnone
    rcases before with _ | ⟨b, before⟩
    · obtain ⟨rfl, -⟩ := List.cons.inj h
      cases hd
    · rw [List.cons_append, List.cons_append] at h
      obtain ⟨rfl, hrest⟩ := List.cons.inj h
      obtain ⟨between, hbefore, hbetween⟩ := ih hrest hnone
      exact ⟨between, congrArg (d :: ·) hbefore, hbetween⟩

/-- The first iteration of a course, or a later one. -/
theorem split_at_first {first rest before after : List Deed}
    (h : first ++ .iterated :: rest = before ++ .iterated :: after)
    (hnone : Pipeline.iterations first = 0) :
    (before = first ∧ after = rest) ∨
      ∃ more, before = first ++ .iterated :: more ∧ rest = more ++ .iterated :: after := by
  obtain ⟨between, rfl, hbetween⟩ := split_of_iterations_eq_zero h hnone
  rcases between with _ | ⟨d, more⟩
  · left
    exact ⟨List.append_nil first, (List.cons.inj hbetween).2.symm⟩
  · right
    rw [List.cons_append] at hbetween
    obtain ⟨rfl, hmore⟩ := List.cons.inj hbetween
    exact ⟨more, rfl, hmore⟩

/-- Where no iteration was made there is none to ask about. -/
theorem ne_of_iterations_eq_zero {course before after : List Deed}
    (hnone : Pipeline.iterations course = 0) : course ≠ before ++ .iterated :: after := by
  intro h
  unfold Pipeline.iterations at hnone
  rw [h, List.countP_append, List.countP_cons_of_pos rfl] at hnone
  omega

/-- The next commands arrive. -/
theorem takenInOrder_receive (i : Inbox) : TakenInOrder i [.arrived i.arriving] i.receive := by
  obtain ⟨queue, later⟩ := i
  rcases later with _ | ⟨batch, later⟩
  · constructor
    · simp [taken, arrived, Deed.command?, Deed.batch, Inbox.arriving, Inbox.receive]
    · simp [arrived, Deed.batch, Inbox.arriving]
    · simp [Inbox.receive]
  · constructor
    · simp [taken, arrived, Deed.command?, Deed.batch, Inbox.arriving, Inbox.receive]
    · simp [arrived, arrivals, Deed.batch, Deed.isArrival, Inbox.arriving]
    · simp [arrivals, Deed.isArrival, Inbox.receive]

section

variable {fuel rendered : Nat} {p q q' : Pipeline σ κ δ} {i j : Inbox} {w v v' : ω}
  {course : List Deed} {r : List Deed × Except Fault (RunEnd × Pipeline σ κ δ × Inbox × ω)}

/-- No frame was asked for. -/
theorem conducted_unfinished (rendered : Nat) (p : Pipeline σ κ δ) (i : Inbox) (w : ω) :
    Conducted 0 rendered p i w ([], .ok (.unfinished rendered, p, i, w)) := by
  constructor
  case effect => rfl
  case order =>
    refine ⟨i, takenInOrder_of_idle i rfl rfl rfl, ?_⟩
    rintro x ⟨⟩
    rfl
  case iterations =>
    intro before after hcourse
    exact absurd hcourse (ne_of_iterations_eq_zero rfl)
  case finished =>
    intro n q j v h
    cases h
  case unfinished =>
    rintro n q j v ⟨⟩
    exact ⟨rfl, rfl⟩
  case ended =>
    rintro e q j v ⟨⟩ h
    cases h

/-- A command stops the program before the first iteration. -/
theorem Obeyed.conducted_of_fault {fault : Fault} (h : Obeyed p i w (course, .error fault))
    (fuel rendered : Nat) : Conducted fuel rendered p i w (course, .error fault) := by
  obtain ⟨rest, horder, -⟩ := h.order
  constructor
  case effect => exact h.effect
  case order =>
    refine ⟨rest, horder, ?_⟩
    intro x hx
    cases hx
  case iterations =>
    intro before after hcourse
    exact absurd hcourse (ne_of_iterations_eq_zero h.apart)
  case finished =>
    intro n q j v hend
    cases hend
  case unfinished =>
    intro n q j v hend
    cases hend
  case ended =>
    intro e q j v hend
    cases hend

/-- The run is over before the first iteration. -/
theorem Obeyed.conducted_of_over {failure : Option AcquisitionError}
    (h : Obeyed p i w (course, .ok (.over failure, q, j, v))) (fuel : Nat) {rendered : Nat}
    {e : RunEnd} (he : e = .finished rendered ∨ ∃ reason, e = .failed reason) :
    Conducted fuel rendered p i w (course, .ok (e, q, j, v)) := by
  have hnone := h.apart
  obtain ⟨rest, horder, hrest⟩ := h.order
  have hj : j = rest := hrest _ rfl
  constructor
  case effect => exact h.effect
  case order =>
    refine ⟨rest, horder, ?_⟩
    rintro x ⟨⟩
    exact hj
  case iterations =>
    intro before after hcourse
    exact absurd hcourse (ne_of_iterations_eq_zero hnone)
  case finished =>
    rintro n q' j' v' ⟨⟩
    rcases he with hfinished | ⟨reason, hfailed⟩
    · cases hfinished
      rw [hnone]
      rfl
    · cases hfailed
  case unfinished =>
    rintro n q' j' v' ⟨⟩
    rcases he with hfinished | ⟨reason, hfailed⟩
    · cases hfinished
    · cases hfailed
  case ended =>
    rintro e' q' j' v' ⟨⟩ -
    exact h.ended failure q j v rfl

/-- When frames are taken and no command is left, all that have arrived were taken. -/
theorem Obeyed.begins (h : Obeyed p i w (course, .ok (.ready, q, j, v))) :
    TakenInOrder i course j ∧ j.queue = [] ∧ q.isRunning = true ∧
      carryOut (asked course) p w = .ok (q, v) := by
  obtain ⟨rest, horder, hrest⟩ := h.order
  obtain rfl : j = rest := hrest _ rfl
  obtain ⟨hrunning, hqueue⟩ := h.ready q j v rfl
  exact ⟨horder, hqueue, hrunning, h.effect⟩

/-- The first iteration begins when the commands before it are carried out. -/
theorem Obeyed.first (h : Obeyed p i w (course, .ok (.ready, q, j, v))) {after : List Deed}
    {outcome : Except Fault (RunEnd × Pipeline σ κ δ × Inbox × ω)}
    (hstep : Iterated q v after outcome) : Begins p i w course after outcome := by
  obtain ⟨horder, hqueue, hrunning, hcarried⟩ := h.begins
  have hnone : Pipeline.iterations course = 0 := h.apart
  constructor
  case order => exact ⟨j, horder, hqueue⟩
  case due =>
    rw [hnone]
    exact Nat.zero_le _
  case made => exact ⟨q, v, hcarried, hrunning, hstep⟩

/-- What is done up to the commands that arrive after an iteration. -/
def onward (course : List Deed) (i : Inbox) : List Deed :=
  course ++ [.iterated, .arrived i.arriving]

omit [FrameSource κ ω Float] [Surface σ] [DetectionService δ ω] in
theorem onward_eq (course more : List Deed) (i : Inbox) :
    onward course i ++ more = course ++ .iterated :: ([.arrived i.arriving] ++ more) := by
  simp [onward]

/-- An iteration renders a frame and commands arrive. -/
theorem Obeyed.onward (h : Obeyed p i w (course, .ok (.ready, q, j, v)))
    {report : IterationReport} (hstep : q.step v = .ok (.ok (some report), q', v')) :
    TakenInOrder i (onward course j) j.receive ∧
      carryOut (asked (onward course j)) p w = .ok (q', v') ∧
      Pipeline.iterations (onward course j) = 1 ∧ 1 ≤ arrivals (onward course j) := by
  have hperform : perform .step q v = .ok (.stepped (.ok (some report)), q', v') := by
    show (q.step v >>= _) = _
    rw [hstep]
    rfl
  obtain ⟨horder, -, -, hcarried⟩ := h.begins
  unfold Pipeline.onward
  refine ⟨?_, ?_, ?_, ?_⟩
  · have hiterated : TakenInOrder j [.iterated] j := takenInOrder_of_idle j rfl rfl rfl
    exact horder.trans (hiterated.trans (takenInOrder_receive j))
  · rw [asked_append, carryOut_append_of_ok hcarried, asked_iterated,
      carryOut_cons_of_ok hperform]
    rfl
  · rw [iterations_append, show Pipeline.iterations course = 0 from h.apart]
    rfl
  · rw [arrivals_append]
    exact Nat.le_add_left 1 _

/-- An iteration renders a frame, commands arrive, and the run goes on. -/
theorem Obeyed.conducted_of_frame (h : Obeyed p i w (course, .ok (.ready, q, j, v)))
    {report : IterationReport} (hstep : q.step v = .ok (.ok (some report), q', v'))
    (hrest : Conducted fuel (rendered + 1) q' j.receive v' r) :
    Conducted (fuel + 1) rendered p i w
      (noting (course ++ [.iterated]) (noting [.arrived j.arriving] r)) := by
  have hcourse_eq : noting (course ++ [.iterated]) (noting [.arrived j.arriving] r) =
      noting (Pipeline.onward course j) r := by
    simp [noting, Pipeline.onward]
  obtain ⟨horder, hcarried, hone, hdue⟩ := h.onward hstep
  obtain ⟨rest, horder', hrest'⟩ := hrest.order
  have hcount : Pipeline.iterations (Pipeline.onward course j ++ r.1) =
      Pipeline.iterations r.1 + 1 := by
    rw [iterations_append, hone, Nat.add_comm]
  rw [hcourse_eq]
  constructor
  case effect =>
    show carryOut (asked (Pipeline.onward course j ++ r.1)) p w = _
    rw [asked_append, carryOut_append_of_ok hcarried]
    exact hrest.effect
  case order => exact ⟨rest, horder.trans horder', hrest'⟩
  case iterations =>
    intro before after hcourse
    change Pipeline.onward course j ++ r.1 = _ at hcourse
    rw [onward_eq] at hcourse
    rcases split_at_first hcourse h.apart with ⟨rfl, rfl⟩ | ⟨between, rfl, hbetween⟩
    · exact h.first (.rendered report q' v' hstep)
    · -- A later iteration comes after the commands that arrive now.
      have hnone : Pipeline.iterations [.arrived j.arriving] = 0 := rfl
      obtain ⟨more, rfl, hmore⟩ := split_of_iterations_eq_zero hbetween hnone
      obtain ⟨⟨rest, hsince, hempty⟩, hlate, q'', v'', hcarried', hmade⟩ :=
        hrest.iterations more after hmore
      rw [← onward_eq]
      constructor
      case order => exact ⟨rest, horder.trans hsince, hempty⟩
      case due =>
        rw [iterations_append, arrivals_append]
        omega
      case made =>
        refine ⟨q'', v'', ?_, hmade⟩
        rw [asked_append, carryOut_append_of_ok hcarried]
        exact hcarried'
  case finished =>
    intro n q'' j'' v'' hend
    have hn := hrest.finished n q'' j'' v'' hend
    show n = rendered + Pipeline.iterations (Pipeline.onward course j ++ r.1)
    omega
  case unfinished =>
    intro n q'' j'' v'' hend
    obtain ⟨hn, hfuel⟩ := hrest.unfinished n q'' j'' v'' hend
    show n = rendered + Pipeline.iterations (Pipeline.onward course j ++ r.1) ∧
      Pipeline.iterations (Pipeline.onward course j ++ r.1) = fuel + 1
    omega
  case ended => exact hrest.ended

/-- An iteration is the last of a run: no frame could be had, the surface stops the program, or
enough frames were rendered and the session is ended. -/
theorem Obeyed.conducted_of_last (h : Obeyed p i w (course, .ok (.ready, q, j, v)))
    {after : List Deed} {outcome : Except Fault (RunEnd × Pipeline σ κ δ × Inbox × ω)}
    (hafter : after = [] ∨ after = [.closed]) (hstep : Iterated q v after outcome)
    (heffect : carryOut (asked (.iterated :: after)) q v = outcome.map fun x => (x.2.1, x.2.2.2))
    (hlast : ∀ x, outcome = .ok x → x.2.2.1 = j ∧ x.2.1.session = none ∧ x.2.1.paused = false ∧
      (x.1 = .finished (rendered + 1) ∨ ∃ e, x.1 = .failed e)) (fuel : Nat) :
    Conducted fuel rendered p i w (noting (course ++ [.iterated]) (after, outcome)) := by
  obtain ⟨horder, -, -, hcarried⟩ := h.begins
  have hnone : Pipeline.iterations course = 0 := h.apart
  have hidle : TakenInOrder j (.iterated :: after) j ∧ Pipeline.iterations after = 0 := by
    rcases hafter with rfl | rfl
    · exact ⟨takenInOrder_of_idle j rfl rfl rfl, rfl⟩
    · exact ⟨takenInOrder_of_idle j rfl rfl rfl, rfl⟩
  have hcourse_eq : course ++ [.iterated] ++ after = course ++ .iterated :: after := by
    rw [List.append_assoc, List.singleton_append]
  constructor
  case effect =>
    show carryOut (asked (course ++ [.iterated] ++ after)) p w = _
    rw [hcourse_eq, asked_append, carryOut_append_of_ok hcarried]
    exact heffect
  case order =>
    refine ⟨j, ?_, fun x hx => (hlast x hx).1⟩
    show TakenInOrder i (course ++ [.iterated] ++ after) j
    rw [hcourse_eq]
    exact horder.trans hidle.1
  case iterations =>
    intro before more hcourse
    change course ++ [.iterated] ++ after = _ at hcourse
    rw [hcourse_eq] at hcourse
    rcases split_at_first hcourse hnone with ⟨rfl, rfl⟩ | ⟨between, rfl, hbetween⟩
    · exact h.first hstep
    · exact absurd hbetween (ne_of_iterations_eq_zero hidle.2)
  case finished =>
    intro n q' j' v' hend
    obtain ⟨-, -, -, hfinished | ⟨e, hfailed⟩⟩ := hlast _ hend
    · obtain rfl := RunEnd.finished.inj hfinished
      show rendered + 1 = rendered + Pipeline.iterations (course ++ [.iterated] ++ after)
      rw [hcourse_eq, iterations_append, iterations_iterated, hnone, hidle.2]
    · cases hfailed
  case unfinished =>
    intro n q' j' v' hend
    obtain ⟨-, -, -, hfinished | ⟨e, hfailed⟩⟩ := hlast _ hend
    · cases hfinished
    · cases hfailed
  case ended =>
    intro e q' j' v' hend _
    obtain ⟨-, hsession, hpaused, -⟩ := hlast _ hend
    exact ⟨hsession, hpaused⟩

end

/-- An iteration that gives no frame ends the session. -/
theorem session_step_error {p q : Pipeline σ κ δ} {w v : ω} {e : AcquisitionError}
    (h : p.step w = .ok (.error e, q, v)) : q.session = none ∧ q.paused = false := by
  rcases hrunning : p.isRunning with _ | _
  · rw [step_of_idle hrunning] at h
    cases (Prod.mk.inj (Except.ok.inj h)).1
  · obtain ⟨s, s', w', -, ⟨e', -, -, hstop⟩ | ⟨frame, report, -, houtcome, -⟩⟩ :=
      step_cases hrunning h
    · have hq : (stop { p with session := some s' } w').1 = q := congrArg Prod.fst hstop
      rw [← hq]
      exact session_stop _ w'
    · cases houtcome

/-- There is an iteration when frames are taken. -/
theorem step_ne_none {p q : Pipeline σ κ δ} (hrunning : p.isRunning = true) (w v : ω) :
    p.step w ≠ .ok (.ok none, q, v) := by
  intro h
  obtain ⟨s, s', w', -, ⟨e, -, houtcome, -⟩ | ⟨frame, report, -, houtcome, -⟩⟩ :=
    step_cases hrunning h
  · cases houtcome
  · cases houtcome

/-- **Runs are conducted by their commands.** -/
theorem runNoting_conducted (limit : Option Nat) (fuel rendered : Nat) (p : Pipeline σ κ δ)
    (i : Inbox) (w : ω) :
    Conducted fuel rendered p i w (runNoting limit fuel rendered p i w) := by
  induction fuel generalizing rendered p i w with
  | zero => exact conducted_unfinished rendered p i w
  | succ fuel ih =>
    have hobeyed := obeyNoting_obeyed p i w
    unfold runNoting
    rcases hobey : p.obeyNoting i w with ⟨course, fault | ⟨_ | ⟨_ | e⟩, q, j, v⟩⟩
    all_goals rw [hobey] at hobeyed
    · exact hobeyed.conducted_of_fault _ _
    · have hperform : perform .step q v = (q.step v >>= fun x => .ok (.stepped x.1, x.2.1, x.2.2)) :=
        rfl
      dsimp only
      rcases hstep : q.step v with fault | ⟨e | _ | report, q', v'⟩
      · rw [hstep] at hperform
        refine hobeyed.conducted_of_last (.inl rfl) (.stopped fault hstep rfl rfl) ?_ ?_ _
        · exact carryOut_cons_of_error hperform []
        · intro x hx
          cases hx
      · rw [hstep] at hperform
        refine hobeyed.conducted_of_last (.inl rfl) (.lost e q' j v' hstep rfl rfl) ?_ ?_ _
        · exact carryOut_cons_of_ok hperform []
        · rintro x ⟨⟩
          obtain ⟨hsession, hpaused⟩ := session_step_error hstep
          exact ⟨rfl, hsession, hpaused, .inr ⟨e, rfl⟩⟩
      · exact absurd hstep (step_ne_none (hobeyed.ready q j v rfl).1 v v')
      · rcases limit with _ | most
        · exact hobeyed.conducted_of_frame hstep (ih (rendered + 1) q' j.receive v')
        · dsimp only
          by_cases hlimit : most ≤ rendered + 1
          · rw [if_pos hlimit]
            rw [hstep] at hperform
            refine hobeyed.conducted_of_last (.inr rfl) (.rendered report q' v' hstep) ?_ ?_ _
            · rw [asked_iterated, carryOut_cons_of_ok hperform]
              exact q'.carryOut_closed v'
            · rintro x ⟨⟩
              obtain ⟨hsession, hpaused⟩ := q'.session_stop v'
              exact ⟨rfl, hsession, hpaused, .inl rfl⟩
          · rw [if_neg hlimit]
            exact hobeyed.conducted_of_frame hstep (ih (rendered + 1) q' j.receive v')
    · exact hobeyed.conducted_of_over _ (.inl rfl)
    · exact hobeyed.conducted_of_over _ (.inr ⟨e, rfl⟩)

end Pipeline

end Lookout
