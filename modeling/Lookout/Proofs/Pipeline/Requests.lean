import Lookout.Proofs.Pipeline.Course
/-!
# Histories with runs

What can be asked of a pipeline are its operations, one by one, and runs under commands
(`Request`).  A run does nothing that operations do not do, by its course, so whatever operations
keep is kept by every history of requests (`enactAll_keeps`).  A law of operations may be about
those only that hand over a source of some kind (`Op.Hands`); runs hand over none.
-/

namespace Lookout.Pipeline

variable {σ κ δ ω : Type} [FrameSource κ ω Float] [Surface σ] [DetectionService δ ω]

/-- What can be asked of a pipeline, runs included. -/
inductive Request (κ : Type) where
  /-- Carry out an operation. -/
  | act (op : Op κ)
  /-- Run under commands. -/
  | run (limit : Option Nat) (fuel : Nat) (i : Inbox)

/-- What a request gives back. -/
inductive Reply where
  /-- What the operation gave back. -/
  | answered (answer : Answer)
  /-- How the run ended, and the commands that it left. -/
  | ended (how : RunEnd) (left : Inbox)

/-- Do what is asked.  Where the program stops, it has come as far as the operations before. -/
def enact (r : Request κ) (p : Pipeline σ κ δ) (w : ω) :
    Except Fault Reply × Pipeline σ κ δ × ω :=
  match r with
  | .act op =>
    match perform op p w with
    | .error fault => (.error fault, p, w)
    | .ok (answer, p, w) => (.ok (.answered answer), p, w)
  | .run limit fuel i =>
    match runNoting limit fuel 0 p i w with
    | (course, .error fault) => (.error fault, (runWith perform (asked course) p w).2)
    | (_, .ok (how, p, left, w)) => (.ok (.ended how left), p, w)

/-- Do what is asked, one after the other, up to a request that stops the program. -/
def enactAll : List (Request κ) → Pipeline σ κ δ → ω →
    List (Except Fault Reply) × Pipeline σ κ δ × ω
  | [], p, w => ([], p, w)
  | r :: rs, p, w =>
    match enact r p w with
    | (.error fault, p, w) => ([.error fault], p, w)
    | (.ok reply, p, w) =>
      let (replies, p, w) := enactAll rs p w
      (.ok reply :: replies, p, w)

/-- The source that an operation hands over, if it hands one over, is of the kind `H`. -/
def Op.Hands (H : κ → Prop) : Op κ → Prop
  | .startWith _ source => H source
  | _ => True

/-- The source that a request hands over, if it hands one over, is of the kind `H`. -/
def Request.Hands (H : κ → Prop) : Request κ → Prop
  | .act op => op.Hands H
  | .run _ _ _ => True

/-- Where all sources are of the kind, so are those that are handed over. -/
theorem Request.hands_of_forall {H : κ → Prop} (h : ∀ source, H source) (r : Request κ) :
    r.Hands H := by
  cases r with
  | act op =>
    cases op with
    | start constraints => trivial
    | startWith deviceId source => exact h source
    | pause => trivial
    | resume => trivial
    | stop => trivial
    | step => trivial
  | run limit fuel i => trivial

omit [FrameSource κ ω Float] [Surface σ] [DetectionService δ ω] in
/-- Runs hand over no sources. -/
theorem hands_of_mem_asked (H : κ → Prop) {course : List Deed} {op : Op κ}
    (h : op ∈ asked course) : op.Hands H := by
  obtain ⟨d, -, hd⟩ := List.mem_filterMap.1 h
  cases d with
  | arrived batch => cases hd
  | took c =>
    cases hd
    cases c with
    | start constraints => trivial
    | pause => trivial
    | resume => trivial
    | stop => trivial
  | iterated =>
    cases hd
    trivial
  | closed =>
    cases hd
    trivial

section

variable {H : κ → Prop} {I : Pipeline σ κ δ → ω → Prop}
  (hkeep : ∀ {op : Op κ} {p q : Pipeline σ κ δ} {w v : ω} {answer : Answer}, op.Hands H →
    I p w → perform op p w = .ok (answer, q, v) → I q v)
include hkeep

/-- What operations keep, requests keep. -/
theorem enact_keeps {r : Request κ} (hr : r.Hands H) {p : Pipeline σ κ δ} {w : ω} (hp : I p w) :
    I (enact r p w).2.1 (enact r p w).2.2 := by
  unfold enact
  cases r with
  | act op =>
    dsimp only
    rcases hact : perform op p w with fault | ⟨answer, q, v⟩
    · exact hp
    · exact hkeep hr hp hact
  | run limit fuel i =>
    have heffect := (runNoting_conducted limit fuel 0 p i w).effect
    have hcourse (course : List Deed) : I (runWith perform (asked course) p w).2.1
        (runWith perform (asked course) p w).2.2 :=
      runWith_keeps (fun op hop => hkeep (hands_of_mem_asked H hop)) hp
    dsimp only
    rcases hrun : runNoting limit fuel 0 p i w with ⟨course, fault | ⟨how, q, left, v⟩⟩
    · exact hcourse course
    · rw [hrun] at heffect
      have hend := hcourse course
      rw [runWith_of_carryOut heffect] at hend
      exact hend

/-- **What operations keep, every history keeps**, whatever runs there are in it. -/
theorem enactAll_keeps {requests : List (Request κ)} (hrequests : ∀ r ∈ requests, r.Hands H)
    {p : Pipeline σ κ δ} {w : ω} (hp : I p w) :
    I (enactAll requests p w).2.1 (enactAll requests p w).2.2 := by
  induction requests generalizing p w with
  | nil => exact hp
  | cons r rs ih =>
    have hnext := enact_keeps hkeep (hrequests r List.mem_cons_self) hp
    unfold enactAll
    rcases henact : enact r p w with ⟨fault | reply, q, v⟩
    · rw [henact] at hnext
      exact hnext
    · rw [henact] at hnext
      exact ih (fun r hr => hrequests r (List.mem_cons_of_mem _ hr)) hnext

end

end Lookout.Pipeline
