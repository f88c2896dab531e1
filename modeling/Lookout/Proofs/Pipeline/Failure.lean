import Lookout.Proofs.Pipeline.Chronicle
import Lookout.Proofs.Pipeline.Conduct
import Lookout.Proofs.Pipeline.Independence
import Lookout.Proofs.Results
import Lookout.Simulation.Replay
/-!
# What a failure leaves

A session that cannot be opened and a frame that cannot be had leave the pipeline that the end of
the session would have left.  Nothing is drawn or sent for them, and the source that was there is
stopped once.

What is done later cannot tell a failure from the end of a session, as long as sources and services
do the same in the worlds that the two leave (`SourcesAgree`, `ServicesAgree`): the pipelines are
the same, and two journals that begin with different pasts take down the same from there
(`Journal.Since`).
-/

namespace Lookout

open Simulation

/-! ### Journals with different pasts -/

/-- Two journals have taken down the same since some time, in worlds that are related. -/
structure Journal.Since {ω : Type} (S : ω → ω → Prop) (past₁ past₂ : List Event)
    (j₁ j₂ : Journal ω) : Prop where
  /-- The worlds are related. -/
  world : S j₁.world j₂.world
  /-- The same was taken down since. -/
  log : ∃ since, j₁.log = past₁ ++ since ∧ j₂.log = past₂ ++ since

/-- The same happens in both. -/
theorem Journal.Since.advance {ω : Type} {S : ω → ω → Prop} {past₁ past₂ : List Event}
    {j₁ j₂ : Journal ω} (h : Since S past₁ past₂ j₁ j₂) {w₁ w₂ : ω} (hw : S w₁ w₂)
    (events : List Event) : Since S past₁ past₂ (j₁.advance w₁ events) (j₂.advance w₂ events) := by
  obtain ⟨since, hlog₁, hlog₂⟩ := h.log
  refine ⟨hw, since ++ events, ?_, ?_⟩
  · show j₁.log ++ events = _
    rw [hlog₁, List.append_assoc]
  · show j₂.log ++ events = _
    rw [hlog₂, List.append_assoc]

/-- Services answer the same in worlds that are related, and leave them related. -/
def ServicesAgree (δ : Type) {ω₁ ω₂ : Type} [DetectionService δ ω₁] [DetectionService δ ω₂]
    (S : ω₁ → ω₂ → Prop) : Prop :=
  ∀ (octets : ByteArray) (mediaType : String) (d : δ) (w₁ : ω₁) (w₂ : ω₂), S w₁ w₂ →
    (DetectionService.submit octets mediaType d w₁).1 =
      (DetectionService.submit octets mediaType d w₂).1 ∧
    (DetectionService.submit octets mediaType d w₁).2.1 =
      (DetectionService.submit octets mediaType d w₂).2.1 ∧
    S (DetectionService.submit octets mediaType d w₁).2.2
      (DetectionService.submit octets mediaType d w₂).2.2

namespace Pipeline

variable {σ κ δ ω : Type}

/-- Pipelines are the same, and their journals have taken down the same since some time. -/
def since (σ κ δ : Type) {ω : Type} (S : ω → ω → Prop) (past₁ past₂ : List Event) :
    Likeness σ κ δ (Journal ω) σ κ δ (Journal ω) where
  source := (· = ·)
  world := Journal.Since S past₁ past₂
  detector := (· = ·)
  renderer := (· = ·)
  overlay := (· = ·)
  report := (· = ·)

/-- A pipeline is like itself. -/
theorem since_refl {S : ω → ω → Prop} {past₁ past₂ : List Event} (p : Pipeline σ κ δ) :
    (since σ κ δ S past₁ past₂).Pipelines p p where
  catalog := rfl
  settings := rfl
  sourceOf := Likeness.sourceOf_refl (fun _ => rfl) p.sourceOf
  detector := rfl
  renderer := rfl
  session := Likeness.session_refl (fun _ => rfl) p.session
  paused := rfl
  fitSurface := rfl

variable [FrameSource κ ω Float] [Surface σ] [DetectionService δ ω]

/-- **Nothing that a pipeline does depends on the past** but by its own state. -/
theorem since_lawful {S : ω → ω → Prop} (hsources : SourcesAgree κ S)
    (hservices : ServicesAgree δ S) (past₁ past₂ : List Event) :
    (since σ κ δ S past₁ past₂).Lawful where
  connect := by
    rintro source _ j₁ j₂ rfl hj
    obtain ⟨houtcome, hsource, hworld⟩ := hsources.connect source j₁.world j₂.world hj.world
    exact ⟨houtcome, hsource, hworld, hj.log⟩
  next := by
    rintro source _ j₁ j₂ rfl hj
    obtain ⟨hdelivery, hsource, hworld⟩ := hsources.next source j₁.world j₂.world hj.world
    refine ⟨hdelivery, hsource, ?_⟩
    show Journal.Since S past₁ past₂
      (j₁.advance _ (Event.given (FrameSource.next source j₁.world).1))
      (j₂.advance _ (Event.given (FrameSource.next source j₂.world).1))
    rw [← hdelivery]
    exact hj.advance hworld _
  stop := by
    rintro source _ j₁ j₂ rfl hj
    obtain ⟨hsource, hworld⟩ := hsources.stop source j₁.world j₂.world hj.world
    exact ⟨hsource, hworld, hj.log⟩
  resetClock := by
    rintro r _ rfl
    rfl
  size := by
    rintro r _ rfl
    rfl
  resize := by
    rintro r _ width height rfl
    rfl
  unasked := rfl
  submit := by
    rintro d _ j₁ j₂ octets mediaType rfl hj
    obtain ⟨hanswer, hdetector, hworld⟩ :=
      hservices octets mediaType d j₁.world j₂.world hj.world
    rw [Journal.submit_eq, Journal.submit_eq, ← hanswer]
    exact ⟨rfl, hdetector, hj.advance hworld _⟩
  render := by
    rintro r _ a _ frame rfl rfl -
    rcases r.render frame a.1 with fault | ⟨report, renderer⟩
    · exact .failed fault
    · exact .come ⟨rfl, rfl⟩

/-! ### What is taken down stays -/

section

variable {p q : Pipeline σ (Numbered κ) δ} {l m : Ledger ω}

omit [Surface σ] [DetectionService δ ω] in
theorem log_stop (p : Pipeline σ (Numbered κ) δ) (l : Ledger ω) : l.log <+: (p.stop l).2.log := by
  rw [← release_eq]
  exact p.log_release l

omit [Surface σ] [DetectionService δ ω] in
theorem log_session_stop (s : Session (Numbered κ)) (l : Ledger ω) :
    l.log <+: (s.stop l).2.log := by
  rcases s with ⟨deviceId, constraints, ⟨source, _ | n⟩, _ | _⟩
  · exact List.prefix_append _ _
  · exact List.prefix_rfl
  · exact List.prefix_append _ _
  · exact List.prefix_rfl

omit [Surface σ] [DetectionService δ ω] in
theorem log_session_next (s : Session (Numbered κ)) (l : Ledger ω) :
    l.log <+: (s.next l).2.2.log := by
  rcases s with ⟨deviceId, constraints, ⟨source, _ | n⟩, _ | _⟩
  · exact List.prefix_append _ _
  · exact List.prefix_rfl
  · exact List.prefix_append _ _
  · exact List.prefix_rfl

omit [Surface σ] [DetectionService δ ω] in
theorem log_session_start (deviceId : String) (constraints : Constraints) (source : Numbered κ)
    (l : Ledger ω) : l.log <+: (Session.start deviceId constraints source l).2.log := by
  unfold Session.start
  rcases hconnect : FrameSource.connect source l with ⟨outcome, source', m⟩
  have hlog : l.log <+: m.log := by
    have hworld : (FrameSource.connect source l).2.2 = m := by rw [hconnect]
    rw [← hworld]
    rcases source with ⟨source, _ | n⟩
    · exact List.prefix_append _ _
    · exact List.prefix_append _ _
  rcases outcome with e | _
  · exact hlog
  · exact hlog

/-- What was taken down before an operation stays. -/
theorem log_perform {op : Op (Numbered κ)} {answer : Answer}
    (h : perform op p l = .ok (answer, q, m)) : l.log <+: m.log := by
  have hcame := came h
  generalize op.events p l = events at hcame
  cases hcame with
  | paused => exact List.prefix_rfl
  | resumed => exact List.prefix_rfl
  | stopped => exact p.log_stop l
  | unmatched hdevice => exact p.log_stop l
  | @unconnected _ deviceId constraints source _ _ hop hstart =>
    have hlog := log_session_start deviceId constraints source (p.stop l).2
    rw [hstart] at hlog
    exact (p.log_stop l).trans hlog
  | @opened _ deviceId constraints source _ _ hop hstart =>
    have hlog := log_session_start deviceId constraints source (p.stop l).2
    rw [hstart] at hlog
    exact (p.log_stop l).trans hlog
  | idle hidle => exact List.prefix_rfl
  | @lost s s' l' _ hsession hpaused hnext =>
    have hlog := log_session_next s l
    rw [hnext] at hlog
    exact hlog.trans (log_session_stop s' l')
  | @shown s s' l' _ frame _ _ hsession hpaused hnext hprocess =>
    have hlog := log_session_next s l
    rw [hnext] at hlog
    obtain ⟨-, -, -, rfl⟩ := process_keeps hprocess
    rw [(detect_ledger _ frame l').1]
    exact hlog

end

/-! ### Failures -/

omit [FrameSource κ ω Float] [Surface σ] [DetectionService δ ω] in
/-- A failure ends a session and opens none. -/
theorem ends_of_isFailure {e : Entry κ} (h : e.answer.isFailure = true) :
    e.opens = false ∧ e.ends = true := by
  obtain ⟨op, answer, events⟩ := e
  refine ⟨?_, ?_⟩
  · rcases answer with _ | ⟨e | _⟩ | outcome
    · rfl
    · rfl
    · cases h
    · rfl
  · unfold Entry.ends
    rw [h]
    rfl

/-- **A failure leaves the pipeline that the end of its session leaves**, and nothing is shown or
sent. -/
theorem ended_of_failure {op : Op κ} {answer : Answer} {p q : Pipeline σ κ δ} {w v : ω}
    (h : perform op p w = .ok (answer, q, v)) (hfail : answer.isFailure = true) :
    q = p.ended ∧ (⟨op, answer, op.events p w⟩ : Entry κ).Quiet := by
  have hturn := (came h).turn
  obtain ⟨hopens, hends⟩ := ends_of_isFailure (e := ⟨op, answer, op.events p w⟩) hfail
  generalize (⟨op, answer, op.events p w⟩ : Entry κ) = e at hturn hopens hends ⊢
  cases hturn with
  | kept hopens' hends' hquiet hpaused => exact absurd (hends'.symm.trans hends) Bool.false_ne_true
  | ended hopens' hends' hquiet => exact ⟨rfl, hquiet⟩
  | opened hopens' hquiet s => exact absurd (hopens.symm.trans hopens') Bool.false_ne_true
  | shown hopens' hends' => exact absurd (hends'.symm.trans hends) Bool.false_ne_true

/-- No more is done without a session until one is opened. -/
theorem step_ended (p : Pipeline σ κ δ) (w : ω) : p.ended.step w = .ok (.ok none, p.ended, w) :=
  step_of_idle rfl w

/-- What a failure takes down sends nothing. -/
theorem submissions_of_failure {op : Op κ} {answer : Answer} {p q : Pipeline σ κ δ}
    {j k : Journal ω} (h : perform op p j = .ok (answer, q, k))
    (hfail : answer.isFailure = true) : k.submissions = j.submissions := by
  rw [perform_takes_down] at h
  obtain ⟨⟨answer', q', v⟩, hact, hafter⟩ := Results.map_eq_ok_iff.mp h
  cases hafter
  have hquiet := (ended_of_failure hact hfail).2
  unfold Journal.submissions Journal.advance
  rw [List.filterMap_append]
  refine (congrArg _ (List.filterMap_eq_nil_iff.2 ?_)).trans (List.append_nil _)
  intro event hevent
  obtain ⟨error, rfl⟩ := hquiet.events event hevent
  rfl

/-- In worlds that are related the same pipeline goes the same way, whatever happened before. -/
theorem enactAll_since {S : ω → ω → Prop} (hsources : SourcesAgree κ S)
    (hservices : ServicesAgree δ S) {j k : Journal ω} (hworld : S j.world k.world)
    (p : Pipeline σ κ δ) (later : List (Request κ)) :
    (enactAll later p j).1 = (enactAll later p k).1 ∧
      (enactAll later p j).2.1 = (enactAll later p k).2.1 ∧
      Journal.Since S j.log k.log (enactAll later p j).2.2 (enactAll later p k).2.2 := by
  have hnow : Journal.Since S j.log k.log j k :=
    ⟨hworld, [], (List.append_nil _).symm, (List.append_nil _).symm⟩
  have hrequests :=
    Likeness.requests_refl (L := since σ κ δ S j.log k.log) (fun _ => rfl) later
  obtain ⟨hreplies, hpipelines, hworlds⟩ :=
    Likeness.enactAll (since_lawful hsources hservices j.log k.log) hrequests (since_refl p) hnow
  exact ⟨Likeness.replies_eq (fun _ _ => id) hreplies,
    Likeness.pipelines_eq (fun _ _ => id) (fun _ _ => id) (fun _ _ => id) hpipelines, hworlds⟩

/-- An operation is carried out as without numbers. -/
theorem perform_numbered {op : Op κ} {p' : Pipeline σ (Numbered κ) δ} {p q : Pipeline σ κ δ}
    {l : Ledger ω} {w v : ω} {answer : Answer} (hp : (erasing σ κ δ ω).Pipelines p' p)
    (hw : l.world = w) (h : perform op p w = .ok (answer, q, v)) :
    ∃ q' m, perform op.numbered p' l = .ok (answer, q', m) ∧ q'.plain = q ∧ m.world = v := by
  have hact := Likeness.perform erasing_lawful (ops_numbered op) hp hw
  rw [h] at hact
  rcases hnumbered : perform op.numbered p' l with fault | ⟨answer', q', m⟩
  · rw [hnumbered] at hact
    cases hact with
    | halted hmay => exact hmay.elim
  · rw [hnumbered] at hact
    cases hact with
    | come hafter =>
      obtain ⟨hanswer, hq, hm⟩ := hafter
      obtain rfl := Likeness.answers_eq (fun _ _ => id) hanswer
      exact ⟨q', m, rfl, plain_eq hq, hm⟩

/-- Where an operation leaves no session, no source is open, and the one that was open before was
stopped once. -/
theorem sources_of_perform {op : Op κ} {answer : Answer} {p q : Pipeline σ (Numbered κ) δ}
    {l m : Ledger ω} (h : Attended p l) (hact : perform op.numbered p l = .ok (answer, q, m))
    (hover : q.session = none) :
    (∀ n, ¬ IsOpen n m.log) ∧ ∀ n, IsOpen n l.log → m.log.count (.stopped n) = 1 := by
  have hend : Attended q m := perform_attended (hands_numbered (.act op)) h hact
  obtain ⟨hclosed, hstopped⟩ := hend.closed hover
  refine ⟨hclosed, ?_⟩
  intro n hopen
  exact hstopped n ((log_perform hact).subset hopen.1)

/-- **A failure is the end of a session.**  Whatever was asked of a new pipeline before, where a
session cannot be opened or a frame cannot be had: the pipeline is the one that the end of the
session would have left, without a session, not paused and with the stream clock unset; nothing was
drawn or sent and the readouts are as they were; the source that was open is stopped, once; no
iteration is made; and whatever is asked later, sources and services that cannot tell the worlds
apart make it the same as after the end of the session. -/
theorem failure_is_an_end {S : ω → ω → Prop} (hsources : SourcesAgree κ S)
    (hservices : ServicesAgree δ S) (catalog : Catalog) (settings : PipelineSettings)
    (sourceOf : SourceSettings → Except AcquisitionError κ) (detector : δ) (surface : σ)
    (style : OverlayStyle) (readouts : Readouts) (requests : List (Request κ)) (w : ω) (op : Op κ)
    (answer : Answer) (q : Pipeline σ κ δ) (k : Journal ω) :
    let renderer : Renderer σ := { surface, style, readouts }
    let seen := enactAll requests { catalog, settings, sourceOf, detector, renderer }
      ({ world := w } : Journal ω)
    let watched := enactAll (requests.map Request.numbered)
      { catalog, settings, sourceOf := numbering sourceOf, detector, renderer }
      ({ world := { world := w } } : Ledger (Journal ω))
    let p := seen.2.1
    let stopped := seen.2.1.stop seen.2.2
    perform op p seen.2.2 = .ok (answer, q, k) → answer.isFailure = true →
      q = stopped.1 ∧ q.session = none ∧ q.paused = false ∧ q.renderer.clock = .reset ∧
      q.renderer.surface = p.renderer.surface ∧ q.renderer.readouts = p.renderer.readouts ∧
      k.submissions = seen.2.2.submissions ∧
      (∀ u : Journal ω, q.step u = .ok (.ok none, q, u)) ∧
      (∃ q' m, perform op.numbered watched.2.1 watched.2.2 = .ok (answer, q', m) ∧
        q'.plain = q ∧ m.world = k ∧ (∀ n, ¬ IsOpen n m.log) ∧
        ∀ n, IsOpen n watched.2.2.log → m.log.count (.stopped n) = 1) ∧
      (S k.world stopped.2.world → ∀ later : List (Request κ),
        (enactAll later q k).1 = (enactAll later stopped.1 stopped.2).1 ∧
        (enactAll later q k).2.1 = (enactAll later stopped.1 stopped.2).2.1 ∧
        Journal.Since S k.log stopped.2.log (enactAll later q k).2.2
          (enactAll later stopped.1 stopped.2).2.2) := by
  intro renderer seen watched p stopped hact hfail
  have hended : q = p.ended := (ended_of_failure hact hfail).1
  have hstopped : stopped.1 = p.ended := p.stop_fst seen.2.2
  have hsettled : p.Settled := enactAll_settled requests (fun _ => ⟨rfl, rfl⟩) _
  have hattended : Attended watched.2.1 watched.2.2 :=
    enactAll_attended requests (new_attended catalog settings sourceOf detector renderer _)
  have herasing : (erasing σ κ δ (Journal ω)).After (· = ·) watched seen :=
    enactAll_erasing requests (new_erasing catalog settings sourceOf detector renderer) _
  subst hended
  refine ⟨hstopped.symm, rfl, rfl, ?_, p.ended_renderer.1, p.ended_renderer.2,
    submissions_of_failure hact hfail, p.step_ended, ?_, ?_⟩
  · rw [← hstopped]
    exact clock_stop hsettled seen.2.2
  · obtain ⟨q', m, hnumbered, hplain, hm⟩ :=
      perform_numbered herasing.pipelines herasing.world hact
    have hover : q'.session = none := by
      have hnone : q'.plain.session = none := by
        rw [hplain]
        rfl
      exact Option.map_eq_none_iff.1 hnone
    obtain ⟨hclosed, honce⟩ := sources_of_perform hattended hnumbered hover
    exact ⟨q', m, hnumbered, hplain, hm, hclosed, honce⟩
  · intro hworld later
    rw [hstopped]
    exact enactAll_since hsources hservices hworld p.ended later

/-- A stream that ends after its first frame. -/
theorem failure_is_an_end_of_stream :
    let frame : Frame Float := ⟨.fill 2 1 ⟨200, 0, 0⟩, 0.0, ⟨1, 0.0, 0.0, 2, 1, "camera"⟩⟩
    let requests : List (Request (ReplaySource Float)) :=
      [.act (.startWith "camera" { outcomes := [.ok frame] }), .act .step]
    let seen := enactAll requests
      { catalog := ⟨[]⟩, settings := { format := .png }, sourceOf := fun _ => .error .streamEnded,
        detector := Detector.stub 0, renderer := { surface := ({} : Recorder) } }
      ({ world := World.start [] } : Journal (World Float))
    let stopped := seen.2.1.stop seen.2.2
    let same (w₁ w₂ : World Float) := w₁ = w₂
    SourcesAgree (ReplaySource Float) same ∧ ServicesAgree Detector same ∧
      ∃ answer q k, perform .step seen.2.1 seen.2.2 = .ok (answer, q, k) ∧
        answer.isFailure = true ∧ q = stopped.1 ∧ same k.world stopped.2.world ∧
        ∀ later, (enactAll later q k).1 = (enactAll later stopped.1 stopped.2).1 := by
  intro frame requests seen stopped same
  have hsources : SourcesAgree (ReplaySource Float) same := by
    refine ⟨?_, ?_, ?_⟩
    · rintro source w _ rfl
      exact ⟨rfl, rfl, rfl⟩
    · rintro source w _ rfl
      exact ⟨rfl, rfl, rfl⟩
    · rintro source w _ rfl
      exact ⟨rfl, rfl⟩
  have hservices : ServicesAgree Detector same := by
    rintro octets mediaType d w _ rfl
    exact ⟨rfl, rfl, rfl⟩
  have hlost : ∃ q k, perform .step seen.2.1 seen.2.2 =
      .ok (.stepped (.error .streamEnded), q, k) ∧ same k.world stopped.2.world :=
    ⟨_, _, rfl, rfl⟩
  obtain ⟨q, k, hlost, hworld⟩ := hlost
  obtain ⟨hq, -, -, -, -, -, -, -, -, hlater⟩ :=
    failure_is_an_end hsources hservices ⟨[]⟩ { format := .png } (fun _ => .error .streamEnded)
      (Detector.stub 0) ({} : Recorder) {} {} requests (World.start []) .step _ q k hlost rfl
  refine ⟨hsources, hservices, _, q, k, hlost, rfl, hq, hworld, ?_⟩
  intro later
  exact (hlater hworld later).1

end Pipeline

end Lookout
