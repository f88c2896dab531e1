import Lookout.Display.Recorder
import Lookout.Display.Renderer
import Lookout.Proofs.Json.WrittenNumbers
/-!
# The record beside the surface

Every frame that is rendered leaves its record beside the surface, as a text.  The text is one JSON
object with six members in a fixed order (`members_of_json`).  Whatever the source of the frame is
called, its name is taken for nothing else: reading the text gives the counts and the name again
(`read_json`).  The times are `null` exactly if they are not finite.
-/

namespace Lookout

open Json

namespace Json

theorem isNull_trimmed (v : Value) : v.trimmed.isNull = v.isNull := by
  cases v <;> rfl

/-- The members of an object are told by its text, up to their blanks. -/
theorem exists_members_of_isDocument {text : String} {doc : Padded Value} {b inner a : Blanks}
    {ms : List Member} {found : List (String × Value)} (hdoc : IsDocument text doc)
    (hms : IsDocument text ⟨b, .object inner ms, a⟩) (hfound : namedMembers? ms = some found) :
    ∃ inner' ms' found', doc.inner = .object inner' ms' ∧ namedMembers? ms' = some found' ∧
      found'.map (fun m => (m.1, m.2.trimmed)) = found.map fun m => (m.1, m.2.trimmed) := by
  have htrimmed := trimmed_eq_of_isDocument hdoc hms
  cases hinner : doc.inner with
  | object inner' ms' =>
    rw [hinner] at htrimmed
    unfold Value.trimmed at htrimmed
    have hnames := congrArg namedMembers? (Value.object.inj htrimmed).2
    rw [namedMembers?_trimmedMembers, namedMembers?_trimmedMembers, hfound] at hnames
    obtain ⟨found', hfound', heq⟩ := Option.map_eq_some_iff.mp hnames
    exact ⟨inner', ms', found', rfl, hfound', heq⟩
  | _ =>
    rw [hinner] at htrimmed
    cases htrimmed

/-- A count is written as a value that is read as the count. -/
theorem exists_written_count (k : Nat) : ∃ v : Value, (toString k).toList = v.chars ∧
    v.isNull = false ∧ ∀ high : Int, k < high → v.integer? 0 high = some (.integer k) := by
  obtain ⟨v, hv, hwhole⟩ := exists_written_whole k
  refine ⟨v, hv, ?_, fun high hhigh => ?_⟩
  · cases v with
    | null => cases hwhole
    | _ => rfl
  · unfold Value.integer?
    rw [hwhole, Option.bind_some, if_pos ⟨Int.natCast_nonneg k, hhigh⟩]

/-- A time is written as a value that is absent, and `null`, exactly if it is not finite. -/
theorem exists_written_time (x : Float) : ∃ v : Value, (number x).toList = v.chars ∧
    v.isNull = !x.isFinite ∧
    ∃ d, (Shape.optional .real32).decode v = some d ∧ (d = .absent ↔ x.isFinite = false) := by
  obtain ⟨v, hv, hnull, hvalue⟩ := exists_written_number x
  refine ⟨v, hv, by rw [Bool.eq_iff_iff, hnull, Bool.not_eq_true'], ?_⟩
  unfold Shape.decode
  by_cases habsent : v.isNull = true
  · rw [if_pos habsent]
    exact ⟨.absent, rfl, iff_of_true rfl (hnull.mp habsent)⟩
  · have hfinite : x.isFinite = true := by
      rw [← Bool.not_eq_false]
      exact mt hnull.mpr habsent
    obtain ⟨n, hn⟩ := Option.isSome_iff_exists.mp (hvalue hfinite)
    rw [if_neg habsent]
    refine ⟨.real n.single, ?_, iff_of_false nofun (by rw [hfinite]; exact nofun)⟩
    show v.number?.map _ = _
    rw [hn]
    rfl

/-- A name is written as a value that is read as the name. -/
theorem exists_written_name (s : String) : ∃ v : Value, (string s).toList = v.chars ∧
    v.isNull = false ∧ v.text? = some s := by
  obtain ⟨ps, hps, htext⟩ := exists_written_string s
  exact ⟨.text ps, hps, rfl, htext⟩

/-- A field takes the first member if that is the only one with its name. -/
theorem decodeMembers_cons_of_first {name : String} {absence : Absence} {shape : Shape}
    {rest : Fields} {v : Value} {found : List (String × Value)} {d : Datum} {ds : List Datum}
    (hothers : ∀ m ∈ found, m.1 ≠ name) (hd : shape.decode v = some d)
    (hds : rest.decodeMembers found = some ds) :
    (Fields.cons name absence shape rest).decodeMembers ((name, v) :: found) = some (d :: ds) := by
  have hnone : found.filter (·.1 == name) = [] :=
    List.filter_eq_nil_iff.mpr fun m hm => by simpa using hothers m hm
  have hall : found.filter (·.1 != name) = found :=
    List.filter_eq_self.mpr fun m hm => by simpa using hothers m hm
  obtain ⟨hown, hmore⟩ := filter_of_eq (beq_self_eq_true name) v found
  unfold Fields.decodeMembers
  rw [hown, hmore, hnone, hall, hds]
  show (shape.decode v).bind _ = _
  rw [hd]
  rfl

end Json

namespace Metadata

variable {m : Metadata Float}

/-- The fields of the record. -/
def fields : Fields := .ofList [
  ("presentedFrames", .required, .nat64),
  ("presentationTime", .required, .optional .real32),
  ("mediaTime", .required, .optional .real32),
  ("width", .required, .nat32),
  ("height", .required, .nat32),
  ("source", .required, .text)]

/-- The names of the members, each with whether it is `null`. -/
def outline (m : Metadata Float) : List (String × Bool) := [
  ("presentedFrames", false),
  ("presentationTime", !m.presentationTime.isFinite),
  ("mediaTime", !m.mediaTime.isFinite),
  ("width", false),
  ("height", false),
  ("source", false)]

/-- The numbers of the record are numbers of the program. -/
structure Sized (m : Metadata Float) : Prop where
  /-- The count fits 64 bits. -/
  presentedFrames : m.presentedFrames < 2 ^ 64
  /-- The width fits 32 bits. -/
  width : m.width < 2 ^ 32
  /-- The height fits 32 bits. -/
  height : m.height < 2 ^ 32

/-- What the record says: the counts and the name are those of the frame, and a time is there if it
is finite. -/
def Says (m : Metadata Float) (ds : List Datum) : Prop :=
  ∃ presentationTime mediaTime, ds = [.integer m.presentedFrames, presentationTime, mediaTime,
      .integer m.width, .integer m.height, .text m.source] ∧
    (presentationTime = .absent ↔ m.presentationTime.isFinite = false) ∧
    (mediaTime = .absent ↔ m.mediaTime.isFinite = false)

/-- **The record is written** as an object with its members. -/
theorem exists_written (m : Metadata Float) : ∃ ms found, namedMembers? ms = some found ∧
    IsDocument m.json ⟨.none, .object .none ms, .none⟩ ∧
    found.map (fun x => (x.1, x.2.isNull)) = m.outline ∧
    (m.Sized → ∃ ds, fields.decodeMembers found = some ds ∧ m.Says ds) := by
  obtain ⟨n, hn, hnnull, hcount⟩ := exists_written_count m.presentedFrames
  obtain ⟨t, ht, htnull, d, hd, habsent⟩ := exists_written_time m.presentationTime
  obtain ⟨t', ht', htnull', d', hd', habsent'⟩ := exists_written_time m.mediaTime
  obtain ⟨w, hw, hwnull, hwidth⟩ := exists_written_count m.width
  obtain ⟨h, hh, hhnull, hheight⟩ := exists_written_count m.height
  obtain ⟨s, hs, hsnull, hsource⟩ := exists_written_name m.source
  have hne : [("presentedFrames", n), ("presentationTime", t), ("mediaTime", t'), ("width", w),
    ("height", h), ("source", s)] ≠ [] := List.cons_ne_nil _ _
  obtain ⟨ms, hms, hdoc⟩ := exists_written_object hne
  refine ⟨ms, _, hms, ?_, ?_, fun hsized => ⟨_, ?_, d, d', rfl, habsent, habsent'⟩⟩
  · have hjson : m.json = object ([("presentedFrames", n), ("presentationTime", t),
        ("mediaTime", t'), ("width", w), ("height", h), ("source", s)].map fun x =>
          (x.1, String.ofList x.2.chars)) := by
      simp only [List.map_cons, List.map_nil, ← hn, ← ht, ← ht', ← hw, ← hh, ← hs,
        String.ofList_toList]
      rfl
    rw [hjson]
    exact hdoc
  · simp only [List.map_cons, List.map_nil, hnnull, htnull, htnull', hwnull, hhnull, hsnull]
    rfl
  · have htext : Shape.text.decode s = some (.text m.source) := by
      show s.text?.map Datum.text = _
      rw [hsource]
      rfl
    refine decodeMembers_cons_of_first (by simp) (hcount _ (mod_cast hsized.presentedFrames)) ?_
    refine decodeMembers_cons_of_first (by simp) hd ?_
    refine decodeMembers_cons_of_first (by simp) hd' ?_
    refine decodeMembers_cons_of_first (by simp) (hwidth _ (mod_cast hsized.width)) ?_
    refine decodeMembers_cons_of_first (by simp) (hheight _ (mod_cast hsized.height)) ?_
    exact decodeMembers_cons_of_first nofun htext rfl

/-- What the record is expected to be. -/
def shape : Shape := .record "Metadata" fields

/-- **The members of the record** are these six, however it is taken apart; a time is `null` exactly
if it is not finite. -/
theorem members_of_json {doc : Padded Value} (hdoc : IsDocument m.json doc) :
    ∃ inner ms found, doc.inner = .object inner ms ∧ namedMembers? ms = some found ∧
      found.map (fun x => (x.1, x.2.isNull)) = m.outline := by
  obtain ⟨ms, found, hfound, hwritten, houtline, -⟩ := m.exists_written
  obtain ⟨inner', ms', found', hinner, hfound', htrimmed⟩ :=
    exists_members_of_isDocument hdoc hwritten hfound
  refine ⟨inner', ms', found', hinner, hfound', ?_⟩
  have hnulls := congrArg (List.map fun x : String × Value => (x.1, x.2.isNull)) htrimmed
  simp only [List.map_map, Function.comp_def, isNull_trimmed] at hnulls
  rw [hnulls, houtline]

/-- **The record is read again** as what it says. -/
theorem read_json (h : m.Sized) : ∃ ds, Json.read shape m.json = .ok (.record ds) ∧ m.Says ds := by
  obtain ⟨ms, found, hfound, hwritten, -, hmeaning⟩ := m.exists_written
  obtain ⟨ds, hds, hsays⟩ := hmeaning h
  refine ⟨ds, (read_eq_ok_iff_decode hwritten).mpr ?_, hsays⟩
  show (namedMembers? ms).bind _ = _
  rw [hfound, Option.bind_some, hds]
  rfl

end Metadata

namespace Renderer

variable {σ : Type} [Surface σ] {r r' : Renderer σ} {frame : Frame Float}

/-- A renderer renders a frame, with something over it or with nothing. -/
inductive Renders (r : Renderer σ) (frame : Frame Float) : Renderer σ → Prop where
  /-- With something over it; that may fail. -/
  | drawn {overlay : Overlay} {report : RenderReport} {r' : Renderer σ}
    (h : r.render frame overlay = .ok (report, r')) : Renders r frame r'
  /-- With nothing over it. -/
  | plain : Renders r frame (r.renderPlain frame).2

/-- Whatever is rendered, its record is beside the surface. -/
theorem Renders.metadataText_eq (h : r.Renders frame r') :
    r'.readouts.metadataText = frame.metadata.json := by
  cases h with
  | plain => rfl
  | drawn h =>
    obtain ⟨surface, -, hfinish⟩ := Results.bind_eq_ok_iff.mp h
    cases hfinish
    rfl

/-- **The text beside the surface** is one JSON object with the members of the record in their
order, in whichever way it is taken apart, and its times are `null` exactly if they are not finite.
Reading it gives the counts and the name of the source again, whatever characters the name has. -/
theorem metadataText_of_renders (h : r.Renders frame r') (hsized : frame.metadata.Sized) :
    (∃ doc, IsDocument r'.readouts.metadataText doc) ∧
      (∀ doc, IsDocument r'.readouts.metadataText doc → ∃ inner ms found,
        doc.inner = .object inner ms ∧ namedMembers? ms = some found ∧
          found.map (fun x => (x.1, x.2.isNull)) = frame.metadata.outline) ∧
      ∃ ds, Json.read Metadata.shape r'.readouts.metadataText = .ok (.record ds) ∧
        frame.metadata.Says ds := by
  rw [h.metadataText_eq]
  obtain ⟨ms, found, -, hwritten, -⟩ := frame.metadata.exists_written
  exact ⟨⟨_, hwritten⟩, fun doc hdoc => Metadata.members_of_json hdoc, Metadata.read_json hsized⟩

/-- A name that looks like the end of the record, with a time that is not a number. -/
theorem metadataText_of_quoted_source :
    let source := "\"\n\x7d,\\\x01\x7b\"source\": null"
    let frame : Frame Float :=
      ⟨.fill 1 1 ⟨0, 0, 0⟩, 0.0, ⟨2 ^ 64 - 1, 0.0 / 0.0, 0.1, 640, 480, source⟩⟩
    let renderer : Renderer Recorder := { surface := {} }
    ∃ mediaTime, Json.read Metadata.shape
        (renderer.renderPlain frame).2.readouts.metadataText =
          .ok (.record [.integer (2 ^ 64 - 1), .absent, mediaTime, .integer 640, .integer 480,
            .text source]) ∧ mediaTime ≠ .absent := by
  intro source frame renderer
  have hrenders : renderer.Renders frame (renderer.renderPlain frame).2 := .plain
  obtain ⟨-, -, ds, hread, t, mediaTime, rfl, ht, hmediaTime⟩ :=
    metadataText_of_renders hrenders ⟨by decide, by decide, by decide⟩
  obtain rfl : t = .absent := ht.mpr (by decide +kernel)
  exact ⟨mediaTime, hread, fun habsent => absurd (hmediaTime.mp habsent) (by decide +kernel)⟩

end Renderer

end Lookout
