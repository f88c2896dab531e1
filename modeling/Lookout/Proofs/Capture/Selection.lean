import Lookout.Proofs.Capture.Cameras
import Lookout.Proofs.Capture.PictureScan
import Lookout.Proofs.Results
import Lookout.Proofs.Time.Exact
/-!
# Which pictures of a stream become frames

A camera that sends a stream is read picture by picture, and the clock is read once for each.  What
is picked of the pictures depends on these readings alone: the first one, and then each one that
comes no earlier than an interval after the one that was picked last (`picked`).

* **A stream delivers what is picked of its pictures** (`HttpSource.delivers_picked`): the frames
  are the picked pictures in their order, numbered and with the times at which they came, and after
  them there is only the end of the stream.  Pictures that are not picked are used up; whether they
  could be decoded makes no difference.

After some requests a source has used up some pictures, and its pacer, its count and its stream are
those that `Stands` says.  What one request does to that is `Stands.next`.
-/

namespace Lookout

/-! ### The selection -/

section selection

variable {τ : Type} [Timeline τ]

/-- After some picks, the time at a position is late enough: there are none, or it is no earlier
than an interval after the last of them. -/
def LateEnough (interval : Span) (times : Nat → τ) (picks : List Nat) (n : Nat) : Prop :=
  ∀ last ∈ picks.getLast?, times last + Timeline.ofSpan interval ≤ times n

instance (interval : Span) (times : Nat → τ) (picks : List Nat) (n : Nat) :
    Decidable (LateEnough interval times picks n) :=
  inferInstanceAs (Decidable (∀ last ∈ picks.getLast?, _))

/-- The positions that are picked among the first `n`: each at which the time is late enough after
those picked before it. -/
def picked (interval : Span) (times : Nat → τ) : Nat → List Nat
  | 0 => []
  | n + 1 =>
    if LateEnough interval times (picked interval times n) n then picked interval times n ++ [n]
    else picked interval times n

variable {interval : Span} {times : Nat → τ}

theorem picked_succ_of_late {n : Nat}
    (h : LateEnough interval times (picked interval times n) n) :
    picked interval times (n + 1) = picked interval times n ++ [n] :=
  if_pos h

theorem picked_succ_of_early {n : Nat}
    (h : ¬LateEnough interval times (picked interval times n) n) :
    picked interval times (n + 1) = picked interval times n :=
  if_neg h

/-- A position is picked exactly if it is the first, or no earlier than an interval after the one
picked last before it. -/
theorem mem_picked_iff {n i : Nat} :
    i ∈ picked interval times n ↔
      i < n ∧ LateEnough interval times (picked interval times i) i := by
  induction n with
  | zero => simp [picked]
  | succ n ih =>
    by_cases hlate : LateEnough interval times (picked interval times n) n
    · rw [picked_succ_of_late hlate, List.mem_append, ih, List.mem_singleton,
        Nat.lt_succ_iff_lt_or_eq]
      constructor
      · rintro (⟨hlt, hi⟩ | rfl)
        · exact ⟨Or.inl hlt, hi⟩
        · exact ⟨Or.inr rfl, hlate⟩
      · rintro ⟨hlt | rfl, hi⟩
        · exact Or.inl ⟨hlt, hi⟩
        · exact Or.inr rfl
    · rw [picked_succ_of_early hlate, ih, Nat.lt_succ_iff_lt_or_eq]
      constructor
      · rintro ⟨hlt, hi⟩
        exact ⟨Or.inl hlt, hi⟩
      · rintro ⟨hlt | rfl, hi⟩
        · exact ⟨hlt, hi⟩
        · exact absurd hi hlate

/-- What is picked among the first positions begins what is picked among more of them. -/
theorem picked_begins {m n : Nat} (h : m ≤ n) :
    picked interval times m <+: picked interval times n := by
  induction n, h using Nat.le_induction with
  | base => exact List.prefix_rfl
  | succ n _ ih =>
    by_cases hlate : LateEnough interval times (picked interval times n) n
    · rw [picked_succ_of_late hlate]
      exact ih.trans (List.prefix_append _ _)
    · rw [picked_succ_of_early hlate]
      exact ih

end selection

/-! ### The pictures of a stream -/

namespace MjpegStream

/-- The pictures that a stream gives when it is asked for one after the other. -/
def images (s : MjpegStream) : List (List UInt8) :=
  match _h : s.next with
  | (.ok picture, rest) => picture :: rest.images
  | (.error _, _) => []
termination_by remaining s.buffer s.chunks
decreasing_by exact remaining_read_lt _h

variable {s rest : MjpegStream}

theorem images_of_ok {picture : List UInt8} (h : s.next = (.ok picture, rest)) :
    s.images = picture :: rest.images := by
  rw [images]
  split
  · rename_i hok
    rw [h, Prod.mk.injEq, Except.ok.injEq] at hok
    obtain ⟨rfl, rfl⟩ := hok
    rfl
  · rename_i herror
    rw [h] at herror
    cases herror

theorem images_of_error {cause : AcquisitionError} (h : s.next = (.error cause, rest)) :
    s.images = [] := by
  rw [images]
  split
  · rename_i hok
    rw [h] at hok
    cases hok
  · rfl

/-- Reading on does not change how the stream ends. -/
theorem ending_read (ending : Net.Ending) (buffer : List UInt8) (chunks : List ByteArray) :
    (read ending buffer chunks).2.ending = ending := by
  fun_induction read ending buffer chunks with
  | case1 => rfl
  | case2 => rfl
  | case3 _ _ _ _ ih => exact ih

/-- A stream that has no further picture fails as it ends, and goes on to do so. -/
theorem read_eq_error {ending : Net.Ending} {buffer : List UInt8} {chunks : List ByteArray}
    {cause : AcquisitionError} (h : read ending buffer chunks = (.error cause, rest)) :
    cause = endError ending ∧ rest.images = [] := by
  fun_induction read ending buffer chunks with
  | case1 => simp at h
  | case2 buffer hnone =>
    rw [Prod.mk.injEq, Except.error.injEq] at h
    obtain ⟨rfl, rfl⟩ := h
    have hagain : next ⟨buffer, [], ending⟩ = (.error (endError ending), ⟨buffer, [], ending⟩) := by
      unfold next read
      simp only [hnone]
    exact ⟨rfl, images_of_error hagain⟩
  | case3 _ _ _ _ ih => exact ih h

/-- A stream without pictures ends. -/
theorem next_of_images_nil (h : s.images = []) :
    ∃ rest, s.next = (.error (endError s.ending), rest) ∧ rest.images = [] ∧
      rest.ending = s.ending := by
  rcases hnext : s.next with ⟨cause | picture, rest⟩
  · obtain ⟨rfl, hrest⟩ := read_eq_error hnext
    have hending : s.next.2.ending = s.ending := ending_read _ _ _
    rw [hnext] at hending
    exact ⟨rest, rfl, hrest, hending⟩
  · rw [images_of_ok hnext] at h
    cases h

/-- A stream with pictures gives the first of them. -/
theorem next_of_images_cons {picture : List UInt8} {more : List (List UInt8)}
    (h : s.images = picture :: more) :
    ∃ rest, s.next = (.ok picture, rest) ∧ rest.images = more ∧ rest.ending = s.ending := by
  rcases hnext : s.next with ⟨cause | found, rest⟩
  · rw [images_of_error hnext] at h
    cases h
  · rw [images_of_ok hnext] at h
    obtain ⟨rfl, rfl⟩ := List.cons.inj h
    have hending : s.next.2.ending = s.ending := ending_read _ _ _
    rw [hnext] at hending
    exact ⟨rest, rfl, rfl, hending⟩

/-- Answers that are pictures and then a failure are all the pictures of a stream. -/
theorem images_of_answers {pictures : List (List UInt8)} {cause : AcquisitionError}
    (h : answers (pictures.length + 1) s = pictures.map .ok ++ [.error cause]) :
    s.images = pictures := by
  induction pictures generalizing s with
  | nil =>
    have hfirst : s.next.1 = .error cause := (List.cons.inj h).1
    exact images_of_error (Prod.ext hfirst rfl)
  | cons picture more ih =>
    obtain ⟨hfirst, hmore⟩ := List.cons.inj h
    rw [images_of_ok (Prod.ext hfirst rfl), ih hmore]

/-- The pictures do not depend on how the octets are cut into pieces, as long as none is so far
behind the one before it that the buffer could overflow. -/
theorem images_eq_pictures (body : Net.Body) (hsize : ∀ chunk ∈ body.chunks, chunk.size ≤ 8192)
    (hnear : Spaced (pending body.chunks) 0) :
    (ofBody body).images = pictures (pending body.chunks) := by
  have hscan := answers_from (pending body.chunks) 1 0 (ofBody body) hsize rfl hnear
  unfold pictures
  apply images_of_answers
  rw [List.length_map, List.map_map]
  exact hscan

end MjpegStream

/-! ### Readings -/

namespace Clock

variable {τ ω : Type} [Clock ω τ]

/-- The world after so many readings of its clock. -/
def afterReadings (w : ω) : Nat → ω
  | 0 => w
  | n + 1 => (now (afterReadings w n)).2

/-- The reading of the clock after so many others. -/
def reading (w : ω) (n : Nat) : τ := (now (afterReadings w n)).1

end Clock

/-! ### Reading on to a picture that is due -/

section pacer

variable {τ : Type} [Timeline τ]

/-- A pacer that has granted the times that are picked among the first ones. -/
structure Pacer.Keeps (interval : Span) (times : Nat → τ) (pos : Nat) (p : Pacer τ) : Prop where
  /-- It has the interval. -/
  interval_eq : p.interval = interval
  /-- The next frame is due an interval after the last pick. -/
  nextDue_eq : p.nextDue = (picked interval times pos).getLast?.map fun last =>
    times last + Timeline.ofSpan interval

namespace Pacer.Keeps

variable {interval : Span} {times : Nat → τ} {pos : Nat} {p : Pacer τ}

/-- A frame is due at the times that are late enough. -/
theorem isDue_iff (h : p.Keeps interval times pos) (n : Nat) :
    p.isDue (times n) = true ↔ LateEnough interval times (picked interval times pos) n := by
  unfold isDue LateEnough
  rw [h.nextDue_eq]
  cases (picked interval times pos).getLast? <;> simp

/-- A time that is late enough is claimed. -/
theorem claim (h : p.Keeps interval times pos)
    (hlate : LateEnough interval times (picked interval times pos) pos) :
    (p.claim (times pos)).Keeps interval times (pos + 1) := by
  refine ⟨h.interval_eq, ?_⟩
  rw [picked_succ_of_late hlate, List.getLast?_concat, Option.map_some, ← h.interval_eq]
  rfl

/-- A time that is too early changes nothing. -/
theorem pass (h : p.Keeps interval times pos)
    (hearly : ¬LateEnough interval times (picked interval times pos) pos) :
    p.Keeps interval times (pos + 1) := by
  refine ⟨h.interval_eq, ?_⟩
  rw [picked_succ_of_early hearly]
  exact h.nextDue_eq

end Pacer.Keeps

end pacer

namespace HttpSource

open Clock (afterReadings reading)

variable {τ ω : Type} [Timeline τ] [Clock ω τ]

section scan

variable {p : Pacer τ} {stream rest : MjpegStream} {w : ω}

/-- At the end of a stream nothing is due. -/
theorem nextDue_of_ended {cause : AcquisitionError} (h : stream.next = (.error cause, rest))
    (w : ω) : nextDue p stream w = (.error cause, p, rest, w) := by
  rw [nextDue]
  split <;> simp_all

/-- A picture that comes when it is due is taken. -/
theorem nextDue_of_isDue {picture : List UInt8} (h : stream.next = (.ok picture, rest))
    (hdue : p.isDue (Clock.now w).1 = true) :
    nextDue p stream w =
      (.ok (picture, (Clock.now w).1), p.claim (Clock.now w).1, rest, (Clock.now w).2) := by
  rw [nextDue]
  split
  · simp_all
  · simp_all

/-- A picture that comes too early is passed over. -/
theorem nextDue_of_not_isDue {picture : List UInt8} (h : stream.next = (.ok picture, rest))
    (hearly : ¬p.isDue (Clock.now w).1 = true) :
    nextDue p stream w = nextDue p rest (Clock.now w).2 := by
  rw [nextDue]
  split
  · simp_all
  · simp_all

/-- What reading on comes to, from a position of the stream. -/
inductive Found (interval : Span) (images : List (List UInt8)) (w : ω) (pos : Nat) (p : Pacer τ)
    (ending : Net.Ending) :
    Except AcquisitionError (List UInt8 × τ) × Pacer τ × MjpegStream × ω → Prop where
  /-- Nothing more is picked. -/
  | ended (rest : MjpegStream) (himages : rest.images = []) (hending : rest.ending = ending)
    (hpicked : picked interval (reading w) images.length = picked interval (reading w) pos)
    (hkeeps : p.Keeps interval (reading w) images.length) :
    Found interval images w pos p ending
      (.error (MjpegStream.endError ending), p, rest, afterReadings w images.length)
  /-- The picture at a position is picked. -/
  | picks (i : Nat) (picture : List UInt8) (rest : MjpegStream) (himage : images[i]? = some picture)
    (himages : rest.images = images.drop (i + 1)) (hending : rest.ending = ending)
    (hpicked : picked interval (reading w) (i + 1) = picked interval (reading w) pos ++ [i])
    (hkeeps : (p.claim (reading w i)).Keeps interval (reading w) (i + 1)) :
    Found interval images w pos p ending
      (.ok (picture, reading w i), p.claim (reading w i), rest, afterReadings w (i + 1))

/-- What is found from a position on is found from an earlier one if nothing is picked between. -/
theorem Found.of_picked_eq {interval : Span} {images : List (List UInt8)} {m n : Nat}
    {ending : Net.Ending}
    {found : Except AcquisitionError (List UInt8 × τ) × Pacer τ × MjpegStream × ω}
    (h : Found interval images w n p ending found)
    (hsame : picked interval (reading w) n = picked interval (reading w) m) :
    Found interval images w m p ending found := by
  cases h with
  | ended rest himages hending hpicked hkeeps =>
    exact .ended rest himages hending (hpicked.trans hsame) hkeeps
  | picks i picture rest himage himages hending hpicked hkeeps =>
    exact .picks i picture rest himage himages hending (hsame ▸ hpicked) hkeeps

/-- From a position on, the stream is read to the next position that is picked, or to its end. -/
theorem found_nextDue {interval : Span} {images : List (List UInt8)} {pos : Nat}
    (hkeeps : p.Keeps interval (reading w) pos) (himages : stream.images = images.drop pos)
    (hpos : pos ≤ images.length) :
    Found interval images w pos p stream.ending (nextDue p stream (afterReadings w pos)) := by
  induction hleft : images.drop pos generalizing pos stream with
  | nil =>
    have hend : images.length ≤ pos := List.drop_eq_nil_iff.mp hleft
    obtain rfl : pos = images.length := Nat.le_antisymm hpos hend
    obtain ⟨rest, hnext, hrest, hending⟩ := MjpegStream.next_of_images_nil (himages.trans hleft)
    rw [nextDue_of_ended hnext]
    exact .ended rest hrest hending rfl hkeeps
  | cons picture more ih =>
    have hlt : pos < images.length := by
      rw [← not_le, ← List.drop_eq_nil_iff, hleft]
      exact List.cons_ne_nil _ _
    have himage : images[pos]? = some picture := by
      rw [← List.head?_drop, hleft]
      rfl
    have hmore : images.drop (pos + 1) = more := by
      rw [← List.tail_drop, hleft]
      rfl
    obtain ⟨rest, hnext, hrest, hending⟩ := MjpegStream.next_of_images_cons (himages.trans hleft)
    by_cases hlate : LateEnough interval (reading w) (picked interval (reading w) pos) pos
    · rw [nextDue_of_isDue hnext ((hkeeps.isDue_iff pos).mpr hlate)]
      exact .picks pos picture rest himage (hrest.trans hmore.symm) hending
        (picked_succ_of_late hlate) (hkeeps.claim hlate)
    · rw [nextDue_of_not_isDue hnext (mt (hkeeps.isDue_iff pos).mp hlate), ← hending]
      exact (ih (hkeeps.pass hlate) (hrest.trans hmore.symm) hlt hmore).of_picked_eq
        (picked_succ_of_early hlate)

end scan

variable [Net.Network ω]

/-! ### One request after the other -/

/-- The frame that a picture makes which came at a time, with its number and the time at which the
camera was connected. -/
def frameOf (settings : SourceSettings) (connectedAt now : τ) (number : Nat)
    (picture : Raster Rgb) : Frame τ where
  picture
  timestamp := now
  metadata := {
    presentedFrames := number
    presentationTime := now
    mediaTime := Timeline.seconds (now - connectedAt)
    width := picture.width
    height := picture.height
    source := settings.url }

/-- A camera that has used up the first pictures of its stream, and delivered those of them that
are picked. -/
structure Stands (settings : SourceSettings) (decode : Picture.Reader) (connectedAt : τ)
    (images : List (List UInt8)) (ending : Net.Ending) (w₀ : ω) (pos : Nat) (s : HttpSource τ)
    (w : ω) : Prop where
  /-- It has its settings. -/
  settings_eq : s.settings = settings
  /-- It reads pictures in its way. -/
  decode_eq : s.decode = decode
  /-- It was connected when it was. -/
  connectedAt_eq : s.connectedAt = some connectedAt
  /-- Its pacer has granted the times of the frames. -/
  keeps : s.pacer.Keeps (frameInterval settings.rate) (reading w₀) pos
  /-- It has counted the frames. -/
  frameCount_eq : s.frameCount = (picked (frameInterval settings.rate) (reading w₀) pos).length
  /-- The other pictures are still to come. -/
  stream_eq : ∃ stream, s.stream = some (.mjpeg stream) ∧ stream.images = images.drop pos ∧
    stream.ending = ending
  /-- The clock was read once for each picture. -/
  world_eq : w = afterReadings w₀ pos
  /-- There were that many pictures. -/
  pos_le : pos ≤ images.length

section requests

variable {settings : SourceSettings} {decode : Picture.Reader} {connectedAt : τ}
  {images : List (List UInt8)} {ending : Net.Ending} {w₀ w : ω} {pos : Nat} {s : HttpSource τ}

/-- What a request comes to. -/
inductive Served (settings : SourceSettings) (decode : Picture.Reader) (connectedAt : τ)
    (images : List (List UInt8)) (ending : Net.Ending) (w₀ : ω) (pos : Nat) :
    Except AcquisitionError (Frame τ) × HttpSource τ × ω → Prop where
  /-- Nothing more is picked, and the stream ends. -/
  | ended (s : HttpSource τ) (w : ω)
    (hpicked : picked (frameInterval settings.rate) (reading w₀) images.length =
      picked (frameInterval settings.rate) (reading w₀) pos)
    (hstands : Stands settings decode connectedAt images ending w₀ images.length s w) :
    Served settings decode connectedAt images ending w₀ pos
      (.error (MjpegStream.endError ending), s, w)
  /-- The next picture that is picked is delivered. -/
  | delivered (i : Nat) (image : List UInt8) (picture : Raster Rgb) (s : HttpSource τ) (w : ω)
    (himage : images[i]? = some image) (hdecode : decode ⟨image.toArray⟩ = .ok picture)
    (hpicked : picked (frameInterval settings.rate) (reading w₀) (i + 1) =
      picked (frameInterval settings.rate) (reading w₀) pos ++ [i])
    (hstands : Stands settings decode connectedAt images ending w₀ (i + 1) s w) :
    Served settings decode connectedAt images ending w₀ pos
      (.ok (frameOf settings connectedAt (reading w₀ i)
        ((picked (frameInterval settings.rate) (reading w₀) pos).length + 1) picture), s, w)

omit [Clock ω τ] [Net.Network ω] in
/-- Octets that can be decoded are delivered. -/
theorem deliver_of_decode {octets : ByteArray} {picture : Raster Rgb}
    (hdecode : s.decode octets = .ok picture) (hconnected : s.connectedAt = some connectedAt)
    (now : τ) :
    s.deliver octets now = (.ok (frameOf s.settings connectedAt now (s.frameCount + 1) picture),
      { s with frameCount := s.frameCount + 1, lastFrameAt := some now }) := by
  unfold deliver
  rw [hdecode, hconnected]
  rfl

/-- One request goes on to the next picture that is picked, and delivers it. -/
theorem Stands.next (h : Stands settings decode connectedAt images ending w₀ pos s w)
    (hdecode : ∀ i ∈ picked (frameInterval settings.rate) (reading w₀) images.length,
      ∀ image, images[i]? = some image → ∃ picture, decode ⟨image.toArray⟩ = .ok picture) :
    Served settings decode connectedAt images ending w₀ pos (s.next w) := by
  obtain ⟨stream, hstream, himages, hending⟩ := h.stream_eq
  have hfound := found_nextDue h.keeps himages h.pos_le
  rw [← h.world_eq, hending] at hfound
  generalize hnext : nextDue s.pacer stream w = found at hfound
  cases hfound with
  | ended rest hrest hrestEnding hpicked hkeeps =>
    rw [next_of_exhausted hstream hnext]
    refine .ended _ _ hpicked ⟨h.settings_eq, h.decode_eq, h.connectedAt_eq, hkeeps, ?_, ?_, rfl,
      le_rfl⟩
    · rw [hpicked]
      exact h.frameCount_eq
    · exact ⟨rest, rfl, by rw [hrest, List.drop_length], hrestEnding⟩
  | picks i image rest himage hrest hrestEnding hpicked hkeeps =>
    have hlt : i < images.length := (List.getElem?_eq_some_iff.mp himage).1
    have hmem : i ∈ picked (frameInterval settings.rate) (reading w₀) images.length :=
      (picked_begins hlt).subset (by rw [hpicked]; simp)
    obtain ⟨picture, hpicture⟩ := hdecode i hmem image himage
    have hread : s.decode ⟨image.toArray⟩ = .ok picture := by
      rw [h.decode_eq]
      exact hpicture
    have hdeliver := deliver_of_decode
      (s := { s with pacer := s.pacer.claim (reading w₀ i), stream := some (.mjpeg rest) })
      hread h.connectedAt_eq (reading w₀ i)
    rw [next_of_due hstream hnext hdeliver]
    dsimp only
    rw [h.frameCount_eq, h.settings_eq]
    refine .delivered i image picture _ _ himage hpicture hpicked
      ⟨rfl, h.decode_eq, h.connectedAt_eq, hkeeps, ?_, ⟨rest, rfl, hrest, hrestEnding⟩, rfl, hlt⟩
    rw [hpicked, List.length_append, List.length_singleton]

omit [Timeline τ] [Clock ω τ] [Net.Network ω] in
/-- What stands behind the first entries of a list is its next entry. -/
theorem getElem?_of_take_concat_prefix {l : List Nat} {n i : Nat} (h : l.take n ++ [i] <+: l) :
    l[n]? = some i ∧ l.take (n + 1) = l.take n ++ [i] := by
  have hlength := h.length_le
  have htake := List.prefix_iff_eq_take.mp h
  rw [List.length_append, List.length_take, List.length_singleton] at hlength htake
  rw [Nat.min_eq_left (by omega)] at htake
  refine ⟨?_, htake.symm⟩
  rw [List.take_add_one] at htake
  have hnext := List.append_cancel_left htake
  rcases hget : l[n]? with _ | j
  · simp [hget] at hnext
  · simp [hget] at hnext
    rw [hnext]

omit [Net.Network ω] in
/-- What a request comes to after so many others. -/
theorem Served.cases {n : Nat} {found : Except AcquisitionError (Frame τ) × HttpSource τ × ω}
    (h : Served settings decode connectedAt images ending w₀ pos found)
    (hpos : picked (frameInterval settings.rate) (reading w₀) pos =
      (picked (frameInterval settings.rate) (reading w₀) images.length).take n) :
    let picks := picked (frameInterval settings.rate) (reading w₀) images.length
    (picks[n]? = none ∧ found.1 = .error (MjpegStream.endError ending) ∧
        Stands settings decode connectedAt images ending w₀ images.length found.2.1 found.2.2) ∨
      ∃ i image picture, picks[n]? = some i ∧ images[i]? = some image ∧
        decode ⟨image.toArray⟩ = .ok picture ∧
        found.1 = .ok (frameOf settings connectedAt (reading w₀ i) (n + 1) picture) ∧
        Stands settings decode connectedAt images ending w₀ (i + 1) found.2.1 found.2.2 ∧
        picked (frameInterval settings.rate) (reading w₀) (i + 1) = picks.take (n + 1) := by
  intro picks
  cases h with
  | ended s w hpicked hstands =>
    refine Or.inl ⟨?_, rfl, hstands⟩
    rw [List.getElem?_eq_none_iff, ← List.take_eq_self_iff, ← hpos, ← hpicked]
  | delivered i image picture s w himage hdecode hpicked hstands =>
    have hlt : i < images.length := (List.getElem?_eq_some_iff.mp himage).1
    have hprefix : picks.take n ++ [i] <+: picks := by
      rw [← hpos, ← hpicked]
      exact picked_begins hlt
    obtain ⟨hget, htake⟩ := getElem?_of_take_concat_prefix hprefix
    have hn : n < picks.length := (List.getElem?_eq_some_iff.mp hget).1
    refine Or.inr ⟨i, image, picture, hget, himage, hdecode, ?_, hstands, ?_⟩
    · rw [hpos, List.length_take, Nat.min_eq_left hn.le]
    · rw [hpicked, hpos, htake]

/-- The camera and the world after so many requests for the next frame. -/
def afterRequests (s : HttpSource τ) (w : ω) : Nat → HttpSource τ × ω
  | 0 => (s, w)
  | n + 1 => ((afterRequests s w n).1.next (afterRequests s w n).2).2

/-- What comes of a request for the next frame after so many others. -/
def answer (s : HttpSource τ) (w : ω) (n : Nat) : Except AcquisitionError (Frame τ) :=
  ((afterRequests s w n).1.next (afterRequests s w n).2).1

/-- After so many requests that many of the picked pictures have been delivered, or all of them. -/
theorem exists_stands_afterRequests (h : Stands settings decode connectedAt images ending w₀ 0 s w)
    (hdecode : ∀ i ∈ picked (frameInterval settings.rate) (reading w₀) images.length,
      ∀ image, images[i]? = some image → ∃ picture, decode ⟨image.toArray⟩ = .ok picture)
    (n : Nat) :
    ∃ pos, Stands settings decode connectedAt images ending w₀ pos (afterRequests s w n).1
        (afterRequests s w n).2 ∧
      picked (frameInterval settings.rate) (reading w₀) pos =
        (picked (frameInterval settings.rate) (reading w₀) images.length).take n := by
  induction n with
  | zero => exact ⟨0, h, rfl⟩
  | succ n ih =>
    obtain ⟨pos, hstands, hpos⟩ := ih
    rcases (hstands.next hdecode).cases hpos with ⟨hnone, -, hstands⟩ |
      ⟨i, _, _, -, -, -, -, hstands, htake⟩
    · refine ⟨_, hstands, ?_⟩
      rw [List.take_of_length_le]
      exact (List.getElem?_eq_none_iff.mp hnone).trans n.le_succ
    · exact ⟨_, hstands, htake⟩

end requests

/-- What is still to be read of a stream. -/
def unread (s : HttpSource τ) : List (List UInt8) :=
  match s.stream with
  | some (.mjpeg stream) => stream.images
  | _ => []

omit [Net.Network ω] in
/-- The pictures that are still to come are those that were not used up. -/
theorem Stands.unread_eq {settings : SourceSettings} {decode : Picture.Reader} {connectedAt : τ}
    {images : List (List UInt8)} {ending : Net.Ending} {w₀ w : ω} {pos : Nat} {s : HttpSource τ}
    (h : Stands settings decode connectedAt images ending w₀ pos s w) :
    s.unread = images.drop pos := by
  obtain ⟨stream, hstream, himages, _⟩ := h.stream_eq
  unfold unread
  rw [hstream]
  exact himages

/-- A camera that was just connected has delivered nothing yet. -/
theorem exists_connect (settings : SourceSettings) (decode : Picture.Reader) {w₀ w₁ : ω}
    {response : Net.Response} (hanswer : Net.get settings.url none w₀ = (.ok response, w₁))
    (hstream : streamOf response = .mjpeg (.ofBody response.body)) :
    ∃ s : HttpSource τ, (ofSettings settings decode).connect w₀ = (.ok (), s, (Clock.now w₁).2) ∧
      Stands settings decode (Clock.now w₁).1 (MjpegStream.ofBody response.body).images
        response.body.ending (Clock.now w₁).2 0 s (Clock.now w₁).2 := by
  refine ⟨{ ofSettings settings decode with
    stream := some (.mjpeg (.ofBody response.body))
    connectedAt := some (Clock.now w₁).1 }, ?_, rfl, rfl, rfl, ⟨rfl, rfl⟩, rfl, ⟨_, rfl, rfl, rfl⟩,
      rfl, Nat.zero_le _⟩
  have hget : Net.get (ofSettings settings decode : HttpSource τ).url none w₀ =
      (.ok response, w₁) := hanswer
  unfold connect
  rw [hget]
  dsimp only
  rw [hstream]
  rfl

/-- **A stream delivers what is picked of its pictures.**  Once a camera that was not used before is
connected to a stream, requests for a frame deliver the pictures that are picked by the readings of
the clock, one reading for each picture, in their order.  A frame has the time at which its picture
came and its number; the pictures before it are used up, and only those that are picked have to be
pictures that can be decoded.  Exactly when nothing more is picked the stream ends, and so many
frames have been counted as there were.  It does not matter how pictures are read: `decode` may be
any reader.

The pictures themselves do not depend on how the stream was cut into pieces, as long as none is so
far behind the one before it that the buffer could overflow. -/
theorem delivers_picked (settings : SourceSettings) (decode : Picture.Reader) {w₀ w₁ : ω}
    {response : Net.Response}
    (hanswer : Net.get settings.url none w₀ = (.ok response, w₁))
    (hmultipart : occursIn "multipart".toList
      (Text.lowercase (response.contentType.getD "")).toList = true) :
    let octets := MjpegStream.pending response.body.chunks
    let images := (MjpegStream.ofBody response.body).images
    let connectedAt : τ := (Clock.now w₁).1
    let w := (Clock.now w₁).2
    let picks := picked (frameInterval settings.rate) (reading w) images.length
    ((∀ chunk ∈ response.body.chunks, chunk.size ≤ 8192) → MjpegStream.Spaced octets 0 →
        images = pictures octets) ∧
      ∃ s : HttpSource τ, (ofSettings settings decode).connect w₀ = (.ok (), s, w) ∧
        ((∀ i ∈ picks, ∀ image, images[i]? = some image →
            ∃ picture, decode ⟨image.toArray⟩ = .ok picture) →
          ∀ n, (afterRequests s w n).1.stats = ⟨min n picks.length, settings.url⟩ ∧
            (∀ i, picks[n]? = some i → ∃ image picture, images[i]? = some image ∧
              decode ⟨image.toArray⟩ = .ok picture ∧
              answer s w n = .ok (frameOf settings connectedAt (reading w i) (n + 1) picture) ∧
              (afterRequests s w (n + 1)).1.unread = images.drop (i + 1)) ∧
            (picks.length ≤ n →
              answer s w n = .error (MjpegStream.endError response.body.ending) ∧
              (afterRequests s w (n + 1)).1.unread = []) ∧
            (answer s w n = .error .streamEnded ↔
              picks.length ≤ n ∧ response.body.ending = .complete)) := by
  intro octets images connectedAt w picks
  refine ⟨MjpegStream.images_eq_pictures response.body, ?_⟩
  have hstream : streamOf response = .mjpeg (.ofBody response.body) := if_pos hmultipart
  obtain ⟨s, hconnect, hnew⟩ := exists_connect settings decode hanswer hstream
  refine ⟨s, hconnect, fun hdecode n => ?_⟩
  obtain ⟨pos, hstands, hpos⟩ := exists_stands_afterRequests hnew hdecode n
  have hstats : (afterRequests s w n).1.stats = ⟨min n picks.length, settings.url⟩ := by
    unfold stats url
    rw [hstands.settings_eq, hstands.frameCount_eq, hpos, List.length_take]
  refine ⟨hstats, ?_⟩
  rcases (hstands.next hdecode).cases hpos with ⟨hnone, hend, hafter⟩ |
    ⟨i, image, picture, hsome, himage, hpicture, hframe, hafter, -⟩
  · have hle : picks.length ≤ n := List.getElem?_eq_none_iff.mp hnone
    have hunread := hafter.unread_eq
    rw [List.drop_length] at hunread
    refine ⟨fun i hi => ?_, fun _ => ⟨hend, hunread⟩, ?_⟩
    · cases hnone.symm.trans hi
    · show ((afterRequests s w n).1.next (afterRequests s w n).2).1 = _ ↔ _
      rw [hend, and_iff_right hle]
      cases response.body.ending with
      | complete => simp [MjpegStream.endError]
      | cut => simp [MjpegStream.endError]
  · have hlt : n < picks.length := (List.getElem?_eq_some_iff.mp hsome).1
    refine ⟨fun j hj => ?_, fun hle => absurd hlt (Nat.not_lt_of_le hle), ?_⟩
    · obtain rfl : i = j := Option.some.inj (hsome.symm.trans hj)
      exact ⟨image, picture, himage, hpicture, hframe, hafter.unread_eq⟩
    · show ((afterRequests s w n).1.next (afterRequests s w n).2).1 = _ ↔ _
      rw [hframe]
      constructor
      · intro herror
        cases herror
      · rintro ⟨hle, _⟩
        exact absurd hlt (Nat.not_lt_of_le hle)

/-- A world with a clock whose readings are given, and with one server that always gives the same
answer. -/
structure Recording where
  /-- The readings that are still to come. -/
  readings : List ℚ
  /-- The answer. -/
  response : Net.Response

instance : Clock Recording ℚ where
  now w := (w.readings.headD 0, { w with readings := w.readings.tail })
  sleep _ w := w

instance : Net.Network Recording where
  exchange _ w := (.ok w.response, w)

/-- A picture of one grey pixel. -/
def greyPixel : List UInt8 :=
  [0xFF, 0xD8, 0xFF, 0xDB, 0x00, 0x43, 0x00] ++ List.replicate 64 1 ++
  [0xFF, 0xC0, 0x00, 0x0B, 0x08, 0x00, 0x01, 0x00, 0x01, 0x01, 0x01, 0x11, 0x00] ++
  [0xFF, 0xC4, 0x00, 0x14, 0x00, 1] ++ List.replicate 15 0 ++ [0x00] ++
  [0xFF, 0xC4, 0x00, 0x14, 0x10, 1] ++ List.replicate 15 0 ++ [0x00] ++
  [0xFF, 0xDA, 0x00, 0x08, 0x01, 0x01, 0x00, 0x00, 0x3F, 0x00, 0x3F, 0xFF, 0xD9]

/-- A stream of a picture, of one that cannot be decoded, and of the first one again, which is sent
in two pieces. -/
def greyStream : Net.Response where
  status := 200
  contentType := some "multipart/x-mixed-replace"
  body := {
    chunks := [⟨(greyPixel ++ [0xFF, 0xD8]).toArray⟩, ⟨(0xFF :: 0xD9 :: greyPixel).toArray⟩]
    ending := .complete }

/-- Ten frames a second from that stream. -/
def greySettings : SourceSettings := { url := "http://[::1]/", rate := 10 }

/-- A world in which the camera is connected at 5 ms and the pictures come at 10, 60 and 110 ms. -/
def greyWorld : Recording := ⟨[5, 10, 60, 110], greyStream⟩

/-- The octets of the stream. -/
def greyOctets : List UInt8 := greyPixel ++ [0xFF, 0xD8, 0xFF, 0xD9] ++ greyPixel

/-- The three pictures of the stream. -/
theorem images_greyStream : (MjpegStream.ofBody greyStream.body).images =
    [greyPixel, [0xFF, 0xD8, 0xFF, 0xD9], greyPixel] := by
  have hoctets : MjpegStream.pending greyStream.body.chunks = greyOctets := by
    simp [MjpegStream.pending, MjpegStream.toList_eq, greyStream, greyOctets]
  have hfirst : pictureFrom greyOctets 0 = some (0, 141) := by decide +kernel
  have hsecond : pictureFrom greyOctets 141 = some (141, 145) := by decide +kernel
  have hthird : pictureFrom greyOctets 145 = some (145, 286) := by decide +kernel
  have hlast : pictureFrom greyOctets 286 = none := by decide +kernel
  have hbounds : pictureBounds greyOctets 0 = [(0, 141), (141, 145), (145, 286)] := by
    rw [pictureBounds_of_some hfirst, pictureBounds_of_some hsecond,
      pictureBounds_of_some hthird, pictureBounds_of_none hlast]
  rw [MjpegStream.images_eq_pictures _ (by decide +kernel), hoctets]
  · unfold pictures
    rw [hbounds]
    decide +kernel
  · unfold MjpegStream.Spaced
    rw [hoctets, hbounds]
    decide

/-- At ten frames a second the first picture is delivered, and the last one, which comes a tenth of
a second after it.  The one in between comes too early, and it does not matter that it cannot be
decoded. -/
theorem grey_frames :
    ∃ (s : HttpSource ℚ) (w : Recording) (picture : Raster Rgb),
      (ofSettings greySettings).connect greyWorld = (.ok (), s, w) ∧
        Picture.read ⟨greyPixel.toArray⟩ = .ok picture ∧
        answer s w 0 = .ok (frameOf greySettings 5 10 1 picture) ∧
        answer s w 1 = .ok (frameOf greySettings 5 110 2 picture) ∧
        answer s w 2 = .error .streamEnded := by
  have hpicks : picked (frameInterval greySettings.rate)
      (reading (Clock.now greyWorld).2) 3 = [0, 2] := by
    decide +kernel
  obtain ⟨picture, hpicture⟩ : ∃ picture, Picture.read ⟨greyPixel.toArray⟩ = .ok picture := by
    have hdecoded : (Picture.read ⟨greyPixel.toArray⟩).toOption.isSome = true := by
      decide +kernel
    obtain ⟨picture, hpicture⟩ := Option.isSome_iff_exists.mp hdecoded
    exact ⟨picture, Results.eq_ok_of_toOption hpicture⟩
  obtain ⟨-, s, hconnect, hrun⟩ := delivers_picked greySettings Picture.read
    (show Net.get greySettings.url none greyWorld = (.ok greyStream, greyWorld) from rfl)
    (by decide +kernel)
  rw [images_greyStream, List.length_cons, List.length_cons, List.length_singleton, hpicks] at hrun
  have hdecode : ∀ i ∈ [0, 2], ∀ image,
      [greyPixel, [0xFF, 0xD8, 0xFF, 0xD9], greyPixel][i]? = some image →
        ∃ picture, Picture.read ⟨image.toArray⟩ = .ok picture := by
    intro i hi image himage
    rcases List.mem_pair.mp hi with rfl | rfl
    · cases himage
      exact ⟨picture, hpicture⟩
    · cases himage
      exact ⟨picture, hpicture⟩
  obtain ⟨_, picture₁, himage₁, hpicture₁, hfirst, -⟩ := (hrun hdecode 0).2.1 0 rfl
  obtain ⟨_, picture₂, himage₂, hpicture₂, hsecond, -⟩ := (hrun hdecode 1).2.1 2 rfl
  cases himage₁
  cases himage₂
  cases hpicture.symm.trans hpicture₁
  cases hpicture.symm.trans hpicture₂
  exact ⟨s, _, picture, hconnect, hpicture, hfirst, hsecond,
    (hrun hdecode 2).2.2.2.mpr ⟨le_rfl, rfl⟩⟩

end HttpSource

end Lookout
