import Lookout.Octets.BigEndian
import Lookout.Proofs.Capture.PictureScan
/-!
# Whole images from a stream

A JPEG image starts with `FF D8` and ends with `FF D9`.  In between there are segments, each with
its length and then whatever it likes, and coded data, in which every `FF` is followed by a zero or
a restart.  A camera sends such images one after the other, with some text before each.

* An end stands only where the image ends or in a segment (`exists_early_iff`): coded data holds
  none.
* **The stream gives back exactly the images that were sent if no segment of theirs holds an end,
  and else it does not** (`answers_of_images_iff`), in whatever pieces they arrive.
* An image with a smaller one among its data is cut off where the smaller one ends
  (`cut_off_at_preview`).
-/

namespace Lookout.Jpeg

/-! ### Images -/

/-- A segment of an image. -/
structure Segment where
  /-- What it is about. -/
  code : UInt8
  /-- What it holds, which may be anything. -/
  payload : List UInt8
  /-- The codes 00 and FF make no mark, and 01 and those from D0 to D9 stand alone. -/
  code_ok : code ≠ 0x00 ∧ code ≠ 0x01 ∧ code ≠ 0xFF ∧ ¬(0xD0 ≤ code ∧ code ≤ 0xD9)
  /-- The length is written in two octets. -/
  fits : payload.length + 2 < 0x10000

/-- The octets of a segment: its mark, its length and what it holds. -/
def Segment.octets (s : Segment) : List UInt8 :=
  [0xFF, s.code] ++ Octets.write16 (s.payload.length + 2) ++ s.payload

/-- What may stand behind an FF of coded data: a zero, or one of the eight restarts. -/
def maySucceed (b : UInt8) : Bool := b == 0x00 || (0xD0 ≤ b && b ≤ 0xD7)

/-- Coded data. -/
structure CodedData where
  /-- The octets. -/
  octets : List UInt8
  /-- Each FF is followed by what may stand there. -/
  stuffed : ∀ i < octets.length, octets[i]? = some 0xFF → octets[i + 1]?.any maySucceed = true

/-- A part of an image. -/
inductive Part where
  /-- A segment. -/
  | segment (s : Segment)
  /-- Coded data. -/
  | coded (d : CodedData)

/-- The octets of a part. -/
def Part.octets : Part → List UInt8
  | .segment s => s.octets
  | .coded d => d.octets

/-- What follows the start of an image: its parts and its end. -/
def body : List Part → List UInt8
  | [] => [0xFF, 0xD9]
  | part :: parts => part.octets ++ body parts

@[simp] theorem body_nil : body [] = [0xFF, 0xD9] := rfl

@[simp] theorem body_cons (part : Part) (parts : List Part) :
    body (part :: parts) = part.octets ++ body parts := rfl

/-- The octets of an image. -/
def image (parts : List Part) : List UInt8 := [0xFF, 0xD8] ++ body parts

/-- A segment of the image holds an end, or at least its first octet. -/
def EndInSegment (parts : List Part) : Prop :=
  ∃ before s after, parts = before ++ .segment s :: after ∧
    ∃ i < s.octets.length, MarkerAt (s.octets ++ body after) 0xD9 i

/-- An end stands in a segment, or further on. -/
theorem endInSegment_cons {part : Part} {parts : List Part} :
    EndInSegment (part :: parts) ↔
      (∃ s, part = .segment s ∧ ∃ i < s.octets.length, MarkerAt (s.octets ++ body parts) 0xD9 i) ∨
        EndInSegment parts := by
  constructor
  · rintro ⟨before, s, after, hsplit, hmarker⟩
    cases before with
    | nil =>
      obtain ⟨rfl, rfl⟩ := List.cons.inj hsplit
      exact Or.inl ⟨s, rfl, hmarker⟩
    | cons first before =>
      obtain ⟨rfl, rfl⟩ := List.cons.inj hsplit
      exact Or.inr ⟨before, s, after, rfl, hmarker⟩
  · rintro (⟨s, rfl, hmarker⟩ | ⟨before, s, after, rfl, hmarker⟩)
    · exact ⟨[], s, parts, rfl, hmarker⟩
    · exact ⟨part :: before, s, after, rfl, hmarker⟩

/-- No end begins in coded data. -/
theorem CodedData.not_markerAt (d : CodedData) (rest : List UInt8) {i : Nat}
    (hi : i < d.octets.length) : ¬MarkerAt (d.octets ++ rest) 0xD9 i := by
  rintro ⟨hmark, hend⟩
  rw [List.getElem?_append_left hi] at hmark
  have hstuffed := d.stuffed i hi hmark
  rcases hb : d.octets[i + 1]? with _ | b
  · rw [hb] at hstuffed
    exact absurd hstuffed nofun
  · have hlt := (List.getElem?_eq_some_iff.mp hb).1
    rw [List.getElem?_append_left hlt, hb, Option.some.injEq] at hend
    rw [hb, hend] at hstuffed
    exact absurd hstuffed (by decide)

/-- A marker behind some octets. -/
theorem markerAt_append_right (octets rest : List UInt8) (b : UInt8) (i : Nat) :
    MarkerAt (octets ++ rest) b (octets.length + i) ↔ MarkerAt rest b i := by
  have hdrop := markerAt_drop (octets ++ rest) b octets.length i
  rw [List.drop_left] at hdrop
  exact hdrop.symm

/-- There is room for the end of an image. -/
theorem two_le_length_body (parts : List Part) : 2 ≤ (body parts).length := by
  induction parts with
  | nil => exact le_refl 2
  | cons part parts ih =>
    rw [body_cons, List.length_append]
    omega

/-- An image has its end. -/
theorem markerAt_last (parts : List Part) :
    MarkerAt (body parts) 0xD9 ((body parts).length - 2) := by
  induction parts with
  | nil => decide
  | cons part parts ih =>
    have hroom := two_le_length_body parts
    rw [body_cons, List.length_append, Nat.add_sub_assoc hroom, markerAt_append_right]
    exact ih

/-- **An end stands only where the image ends, or in a segment.** -/
theorem exists_early_iff (parts : List Part) :
    (∃ i, MarkerAt (body parts) 0xD9 i ∧ i + 2 < (body parts).length) ↔ EndInSegment parts := by
  induction parts with
  | nil =>
    constructor
    · rintro ⟨i, -, hlt⟩
      exact absurd hlt (by simp)
    · rintro ⟨before, s, after, hsplit, -⟩
      exact absurd hsplit.symm (by simp)
  | cons part parts ih =>
    have hroom := two_le_length_body parts
    rw [endInSegment_cons, ← ih, body_cons, List.length_append]
    constructor
    · rintro ⟨i, hmarker, hlt⟩
      by_cases hi : i < part.octets.length
      · cases part with
        | segment s => exact Or.inl ⟨s, rfl, i, hi, hmarker⟩
        | coded d => exact absurd hmarker (d.not_markerAt _ hi)
      · obtain ⟨j, rfl⟩ := Nat.exists_eq_add_of_le (Nat.le_of_not_lt hi)
        rw [markerAt_append_right] at hmarker
        exact Or.inr ⟨j, hmarker, by omega⟩
    · rintro (⟨s, rfl, i, hi, hmarker⟩ | ⟨j, hmarker, hlt⟩)
      · have hi' : i < (Part.segment s).octets.length := hi
        exact ⟨i, hmarker, by omega⟩
      · exact ⟨part.octets.length + j, (markerAt_append_right _ _ _ _).mpr hmarker, by omega⟩

instance (parts : List Part) : Decidable (EndInSegment parts) :=
  decidable_of_iff (∃ i < (body parts).length,
      MarkerAt (body parts) 0xD9 i ∧ i + 2 < (body parts).length) <| by
    rw [← exists_early_iff]
    constructor
    · rintro ⟨i, -, hmarker, hlt⟩
      exact ⟨i, hmarker, hlt⟩
    · rintro ⟨i, hmarker, hlt⟩
      exact ⟨i, by omega, hmarker, hlt⟩

/-- The first end of an image, and of whatever comes after it, is that of the image exactly if no
segment holds one. -/
theorem exists_markerFrom_body (parts : List Part) (rest : List UInt8) :
    ∃ i, markerFrom (body parts ++ rest) 0xD9 0 = some i ∧ i + 2 ≤ (body parts).length ∧
      (i + 2 = (body parts).length ↔ ¬EndInSegment parts) := by
  have hroom := two_le_length_body parts
  have hlast := (markerAt_append rest (by omega)).mpr (markerAt_last parts)
  rcases hfirst : markerFrom (body parts ++ rest) 0xD9 0 with _ | i
  · exact absurd hlast (markerFrom_eq_none_iff.mp hfirst _ (Nat.zero_le _))
  · obtain ⟨-, hmarker, hbefore⟩ := markerFrom_eq_some_iff.mp hfirst
    have hle : i ≤ (body parts).length - 2 := by
      by_contra! hlt
      exact hbefore _ (Nat.zero_le _) hlt hlast
    refine ⟨i, rfl, by omega, ?_⟩
    rw [← exists_early_iff]
    constructor
    · rintro heq ⟨j, hj, hlt⟩
      exact hbefore j (Nat.zero_le _) (by omega) ((markerAt_append rest (by omega)).mpr hj)
    · intro hnone
      by_contra hne
      exact hnone ⟨i, (markerAt_append rest (by omega)).mp hmarker, by omega⟩

end Lookout.Jpeg

namespace Lookout.MjpegStream

open Jpeg

/-! ### Images that are sent -/

/-- An image that is sent. -/
structure Sent where
  /-- What is sent before it. -/
  text : List UInt8
  /-- Its parts. -/
  parts : List Part
  /-- The text is no image. -/
  text_ok : 0xFF ∉ text

/-- The octets that are sent. -/
def Sent.octets (x : Sent) : List UInt8 := x.text ++ image x.parts

/-- No marker begins in a text. -/
theorem not_markerAt_of_not_mem {text : List UInt8} (htext : 0xFF ∉ text) (rest : List UInt8)
    (b : UInt8) {i : Nat} (hi : i < text.length) : ¬MarkerAt (text ++ rest) b i := by
  rintro ⟨hmark, -⟩
  rw [List.getElem?_append_left hi] at hmark
  exact htext (List.mem_of_getElem? hmark)

/-- The scan finds the image that was sent, or a part of it if a segment holds an end. -/
theorem exists_pictureFrom (x : Sent) (rest : List UInt8) :
    ∃ stop, pictureFrom (x.octets ++ rest) 0 = some (x.text.length, stop) ∧
      stop ≤ x.octets.length ∧ (stop = x.octets.length ↔ ¬EndInSegment x.parts) := by
  obtain ⟨i, hend, hle, hwhole⟩ := exists_markerFrom_body x.parts rest
  have hoctets : x.octets ++ rest = x.text ++ (0xFF :: 0xD8 :: (body x.parts ++ rest)) := by
    simp [Sent.octets, image]
  have hlength : x.octets.length = x.text.length + 2 + (body x.parts).length := by
    simp [Sent.octets, image]
    omega
  have hstart : markerFrom (x.octets ++ rest) 0xD8 0 = some x.text.length := by
    rw [hoctets, markerFrom_eq_some_iff]
    refine ⟨Nat.zero_le _, ?_, fun j _ hj => not_markerAt_of_not_mem x.text_ok _ _ hj⟩
    exact (markerAt_append_right x.text _ _ 0).mpr (markerAt_cons_cons.mpr ⟨rfl, rfl⟩)
  have hstop : markerFrom (x.octets ++ rest) 0xD9 (x.text.length + 2) =
      some (x.text.length + 2 + i) := by
    have hdrop : (x.octets ++ rest).drop (x.text.length + 2) = body x.parts ++ rest := by
      rw [hoctets, ← List.drop_drop, List.drop_left]
      rfl
    have hshift := markerFrom_drop (x.octets ++ rest) 0xD9 (x.text.length + 2) 0
    rw [hdrop, hend] at hshift
    exact hshift
  refine ⟨x.text.length + 2 + i + 2, ?_, by omega, ?_⟩
  · exact pictureFrom_eq_some_iff.mpr ⟨hstart, by omega, hstop⟩
  · rw [← hwhole, hlength]
    omega

/-- What is sent is the text and then the image. -/
theorem extract_octets (x : Sent) (rest : List UInt8) :
    (x.octets ++ rest).extract x.text.length x.octets.length = image x.parts := by
  rw [extract_append rest (le_refl _)]
  unfold Sent.octets
  rw [List.extract_eq_take_drop, List.drop_left, List.length_append, Nat.add_sub_cancel_left,
    List.take_length]

/-- There is no picture in a text. -/
theorem pictureFrom_of_not_mem {text : List UInt8} (htext : 0xFF ∉ text) :
    pictureFrom text 0 = none := by
  rw [pictureFrom_eq_none_iff]
  rintro start - - - hmarker
  exact absurd (List.mem_of_getElem? hmarker.1) htext

/-- What a stream answers from some point on at which whole images are still to come. -/
theorem answers_of_sent (sent : List Sent) {tail : List UInt8} (htail : 0xFF ∉ tail) (n : Nat)
    (s : MjpegStream) (hsize : ∀ chunk ∈ s.chunks, chunk.size ≤ 8192)
    (hleft : s.buffer ++ pending s.chunks = sent.flatMap Sent.octets ++ tail)
    (hnear : ∀ x ∈ sent, x.octets.length ≤ 10 * 1024 * 1024 - 8191) :
    answers (sent.length + n) s = sent.map (fun x => .ok (image x.parts)) ++
        List.replicate n (.error (endError s.ending)) ↔
      ∀ x ∈ sent, ¬EndInSegment x.parts := by
  induction sent generalizing s with
  | nil =>
    have hnone := pictureFrom_of_not_mem htail
    rw [List.flatMap_nil, List.nil_append] at hleft
    rw [← hleft] at hnone
    rw [List.length_nil, Nat.zero_add, answers_of_no_picture n s hnone]
    simp
  | cons x sent ih =>
    rw [List.flatMap_cons, List.append_assoc] at hleft
    obtain ⟨stop, hpicture, hstop, hwhole⟩ :=
      exists_pictureFrom x (sent.flatMap Sent.octets ++ tail)
    rw [← hleft] at hpicture
    obtain ⟨rest, hread, hending, hafter, hfrom⟩ := read_of_picture s.ending
      (hstop.trans (hnear x List.mem_cons_self)) s.chunks s.buffer hsize hpicture
    have hrest := ih rest (fun c hc => hsize c (hfrom c hc))
    rw [List.length_cons, Nat.succ_add]
    unfold answers next
    rw [hread, List.map_cons, List.cons_append, List.cons.injEq, Except.ok.injEq,
      List.forall_mem_cons, ← hwhole, hleft]
    by_cases heq : stop = x.octets.length
    · rw [heq, extract_octets, ← hending, hrest]
      · simp
      · rw [hafter, hleft, heq, List.drop_left]
      · intro y hy
        exact hnear y (List.mem_cons_of_mem _ hy)
    · -- what was cut off is too short
      have hbounds := bounds_of_pictureFrom hpicture
      rw [hleft] at hbounds
      have hshort : (x.octets ++ (sent.flatMap Sent.octets ++ tail)).extract x.text.length stop ≠
          image x.parts := by
        intro himage
        have hlength := congrArg List.length himage
        rw [List.extract_eq_take_drop, List.length_take, List.length_drop] at hlength
        have hoctets : x.octets.length = x.text.length + (image x.parts).length :=
          List.length_append
        omega
      simp [heq, hshort]

/-- **The stream gives back exactly the images that were sent if no segment of theirs holds an end,
and else it does not.**  The images may come with any text before, between and after them that
holds no `FF`, and in any pieces that can be read at once; no text and image together fill the
buffer. -/
theorem answers_of_images_iff (sent : List Sent) {tail : List UInt8} (htail : 0xFF ∉ tail)
    (chunks : List ByteArray) (hsize : ∀ chunk ∈ chunks, chunk.size ≤ 8192)
    (hcut : chunks.flatMap ByteArray.toList = sent.flatMap Sent.octets ++ tail)
    (hnear : ∀ x ∈ sent, x.octets.length ≤ 10 * 1024 * 1024 - 8191) (n : Nat) :
    answers (sent.length + n) (ofBody { chunks, ending := .complete }) =
        sent.map (fun x => .ok (image x.parts)) ++ List.replicate n (.error .streamEnded) ↔
      ∀ x ∈ sent, ¬EndInSegment x.parts :=
  answers_of_sent sent htail n (ofBody { chunks, ending := .complete }) hsize hcut hnear

/-- Two images, the first one with a segment and coded data, and a cut behind an `FF`. -/
theorem answers_of_two_images :
    let front : ByteArray := ⟨#[0x2D, 0xFF, 0xD8, 0xFF, 0xDA, 0x00, 0x03, 0x01, 0x11, 0xFF]⟩
    let back : ByteArray :=
      ⟨#[0x00, 0xFF, 0xD0, 0xFF, 0xD9, 0x0D, 0x0A, 0xFF, 0xD8, 0xFF, 0xD9, 0x0A]⟩
    answers 3 (ofBody { chunks := [front, back], ending := .complete }) =
      [.ok [0xFF, 0xD8, 0xFF, 0xDA, 0x00, 0x03, 0x01, 0x11, 0xFF, 0x00, 0xFF, 0xD0, 0xFF, 0xD9],
        .ok [0xFF, 0xD8, 0xFF, 0xD9], .error .streamEnded] := by
  intro front back
  let parts : List Part := [.segment ⟨0xDA, [0x01], by decide, by decide⟩,
    .coded ⟨[0x11, 0xFF, 0x00, 0xFF, 0xD0], by decide⟩]
  let sent : List Sent := [⟨[0x2D], parts, by decide⟩, ⟨[0x0D, 0x0A], [], by decide⟩]
  have htail : 0xFF ∉ ([0x0A] : List UInt8) := by decide
  have hsize : ∀ chunk ∈ [front, back], chunk.size ≤ 8192 := by decide
  have hcut : [front, back].flatMap ByteArray.toList =
      sent.flatMap Sent.octets ++ [0x0A] := by
    simp [toList_eq, front, back, sent, parts, Sent.octets, image, Part.octets, Segment.octets,
      Octets.write16]
  have hnone : ∀ x ∈ sent, ¬EndInSegment x.parts := by decide
  exact (answers_of_images_iff sent htail _ hsize hcut (by decide) 1).mpr hnone

/-- An image with a smaller one, for preview, in its first segment. -/
def previewed : List Part :=
  [.segment ⟨0xE1, [0xFF, 0xD8, 0xFF, 0xD9], by decide, by decide⟩,
    .segment ⟨0xDA, [0x01], by decide, by decide⟩, .coded ⟨[0x11, 0xFF, 0x00], by decide⟩]

/-- **An image with a smaller one in it is cut off** where the smaller one ends. -/
theorem cut_off_at_preview :
    answers 2 (ofBody { chunks := [⟨(image previewed).toArray⟩], ending := .complete }) =
        [.ok ((image previewed).take 10), .error .streamEnded] ∧
      (image previewed).take 10 ≠ image previewed := by
  refine ⟨by decide +kernel, by decide⟩

end Lookout.MjpegStream
