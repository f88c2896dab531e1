import Lookout.Capture.Error
import Lookout.Net.Message
/-!
# Pictures in a stream

A camera may send its pictures one after the other in a single answer.  Every picture starts with
the octets `FF D8` and ends with the next `FF D9`; whatever lies between pictures is passed over.

* `findPicture` is the first whole picture in some octets.
* `MjpegStream.next` reads on, piece by piece, until there is one.

Octets that start no picture, or none that ends, are dropped once there are too many of them; the
last two are kept, since a picture might start there.
-/

namespace Lookout

/-- The octets after the first `FF D8`. -/
def afterStart : List UInt8 → Option (List UInt8)
  | a :: b :: rest => if a = 0xFF ∧ b = 0xD8 then some rest else afterStart (b :: rest)
  | _ => none

/-- The octets up to and including the first `FF D9`, and those after it; `acc` holds those before,
the last one first. -/
def splitAtEnd (acc : List UInt8) : List UInt8 → Option (List UInt8 × List UInt8)
  | a :: b :: rest =>
    if a = 0xFF ∧ b = 0xD9 then some (acc.reverse ++ [a, b], rest)
    else splitAtEnd (a :: acc) (b :: rest)
  | _ => none

/-- The first whole picture in some octets, and the octets after it. -/
def findPicture (octets : List UInt8) : Option (List UInt8 × List UInt8) := do
  let (body, rest) ← splitAtEnd [] (← afterStart octets)
  return (0xFF :: 0xD8 :: body, rest)

/-- The most octets of one picture. -/
def pictureLimit : Nat := 5 * 1024 * 1024

/-- The octets, or the last two of them if there are too many to hold a picture. -/
def boundBuffer (octets : List UInt8) : List UInt8 :=
  if pictureLimit * 2 < octets.length then octets.drop (octets.length - 2) else octets

/-- A stream of pictures. -/
structure MjpegStream where
  /-- What was received and not yet used. -/
  buffer : List UInt8 := []
  /-- What is still to be received. -/
  chunks : List ByteArray := []
  /-- How the stream ends. -/
  ending : Net.Ending := .complete

namespace MjpegStream

/-- The stream of an answer's body. -/
def ofBody (body : Net.Body) : MjpegStream := { chunks := body.chunks, ending := body.ending }

/-- The failure at the end of a stream. -/
def endError : Net.Ending → AcquisitionError
  | .complete => .streamEnded
  | .cut => .source s!"read mjpeg chunk: {Net.cutMessage}"

/-- The next picture from some octets and the pieces after them. -/
def read (ending : Net.Ending) (buffer : List UInt8) (chunks : List ByteArray) :
    Except AcquisitionError (List UInt8) × MjpegStream :=
  match findPicture buffer with
  | some (picture, rest) => (.ok picture, { buffer := rest, chunks, ending })
  | none =>
    match chunks with
    | [] => (.error (endError ending), { buffer, chunks := [], ending })
    | chunk :: chunks => read ending (boundBuffer (buffer ++ chunk.toList)) chunks

/-- The next picture. -/
def next (s : MjpegStream) : Except AcquisitionError (List UInt8) × MjpegStream :=
  read s.ending s.buffer s.chunks

/-! ## Pictures use up the stream -/

/-- How many octets are left. -/
def remaining (buffer : List UInt8) (chunks : List ByteArray) : Nat :=
  buffer.length + chunks.foldr (·.toList.length + ·) 0

/-- What follows the start of a picture is shorter than all of it. -/
theorem length_afterStart_lt {octets rest : List UInt8} (h : afterStart octets = some rest) :
    rest.length < octets.length := by
  fun_induction afterStart octets with
  | case1 a b tail _ =>
    rw [← Option.some.inj h]
    simp only [List.length_cons]
    omega
  | case2 a b tail _ ih => exact Nat.lt_succ_of_lt (ih h)
  | case3 => simp at h

/-- What follows the end of a picture is no longer than all of it. -/
theorem length_splitAtEnd_le {acc octets body rest : List UInt8}
    (h : splitAtEnd acc octets = some (body, rest)) : rest.length ≤ octets.length := by
  fun_induction splitAtEnd acc octets with
  | case1 acc a b tail _ => simp at h; obtain ⟨_, rfl⟩ := h; simp; omega
  | case2 acc a b tail _ ih => exact Nat.le_succ_of_le (ih h)
  | case3 => simp at h

/-- What follows a picture is shorter than all of it. -/
theorem length_findPicture_lt {octets picture rest : List UInt8}
    (h : findPicture octets = some (picture, rest)) : rest.length < octets.length := by
  simp only [findPicture, Option.bind_eq_bind, Option.bind_eq_some_iff, Prod.exists] at h
  obtain ⟨after, hafter, body, rest', hsplit, heq⟩ := h
  simp at heq
  obtain ⟨_, rfl⟩ := heq
  exact Nat.lt_of_le_of_lt (length_splitAtEnd_le hsplit) (length_afterStart_lt hafter)

/-- A bounded buffer is no longer than it was. -/
theorem length_boundBuffer_le (octets : List UInt8) :
    (boundBuffer octets).length ≤ octets.length := by
  unfold boundBuffer; split <;> simp

/-- Reading a picture uses up octets. -/
theorem remaining_read_lt {ending : Net.Ending} {buffer picture : List UInt8}
    {chunks : List ByteArray} {s : MjpegStream} (h : read ending buffer chunks = (.ok picture, s)) :
    remaining s.buffer s.chunks < remaining buffer chunks := by
  fun_induction read ending buffer chunks with
  | case1 buffer chunks found rest hfound =>
    simp at h; obtain ⟨_, rfl⟩ := h
    have := length_findPicture_lt hfound
    simp [remaining]; omega
  | case2 => simp at h
  | case3 buffer hnone chunk chunks ih =>
    have := ih h
    have := length_boundBuffer_le (buffer ++ chunk.toList)
    simp [remaining] at *; omega

end MjpegStream

end Lookout
