import Mathlib.Data.List.Chain
import Lookout.Capture.Source.Mjpeg
/-!
# Where the pictures of a stream lie

The pictures of a stream are found by a scan of all of its octets from left to right: from where
the last picture ended, a picture runs from the first `FF D8` to the first `FF D9` that begins at
least two octets after it.  `pictureFrom` is one step of the scan, `pictureBounds` all of it, and
`pictures` what lies within the bounds.  The scan knows nothing of pieces or of a buffer.

* **A stream gives the pictures of the scan** (`answers_eq_scan`): however its octets are cut into
  pieces of at most 8192 octets, the successive answers of `MjpegStream.next` are the pictures of
  the scan in their order, and after them the end of the stream, as often as it is asked.  No
  picture may end so far behind the one before it that the buffer could overflow in between.
* **Nothing is read out of bounds** (part of the same statement): what `findPicture` takes from a
  buffer lies between positions within the buffer.

A picture within the buffer is the same picture in all that is still to come, and the other way
round (`pictureFrom_append`); reading on therefore never changes what the next picture is, only
whether it is there already (`read_of_picture`).  The buffer cannot overflow before a picture is
whole, since without one it holds less than the distance to the picture's end.
-/

namespace Lookout

/-! ### The scan -/

/-- An `FF` and then the octet `b` stand at position `i`. -/
def MarkerAt (octets : List UInt8) (b : UInt8) (i : Nat) : Prop :=
  octets[i]? = some 0xFF ∧ octets[i + 1]? = some b

instance (octets : List UInt8) (b : UInt8) (i : Nat) : Decidable (MarkerAt octets b i) :=
  inferInstanceAs (Decidable (_ ∧ _))

/-- The first position from `pos` on at which the marker stands. -/
def markerFrom (octets : List UInt8) (b : UInt8) (pos : Nat) : Option Nat :=
  (List.range' pos (octets.length - pos)).find? fun i => MarkerAt octets b i

/-- Where the first picture from `pos` on starts and ends. -/
def pictureFrom (octets : List UInt8) (pos : Nat) : Option (Nat × Nat) := do
  let start ← markerFrom octets 0xD8 pos
  let stop ← markerFrom octets 0xD9 (start + 2)
  return (start, stop + 2)

/-- A marker takes up two octets. -/
theorem MarkerAt.add_two_le {octets : List UInt8} {b : UInt8} {i : Nat} (h : MarkerAt octets b i) :
    i + 2 ≤ octets.length := by
  have hlt : i + 1 < octets.length := (List.getElem?_eq_some_iff.mp h.2).1
  omega

/-- A marker among the first octets does not depend on those after them. -/
theorem markerAt_append {xs : List UInt8} (ys : List UInt8) {b : UInt8} {i : Nat}
    (h : i + 2 ≤ xs.length) : MarkerAt (xs ++ ys) b i ↔ MarkerAt xs b i := by
  unfold MarkerAt
  rw [List.getElem?_append_left (by omega), List.getElem?_append_left (by omega)]

/-- Dropping octets moves a marker. -/
theorem markerAt_drop (octets : List UInt8) (b : UInt8) (pos i : Nat) :
    MarkerAt (octets.drop pos) b i ↔ MarkerAt octets b (pos + i) := by
  unfold MarkerAt
  rw [List.getElem?_drop, List.getElem?_drop, Nat.add_assoc]

/-- A marker at the front of some octets. -/
theorem markerAt_cons_cons {x y b : UInt8} {rest : List UInt8} :
    MarkerAt (x :: y :: rest) b 0 ↔ x = 0xFF ∧ y = b := by
  constructor
  · rintro ⟨hx, hy⟩
    exact ⟨Option.some.inj hx, Option.some.inj hy⟩
  · rintro ⟨rfl, rfl⟩
    exact ⟨rfl, rfl⟩

/-- What the first position of a marker is. -/
theorem markerFrom_eq_some_iff {octets : List UInt8} {b : UInt8} {pos i : Nat} :
    markerFrom octets b pos = some i ↔
      pos ≤ i ∧ MarkerAt octets b i ∧ ∀ j, pos ≤ j → j < i → ¬MarkerAt octets b j := by
  unfold markerFrom
  rw [List.find?_range'_eq_some]
  simp only [decide_eq_true_eq, List.mem_range'_1, Bool.not_eq_true', decide_eq_false_iff_not]
  constructor
  · rintro ⟨hmarker, ⟨hle, _⟩, hfirst⟩
    exact ⟨hle, hmarker, hfirst⟩
  · rintro ⟨hle, hmarker, hfirst⟩
    have hlen := hmarker.add_two_le
    exact ⟨hmarker, ⟨hle, by omega⟩, hfirst⟩

/-- When there is no marker. -/
theorem markerFrom_eq_none_iff {octets : List UInt8} {b : UInt8} {pos : Nat} :
    markerFrom octets b pos = none ↔ ∀ i, pos ≤ i → ¬MarkerAt octets b i := by
  unfold markerFrom
  rw [List.find?_range'_eq_none]
  simp only [Bool.not_eq_true', decide_eq_false_iff_not]
  constructor
  · intro h i hle hmarker
    have hlen := hmarker.add_two_le
    exact h i hle (by omega) hmarker
  · intro h i hle _
    exact h i hle

/-- The first marker among the first octets does not depend on those after them. -/
theorem markerFrom_append {xs : List UInt8} (ys : List UInt8) {b : UInt8} {pos i : Nat}
    (h : i + 2 ≤ xs.length) :
    markerFrom (xs ++ ys) b pos = some i ↔ markerFrom xs b pos = some i := by
  rw [markerFrom_eq_some_iff, markerFrom_eq_some_iff, markerAt_append ys h]
  refine and_congr_right fun _ => and_congr_right fun _ => forall_congr' fun j => ?_
  refine imp_congr_right fun _ => imp_congr_right fun hlt => ?_
  rw [markerAt_append ys (by omega)]

/-- Dropping octets moves the first marker. -/
theorem markerFrom_drop (octets : List UInt8) (b : UInt8) (k pos : Nat) :
    markerFrom octets b (k + pos) = (markerFrom (octets.drop k) b pos).map (k + ·) := by
  rcases hfirst : markerFrom (octets.drop k) b pos with _ | i
  · rw [markerFrom_eq_none_iff] at hfirst
    rw [Option.map_none, markerFrom_eq_none_iff]
    intro i hle hmarker
    obtain ⟨j, rfl⟩ := Nat.exists_eq_add_of_le (Nat.le_of_add_right_le hle)
    exact hfirst j (by omega) ((markerAt_drop octets b k j).mpr hmarker)
  · rw [markerFrom_eq_some_iff] at hfirst
    obtain ⟨hle, hmarker, hbefore⟩ := hfirst
    rw [Option.map_some, markerFrom_eq_some_iff]
    refine ⟨by omega, (markerAt_drop octets b k i).mp hmarker, ?_⟩
    intro j hkj hji hat
    obtain ⟨j, rfl⟩ := Nat.exists_eq_add_of_le (Nat.le_of_add_right_le hkj)
    exact hbefore j (by omega) (by omega) ((markerAt_drop octets b k j).mpr hat)

/-- The two markers of a picture. -/
theorem pictureFrom_eq_some_iff {octets : List UInt8} {pos start stop : Nat} :
    pictureFrom octets pos = some (start, stop) ↔
      markerFrom octets 0xD8 pos = some start ∧
        2 ≤ stop ∧ markerFrom octets 0xD9 (start + 2) = some (stop - 2) := by
  simp only [pictureFrom, Option.bind_eq_bind, Option.bind_eq_some_iff, Option.pure_def,
    Option.some.injEq, Prod.mk.injEq]
  constructor
  · rintro ⟨s, hs, e, he, rfl, rfl⟩
    exact ⟨hs, by omega, by rw [he]; rfl⟩
  · rintro ⟨hs, hle, he⟩
    exact ⟨start, hs, stop - 2, he, rfl, by omega⟩

/-- A picture lies within the octets and holds at least its two markers. -/
theorem bounds_of_pictureFrom {octets : List UInt8} {pos start stop : Nat}
    (h : pictureFrom octets pos = some (start, stop)) :
    pos ≤ start ∧ start + 4 ≤ stop ∧ stop ≤ octets.length := by
  obtain ⟨hstart, hle, hstop⟩ := pictureFrom_eq_some_iff.mp h
  obtain ⟨hpos, _, _⟩ := markerFrom_eq_some_iff.mp hstart
  obtain ⟨hafter, hmarker, _⟩ := markerFrom_eq_some_iff.mp hstop
  have hlen := hmarker.add_two_le
  omega

/-- A picture among octets that belong to none. -/
example : pictureFrom [0x00, 0x11, 0xFF, 0xD8, 0x01, 0x02, 0xFF, 0xD9, 0x33] 0 = some (2, 8) := by
  decide

/-- Where the pictures from `pos` on start and end, each looked for where the last one ended. -/
def pictureBounds (octets : List UInt8) (pos : Nat) : List (Nat × Nat) :=
  match _h : pictureFrom octets pos with
  | some (start, stop) => (start, stop) :: pictureBounds octets stop
  | none => []
termination_by octets.length - pos
decreasing_by
  have := bounds_of_pictureFrom _h
  omega

/-- The pictures of the scan. -/
def pictures (octets : List UInt8) : List (List UInt8) :=
  (pictureBounds octets 0).map fun bounds => octets.extract bounds.1 bounds.2

/-- The scan goes on behind a picture. -/
theorem pictureBounds_of_some {octets : List UInt8} {pos start stop : Nat}
    (h : pictureFrom octets pos = some (start, stop)) :
    pictureBounds octets pos = (start, stop) :: pictureBounds octets stop := by
  rw [pictureBounds]
  split
  · rename_i hsome
    rw [h, Option.some.injEq, Prod.mk.injEq] at hsome
    obtain ⟨rfl, rfl⟩ := hsome
    rfl
  · rename_i hnone
    rw [h] at hnone
    cases hnone

/-- The scan ends where there is no further picture. -/
theorem pictureBounds_of_none {octets : List UInt8} {pos : Nat}
    (h : pictureFrom octets pos = none) : pictureBounds octets pos = [] := by
  rw [pictureBounds]
  split
  · rename_i hsome
    rw [h] at hsome
    cases hsome
  · rfl

/-- A picture among the first octets does not depend on those after them. -/
theorem pictureFrom_append {xs : List UInt8} (ys : List UInt8) {pos start stop : Nat}
    (h : stop ≤ xs.length) :
    pictureFrom (xs ++ ys) pos = some (start, stop) ↔ pictureFrom xs pos = some (start, stop) := by
  have key : ∀ zs : List UInt8, pictureFrom zs pos = some (start, stop) → start + 2 ≤ stop :=
    fun zs hzs => by have := bounds_of_pictureFrom hzs; omega
  constructor
  · intro hall
    have hle := key _ hall
    obtain ⟨hstart, htwo, hstop⟩ := pictureFrom_eq_some_iff.mp hall
    exact pictureFrom_eq_some_iff.mpr ⟨(markerFrom_append ys (by omega)).mp hstart, htwo,
      (markerFrom_append ys (by omega)).mp hstop⟩
  · intro hfirst
    have hle := key _ hfirst
    obtain ⟨hstart, htwo, hstop⟩ := pictureFrom_eq_some_iff.mp hfirst
    exact pictureFrom_eq_some_iff.mpr ⟨(markerFrom_append ys (by omega)).mpr hstart, htwo,
      (markerFrom_append ys (by omega)).mpr hstop⟩

/-- What lies within bounds among the first octets does not depend on those after them. -/
theorem extract_append {xs : List UInt8} (ys : List UInt8) {start stop : Nat}
    (h : stop ≤ xs.length) : (xs ++ ys).extract start stop = xs.extract start stop := by
  rw [List.extract_eq_drop_take', List.extract_eq_drop_take', List.take_append_of_le_length h]

/-- Dropping octets moves what lies within bounds. -/
theorem extract_drop (octets : List UInt8) (pos start stop : Nat) :
    (octets.drop pos).extract start stop = octets.extract (pos + start) (pos + stop) := by
  rw [List.extract_eq_take_drop, List.extract_eq_take_drop, List.drop_drop,
    Nat.add_sub_add_left]

/-- Dropping octets moves the first picture. -/
theorem pictureFrom_drop (octets : List UInt8) (pos : Nat) :
    pictureFrom octets pos =
      (pictureFrom (octets.drop pos) 0).map fun bounds => (pos + bounds.1, pos + bounds.2) := by
  have hstart := markerFrom_drop octets 0xD8 pos 0
  rw [Nat.add_zero] at hstart
  unfold pictureFrom
  rw [hstart]
  rcases markerFrom (octets.drop pos) 0xD8 0 with _ | start
  · rfl
  · have hstop := markerFrom_drop octets 0xD9 pos (start + 2)
    simp only [Option.map_some, Option.bind_eq_bind, Option.bind_some, Nat.add_assoc, hstop]
    rcases markerFrom (octets.drop pos) 0xD9 (start + 2) with _ | stop
    · rfl
    · rfl

/-- When there is no picture: no end follows a start. -/
theorem pictureFrom_eq_none_iff {octets : List UInt8} {pos : Nat} :
    pictureFrom octets pos = none ↔
      ∀ start stop, pos ≤ start → start + 2 ≤ stop → MarkerAt octets 0xD8 start →
        ¬MarkerAt octets 0xD9 stop := by
  constructor
  · intro hnone start stop hpos hle hstart hstop
    rcases hfirst : markerFrom octets 0xD8 pos with _ | first
    · exact markerFrom_eq_none_iff.mp hfirst start hpos hstart
    · have hbefore : first ≤ start := Nat.le_of_not_lt fun hlt =>
        (markerFrom_eq_some_iff.mp hfirst).2.2 start hpos hlt hstart
      rcases hlast : markerFrom octets 0xD9 (first + 2) with _ | last
      · exact markerFrom_eq_none_iff.mp hlast stop (by omega) hstop
      · have hsome : pictureFrom octets pos = some (first, last + 2) :=
          pictureFrom_eq_some_iff.mpr ⟨hfirst, by omega, by rw [hlast, Nat.add_sub_cancel]⟩
        rw [hnone] at hsome
        cases hsome
  · intro hno
    rcases hsome : pictureFrom octets pos with _ | ⟨start, stop⟩
    · rfl
    · obtain ⟨hstart, _, hstop⟩ := pictureFrom_eq_some_iff.mp hsome
      obtain ⟨hpos, hat, _⟩ := markerFrom_eq_some_iff.mp hstart
      obtain ⟨hle, hend, _⟩ := markerFrom_eq_some_iff.mp hstop
      exact absurd hend (hno start _ hpos hle hat)

/-- Where there is no picture, there is none among the octets from some position on. -/
theorem pictureFrom_drop_eq_none {octets : List UInt8} (h : pictureFrom octets 0 = none)
    (k : Nat) : pictureFrom (octets.drop k) 0 = none := by
  rw [pictureFrom_eq_none_iff] at h ⊢
  intro start stop _ hle hstart hstop
  exact h (k + start) (k + stop) (Nat.zero_le _) (by omega)
    ((markerAt_drop octets _ k start).mp hstart) ((markerAt_drop octets _ k stop).mp hstop)

/-! ### What is found in a buffer -/

/-- The first marker stands further on where there is none. -/
theorem markerFrom_succ {octets : List UInt8} {b : UInt8} {pos : Nat}
    (h : ¬MarkerAt octets b pos) : markerFrom octets b pos = markerFrom octets b (pos + 1) := by
  refine Option.ext fun i => ?_
  rw [markerFrom_eq_some_iff, markerFrom_eq_some_iff]
  constructor
  · rintro ⟨hle, hmarker, hbefore⟩
    have hne : pos ≠ i := fun heq => h (heq ▸ hmarker)
    exact ⟨by omega, hmarker, fun j hj hlt => hbefore j (by omega) hlt⟩
  · rintro ⟨hle, hmarker, hbefore⟩
    refine ⟨by omega, hmarker, fun j hj hlt hat => ?_⟩
    by_cases heq : j = pos
    · exact h (heq ▸ hat)
    · exact hbefore j (by omega) hlt hat

/-- A marker past the first octet stands one position earlier without that octet. -/
theorem markerFrom_cons {octets : List UInt8} {a b : UInt8} (h : ¬MarkerAt (a :: octets) b 0) :
    markerFrom (a :: octets) b 0 = (markerFrom octets b 0).map (1 + ·) := by
  rw [markerFrom_succ h]
  exact markerFrom_drop (a :: octets) b 1 0

/-- A marker at the front is the first. -/
theorem markerFrom_of_markerAt_zero {octets : List UInt8} {b : UInt8} (h : MarkerAt octets b 0) :
    markerFrom octets b 0 = some 0 :=
  markerFrom_eq_some_iff.mpr ⟨Nat.le_refl 0, h, fun _ _ hlt => absurd hlt (Nat.not_lt_zero _)⟩

/-- There is no marker in fewer than two octets. -/
theorem markerFrom_of_ne_cons_cons {octets : List UInt8} (b : UInt8)
    (h : ∀ x y rest, octets = x :: y :: rest → False) : markerFrom octets b 0 = none := by
  rw [markerFrom_eq_none_iff]
  intro i _ hmarker
  have hlen := hmarker.add_two_le
  rcases octets with _ | ⟨x, _ | ⟨y, rest⟩⟩
  · exact absurd hlen (by simp)
  · exact absurd hlen (by simp)
  · exact h x y rest rfl

/-- The octets after the start of a picture, by position. -/
theorem afterStart_eq (octets : List UInt8) :
    afterStart octets = (markerFrom octets 0xD8 0).map fun i => octets.drop (i + 2) := by
  fun_induction afterStart octets with
  | case1 a b rest h =>
    rw [markerFrom_of_markerAt_zero (markerAt_cons_cons.mpr h)]
    rfl
  | case2 a b rest h ih =>
    rw [markerFrom_cons (mt markerAt_cons_cons.mp h), ih, Option.map_map]
    refine congrArg (Option.map · _) (funext fun i => ?_)
    show List.drop (i + 2) (b :: rest) = List.drop (1 + i + 2) (a :: b :: rest)
    rw [show 1 + i + 2 = (i + 2) + 1 by omega]
    rfl
  | case3 octets h => rw [markerFrom_of_ne_cons_cons 0xD8 h, Option.map_none]

/-- The octets up to the end of a picture and those after it, by position. -/
theorem splitAtEnd_eq (acc octets : List UInt8) :
    splitAtEnd acc octets = (markerFrom octets 0xD9 0).map fun i =>
      (acc.reverse ++ octets.take (i + 2), octets.drop (i + 2)) := by
  fun_induction splitAtEnd acc octets with
  | case1 acc a b rest h =>
    rw [markerFrom_of_markerAt_zero (markerAt_cons_cons.mpr h)]
    rfl
  | case2 acc a b rest h ih =>
    rw [markerFrom_cons (mt markerAt_cons_cons.mp h), ih, Option.map_map]
    refine congrArg (Option.map · _) (funext fun i => ?_)
    show (_, _) = (acc.reverse ++ List.take (1 + i + 2) (a :: b :: rest),
      List.drop (1 + i + 2) (a :: b :: rest))
    rw [show 1 + i + 2 = (i + 2) + 1 by omega, List.reverse_cons, List.append_assoc]
    rfl
  | case3 octets acc h => rw [markerFrom_of_ne_cons_cons 0xD9 h, Option.map_none]

/-- The octets from a start to the next end are those between the bounds. -/
theorem start_cons_take {octets : List UInt8} {start : Nat} (h : MarkerAt octets 0xD8 start)
    (n : Nat) : 0xFF :: 0xD8 :: (octets.drop (start + 2)).take n =
      octets.extract start (start + 2 + n) := by
  obtain ⟨hlt, hFF⟩ := List.getElem?_eq_some_iff.mp h.1
  obtain ⟨hlt', hD8⟩ := List.getElem?_eq_some_iff.mp h.2
  rw [List.extract_eq_take_drop, List.drop_eq_getElem_cons hlt, List.drop_eq_getElem_cons hlt',
    hFF, hD8, show start + 2 + n - start = n + 1 + 1 by omega, List.take_succ_cons,
    List.take_succ_cons]

/-- What is found in a buffer is what the scan finds there, and the octets after it remain. -/
theorem findPicture_eq (octets : List UInt8) :
    findPicture octets = (pictureFrom octets 0).map fun bounds =>
      (octets.extract bounds.1 bounds.2, octets.drop bounds.2) := by
  unfold findPicture pictureFrom
  rw [afterStart_eq]
  rcases hstart : markerFrom octets 0xD8 0 with _ | start
  · rfl
  · have hmarker := (markerFrom_eq_some_iff.mp hstart).2.1
    have hshift := markerFrom_drop octets 0xD9 (start + 2) 0
    rw [Nat.add_zero] at hshift
    simp only [Option.map_some, Option.bind_eq_bind, Option.bind_some, splitAtEnd_eq, hshift]
    rcases markerFrom (octets.drop (start + 2)) 0xD9 0 with _ | n
    · rfl
    · simp only [Option.map_some, Option.bind_some, Option.pure_def, List.reverse_nil,
        List.nil_append, start_cons_take hmarker, List.drop_drop, Nat.add_assoc]

/-! ### Reading on -/

namespace MjpegStream

/-- The octets that are still to be received. -/
def pending (chunks : List ByteArray) : List UInt8 := chunks.flatMap ByteArray.toList

/-- The answers to so many requests for the next picture, one after the other. -/
def answers : Nat → MjpegStream → List (Except AcquisitionError (List UInt8))
  | 0, _ => []
  | n + 1, s => s.next.1 :: answers n s.next.2

/-- The octets of an array in order. -/
theorem toList_eq (octets : ByteArray) : octets.toList = octets.data.toList := by
  have key : ∀ i acc, ByteArray.toList.loop octets i acc =
      acc.reverse ++ octets.data.toList.drop i := by
    intro i acc
    fun_induction ByteArray.toList.loop octets i acc with
    | case1 i acc hlt ih =>
      have hlt' : i < octets.data.toList.length := hlt
      rw [ih, List.reverse_cons, List.append_assoc, List.drop_eq_getElem_cons hlt',
        List.singleton_append]
      refine congrArg (acc.reverse ++ · :: _) ?_
      show octets.data[i]! = _
      rw [getElem!_pos octets.data i hlt, Array.getElem_toList]
    | case2 i acc hle =>
      rw [List.drop_eq_nil_of_le (Nat.le_of_not_lt hle), List.append_nil]
  exact key 0 []

/-- An array holds as many octets as its size says. -/
theorem length_toList (octets : ByteArray) : octets.toList.length = octets.size := by
  rw [toList_eq]
  rfl

/-- Octets that are not too many are all kept. -/
theorem boundBuffer_of_length_le {octets : List UInt8} (h : octets.length ≤ pictureLimit * 2) :
    boundBuffer octets = octets := by
  unfold boundBuffer
  rw [if_neg (Nat.not_lt_of_le h)]

/-- What is kept of some octets are the last of them. -/
theorem boundBuffer_eq_drop (octets : List UInt8) :
    ∃ k ≤ octets.length, boundBuffer octets = octets.drop k := by
  unfold boundBuffer
  by_cases h : pictureLimit * 2 < octets.length
  · exact ⟨octets.length - 2, Nat.sub_le _ _, by rw [if_pos h]⟩
  · exact ⟨0, Nat.zero_le _, by rw [if_neg h, List.drop_zero]⟩

/-- A picture in the buffer is given without a read. -/
theorem read_of_some {ending : Net.Ending} {buffer : List UInt8} {chunks : List ByteArray}
    {start stop : Nat} (h : pictureFrom buffer 0 = some (start, stop)) :
    read ending buffer chunks =
      (.ok (buffer.extract start stop), { buffer := buffer.drop stop, chunks, ending }) := by
  have hfound : findPicture buffer = some (buffer.extract start stop, buffer.drop stop) := by
    rw [findPicture_eq, h, Option.map_some]
  unfold read
  rw [hfound]

/-- Without a picture, and with nothing to read, the stream has ended. -/
theorem read_nil_of_none {ending : Net.Ending} {buffer : List UInt8}
    (h : pictureFrom buffer 0 = none) :
    read ending buffer [] = (.error (endError ending), { buffer, chunks := [], ending }) := by
  unfold read
  rw [findPicture_eq, h, Option.map_none]

/-- Without a picture, another piece is read. -/
theorem read_cons_of_none {ending : Net.Ending} {buffer : List UInt8} {chunk : ByteArray}
    {chunks : List ByteArray} (h : pictureFrom buffer 0 = none) :
    read ending buffer (chunk :: chunks) =
      read ending (boundBuffer (buffer ++ chunk.toList)) chunks := by
  conv => lhs; unfold read
  rw [findPicture_eq, h, Option.map_none]

/-- The pieces still to be received come one after the other. -/
theorem pending_cons (buffer : List UInt8) (chunk : ByteArray) (chunks : List ByteArray) :
    buffer ++ pending (chunk :: chunks) = (buffer ++ chunk.toList) ++ pending chunks := by
  unfold pending
  rw [List.flatMap_cons, List.append_assoc]

/-- Reading on gives the picture that the scan finds in everything that is still to come, and
leaves the octets after it.

The induction is on the reads.  Before a read the buffer holds no picture, so it ends before the
picture does and is too short to overflow with one more piece. -/
theorem read_of_picture (ending : Net.Ending) {start stop : Nat}
    (hnear : stop ≤ 10 * 1024 * 1024 - 8191) (chunks : List ByteArray) (buffer : List UInt8)
    (hsize : ∀ chunk ∈ chunks, chunk.size ≤ 8192)
    (hpicture : pictureFrom (buffer ++ pending chunks) 0 = some (start, stop)) :
    ∃ rest, read ending buffer chunks =
        (.ok ((buffer ++ pending chunks).extract start stop), rest) ∧
      rest.ending = ending ∧
      rest.buffer ++ pending rest.chunks = (buffer ++ pending chunks).drop stop ∧
      ∀ chunk ∈ rest.chunks, chunk ∈ chunks := by
  induction chunks generalizing buffer with
  | nil =>
    have hnil : buffer ++ pending [] = buffer := List.append_nil buffer
    rw [hnil] at hpicture ⊢
    refine ⟨_, read_of_some hpicture, rfl, ?_, fun _ hchunk => hchunk⟩
    exact List.append_nil _
  | cons chunk chunks ih =>
    by_cases hhere : stop ≤ buffer.length
    · -- The picture is whole already.
      have hfirst := (pictureFrom_append (pending (chunk :: chunks)) hhere).mp hpicture
      refine ⟨{ buffer := buffer.drop stop, chunks := chunk :: chunks, ending }, ?_, rfl, ?_,
        fun _ hchunk => hchunk⟩
      · rw [read_of_some hfirst, extract_append _ hhere]
      · rw [List.drop_append_of_le_length hhere]
    · -- The picture ends in what is still to come, or the buffer would hold another one.
      have hnone : pictureFrom buffer 0 = none := by
        rcases hsome : pictureFrom buffer 0 with _ | ⟨start', stop'⟩
        · rfl
        · have hlen := (bounds_of_pictureFrom hsome).2.2
          have hsame := (pictureFrom_append (pending (chunk :: chunks)) hlen).mpr hsome
          rw [hpicture, Option.some.injEq, Prod.mk.injEq] at hsame
          exact absurd (hsame.2 ▸ hlen) hhere
      have hchunk : chunk.toList.length ≤ 8192 := by
        rw [length_toList]
        exact hsize chunk List.mem_cons_self
      have hroom : (buffer ++ chunk.toList).length ≤ pictureLimit * 2 := by
        rw [List.length_append]
        unfold pictureLimit
        omega
      rw [read_cons_of_none hnone, boundBuffer_of_length_le hroom, pending_cons]
      rw [pending_cons] at hpicture
      obtain ⟨rest, hread, hending, hleft, hfrom⟩ :=
        ih (buffer ++ chunk.toList) (fun c hc => hsize c (List.mem_cons_of_mem _ hc)) hpicture
      exact ⟨rest, hread, hending, hleft, fun c hc => List.mem_cons_of_mem _ (hfrom c hc)⟩

/-- Where the scan finds no picture in all that is still to come, the stream ends, and so it does
for every later request. -/
theorem read_of_no_picture (ending : Net.Ending) (chunks : List ByteArray) (buffer : List UInt8)
    (hnone : pictureFrom (buffer ++ pending chunks) 0 = none) :
    ∃ rest, read ending buffer chunks = (.error (endError ending), rest) ∧
      rest.ending = ending ∧ pictureFrom (rest.buffer ++ pending rest.chunks) 0 = none := by
  induction chunks generalizing buffer with
  | nil =>
    have hnil : buffer ++ pending [] = buffer := List.append_nil buffer
    rw [hnil] at hnone
    exact ⟨_, read_nil_of_none hnone, rfl, (congrArg (pictureFrom · 0) hnil).trans hnone⟩
  | cons chunk chunks ih =>
    rw [pending_cons] at hnone
    have hbuffer : pictureFrom buffer 0 = none := by
      rcases hsome : pictureFrom buffer 0 with _ | ⟨start, stop⟩
      · rfl
      · have hlen := (bounds_of_pictureFrom hsome).2.2
        have hsame := (pictureFrom_append (chunk.toList ++ pending chunks) hlen).mpr hsome
        rw [← List.append_assoc, hnone] at hsame
        cases hsame
    rw [read_cons_of_none hbuffer]
    -- What is dropped when there is too much only shortens octets that hold no picture.
    obtain ⟨k, hk, hkept⟩ := boundBuffer_eq_drop (buffer ++ chunk.toList)
    apply ih
    rw [hkept, ← List.drop_append_of_le_length hk]
    exact pictureFrom_drop_eq_none hnone k

/-! ### All answers of a stream -/

/-- From `pos` on, every picture ends so near behind the one before it that a buffer which lacks
its last octets has room for one more piece. -/
def Spaced (octets : List UInt8) (pos : Nat) : Prop :=
  (pos :: (pictureBounds octets pos).map Prod.snd).IsChain fun last stop =>
    stop - last ≤ 10 * 1024 * 1024 - 8191

/-- A stream without a further picture has ended for every request. -/
theorem answers_of_no_picture (n : Nat) (s : MjpegStream)
    (hnone : pictureFrom (s.buffer ++ pending s.chunks) 0 = none) :
    answers n s = List.replicate n (.error (endError s.ending)) := by
  induction n generalizing s with
  | zero => rfl
  | succ n ih =>
    obtain ⟨rest, hread, hending, hrest⟩ := read_of_no_picture s.ending s.chunks s.buffer hnone
    unfold answers next
    rw [hread, ih rest hrest, hending, List.replicate_succ]

/-- A stream that has come to position `pos` gives the pictures from there on, and then ends. -/
theorem answers_from (octets : List UInt8) (n pos : Nat) (s : MjpegStream)
    (hsize : ∀ chunk ∈ s.chunks, chunk.size ≤ 8192)
    (hleft : s.buffer ++ pending s.chunks = octets.drop pos) (hnear : Spaced octets pos) :
    answers ((pictureBounds octets pos).length + n) s =
      (pictureBounds octets pos).map (fun bounds => .ok (octets.extract bounds.1 bounds.2)) ++
        List.replicate n (.error (endError s.ending)) := by
  have hshift := pictureFrom_drop octets pos
  rw [← hleft] at hshift
  induction pos using pictureBounds.induct octets generalizing s with
  | case1 pos start stop hpicture ih =>
    rw [hpicture, eq_comm, Option.map_eq_some_iff] at hshift
    obtain ⟨⟨start', stop'⟩, hhere, heq⟩ := hshift
    rw [Prod.mk.injEq] at heq
    obtain ⟨rfl, rfl⟩ := heq
    unfold Spaced at hnear
    rw [pictureBounds_of_some hpicture, List.map_cons, List.isChain_cons_cons] at hnear
    obtain ⟨hstep, hrest⟩ := hnear
    obtain ⟨rest, hread, hending, hthere, hfrom⟩ :=
      read_of_picture s.ending (by omega) s.chunks s.buffer hsize hhere
    have hafter : rest.buffer ++ pending rest.chunks = octets.drop (pos + stop') := by
      rw [hthere, hleft, List.drop_drop]
    rw [pictureBounds_of_some hpicture, List.length_cons, Nat.succ_add]
    unfold answers next
    rw [hread, ih rest (fun c hc => hsize c (hfrom c hc)) hafter hrest _, hending, hleft,
      extract_drop]
    · rfl
    · rw [hafter, ← pictureFrom_drop]
  | case2 pos hpicture =>
    rw [hpicture, eq_comm, Option.map_eq_none_iff] at hshift
    rw [pictureBounds_of_none hpicture, List.length_nil, Nat.zero_add,
      answers_of_no_picture n s hshift]
    rfl

/-- The answers of a stream are the pictures of the scan of its octets, and then its end, however
the octets are cut into pieces, and nothing is read outside of the buffer. -/
theorem answers_eq_scan (octets : List UInt8) (chunks : List ByteArray) (n : Nat)
    (hcut : chunks.flatMap ByteArray.toList = octets)
    (hsize : ∀ chunk ∈ chunks, chunk.size ≤ 8192) (hnear : Spaced octets 0) :
    answers ((pictures octets).length + n) (ofBody { chunks, ending := .complete }) =
        (pictures octets).map .ok ++ List.replicate n (.error .streamEnded) ∧
      ∀ buffer : List UInt8,
        (findPicture buffer = (pictureFrom buffer 0).map fun bounds =>
          (buffer.extract bounds.1 bounds.2, buffer.drop bounds.2)) ∧
        (∀ start, markerFrom buffer 0xD8 0 = some start → start + 2 ≤ buffer.length) ∧
        ∀ start stop, pictureFrom buffer 0 = some (start, stop) →
          start + 4 ≤ stop ∧ stop ≤ buffer.length := by
  refine ⟨?_, fun buffer => ⟨findPicture_eq buffer, ?_, ?_⟩⟩
  · have hall := answers_from octets n 0 (ofBody { chunks, ending := .complete }) hsize hcut hnear
    unfold pictures
    rw [List.length_map, List.map_map]
    exact hall
  · intro start hstart
    exact (markerFrom_eq_some_iff.mp hstart).2.1.add_two_le
  · intro start stop hpicture
    exact (bounds_of_pictureFrom hpicture).2

/-- Two pictures, the markers of the first of which arrive in halves. -/
theorem answers_of_halved_markers :
    answers 3 (ofBody { chunks := [⟨#[0x0A, 0xFF]⟩, ⟨#[0xD8, 0xAA, 0xFF]⟩,
        ⟨#[0xD9, 0x0A, 0xFF, 0xD8, 0xBB, 0xFF, 0xD9]⟩], ending := .complete }) =
      [.ok [0xFF, 0xD8, 0xAA, 0xFF, 0xD9], .ok [0xFF, 0xD8, 0xBB, 0xFF, 0xD9],
        .error .streamEnded] := by
  let octets : List UInt8 :=
    [0x0A, 0xFF, 0xD8, 0xAA, 0xFF, 0xD9, 0x0A, 0xFF, 0xD8, 0xBB, 0xFF, 0xD9]
  have hbounds : pictureBounds octets 0 = [(1, 6), (7, 12)] := by
    rw [pictureBounds_of_some (show pictureFrom octets 0 = some (1, 6) by decide),
      pictureBounds_of_some (show pictureFrom octets 6 = some (7, 12) by decide),
      pictureBounds_of_none (show pictureFrom octets 12 = none by decide)]
  have hpictures : pictures octets =
      [[0xFF, 0xD8, 0xAA, 0xFF, 0xD9], [0xFF, 0xD8, 0xBB, 0xFF, 0xD9]] := by
    unfold pictures
    rw [hbounds]
    decide
  have hspaced : Spaced octets 0 := by
    unfold Spaced
    rw [hbounds]
    decide
  have hall := (answers_eq_scan octets [⟨#[0x0A, 0xFF]⟩, ⟨#[0xD8, 0xAA, 0xFF]⟩,
    ⟨#[0xD9, 0x0A, 0xFF, 0xD8, 0xBB, 0xFF, 0xD9]⟩] 1 (by simp [toList_eq, octets])
    (by decide) hspaced).1
  rw [hpictures] at hall
  exact hall

end MjpegStream

end Lookout
