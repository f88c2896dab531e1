import Lookout.Octets.BigEndian
/-!
# Octets that stand somewhere

A file is written part after part and read by positions.  What connects the two is where a part
stands (`StandsAt`): it stands where the parts before it end, whatever stands in a part stands in the
whole, and everything that is read at a position depends on what stands there alone.  Parts of equal
length that follow each other are tiles (`Tiled`).
-/

namespace Lookout.Octets

/-- An octet of some data is an element of the array behind them. -/
theorem getElem?_data (data : ByteArray) (i : Nat) : data[i]? = data.data[i]? := by
  by_cases h : i < data.size
  · rw [getElem?_pos data i h, getElem?_pos data.data i h]
    rfl
  · rw [getElem?_neg data i h, getElem?_neg data.data i h]

/-- The octets of a part are octets of the data. -/
theorem getElem?_extract {data : ByteArray} {start stop i : Nat} (hi : start + i < stop)
    (hstop : stop ≤ data.size) : (data.extract start stop)[i]? = data[start + i]? := by
  have hsize : data.data.size = data.size := rfl
  rw [getElem?_data, getElem?_data, ByteArray.data_extract, Array.getElem?_extract,
    if_pos (by omega)]

/-- Where there is an octet, it is the one at that position. -/
theorem octetAt_of_getElem? {data : ByteArray} {pos : Nat} {octet : UInt8}
    (h : data[pos]? = some octet) : octetAt data pos = octet := by
  unfold octetAt
  split
  case isTrue hlt =>
    rw [getElem?_pos data pos hlt] at h
    exact Option.some.inj h
  case isFalse hnot =>
    rw [getElem?_neg data pos hnot] at h
    cases h

/-- Octets that were listed one after the other are appended. -/
theorem mk_append (front back : List UInt8) :
    (⟨(front ++ back).toArray⟩ : ByteArray) = ⟨front.toArray⟩ ++ ⟨back.toArray⟩ := by
  apply ByteArray.ext
  rw [ByteArray.data_append, List.append_toArray]

/-- A number that fits is read as it was written. -/
theorem nat32?_write32 {n : Nat} (hn : n < 0x100000000) :
    nat32? ⟨(write32 n).toArray⟩ 0 = some n := by
  simp only [nat32?, natAt?, getElem?_data, write32]
  simp
  omega

/-- Some octets stand at a position of some data. -/
def StandsAt (data : ByteArray) (pos : Nat) (octets : ByteArray) : Prop :=
  ∃ front back, data = front ++ octets ++ back ∧ front.size = pos

namespace StandsAt

variable {data octets : ByteArray} {pos : Nat}

/-! ### Where parts stand -/

/-- The whole stands at the start. -/
theorem refl (data : ByteArray) : StandsAt data 0 data :=
  ⟨.empty, .empty, by simp, rfl⟩

/-- The first of two parts stands at the start. -/
theorem append_left (a b : ByteArray) : StandsAt (a ++ b) 0 a :=
  ⟨.empty, b, by simp, rfl⟩

/-- The second of two parts stands after the first. -/
theorem append_right (a b : ByteArray) : StandsAt (a ++ b) a.size b :=
  ⟨a, .empty, by simp, rfl⟩

/-- What stands in a part stands in the data. -/
theorem trans {part : ByteArray} {offset : Nat} (houter : StandsAt data pos octets)
    (hinner : StandsAt octets offset part) : StandsAt data (pos + offset) part := by
  obtain ⟨front, back, rfl, rfl⟩ := houter
  obtain ⟨front', back', rfl, rfl⟩ := hinner
  exact ⟨front ++ front', back' ++ back, by simp only [ByteArray.append_assoc],
    ByteArray.size_append⟩

/-- Of two parts that stand somewhere, the first stands there. -/
theorem left {a b : ByteArray} (h : StandsAt data pos (a ++ b)) : StandsAt data pos a :=
  h.trans (append_left a b)

/-- Of two parts that stand somewhere, the second stands after the first. -/
theorem right {a b : ByteArray} (h : StandsAt data pos (a ++ b)) :
    StandsAt data (pos + a.size) b :=
  h.trans (append_right a b)

/-- What stands in the data ends before they do. -/
theorem size_le (h : StandsAt data pos octets) : pos + octets.size ≤ data.size := by
  obtain ⟨front, back, rfl, rfl⟩ := h
  simp only [ByteArray.size_append]
  omega

/-! ### Reading what stands there -/

/-- The octets from there on are those that stand there. -/
theorem extract_eq (h : StandsAt data pos octets) :
    data.extract pos (pos + octets.size) = octets := by
  obtain ⟨front, back, rfl, rfl⟩ := h
  rw [← ByteArray.size_append, ByteArray.extract_append_size_left,
    ByteArray.extract_append_eq_right rfl ByteArray.size_append]

/-- All the octets that stand there can be read. -/
theorem slice?_eq (h : StandsAt data pos octets) :
    slice? data pos (pos + octets.size) = some octets := by
  unfold slice?
  rw [if_pos ⟨Nat.le_add_right _ _, h.size_le⟩, h.extract_eq]

/-- Each octet can be read. -/
theorem getElem?_eq (h : StandsAt data pos octets) {i : Nat} (hi : i < octets.size) :
    data[pos + i]? = octets[i]? := by
  obtain ⟨front, back, rfl, rfl⟩ := h
  have hlt : front.size + i < (front ++ octets ++ back).size := by
    simp only [ByteArray.size_append]
    omega
  rw [getElem?_pos (front ++ octets ++ back) (front.size + i) hlt, getElem?_pos octets i hi]
  simp [ByteArray.append_assoc, ByteArray.getElem_append_right, ByteArray.getElem_append_left, hi]

/-- Of listed octets the first can be read, and the others stand after it. -/
theorem cons {octet : UInt8} {rest : List UInt8}
    (h : StandsAt data pos ⟨(octet :: rest).toArray⟩) :
    data[pos]? = some octet ∧ StandsAt data (pos + 1) ⟨rest.toArray⟩ := by
  rw [← List.singleton_append, mk_append] at h
  refine ⟨?_, h.right⟩
  rw [← Nat.add_zero pos, h.left.getElem?_eq Nat.zero_lt_one, getElem?_data]
  rfl

/-- A number in those octets can be read. -/
theorem natAt?_eq (h : StandsAt data pos octets) (i count : Nat) (hi : i + count ≤ octets.size) :
    natAt? data (pos + i) count = natAt? octets i count := by
  induction count with
  | zero => rfl
  | succ n ih =>
    simp only [natAt?]
    rw [ih (by omega), Nat.add_assoc pos i n, h.getElem?_eq (by omega)]

/-- A number that was written there is read. -/
theorem nat32?_eq {n : Nat} (h : StandsAt data pos ⟨(write32 n).toArray⟩) (hn : n < 0x100000000) :
    nat32? data pos = some n := by
  rw [← nat32?_write32 hn]
  exact h.natAt?_eq 0 4 (Nat.le_refl 4)

end StandsAt

/-! ### Parts of equal length -/

/-- The data are `count` parts of `size` octets, one after the other. -/
structure Tiled (size : Nat) (part : Nat → ByteArray) (count : Nat) (data : ByteArray) : Prop where
  /-- There is nothing else. -/
  size_eq : data.size = count * size
  /-- Each part stands in its place. -/
  standsAt : ∀ i < count, StandsAt data (i * size) (part i)

namespace Tiled

variable {size count : Nat} {part : Nat → ByteArray} {data : ByteArray}

/-- No data are no parts. -/
theorem empty : Tiled size part 0 .empty where
  size_eq := by simp
  standsAt := by
    intro i hi
    cases hi

/-- One more part is appended. -/
theorem append (h : Tiled size part count data) (hsize : (part count).size = size) :
    Tiled size part (count + 1) (data ++ part count) where
  size_eq := by
    rw [ByteArray.size_append, h.size_eq, hsize, Nat.succ_mul]
  standsAt := by
    intro i hi
    rcases Nat.lt_succ_iff_lt_or_eq.mp hi with hlt | rfl
    · have hbefore := (StandsAt.append_left data (part count)).trans (h.standsAt i hlt)
      rwa [Nat.zero_add] at hbefore
    · rw [← h.size_eq]
      exact StandsAt.append_right data (part i)

end Tiled

end Lookout.Octets
