import Lookout.Picture.Png.Deflate
import Lookout.Proofs.Octets.Standing
/-!
# Stored octets come back

`Deflate.store` writes blocks that hold their octets as they are, all but the last one full, and
`Deflate.inflate?`, which reads compressed data of any kind, gives the octets back
(`inflate?_store`).  The bits of a block's head are read one by one, so the head is first put
together from bits; after the head everything is whole octets.
-/

namespace Lookout.Deflate

open Octets

/-! ### Bits of octets -/

/-- Some bits of one octet are a part of its value. -/
theorem bits?_of_octet {data : ByteArray} {p : Nat} {octet : UInt8} (ho : data[p]? = some octet)
    {i k : Nat} (hik : i + k ≤ 8) :
    bits? data (p * 8 + i) k = some ((octet.toNat >>> i) % (1 <<< k)) := by
  induction k with
  | zero => simp [bits?, Nat.mod_one]
  | succ k ih =>
    have hplace : (p * 8 + i + k) / 8 = p := by omega
    have hshift : (p * 8 + i + k) % 8 = i + k := by omega
    have hbit : bit? data (p * 8 + i + k) = some ((octet.toNat >>> i >>> k) % 2) := by
      unfold bit?
      rw [hplace, hshift, ho, Option.map_some, Nat.shiftRight_add]
    have hsplit : (octet.toNat >>> i) % (1 <<< (k + 1)) =
        (octet.toNat >>> i) % (1 <<< k) + ((octet.toNat >>> i >>> k) % 2) <<< k := by
      rw [Nat.shiftLeft_eq, Nat.shiftLeft_eq, Nat.shiftLeft_eq, Nat.one_mul, Nat.one_mul,
        Nat.mod_pow_succ, Nat.shiftRight_eq_div_pow _ k, Nat.mul_comm]
    simp only [bits?]
    rw [ih (by omega), hbit, hsplit]
    rfl

/-- More bits are the higher ones. -/
theorem bits?_add (data : ByteArray) (pos m k : Nat) :
    bits? data pos (m + k) =
      (bits? data pos m).bind fun low =>
        (bits? data (pos + m) k).map fun high => low + high <<< m := by
  induction k with
  | zero => simp [bits?]
  | succ k ih =>
    rw [← Nat.add_assoc]
    simp only [bits?]
    rw [ih]
    rcases bits? data pos m with _ | low
    · rfl
    rcases bits? data (pos + m) k with _ | middle
    · rfl
    rw [Nat.add_assoc pos m k]
    rcases bit? data (pos + (m + k)) with _ | high
    · rfl
    have hsum : low + middle <<< m + high <<< (m + k) = low + (middle + high <<< k) <<< m := by
      rw [Nat.shiftLeft_eq, Nat.shiftLeft_eq, Nat.shiftLeft_eq, Nat.shiftLeft_eq, Nat.pow_add,
        Nat.add_mul, Nat.add_assoc, ← Nat.mul_assoc, Nat.mul_right_comm]
    exact congrArg some hsum

/-- Sixteen bits, read where they were written, are the number that was written. -/
theorem bits?_write16Low {data : ByteArray} {p n : Nat}
    (h : StandsAt data p ⟨(write16Low n).toArray⟩) (hn : n < 65536) :
    bits? data (p * 8) 16 = some n := by
  have hlow : bits? data (p * 8) 8 = some ((n.toUInt8.toNat >>> 0) % (1 <<< 8)) :=
    bits?_of_octet (i := 0) h.cons.1 (Nat.le_refl 8)
  have hhigh : bits? data (p * 8 + 8) 8 = some (((n / 256).toUInt8.toNat >>> 0) % (1 <<< 8)) := by
    rw [← Nat.succ_mul]
    exact bits?_of_octet (i := 0) h.cons.2.cons.1 (Nat.le_refl 8)
  rw [show 16 = 8 + 8 from rfl, bits?_add, hlow, Option.bind_some, hhigh]
  simp [Nat.shiftLeft_eq]
  omega

/-! ### One block -/

/-- A block that holds some octets as they are; the mark says whether it is the last one. -/
def storedBlock (last : UInt8) (octets : ByteArray) : ByteArray :=
  ⟨(last :: write16Low octets.size ++ write16Low (65535 - octets.size)).toArray⟩ ++ octets

/-- A block has a head of five octets. -/
theorem size_storedBlock (last : UInt8) (octets : ByteArray) :
    (storedBlock last octets).size = 5 + octets.size := by
  unfold storedBlock
  rw [ByteArray.size_append]
  rfl

/-- The parts of a block: the mark, the number of octets, its complement, and the octets. -/
theorem parts_of_storedBlock {data : ByteArray} {p : Nat} {last : UInt8} {octets : ByteArray}
    (h : StandsAt data p (storedBlock last octets)) :
    data[p]? = some last ∧ StandsAt data (p + 1) ⟨(write16Low octets.size).toArray⟩ ∧
      StandsAt data (p + 3) ⟨(write16Low (65535 - octets.size)).toArray⟩ ∧
      StandsAt data (p + 5) octets := by
  unfold storedBlock at h
  rw [List.cons_append] at h
  obtain ⟨hmark, hcounts⟩ := h.left.cons
  rw [mk_append] at hcounts
  exact ⟨hmark, hcounts.left, hcounts.right, h.right⟩

/-- The octets of a block are read after its mark and its kind. -/
theorem readStored?_storedBlock {data : ByteArray} {p : Nat} {last : UInt8} {octets : ByteArray}
    (h : StandsAt data p (storedBlock last octets)) (hsize : octets.size ≤ storedLimit)
    (out : ByteArray) :
    readStored? data (p * 8 + 3) out = some (out ++ octets, (p + 5 + octets.size) * 8) := by
  have hlimit : octets.size ≤ 65535 := hsize
  obtain ⟨_, hlength, hcheck, hoctets⟩ := parts_of_storedBlock h
  have hstart : (p * 8 + 3 + 7) / 8 = p + 1 := by omega
  have hlength := bits?_write16Low hlength (by omega)
  have hcheck := bits?_write16Low hcheck (by omega)
  have hsum : octets.size + (65535 - octets.size) = 65535 := by omega
  unfold readStored?
  simp only [hstart, hlength, Option.bind_eq_bind, Option.bind_some]
  rw [show (p + 1) * 8 + 16 = (p + 3) * 8 by omega, hcheck, Option.bind_some, if_neg (by simp [hsum]),
    hoctets.slice?_eq]
  rfl

/-- A block is read, and what follows it unless it is the last one. -/
theorem readBlocks?_storedBlock {data : ByteArray} {p : Nat} {last : UInt8} {octets : ByteArray}
    (h : StandsAt data p (storedBlock last octets)) (hlast : last = 0 ∨ last = 1)
    (hsize : octets.size ≤ storedLimit) (fuel : Nat) (out : ByteArray) :
    readBlocks? data (fuel + 1) (p * 8) out =
      if last = 1 then some (out ++ octets)
      else readBlocks? data fuel ((p + 5 + octets.size) * 8) (out ++ octets) := by
  have hmark := (parts_of_storedBlock h).1
  have hbit : bit? data (p * 8) = some last.toNat := by
    unfold bit?
    rw [Nat.mul_div_cancel p (by decide), Nat.mul_mod_left, hmark]
    rcases hlast with rfl | rfl <;> rfl
  have hkind : bits? data (p * 8 + 1) 2 = some 0 := by
    rw [bits?_of_octet hmark (by decide)]
    rcases hlast with rfl | rfl <;> rfl
  rw [readBlocks?]
  simp only [hbit, hkind, Option.bind_eq_bind, Option.bind_some, readStored?_storedBlock h hsize]
  rcases hlast with rfl | rfl <;> simp

/-! ### All blocks -/

/-- Blocks are written after what was written before. -/
theorem storeBlocks_eq_append (data : ByteArray) (count pos : Nat) (out : ByteArray) :
    storeBlocks data count pos out = out ++ storeBlocks data count pos .empty := by
  induction count generalizing pos out with
  | zero => simp [storeBlocks, ByteArray.append_assoc]
  | succ count ih =>
    rw [storeBlocks, storeBlocks, ih, ih _ (.empty ++ _ ++ _)]
    simp [ByteArray.append_assoc]

/-- The last block holds what is left. -/
theorem storeBlocks_zero (data : ByteArray) (pos : Nat) :
    storeBlocks data 0 pos .empty = storedBlock 1 (data.extract pos data.size) := by
  simp [storeBlocks, storedBlock]

/-- A block before the last one is full. -/
theorem storeBlocks_succ {data : ByteArray} {count pos : Nat}
    (hfull : pos + storedLimit ≤ data.size) :
    storeBlocks data (count + 1) pos .empty =
      storedBlock 0 (data.extract pos (pos + storedLimit)) ++
        storeBlocks data count (pos + storedLimit) .empty := by
  have hsize : (data.extract pos (pos + storedLimit)).size = storedLimit := by
    rw [ByteArray.size_extract]
    omega
  rw [storeBlocks, storeBlocks_eq_append, storedBlock, hsize]
  simp [storedLimit]

/-- Blocks take the room of their octets and five octets more for each head. -/
theorem size_storeBlocks {data : ByteArray} {count pos : Nat}
    (hfull : pos + count * storedLimit ≤ data.size) :
    (storeBlocks data count pos .empty).size = data.size - pos + 5 * (count + 1) := by
  induction count generalizing pos with
  | zero =>
    rw [storeBlocks_zero, size_storedBlock, ByteArray.size_extract]
    omega
  | succ count ih =>
    rw [Nat.succ_mul] at hfull
    rw [storeBlocks_succ (by omega), ByteArray.size_append, size_storedBlock,
      ByteArray.size_extract, ih (by omega)]
    omega

/-- The blocks of some octets, standing in a file, are read from there on: after the octets that
came out of the blocks before come those that the blocks hold. -/
theorem readBlocks?_storeBlocks {file data : ByteArray} {count pos p fuel : Nat} (out : ByteArray)
    (h : StandsAt file p (storeBlocks data count pos .empty))
    (hfull : pos + count * storedLimit ≤ data.size)
    (hrest : data.size ≤ pos + (count + 1) * storedLimit) (hfuel : count < fuel) :
    readBlocks? file fuel (p * 8) out = some (out ++ data.extract pos data.size) := by
  induction count generalizing pos p fuel out with
  | zero =>
    obtain ⟨fuel, rfl⟩ : ∃ n, fuel = n + 1 := ⟨fuel - 1, by omega⟩
    rw [storeBlocks_zero] at h
    have hsize : (data.extract pos data.size).size ≤ storedLimit := by
      rw [ByteArray.size_extract]
      omega
    rw [readBlocks?_storedBlock h (Or.inr rfl) hsize, if_pos rfl]
  | succ count ih =>
    obtain ⟨fuel, rfl⟩ : ∃ n, fuel = n + 1 := ⟨fuel - 1, by omega⟩
    rw [Nat.succ_mul] at hfull hrest
    have hone : pos + storedLimit ≤ data.size := by omega
    have hsize : (data.extract pos (pos + storedLimit)).size = storedLimit := by
      rw [ByteArray.size_extract]
      omega
    rw [storeBlocks_succ hone] at h
    have hnext := h.right
    rw [size_storedBlock, ← Nat.add_assoc] at hnext
    rw [readBlocks?_storedBlock h.left (Or.inl rfl) (Nat.le_of_eq hsize), if_neg (by decide),
      ih _ hnext (by omega) (by omega) (by omega), ByteArray.append_assoc,
      ByteArray.extract_append_extract]
    congr 3 <;> omega

/-- Storing adds a header, a check and the heads of the blocks. -/
theorem size_store (data : ByteArray) :
    (store data).size = data.size + 5 * ((data.size - 1) / storedLimit + 1) + 6 := by
  have hfull : 0 + (data.size - 1) / storedLimit * storedLimit ≤ data.size := by
    have := Nat.div_mul_le_self (data.size - 1) storedLimit
    omega
  have hends : (⟨#[0x78, 0x01]⟩ : ByteArray).size = 2 ∧
      (⟨(write32 (Checksum.adler32 data).toNat).toArray⟩ : ByteArray).size = 4 := ⟨rfl, rfl⟩
  unfold store
  rw [storeBlocks_eq_append, ByteArray.size_append, ByteArray.size_append, size_storeBlocks hfull,
    hends.1, hends.2]
  omega

/-- **Stored octets come back**: what is stored is what is read out of it, however much it is. -/
theorem inflate?_store (data : ByteArray) : inflate? (store data) = some data := by
  let count := (data.size - 1) / storedLimit
  have hcount : count * storedLimit ≤ data.size - 1 := Nat.div_mul_le_self _ _
  have hrest : data.size - 1 < (count + 1) * storedLimit :=
    (Nat.div_lt_iff_lt_mul (by decide)).mp (Nat.lt_succ_self count)
  have hwhole : StandsAt (store data) 0 (⟨#[0x78, 0x01]⟩ ++ storeBlocks data count 0 .empty) := by
    unfold store
    rw [storeBlocks_eq_append]
    exact StandsAt.append_left _ _
  have hheader : nat16? (store data) 0 = some 0x7801 := hwhole.left.natAt?_eq 0 2 (Nat.le_refl 2)
  have hfuel : count < (store data).size * 8 := by
    have hsize : (store data).size = data.size + 5 * (count + 1) + 6 := size_store data
    omega
  have hread : readBlocks? (store data) ((store data).size * 8) 16 .empty = some data := by
    have hblocks := readBlocks?_storeBlocks .empty hwhole.right (by omega) (by omega) hfuel
    rw [ByteArray.extract_zero_size, ByteArray.empty_append] at hblocks
    exact hblocks
  unfold inflate?
  simp only [hheader, hread, Option.bind_eq_bind, Option.bind_some]
  rfl

end Lookout.Deflate
