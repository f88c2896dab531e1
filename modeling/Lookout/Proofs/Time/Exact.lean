import Mathlib.Data.Rat.Floor
import Mathlib.Tactic.Linarith
import Mathlib.Tactic.NormNum
import Lookout.Time.Clock
/-!
# Exact time

Points in time as rational numbers of milliseconds.  Spans are whole numbers of nanoseconds, so a
span of so many milliseconds is the nearest one, and it may be off by half a nanosecond.

* `nearest` rounds to a whole number, a half to the even one (`abs_nearest_sub_le`,
  `nearest_intCast`).
* `SteadyClock` is what is asked of a clock: a reading is not followed by an earlier one, and a
  sleep is not shorter than the span that was asked for.
* `Whole` says of a time that it is a whole number of nanoseconds.  Clocks that measure spans read
  such times, and between two of them half a nanosecond is nothing (`Whole.le_of_le_add`).
-/

namespace Lookout

/-! ### Rounding -/

/-- The nearest whole number; of two that are equally near, the even one. -/
def nearest (x : ℚ) : ℤ :=
  if x - ⌊x⌋ < 1 / 2 then ⌊x⌋
  else if 1 / 2 < x - ⌊x⌋ then ⌊x⌋ + 1
  else ⌊x⌋ + ⌊x⌋ % 2

/-- A number is rounded by no more than a half. -/
theorem abs_nearest_sub_le (x : ℚ) : |(nearest x : ℚ) - x| ≤ 1 / 2 := by
  have hbelow := Int.floor_le x
  have habove := Int.lt_floor_add_one x
  rw [abs_le]
  unfold nearest
  by_cases hlow : x - ⌊x⌋ < 1 / 2
  · rw [if_pos hlow]
    constructor <;> linarith
  rw [if_neg hlow]
  by_cases hhigh : 1 / 2 < x - ⌊x⌋
  · rw [if_pos hhigh, Int.cast_add, Int.cast_one]
    constructor <;> linarith
  · -- in the middle either neighbour will do
    rw [if_neg hhigh, Int.cast_add]
    rcases Int.emod_two_eq_zero_or_one ⌊x⌋ with heven | hodd
    · rw [heven, Int.cast_zero]
      constructor <;> linarith
    · rw [hodd, Int.cast_one]
      constructor <;> linarith

/-- Whole numbers stay as they are. -/
@[simp] theorem nearest_intCast (k : ℤ) : nearest (k : ℚ) = k := by
  unfold nearest
  rw [Int.floor_intCast, sub_self, if_pos (by norm_num)]

/-! ### The exact timeline -/

instance : Timeline ℚ where
  decidableLT := inferInstance
  decidableLE := inferInstance
  ofSpan s := (s.nanos : ℚ) / 1000000
  toSpan ms := ⟨(nearest (ms * 1000000)).toNat⟩
  seconds ms := ms / 1000

namespace Exact

/-- A span in milliseconds. -/
theorem ofSpan_eq (s : Span) : (Timeline.ofSpan s : ℚ) = (s.nanos : ℚ) / 1000000 := rfl

/-- Whole milliseconds. -/
theorem ofSpan_ofMillis (n : ℕ) : (Timeline.ofSpan (Span.ofMillis n) : ℚ) = n := by
  rw [ofSpan_eq]
  unfold Span.ofMillis
  push_cast
  linarith

/-- The span of so many milliseconds is the nearest number of nanoseconds. -/
theorem ofSpan_toSpan (x : ℚ) : (Timeline.ofSpan (Timeline.toSpan x) : ℚ) =
    ((nearest (x * 1000000)).toNat : ℚ) / 1000000 := rfl

/-- It is shorter than it should be by at most half a nanosecond. -/
theorem le_ofSpan_toSpan (x : ℚ) : x ≤ Timeline.ofSpan (Timeline.toSpan x) + 1 / 2000000 := by
  have hnear := (abs_le.mp (abs_nearest_sub_le (x * 1000000))).1
  have hnat : (nearest (x * 1000000) : ℚ) ≤ ((nearest (x * 1000000)).toNat : ℚ) := by
    exact_mod_cast Int.self_le_toNat _
  rw [ofSpan_toSpan]
  linarith

/-- Whole milliseconds are a span. -/
theorem ofSpan_toSpan_natCast (n : ℕ) : (Timeline.ofSpan (Timeline.toSpan (n : ℚ)) : ℚ) = n := by
  have hnanos : (n : ℚ) * 1000000 = ((n * 1000000 : ℕ) : ℤ) := by
    push_cast
    rfl
  rw [ofSpan_toSpan, hnanos, nearest_intCast, Int.toNat_natCast]
  push_cast
  linarith

/-- Three fifths of a nanosecond less are rounded to a whole nanosecond less. -/
theorem ofSpan_toSpan_sub {n : ℕ} (hn : 1 ≤ n) :
    (Timeline.ofSpan (Timeline.toSpan ((n : ℚ) - 3 / 5000000)) : ℚ) = n - 1 / 1000000 := by
  have hfloor : ⌊((n : ℚ) - 3 / 5000000) * 1000000⌋ = (n : ℤ) * 1000000 - 1 := by
    rw [Int.floor_eq_iff]
    push_cast
    constructor <;> linarith
  have hnear : nearest (((n : ℚ) - 3 / 5000000) * 1000000) = (n : ℤ) * 1000000 - 1 := by
    unfold nearest
    rw [hfloor, if_pos]
    push_cast
    linarith
  have hnat := Int.toNat_of_nonneg (show 0 ≤ (n : ℤ) * 1000000 - 1 by omega)
  have hcast : ((((n : ℤ) * 1000000 - 1).toNat : ℤ) : ℚ) = (n : ℚ) * 1000000 - 1 := by
    rw [hnat]
    push_cast
    rfl
  rw [Int.cast_natCast] at hcast
  rw [ofSpan_toSpan, hnear, hcast]
  linarith

end Exact

/-- A time that is a whole number of nanoseconds. -/
def Whole (t : ℚ) : Prop := ∃ n : ℤ, t * 1000000 = n

/-- Whole milliseconds are whole nanoseconds. -/
theorem whole_natCast (n : ℕ) : Whole n := ⟨n * 1000000, by push_cast; rfl⟩

/-- Between whole numbers of nanoseconds half a nanosecond is nothing. -/
theorem Whole.le_of_le_add {s t : ℚ} (hs : Whole s) (ht : Whole t) (h : s ≤ t + 1 / 2000000) :
    s ≤ t := by
  obtain ⟨m, hm⟩ := hs
  obtain ⟨n, hn⟩ := ht
  have hlt : (m : ℚ) < n + 1 := by linarith
  have hle : m ≤ n := Int.lt_add_one_iff.mp (by exact_mod_cast hlt)
  have hcast : (m : ℚ) ≤ n := by exact_mod_cast hle
  linarith

theorem Whole.add {s t : ℚ} (hs : Whole s) (ht : Whole t) : Whole (s + t) := by
  obtain ⟨m, hm⟩ := hs
  obtain ⟨n, hn⟩ := ht
  exact ⟨m + n, by rw [add_mul, hm, hn]; push_cast; rfl⟩

theorem Whole.sub {s t : ℚ} (hs : Whole s) (ht : Whole t) : Whole (s - t) := by
  obtain ⟨m, hm⟩ := hs
  obtain ⟨n, hn⟩ := ht
  exact ⟨m - n, by rw [sub_mul, hm, hn]; push_cast; rfl⟩

/-- A span is a whole number of nanoseconds. -/
theorem whole_ofSpan (s : Span) : Whole (Timeline.ofSpan s) :=
  ⟨s.nanos, by rw [Exact.ofSpan_eq]; push_cast; linarith⟩

/-- A whole number of nanoseconds is a span, if it is not negative. -/
theorem Whole.ofSpan_toSpan {t : ℚ} (ht : Whole t) (h0 : 0 ≤ t) :
    (Timeline.ofSpan (Timeline.toSpan t) : ℚ) = t := by
  obtain ⟨n, hn⟩ := ht
  have hnonneg : 0 ≤ n := by
    have hcast : (0 : ℚ) ≤ n := by linarith
    exact_mod_cast hcast
  have hnat : ((n.toNat : ℕ) : ℚ) = n := by exact_mod_cast Int.toNat_of_nonneg hnonneg
  rw [Exact.ofSpan_toSpan, hn, nearest_intCast, hnat]
  linarith

/-! ### Clocks -/

/-- A clock that is read and slept on as clocks are. -/
structure SteadyClock (ω : Type) [Clock ω ℚ] : Prop where
  /-- A reading is not followed by an earlier one. -/
  reads : ∀ w : ω, (Clock.now w).1 ≤ (Clock.now (Clock.now w).2).1
  /-- A sleep is not shorter than it was asked to be. -/
  sleeps : ∀ (w : ω) (d : Span),
    (Clock.now w).1 + Timeline.ofSpan d ≤ (Clock.now (Clock.sleep d (Clock.now w).2)).1

end Lookout
