import Mathlib.Data.Nat.Dist
import Lookout.Proofs.Capture.Resolution
/-!
# Which device a request is resolved to

A request asks for a device and a facing, if it does, and for sizes between bounds.  A device is
admitted if it is the one and looks where it should, and if whatever native size it has lies within
the bounds (`Constraints.Admits`).

* **A request is resolved to the first video input that it admits** (`Catalog.resolve_iff_admits`),
  as long as its bounds are in order: there is an answer exactly if some video input is admitted;
  the device is then the first of these in the catalog, and each side is the native one or else the
  point within the bounds that is nearest to the preferred one (`SizeRange.Chosen`).

With the bounds in order the search never stops the program, and it comes down to finding the first
device that is admitted (`firstMatch_of_ordered`).  A device that was found is the first one that is
admitted even if they are not (`firstAdmitted_of_resolve`).
-/

namespace Lookout

/-! ### One side of a frame -/

namespace SizeRange

/-- The value lies within the bounds. -/
def Within (r : SizeRange) (size : Nat) : Prop := r.min ≤ size ∧ size ≤ r.max

instance (r : SizeRange) (size : Nat) : Decidable (r.Within size) :=
  inferInstanceAs (Decidable (_ ∧ _))

/-- The value for a device, given its native one if it has one. -/
structure Chosen (r : SizeRange) (native : Option Nat) (size : Nat) : Prop where
  /-- It lies within the bounds. -/
  within : r.Within size
  /-- It is the native one. -/
  native_eq : ∀ n, native = some n → size = n
  /-- Without a native one it is nearer to the preferred one than all others within the bounds. -/
  nearest : native = none →
    ∀ other, r.Within other → other ≠ size → size.dist r.ideal < other.dist r.ideal

variable {r : SizeRange} {size : Nat}

/-- The native value is chosen if it lies within the bounds. -/
theorem resolve_native_iff {n : Nat} :
    r.resolve (some n) = .ok (some size) ↔ size = n ∧ r.Within n := by
  show Except.ok (if n < r.min ∨ r.max < n then none else some n) = .ok (some size) ↔ _
  unfold Within
  by_cases hout : n < r.min ∨ r.max < n
  · rw [if_pos hout]
    simp only [Except.ok.injEq, reduceCtorEq, false_iff, not_and]
    omega
  · rw [if_neg hout, Except.ok.injEq, Option.some.injEq]
    omega

/-- Between bounds in order the preferred value is moved to the nearest one. -/
theorem clamped_eq_iff (hordered : r.Ordered) :
    r.clamped = .ok size ↔
      r.Within size ∧ ∀ other, r.Within other → other ≠ size →
        size.dist r.ideal < other.dist r.ideal := by
  unfold clamped Ordered Within Nat.dist at *
  rw [if_neg (by omega), Except.ok.injEq]
  constructor
  · intro hsize
    subst hsize
    refine ⟨by split_ifs <;> omega, fun other hother hne => ?_⟩
    split_ifs at hne ⊢ <;> omega
  · rintro ⟨hwithin, hnearest⟩
    refine Decidable.byContradiction fun hne => ?_
    have hnearer := hnearest _ (by split_ifs <;> omega) hne
    split_ifs at hne hnearer <;> omega

/-- Between bounds in order a side is resolved to what is chosen for it. -/
theorem resolve_eq_some_iff (hordered : r.Ordered) {native : Option Nat} :
    r.resolve native = .ok (some size) ↔ r.Chosen native size := by
  cases native with
  | some n =>
    rw [resolve_native_iff]
    constructor
    · rintro ⟨rfl, hwithin⟩
      exact ⟨hwithin, fun m hm => Option.some.inj hm, nofun⟩
    · intro hchosen
      obtain rfl := hchosen.native_eq n rfl
      exact ⟨rfl, hchosen.within⟩
  | none =>
    have hmap : r.resolve none = .ok (some size) ↔ r.clamped = .ok size := by
      show r.clamped.map some = .ok (some size) ↔ _
      rw [Results.map_eq_ok_iff]
      simp
    rw [hmap, clamped_eq_iff hordered]
    constructor
    · rintro ⟨hwithin, hnearest⟩
      exact ⟨hwithin, nofun, fun _ => hnearest⟩
    · intro hchosen
      exact ⟨hchosen.within, hchosen.nearest rfl⟩

/-- Between bounds in order there is a value for every device whose native one lies within them. -/
theorem exists_resolve (hordered : r.Ordered) {native : Option Nat}
    (hwithin : ∀ n, native = some n → r.Within n) : ∃ size, r.resolve native = .ok (some size) := by
  rcases hresolve : r.resolve native with fault | _ | size
  · exact absurd hordered (resolve_eq_error_iff.mp hresolve).2.2
  · obtain ⟨n, hn, hout⟩ := resolve_eq_none_iff.mp hresolve
    obtain ⟨hmin, hmax⟩ := hwithin n hn
    omega
  · exact ⟨size, rfl⟩

end SizeRange

/-! ### One device -/

namespace Constraints

/-- The device satisfies every constraint. -/
structure Admits (c : Constraints) (d : Device) : Prop where
  /-- It is the one that is asked for, if one is. -/
  deviceId : ∀ id, c.deviceId = some id → d.id = id
  /-- It looks where it is asked to, if it is. -/
  facing : ∀ facing, c.facing = some facing → d.facing = some facing
  /-- Its native width, if it has one, lies within the bounds. -/
  width : ∀ n, d.width = some n → c.width.Within n
  /-- Its native height, if it has one, lies within the bounds. -/
  height : ∀ n, d.height = some n → c.height.Within n

variable {c : Constraints} {d : Device}

/-- A device that is asked for is admitted unless it has the wrong size. -/
theorem admits_iff : c.Admits d ↔ d.matchesRequest c = true ∧ ¬c.Excludes d := by
  have hasked : d.matchesRequest c = true ↔ (∀ id, c.deviceId = some id → d.id = id) ∧
      ∀ facing, c.facing = some facing → d.facing = some facing := by
    unfold Device.matchesRequest
    cases c.deviceId <;> cases c.facing <;> simp
  have hsize : ¬c.Excludes d ↔ (∀ n, d.width = some n → c.width.Within n) ∧
      ∀ n, d.height = some n → c.height.Within n := by
    unfold Excludes SizeRange.Within
    simp only [not_or, not_exists, not_and, Nat.not_lt]
  rw [hasked, hsize]
  constructor
  · intro h
    exact ⟨⟨h.deviceId, h.facing⟩, h.width, h.height⟩
  · rintro ⟨⟨hid, hfacing⟩, hwidth, hheight⟩
    exact ⟨hid, hfacing, hwidth, hheight⟩

instance (c : Constraints) (d : Device) : Decidable (c.Admits d) :=
  decidable_of_iff
    ((∀ id ∈ c.deviceId, d.id = id) ∧ (∀ facing ∈ c.facing, d.facing = some facing) ∧
      (∀ n ∈ d.width, c.width.Within n) ∧ ∀ n ∈ d.height, c.height.Within n)
    ⟨fun ⟨hid, hfacing, hwidth, hheight⟩ => ⟨hid, hfacing, hwidth, hheight⟩,
      fun h => ⟨h.deviceId, h.facing, h.width, h.height⟩⟩

end Constraints

/-! ### The search -/

namespace Constraints.Reaches

variable {c : Constraints} {ds : List Device} {d : Device}

/-- A device that is looked at is asked for. -/
theorem asked (h : c.Reaches ds d) : d.matchesRequest c = true := by
  induction h with
  | here hasked => exact hasked
  | later _ _ ih => exact ih

/-- A device that is looked at and admitted is the first one that is. -/
theorem find?_eq (h : c.Reaches ds d) (hadmits : c.Admits d) :
    ds.find? (fun e => decide (c.Admits e)) = some d := by
  induction h with
  | here => exact List.find?_cons_of_pos (by simpa using hadmits)
  | @later d e ds hpassed _ ih =>
    have hnot : ¬c.Admits e := by
      rw [admits_iff]
      rintro ⟨hasked, hsize⟩
      exact hsize (hpassed hasked).2
    rw [List.find?_cons_of_neg (by simpa using hnot)]
    exact ih hadmits

end Constraints.Reaches

namespace Catalog

variable {c : Constraints} {d : Device}

/-- A device is sized by choosing a value for each side. -/
theorem chooseSize_eq_some_iff {r : ResolvedDevice} :
    chooseSize c d = .ok (some r) ↔ r.device = d ∧
      c.width.resolve d.width = .ok (some r.width) ∧
        c.height.resolve d.height = .ok (some r.height) := by
  obtain ⟨device, width, height⟩ := r
  rw [chooseSize_eq]
  rcases c.width.resolve d.width with f | _ | w
  · simp [Except.bind]
  · rcases c.height.resolve d.height with f | h <;> simp [Except.bind, Except.map]
  · rcases c.height.resolve d.height with f | _ | h
    · simp [Except.bind, Except.map]
    · simp [Except.bind, Except.map]
    · simp [Except.bind, Except.map, eq_comm]

/-- Between bounds in order an admitted device can be sized. -/
theorem exists_chooseSize (hwidth : c.width.Ordered) (hheight : c.height.Ordered)
    (hadmits : c.Admits d) : ∃ r, chooseSize c d = .ok (some r) := by
  obtain ⟨width, hw⟩ := SizeRange.exists_resolve hwidth hadmits.width
  obtain ⟨height, hh⟩ := SizeRange.exists_resolve hheight hadmits.height
  exact ⟨⟨d, width, height⟩, chooseSize_eq_some_iff.mpr ⟨rfl, hw, hh⟩⟩

/-- Between bounds in order the search ends with the first device that is admitted. -/
theorem firstMatch_of_ordered (hwidth : c.width.Ordered) (hheight : c.height.Ordered)
    (ds : List Device) :
    firstMatch c ds =
      match ds.find? fun d => decide (c.Admits d) with
      | some d => chooseSize c d
      | none => .ok none := by
  induction ds with
  | nil => rfl
  | cons e ds ih =>
    by_cases hadmits : c.Admits e
    · obtain ⟨r, hr⟩ := exists_chooseSize hwidth hheight hadmits
      rw [List.find?_cons_of_pos (by simpa using hadmits),
        firstMatch_cons_of_ne_none ds (Constraints.admits_iff.mp hadmits).1 (by simp [hr])]
    · rw [List.find?_cons_of_neg (by simpa using hadmits), ← ih]
      rcases hasked : e.matchesRequest c with _ | _
      · exact firstMatch_cons_of_not_asked ds hasked
      · have hexcludes : c.Excludes e := by
          refine Classical.byContradiction fun hnot => ?_
          exact hadmits (Constraints.admits_iff.mpr ⟨hasked, hnot⟩)
        have hnone := chooseSize_eq_none_iff.mpr
          ⟨Constraints.sizes_of_ordered hwidth hheight e, hexcludes⟩
        exact firstMatch_cons_of_none ds hasked hnone

/-- The device is the first video input of the catalog that is admitted. -/
def FirstAdmitted (catalog : Catalog) (c : Constraints) (d : Device) : Prop :=
  ∃ before after, catalog.devices = before ++ d :: after ∧ d.kind = .video ∧ c.Admits d ∧
    ∀ e ∈ before, e.kind = .video → ¬c.Admits e

variable {catalog : Catalog}

/-- The first admitted device is found among the video inputs. -/
theorem firstAdmitted_iff :
    catalog.FirstAdmitted c d ↔
      catalog.videoInputs.find? (fun d => decide (c.Admits d)) = some d := by
  unfold FirstAdmitted videoInputs
  rw [List.find?_filter, List.find?_eq_some_iff_append]
  constructor
  · rintro ⟨before, after, hdevices, hkind, hadmits, hbefore⟩
    refine ⟨by simp [hkind, hadmits], before, after, hdevices, fun e he => ?_⟩
    have := hbefore e he
    by_cases hvideo : e.kind = .video
    · simp [hvideo, this hvideo]
    · simp [hvideo]
  · rintro ⟨hd, before, after, hdevices, hbefore⟩
    have hd : d.kind = .video ∧ c.Admits d := by simpa using hd
    refine ⟨before, after, hdevices, hd.1, hd.2, fun e he hvideo hadmits => ?_⟩
    have := hbefore e he
    simp [hvideo, hadmits] at this

/-- There is a first admitted device if any video input is admitted. -/
theorem exists_firstAdmitted_iff :
    (∃ d, catalog.FirstAdmitted c d) ↔ ∃ d ∈ catalog.devices, d.kind = .video ∧ c.Admits d := by
  constructor
  · rintro ⟨d, before, after, hdevices, hkind, hadmits, _⟩
    exact ⟨d, by simp [hdevices], hkind, hadmits⟩
  · rintro ⟨d, hmem, hkind, hadmits⟩
    have hfound : (catalog.videoInputs.find? fun d => decide (c.Admits d)).isSome := by
      rw [List.find?_isSome]
      exact ⟨d, by simp [videoInputs, hmem, hkind], by simpa using hadmits⟩
    obtain ⟨first, hfirst⟩ := Option.isSome_iff_exists.mp hfound
    exact ⟨first, firstAdmitted_iff.mpr hfirst⟩

/-- A request is resolved to whatever the search ends with. -/
theorem resolve_eq_ok_ok_iff {r : ResolvedDevice} :
    catalog.resolve c = .ok (.ok r) ↔ firstMatch c catalog.videoInputs = .ok (some r) := by
  unfold resolve
  rcases firstMatch c catalog.videoInputs with fault | _ | found
  · simp [bind, Except.bind]
  · simp [bind, Except.bind, pure, Except.pure]
  · simp [bind, Except.bind, pure, Except.pure]

/-- A request is resolved to the first video input that it admits, whether or not its bounds are in
order. -/
theorem firstAdmitted_of_resolve {r : ResolvedDevice} (h : catalog.resolve c = .ok (.ok r)) :
    catalog.FirstAdmitted c r.device := by
  have hsearch := resolve_eq_ok_ok_iff.mp h
  obtain ⟨d, hreach, hsize⟩ := (firstMatch_eq_iff (by simp)).mp hsearch
  obtain ⟨rfl, -, -⟩ := chooseSize_eq_some_iff.mp hsize
  have hadmits : c.Admits r.device := by
    refine Constraints.admits_iff.mpr ⟨hreach.asked, fun hexcludes => ?_⟩
    by_cases hsizes : c.Sizes r.device
    · rw [chooseSize_eq_none_iff.mpr ⟨hsizes, hexcludes⟩] at hsize
      cases hsize
    · rw [chooseSize_eq_error_iff.mpr ⟨rfl, hsizes⟩] at hsize
      cases hsize
  exact firstAdmitted_iff.mpr (hreach.find?_eq hadmits)

/-- Between bounds in order a request is resolved to the first admitted device, with a value that is
chosen for each side. -/
theorem resolve_eq_iff_firstAdmitted (hwidth : c.width.Ordered) (hheight : c.height.Ordered)
    {r : ResolvedDevice} :
    catalog.resolve c = .ok (.ok r) ↔
      catalog.FirstAdmitted c r.device ∧ c.width.Chosen r.device.width r.width ∧
        c.height.Chosen r.device.height r.height := by
  rw [resolve_eq_ok_ok_iff, firstMatch_of_ordered hwidth hheight, firstAdmitted_iff]
  rcases catalog.videoInputs.find? (fun d => decide (c.Admits d)) with _ | d
  · simp
  · rw [← SizeRange.resolve_eq_some_iff hwidth, ← SizeRange.resolve_eq_some_iff hheight]
    show chooseSize c d = .ok (some r) ↔ _
    rw [chooseSize_eq_some_iff, Option.some.injEq]
    constructor
    · rintro ⟨rfl, hw, hh⟩
      exact ⟨rfl, hw, hh⟩
    · rintro ⟨rfl, hw, hh⟩
      exact ⟨rfl, hw, hh⟩

/-- **A request is resolved to the first video input that it admits.**  With bounds in order there
is an answer exactly if some video input satisfies every constraint; the answer is then the first
one of these in the catalog, and each side is within its bounds, the native one if the device has
one, and else nearer to the preferred one than all others within the bounds.  If there is none the
request is refused as asking for too much. -/
theorem resolve_iff_admits (catalog : Catalog) {c : Constraints} (hwidth : c.width.Ordered)
    (hheight : c.height.Ordered) :
    ((∃ r, catalog.resolve c = .ok (.ok r)) ↔
        ∃ d ∈ catalog.devices, d.kind = .video ∧ c.Admits d) ∧
      (∀ r, catalog.resolve c = .ok (.ok r) ↔
        catalog.FirstAdmitted c r.device ∧ c.width.Chosen r.device.width r.width ∧
          c.height.Chosen r.device.height r.height) ∧
      ((¬∃ d ∈ catalog.devices, d.kind = .video ∧ c.Admits d) ↔
        catalog.resolve c = .ok (.error (.overconstrained c.describe))) := by
  have hsome : (∃ r, catalog.resolve c = .ok (.ok r)) ↔
      ∃ d ∈ catalog.devices, d.kind = .video ∧ c.Admits d := by
    rw [← exists_firstAdmitted_iff]
    constructor
    · rintro ⟨r, hr⟩
      exact ⟨r.device, ((resolve_eq_iff_firstAdmitted hwidth hheight).mp hr).1⟩
    · rintro ⟨d, hfirst⟩
      have hadmits : c.Admits d := by
        obtain ⟨_, _, _, _, hadmits, _⟩ := hfirst
        exact hadmits
      obtain ⟨r, hr⟩ := exists_chooseSize hwidth hheight hadmits
      refine ⟨r, ?_⟩
      rw [resolve_eq_ok_ok_iff, firstMatch_of_ordered hwidth hheight, firstAdmitted_iff.mp hfirst]
      exact hr
  refine ⟨hsome, fun r => resolve_eq_iff_firstAdmitted hwidth hheight, ?_⟩
  rw [← hsome]
  constructor
  · intro hnone
    exact (resolve_of_ordered catalog hwidth hheight).resolve_left hnone
  · rintro hrefused ⟨r, hr⟩
    rw [hrefused] at hr
    cases hr

/-- A camera without a native size that looks away from the person. -/
def rearCamera : Device where
  id := "rear"
  url := "stub://rear"
  facing := some .environment

/-- A microphone, a camera that faces the person, a small one that looks away, and a scaling one
that does. -/
def household : Catalog where
  devices := [
    { id := "mic", kind := .audio, url := "stub://mic" },
    { id := "front", url := "stub://front", facing := some .user },
    { rearCamera with id := "small", width := some 640, height := some 480 },
    rearCamera]

/-- A view away from the person passes by the microphone, the camera at the front and the small
one, and is taken by the last one in the preferred size. -/
theorem household_rear :
    let request := FacingPreset.rear.apply {}
    request.width.Ordered ∧ request.height.Ordered ∧ household.FirstAdmitted request rearCamera ∧
      household.resolve request = .ok (.ok ⟨rearCamera, 1920, 1080⟩) := by
  have hwidth : (FacingPreset.rear.apply {}).width.Ordered := by decide
  have hheight : (FacingPreset.rear.apply {}).height.Ordered := by decide
  have hfirst : household.FirstAdmitted (FacingPreset.rear.apply {}) rearCamera :=
    ⟨household.devices.take 3, [], rfl, rfl, by decide, by decide⟩
  have hside (ideal : Nat) (r : SizeRange) (hr : r.Within ideal) (hideal : r.ideal = ideal) :
      r.Chosen none ideal := by
    refine ⟨hr, nofun, fun _ other _ hne => ?_⟩
    rw [hideal, Nat.dist_self]
    exact Nat.dist_pos_of_ne hne
  exact ⟨hwidth, hheight, hfirst, ((resolve_iff_admits household hwidth hheight).2.1 _).mpr
    ⟨hfirst, hside _ _ (by decide) rfl, hside _ _ (by decide) rfl⟩⟩

end Catalog

end Lookout
