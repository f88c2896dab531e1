import Lookout.Config.Basic
import Lookout.Proofs.Results
/-!
# When a request can be resolved

A request for a capture is resolved by looking at the video inputs in the order of the catalog.  An
input that is not asked for is passed by, and so is one whose native size does not lie within the
bounds; the first one that is left is chosen.  A side without a native value takes the preferred
one, moved into the bounds, which can only be done if the bounds are in order.

* **A request is resolved or refused, unless inverted bounds are needed**
  (`resolved_or_refused_iff`): for every position of the facing control and every device, a
  configuration's request ends with a device, or with the answer that there is none, exactly if
  every input that is looked at can be sized (`Constraints.Sizes`).
* **Bounds in order are enough** (`resolve_of_ordered`), but a configuration is accepted without
  them: one with inverted bounds, and with them a request that stops the program, is
  `inverted_bounds_accepted`.

The search is taken apart once (`firstMatch_eq_iff`): it ends with whatever the first input amounts
to that is asked for and not passed over.
-/

namespace Lookout

/-! ### One side of a frame -/

namespace SizeRange

/-- Some value lies within the bounds. -/
def Ordered (r : SizeRange) : Prop := r.min ≤ r.max

instance (r : SizeRange) : Decidable r.Ordered := inferInstanceAs (Decidable (_ ≤ _))

/-- The preferred value cannot be moved into bounds that are inverted. -/
theorem clamped_eq_error_iff {r : SizeRange} {fault : Fault} :
    r.clamped = .error fault ↔ fault = .rangeInverted ∧ ¬r.Ordered := by
  unfold clamped Ordered
  rw [Nat.not_le]
  by_cases h : r.max < r.min
  · rw [if_pos h]
    constructor
    · rintro ⟨⟩
      exact ⟨rfl, h⟩
    · rintro ⟨rfl, _⟩
      rfl
  · rw [if_neg h]
    constructor
    · intro hok
      cases hok
    · rintro ⟨_, hlt⟩
      exact absurd hlt h

/-- Only a side without a native value needs the bounds to be in order. -/
theorem resolve_eq_error_iff {r : SizeRange} {native : Option Nat} {fault : Fault} :
    r.resolve native = .error fault ↔ fault = .rangeInverted ∧ native = none ∧ ¬r.Ordered := by
  cases native with
  | some size =>
    constructor
    · intro h
      cases h
    · rintro ⟨_, hnone, _⟩
      cases hnone
  | none =>
    have hmap : r.resolve none = .error fault ↔ r.clamped = .error fault := by
      show r.clamped.map some = .error fault ↔ _
      cases r.clamped with
      | error e => simp [Except.map]
      | ok size => simp [Except.map]
    rw [hmap, clamped_eq_error_iff]
    simp

/-- A side that was resolved had a native value or bounds in order. -/
theorem ordered_of_resolve {r : SizeRange} {native size : Option Nat}
    (h : r.resolve native = .ok size) (hnone : native = none) : r.Ordered := by
  refine Decidable.byContradiction fun hinverted => ?_
  rw [resolve_eq_error_iff.mpr ⟨rfl, hnone, hinverted⟩] at h
  cases h

/-- A native value is refused if it does not lie within the bounds; nothing else is. -/
theorem resolve_eq_none_iff {r : SizeRange} {native : Option Nat} :
    r.resolve native = .ok none ↔ ∃ size, native = some size ∧ (size < r.min ∨ r.max < size) := by
  cases native with
  | some size =>
    show Except.ok (if size < r.min ∨ r.max < size then none else some size) = .ok none ↔ _
    by_cases h : size < r.min ∨ r.max < size
    · rw [if_pos h]
      exact ⟨fun _ => ⟨size, rfl, h⟩, fun _ => rfl⟩
    · rw [if_neg h]
      constructor
      · intro hsome
        cases hsome
      · rintro ⟨_, hsize, hout⟩
        cases hsize
        exact absurd hout h
  | none =>
    show r.clamped.map some = .ok none ↔ _
    cases r.clamped with
    | error e => simp [Except.map]
    | ok size => simp [Except.map]

end SizeRange

/-! ### One device -/

namespace Constraints

/-- The device can be sized: where it has no native side, the bounds are in order. -/
def Sizes (c : Constraints) (d : Device) : Prop :=
  (d.width = none → c.width.Ordered) ∧ (d.height = none → c.height.Ordered)

/-- The device has a native side that does not lie within the bounds. -/
def Excludes (c : Constraints) (d : Device) : Prop :=
  (∃ size, d.width = some size ∧ (size < c.width.min ∨ c.width.max < size)) ∨
    ∃ size, d.height = some size ∧ (size < c.height.min ∨ c.height.max < size)

/-- The device is looked at when some devices are searched: it is asked for, and every device before
it that is asked for can be sized and has the wrong size. -/
inductive Reaches (c : Constraints) : List Device → Device → Prop where
  /-- The first device is looked at if it is asked for. -/
  | here {d : Device} {ds : List Device} (asked : d.matchesRequest c = true) : Reaches c (d :: ds) d
  /-- A later device is looked at if the first one is not asked for or passed over. -/
  | later {d e : Device} {ds : List Device}
      (passed : e.matchesRequest c = true → c.Sizes e ∧ c.Excludes e) (rest : Reaches c ds d) :
      Reaches c (e :: ds) d

/-- Bounds in order fit every device. -/
theorem sizes_of_ordered {c : Constraints} (hwidth : c.width.Ordered) (hheight : c.height.Ordered)
    (d : Device) : c.Sizes d :=
  ⟨fun _ => hwidth, fun _ => hheight⟩

end Constraints

namespace Catalog

/-- The two sides of a device are sized one after the other. -/
theorem chooseSize_eq (c : Constraints) (d : Device) :
    chooseSize c d =
      (c.width.resolve d.width).bind fun width =>
        (c.height.resolve d.height).map fun height =>
          width.bind fun w => height.map fun h => ⟨d, w, h⟩ := by
  unfold chooseSize
  rcases c.width.resolve d.width with f | _ | w
  · rfl
  · rcases c.height.resolve d.height with f | height
    · rfl
    · rfl
  · rcases c.height.resolve d.height with f | _ | h
    · rfl
    · rfl
    · rfl

/-- Sizing stops the program exactly for a device that cannot be sized. -/
theorem chooseSize_eq_error_iff {c : Constraints} {d : Device} {fault : Fault} :
    chooseSize c d = .error fault ↔ fault = .rangeInverted ∧ ¬c.Sizes d := by
  rw [chooseSize_eq]
  unfold Constraints.Sizes
  rcases hwidth : c.width.resolve d.width with f | width
  · obtain ⟨rfl, hnone, hinverted⟩ := SizeRange.resolve_eq_error_iff.mp hwidth
    simp [Except.bind, hnone, hinverted, eq_comm]
  · have hw := SizeRange.ordered_of_resolve hwidth
    rcases hheight : c.height.resolve d.height with f | height
    · obtain ⟨rfl, hnone, hinverted⟩ := SizeRange.resolve_eq_error_iff.mp hheight
      simp [Except.bind, Except.map, hnone, hinverted, eq_comm]
    · have hh := SizeRange.ordered_of_resolve hheight
      constructor
      · intro h
        cases h
      · rintro ⟨_, hnot⟩
        exact absurd ⟨hw, hh⟩ hnot

/-- Sizing passes over exactly the devices that can be sized and have the wrong size. -/
theorem chooseSize_eq_none_iff {c : Constraints} {d : Device} :
    chooseSize c d = .ok none ↔ c.Sizes d ∧ c.Excludes d := by
  have hsizes : chooseSize c d = .ok none → c.Sizes d := by
    intro hnone
    refine Classical.byContradiction fun hnot => ?_
    rw [chooseSize_eq_error_iff.mpr ⟨rfl, hnot⟩] at hnone
    cases hnone
  have hexcludes : c.Sizes d → (chooseSize c d = .ok none ↔ c.Excludes d) := by
    intro hsizes
    rw [chooseSize_eq]
    unfold Constraints.Excludes
    rw [← SizeRange.resolve_eq_none_iff, ← SizeRange.resolve_eq_none_iff]
    rcases hwidth : c.width.resolve d.width with f | width
    · obtain ⟨_, hnone, hinverted⟩ := SizeRange.resolve_eq_error_iff.mp hwidth
      exact absurd (hsizes.1 hnone) hinverted
    rcases hheight : c.height.resolve d.height with f | height
    · obtain ⟨_, hnone, hinverted⟩ := SizeRange.resolve_eq_error_iff.mp hheight
      exact absurd (hsizes.2 hnone) hinverted
    cases width with
    | none => simp [Except.bind, Except.map]
    | some w =>
      cases height with
      | none => simp [Except.bind, Except.map]
      | some h => simp [Except.bind, Except.map]
  constructor
  · intro hnone
    exact ⟨hsizes hnone, (hexcludes (hsizes hnone)).mp hnone⟩
  · rintro ⟨hs, he⟩
    exact (hexcludes hs).mpr he

/-! ### The search -/

/-- A device that is not asked for is passed by. -/
theorem firstMatch_cons_of_not_asked {c : Constraints} {d : Device} (ds : List Device)
    (h : d.matchesRequest c = false) : firstMatch c (d :: ds) = firstMatch c ds := by
  rw [firstMatch, h]
  rfl

/-- A device that is passed over leaves the search to those after it. -/
theorem firstMatch_cons_of_none {c : Constraints} {d : Device} (ds : List Device)
    (hasked : d.matchesRequest c = true) (h : chooseSize c d = .ok none) :
    firstMatch c (d :: ds) = firstMatch c ds := by
  rw [firstMatch, hasked, h]
  rfl

/-- A device that is asked for and not passed over ends the search. -/
theorem firstMatch_cons_of_ne_none {c : Constraints} {d : Device} (ds : List Device)
    (hasked : d.matchesRequest c = true) (h : chooseSize c d ≠ .ok none) :
    firstMatch c (d :: ds) = chooseSize c d := by
  rw [firstMatch, hasked]
  rcases hsize : chooseSize c d with fault | _ | found
  · rfl
  · exact absurd hsize h
  · rfl

/-- The search ends with what a device amounts to that is looked at and not passed over. -/
theorem firstMatch_eq_iff {c : Constraints} {ds : List Device}
    {r : Except Fault (Option ResolvedDevice)} (hr : r ≠ .ok none) :
    firstMatch c ds = r ↔ ∃ d, c.Reaches ds d ∧ chooseSize c d = r := by
  induction ds with
  | nil =>
    constructor
    · intro h
      exact absurd h.symm hr
    · rintro ⟨d, hreach, _⟩
      cases hreach
  | cons e ds ih =>
    rcases hasked : e.matchesRequest c with _ | _
    · rw [firstMatch_cons_of_not_asked ds hasked, ih]
      constructor
      · rintro ⟨d, hreach, hsize⟩
        exact ⟨d, .later (by simp [hasked]) hreach, hsize⟩
      · rintro ⟨d, hreach, hsize⟩
        cases hreach with
        | here h => simp [hasked] at h
        | later _ hrest => exact ⟨d, hrest, hsize⟩
    · by_cases hnone : chooseSize c e = .ok none
      · rw [firstMatch_cons_of_none ds hasked hnone, ih]
        constructor
        · rintro ⟨d, hreach, hsize⟩
          exact ⟨d, .later (fun _ => chooseSize_eq_none_iff.mp hnone) hreach, hsize⟩
        · rintro ⟨d, hreach, hsize⟩
          cases hreach with
          | here _ => exact absurd (hsize.symm.trans hnone) hr
          | later _ hrest => exact ⟨d, hrest, hsize⟩
      · rw [firstMatch_cons_of_ne_none ds hasked hnone]
        constructor
        · intro hsize
          exact ⟨e, .here hasked, hsize⟩
        · rintro ⟨d, hreach, hsize⟩
          cases hreach with
          | here _ => exact hsize
          | later hpassed _ => exact absurd (chooseSize_eq_none_iff.mpr (hpassed hasked)) hnone

/-- A request stops the program exactly if a device is looked at that cannot be sized. -/
theorem resolve_eq_error_iff {catalog : Catalog} {c : Constraints} {fault : Fault} :
    catalog.resolve c = .error fault ↔
      fault = .rangeInverted ∧ ∃ d, c.Reaches catalog.videoInputs d ∧ ¬c.Sizes d := by
  have hsearch : catalog.resolve c = .error fault ↔
      firstMatch c catalog.videoInputs = .error fault := by
    unfold resolve
    rcases firstMatch c catalog.videoInputs with f | _ | found
    · simp [bind, Except.bind]
    · simp [bind, Except.bind, pure, Except.pure]
    · simp [bind, Except.bind, pure, Except.pure]
  rw [hsearch, firstMatch_eq_iff (by simp)]
  constructor
  · rintro ⟨d, hreach, hsize⟩
    obtain ⟨hfault, hnot⟩ := chooseSize_eq_error_iff.mp hsize
    exact ⟨hfault, d, hreach, hnot⟩
  · rintro ⟨hfault, d, hreach, hnot⟩
    exact ⟨d, hreach, chooseSize_eq_error_iff.mpr ⟨hfault, hnot⟩⟩

/-- A request that does not stop the program is resolved, or refused in its own words. -/
theorem resolve_cases (catalog : Catalog) (c : Constraints) :
    (∃ fault, catalog.resolve c = .error fault) ∨
      (∃ found, catalog.resolve c = .ok (.ok found)) ∨
        catalog.resolve c = .ok (.error (.overconstrained c.describe)) := by
  unfold resolve
  rcases firstMatch c catalog.videoInputs with fault | _ | found
  · exact Or.inl ⟨fault, rfl⟩
  · exact Or.inr (Or.inr rfl)
  · exact Or.inr (Or.inl ⟨found, rfl⟩)

/-- **Bounds in order are enough**: a request whose bounds are in order is resolved or refused,
whatever is in the catalog. -/
theorem resolve_of_ordered (catalog : Catalog) {c : Constraints} (hwidth : c.width.Ordered)
    (hheight : c.height.Ordered) :
    (∃ found, catalog.resolve c = .ok (.ok found)) ∨
      catalog.resolve c = .ok (.error (.overconstrained c.describe)) := by
  rcases resolve_cases catalog c with ⟨fault, hfault⟩ | h
  · obtain ⟨_, d, _, hnot⟩ := resolve_eq_error_iff.mp hfault
    exact absurd (Constraints.sizes_of_ordered hwidth hheight d) hnot
  · exact h

end Catalog

/-! ### A configuration's request -/

namespace Config

/-- The request that follows from a configuration, the position of the facing control and a
device. -/
def requestFor (config : Config) (preset : FacingPreset) (deviceId : Option String) : Constraints :=
  (preset.apply config.camera.constraints).withDevice deviceId

/-- **A configuration's request is resolved or refused, unless inverted bounds are needed.**  It ends
with a device, or with the answer that there is none, exactly if every video input that is looked at
can be sized: whichever side has no native value, the configured bounds of that side are in order. -/
theorem resolved_or_refused_iff (config : Config) (preset : FacingPreset)
    (deviceId : Option String) :
    let request := config.requestFor preset deviceId
    ((∃ found, config.catalog.resolve request = .ok (.ok found)) ∨
        config.catalog.resolve request = .ok (.error (.overconstrained request.describe))) ↔
      ∀ d, request.Reaches config.catalog.videoInputs d →
        (d.width = none → config.camera.constraints.width.min ≤ config.camera.constraints.width.max) ∧
        (d.height = none →
          config.camera.constraints.height.min ≤ config.camera.constraints.height.max) := by
  intro request
  have hfault : (∃ fault, config.catalog.resolve request = .error fault) ↔
      ∃ d, request.Reaches config.catalog.videoInputs d ∧ ¬request.Sizes d := by
    constructor
    · rintro ⟨fault, h⟩
      exact (Catalog.resolve_eq_error_iff.mp h).2
    · intro h
      exact ⟨_, Catalog.resolve_eq_error_iff.mpr ⟨rfl, h⟩⟩
  constructor
  · intro hends d hreach
    refine Classical.byContradiction fun hnot => ?_
    obtain ⟨fault, h⟩ := hfault.mpr ⟨d, hreach, hnot⟩
    rcases hends with ⟨found, hfound⟩ | hrefused
    · rw [h] at hfound
      cases hfound
    · rw [h] at hrefused
      cases hrefused
  · intro hsizes
    rcases Catalog.resolve_cases config.catalog request with hstop | hends
    · obtain ⟨d, hreach, hnot⟩ := hfault.mp hstop
      exact absurd (hsizes d hreach) hnot
    · exact hends

/-- A file that asks for a width of at least two and at most one. -/
def invertedBounds : String :=
  Json.object [
    ("detection", Json.object [("url", Json.string "stub://detector")]),
    ("camera", Json.object [
      ("constraints", Json.object [
        ("width", Json.object [("min", "2"), ("ideal", "1"), ("max", "1")])])]),
    ("dashboard", Json.object [("base_url", Json.string "http://[::1]:8080")])]

/-- The configuration of that file. -/
def invertedConfig : Config where
  detection := { url := "stub://detector" }
  camera := { constraints := { width := ⟨2, 1, 1⟩ } }
  dashboard := { baseUrl := "http://[::1]:8080" }

/-- **Inverted bounds are accepted, and stop the program**: a file may ask for a width that is no
less than two and no more than one, and looking for a device then stops at the synthetic one, which
has no width of its own. -/
theorem inverted_bounds_accepted :
    load ⟨fun name => if name = "MONITOR_CONFIG" then some "monitor.json" else none, fun _ => false⟩
        (fun _ => .ok invertedBounds.toUTF8) = .ok invertedConfig ∧
      invertedConfig.catalog.resolve (invertedConfig.requestFor .any none) =
        .error .rangeInverted := by
  constructor
  · -- the errors of a configuration cannot be compared, so the answer is compared as an option
    exact Results.eq_ok_of_toOption (by decide +kernel)
  · rfl

end Config

end Lookout
