import Lookout.Proofs.Capture.Health
import Lookout.Proofs.Capture.Numbering
/-!
# The scenes of made-up frames

What a made-up frame shows is told by the number of frames before it, whatever was asked of its
source in between: a new scene begins with every fiftieth frame, and the count of scenes goes round
at 256.

* **A source that is connected has a frame exactly if there is room for its octets**
  (`frame_after_calls`).  Nothing else stands in the way, and the octets are always as many as the
  picture takes; but without room the program stops.
* A size without room can be asked for, and a source of that size is connected like any other
  (`no_room_for_picture`).
-/

namespace Lookout.SyntheticSource

open Capture
open HttpSource (Streaming streaming_snoc streaming_snoc_connected not_streaming_nil
  not_streaming_snoc_stopped)

/-! ### What a scene looks like -/

/-- The scene of a frame with so many frames before it. -/
def sceneOf (n : Nat) : Nat := (n / 50 + 1) % 256

/-- The pixel in a column and a row of a frame with so many frames before it: two colours go up with
the place, the count and the scene, the third one with the scene alone.  The two low bits of the red
are noise. -/
structure InScene (n x y : Nat) (p : Rgb) : Prop where
  /-- Its red, but for the noise. -/
  red : p.red.toNat / 4 = (x + n + sceneOf n) % 256 / 4
  /-- Its green. -/
  green : p.green.toNat = (y + n + sceneOf n) % 256
  /-- Its blue. -/
  blue : p.blue.toNat = 40 * sceneOf n % 256

/-- The picture of a frame with so many frames before it. -/
structure ShowsScene (settings : SourceSettings) (n : Nat) (picture : Raster Rgb) : Prop where
  /-- It has the size that was asked for. -/
  size : picture.size = (settings.width, settings.height)
  /-- Every pixel is in the scene. -/
  pixels : ∀ x < settings.width, ∀ y < settings.height,
    ∃ p, picture.get? x y = some p ∧ InScene n x y p

/-- Noise stays in the two low bits. -/
theorem toNat_xor_noise (k : Nat) (amount : UInt8) :
    (k.toUInt8 ^^^ (amount &&& 3)).toNat / 4 = k % 256 / 4 := by
  have hnoise : (amount.toNat &&& 3) / 2 ^ 2 = 0 := by
    rw [show 3 = 2 ^ 2 - 1 from rfl, Nat.and_two_pow_sub_one_eq_mod]
    omega
  have hxor := Nat.xor_div_two_pow (a := k % 256) (b := amount.toNat &&& 3) (n := 2)
  rw [hnoise, Nat.xor_zero] at hxor
  rw [UInt8.toNat_xor, UInt8.toNat_and]
  exact hxor

section scenes

variable {τ : Type} {s : SyntheticSource τ}

/-- The scenes are counted: with every fiftieth frame there is a new one. -/
theorem nextScene_eq (h : s.scene = UInt8.ofNat ((s.frameCount + 49) / 50)) :
    s.nextScene = UInt8.ofNat (s.frameCount / 50 + 1) := by
  unfold nextScene
  by_cases hnew : s.frameCount % 50 = 0
  · have hscenes : (s.frameCount + 49) / 50 = s.frameCount / 50 := by omega
    rw [if_pos hnew, h, hscenes, UInt8.ofNat_add]
    rfl
  · rw [if_neg hnew, h]
    congr 1
    omega

/-- What the next pixels are. -/
theorem inScene_pixel (h : s.nextScene.toNat = sceneOf s.frameCount) (x y : Nat) :
    InScene s.frameCount x y (s.pixel x y) where
  red := by
    have hshift : x + s.frameCount + sceneOf s.frameCount =
        x + (s.frameCount + s.nextScene.toNat) := by rw [h, Nat.add_assoc]
    rw [hshift]
    exact toNat_xor_noise _ _
  green := by
    have hshift : y + s.frameCount + sceneOf s.frameCount =
        y + (s.frameCount + s.nextScene.toNat) := by rw [h, Nat.add_assoc]
    rw [hshift]
    exact UInt8.toNat_ofNat'
  blue := by
    show (s.nextScene * 40).toNat = _
    rw [UInt8.toNat_mul, h, Nat.mul_comm]
    rfl

/-- What the next picture is. -/
theorem showsScene_nextPicture (h : s.nextScene.toNat = sceneOf s.frameCount) :
    ShowsScene s.settings s.frameCount s.nextPicture where
  size := rfl
  pixels _ hx _ hy := ⟨_, Raster.get?_build hx hy _, inScene_pixel h _ _⟩

end scenes

/-! ### What a source remembers -/

section memory

variable {τ ω : Type} [Timeline τ] [Clock ω τ] {settings : SourceSettings}

/-- What a source remembers of its record. -/
structure Remembers (settings : SourceSettings) (past : List (Turn ω τ)) (s : SyntheticSource τ) :
    Prop where
  /-- What it is to deliver. -/
  settings_eq : s.settings = settings
  /-- Whether it is connected. -/
  connected_iff : s.connectedAt.isSome ↔ ∃ c, Streaming past c
  /-- How many frames it has delivered, in all connections. -/
  count : s.frameCount = (framesOf past).length
  /-- How many scenes it has begun, if it can deliver anything at all. -/
  scenes : settings.width * settings.height * 3 < octetLimit →
    s.scene = UInt8.ofNat ((s.frameCount + 49) / 50)

omit [Timeline τ] [Clock ω τ] in
/-- A new source remembers nothing. -/
theorem remembers_new (settings : SourceSettings) (noise : Nat → UInt8) :
    Remembers (ω := ω) settings [] ({ ofSettings settings with noise } : SyntheticSource τ) where
  settings_eq := rfl
  connected_iff := iff_of_false nofun fun ⟨_, hstreaming⟩ => not_streaming_nil hstreaming
  count := rfl
  scenes _ := by
    show (0 : UInt8) = UInt8.ofNat ((0 + 49) / 50)
    rfl

omit [Timeline τ] [Clock ω τ] in
/-- A call that neither begins nor ends a stream leaves the connection. -/
theorem Remembers.connection {past : List (Turn ω τ)} {s : SyntheticSource τ}
    (h : Remembers settings past s) {t : Turn ω τ} (hconnected : t.event ≠ .connected)
    (hstopped : t.event ≠ .stopped) :
    s.connectedAt.isSome ↔ ∃ c, Streaming (past ++ [t]) c := by
  simp only [streaming_snoc hconnected hstopped]
  exact h.connected_iff

/-- It remembers every call. -/
theorem Remembers.perform {past : List (Turn ω τ)} {s : SyntheticSource τ}
    (h : Remembers settings past s) (op : Op) (w : ω) :
    Remembers settings (past ++ [turn s op w]) (op.perform s w).2.1 := by
  have hstep := SyntheticSource.step s w op
  have hevent := event_turn s op w
  have hframes : (framesOf (past ++ [turn s op w])).length =
      s.frameCount + (op.perform s w).1.frame?.toList.length := by
    rw [framesOf_snoc, List.length_append, h.count, hevent]
  generalize turn s op w = t at hevent hframes
  generalize (op.perform s w).1 = e, (op.perform s w).2.1 = s' at hevent hframes hstep
  have hconnection (hconnected : e ≠ .connected) (hstopped : e ≠ .stopped) :
      s.connectedAt.isSome ↔ ∃ c, Streaming (past ++ [t]) c := by
    rw [← hevent] at hconnected hstopped
    exact h.connection hconnected hstopped
  cases hstep with
  | refused | unconnected =>
    exact ⟨h.settings_eq, hconnection (by simp) (by simp), hframes.symm, h.scenes⟩
  | connected =>
    have hstreaming : ∃ c, Streaming (past ++ [t]) c :=
      ⟨t, (streaming_snoc_connected hevent).mpr rfl⟩
    exact ⟨h.settings_eq, iff_of_true rfl hstreaming, hframes.symm, h.scenes⟩
  | delivered frame =>
    have hscenes : (s.frameCount + 1 + 49) / 50 = s.frameCount / 50 + 1 :=
      Nat.add_div_right s.frameCount (Nat.zero_lt_succ 49)
    refine ⟨h.settings_eq, hconnection (by simp) (by simp), hframes.symm, fun hroom => ?_⟩
    show s.nextScene = UInt8.ofNat ((s.frameCount + 1 + 49) / 50)
    rw [hscenes]
    exact nextScene_eq (h.scenes hroom)
  | broken now granted large =>
    rw [h.settings_eq] at large
    exact ⟨h.settings_eq, hconnection (by simp) (by simp), hframes.symm,
      fun hroom => absurd hroom (Nat.not_lt_of_le large)⟩
  | stopped =>
    have hended : ¬∃ c, Streaming (past ++ [t]) c := by
      rintro ⟨c, hstreaming⟩
      exact not_streaming_snoc_stopped hevent hstreaming
    exact ⟨h.settings_eq, iff_of_false Bool.false_ne_true hended, hframes.symm, h.scenes⟩

/-- It remembers all calls. -/
theorem remembers (settings : SourceSettings) (noise : Nat → UInt8) (calls : List (Op × ω)) :
    let new : SyntheticSource τ := { ofSettings settings with noise }
    Remembers settings (turns new calls) (sourceAfter new calls) :=
  turns_keep (remembers_new settings noise) (fun _ _ op w h => h.perform op w) calls

omit [Timeline τ] [Clock ω τ] in
/-- The scene that comes next is told by the number of frames. -/
theorem Remembers.nextScene_eq {past : List (Turn ω τ)} {s : SyntheticSource τ}
    (h : Remembers settings past s) (hroom : settings.width * settings.height * 3 < octetLimit) :
    s.nextScene.toNat = sceneOf s.frameCount := by
  rw [SyntheticSource.nextScene_eq (h.scenes hroom)]
  exact UInt8.toNat_ofNat'

/-- **A connected source has a frame exactly if there is room for it, and its number tells what it
shows.**  Take any size with pixels and any noise, and make any calls, each in any world.
Afterwards a connection succeeds.  Where there is a connection that was not ended, what is asked for
next is a frame exactly if there is room for its octets; its picture then has the size that was
asked for, and every pixel is the one that the number of frames before tells.  Without room the
program stops.  Where there is no connection, there is no frame. -/
theorem frame_after_calls (hwidth : 0 < settings.width) (hheight : 0 < settings.height)
    (noise : Nat → UInt8) (calls : List (Op × ω)) (w : ω) :
    let new : SyntheticSource τ := { ofSettings settings with noise }
    let past := turns new calls
    let s := sourceAfter new calls
    (s.connect w).1 = .ok () ∧
      ((∃ c, Streaming past c) →
        ((∃ frame : Frame τ, (s.next w).1 = .ok (.ok frame) ∧
            ShowsScene settings (framesOf past).length frame.picture) ↔
          settings.width * settings.height * 3 < octetLimit) ∧
        ((s.next w).1 = .tooLarge ↔
          octetLimit ≤ settings.width * settings.height * 3)) ∧
      ((¬∃ c, Streaming past c) → (s.next w).1 = .ok (.error .notConnected)) := by
  intro new past s
  have hremembers : Remembers settings past s := remembers settings noise calls
  have hpixels : ¬(s.settings.width = 0 ∨ s.settings.height = 0) := by
    rw [hremembers.settings_eq]
    omega
  refine ⟨?_, fun hstreaming => ?_, fun hnot => ?_⟩
  · unfold connect
    rw [if_neg hpixels]
  · obtain ⟨connectedAt, hconnected⟩ :=
      Option.isSome_iff_exists.mp (hremembers.connected_iff.mpr hstreaming)
    rcases Nat.lt_or_ge (settings.width * settings.height * 3) octetLimit with hroom | hlarge
    · obtain ⟨frame, hnext, -, -, hpicture⟩ :=
        next_of_connected hconnected (by rw [hremembers.settings_eq]; exact hroom) w
      rw [hnext]
      refine ⟨iff_of_true ⟨frame, rfl, ?_⟩ hroom, iff_of_false nofun (Nat.not_le_of_lt hroom)⟩
      rw [hpicture, ← hremembers.count, ← hremembers.settings_eq]
      exact showsScene_nextPicture (hremembers.nextScene_eq hroom)
    · rw [next_of_large hconnected (by rw [hremembers.settings_eq]; exact hlarge)]
      refine ⟨iff_of_false ?_ (Nat.not_lt_of_le hlarge), iff_of_true rfl hlarge⟩
      rintro ⟨frame, hframe, -⟩
      cases hframe
  · have hclosed := mt hremembers.connected_iff.mp hnot
    rw [Option.not_isSome_iff_eq_none] at hclosed
    rw [next_of_closed hclosed]

end memory

/-- The frame that comes after a frame, a stop and a second connection shows the first scene, one
step on. -/
theorem frame_of_second_connection :
    let calls := callsAtStart [.connect, .next, .stop, .next, .connect]
    let new : SyntheticSource Float := ofSettings onePixelSettings
    let w : Simulation.World Float := .start []
    0 < onePixelSettings.width ∧ 0 < onePixelSettings.height ∧
      (∃ c, Streaming (turns new calls) c) ∧ (framesOf (turns new calls)).length = 1 ∧
        ∃ (frame : Frame Float) (p : Rgb),
          ((sourceAfter new calls).next w).1 = .ok (.ok frame) ∧
            frame.picture.get? 0 0 = some p ∧ p.green.toNat = 2 ∧ p.blue.toNat = 40 := by
  intro calls new w
  have hstreaming : ∃ c, Streaming (turns new calls) c :=
    ⟨(turns new calls)[4], (turns new calls).take 4, [], ⟨rfl, rfl, nofun⟩, nofun⟩
  have hwidth : 0 < onePixelSettings.width := by decide
  have hheight : 0 < onePixelSettings.height := by decide
  obtain ⟨-, hframe, -⟩ := frame_after_calls hwidth hheight (fun _ => 0) calls w
  obtain ⟨frame, hnext, hscene⟩ : ∃ frame : Frame Float,
    ((sourceAfter new calls).next w).1 = .ok (.ok frame) ∧
      ShowsScene onePixelSettings (framesOf (turns new calls)).length frame.picture :=
    (hframe hstreaming).1.mpr (by decide)
  have hcount : (framesOf (turns new calls)).length = 1 := rfl
  rw [hcount] at hscene
  obtain ⟨p, hp, hpixel⟩ := hscene.pixels 0 hwidth 0 hheight
  exact ⟨hwidth, hheight, hstreaming, hcount, frame, p, hnext, hp, hpixel.green,
    hpixel.blue⟩

/-- A size whose octets are more than there are addresses, with sides that can be asked for. -/
def hugeSettings : SourceSettings := { width := 2480740511, height := 2478660974 }

/-- **A picture of such a size stops the program**: the source is connected, and what is asked for
next is neither a frame nor a failure. -/
theorem no_room_for_picture :
    let calls := callsAtStart [.connect]
    let new : SyntheticSource Float := ofSettings hugeSettings
    let w : Simulation.World Float := .start []
    (new.connect w).1 = .ok () ∧ (∃ c, Streaming (turns new calls) c) ∧
      ((sourceAfter new calls).next w).1 = .tooLarge := by
  intro calls new w
  have hconnect : (new.connect w).1 = .ok () := rfl
  have hstreaming : ∃ c, Streaming (turns new calls) c :=
    ⟨(turns new calls)[0], [], [], ⟨rfl, rfl, nofun⟩, nofun⟩
  refine ⟨hconnect, hstreaming, ?_⟩
  obtain ⟨connectedAt, hconnected⟩ := Option.isSome_iff_exists.mp
    ((remembers hugeSettings (fun _ => 0) calls).connected_iff.mpr hstreaming)
  exact congrArg Prod.fst (next_of_large hconnected (by decide) w)

end Lookout.SyntheticSource
