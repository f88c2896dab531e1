import Lookout.Picture.Raster
/-!
# Changing the size of a raster

Every pixel of the result is a mean of the pixels around the place it comes from, weighted by a
triangle: a pixel counts less the farther away it is, and not at all from a distance of one pixel
on (of one pixel of the result, if that is smaller).  Columns and rows are weighted on their own,
rows first, and every channel on its own.  All arithmetic is in single precision, in the order in
which it is written here.
-/

namespace Lookout.Resample

/-- The samples that one sample of the result is made of. -/
structure Window where
  /-- The first of them. -/
  first : Nat
  /-- How much each of them counts; the weights add up to one. -/
  weights : Array Float32
  deriving Inhabited

/-- A natural number in single precision. -/
def single (n : Nat) : Float32 := Float32.ofNat n

/-- The greater of two numbers, the first if the second is not a number. -/
def atLeast (bound x : Float32) : Float32 := if bound < x then x else bound

/-- The nearest of the whole numbers from `low` to `high`, downwards. -/
def clampFloor (low high : Nat) (x : Float32) : Nat := min (max x.floor.toUInt64.toNat low) high

/-- The nearest of the whole numbers from `low` to `high`, upwards. -/
def clampCeil (low high : Nat) (x : Float32) : Nat := min (max x.ceil.toUInt64.toNat low) high

/-- The weight at a distance. -/
def triangle (distance : Float32) : Float32 :=
  let d := distance.abs
  if d < 1.0 then 1.0 - d else 0.0

/-- The window of sample `o`, when `n` samples become `m`. -/
def window (n m o : Nat) : Window :=
  let ratio := single n / single m
  let reach := atLeast 1.0 ratio
  let centre := (single o + 0.5) * ratio
  let first := clampFloor 0 (n - 1) (centre - reach)
  let last := clampCeil (first + 1) n (centre + reach)
  let middle := centre - 0.5
  let raw := Array.ofFn fun i : Fin (last - first) =>
    triangle ((single (first + i.val) - middle) / reach)
  let total := raw.foldl (· + ·) 0.0
  ⟨first, raw.map (· / total)⟩

/-- The windows of all samples, when `n` samples become `m`. -/
def windows (n m : Nat) : Array Window := Array.ofFn fun o : Fin m => window n m o

/-- The sum of the values at the places of a window, each times its weight, in order. -/
def Window.sum (w : Window) (value : Nat → Float32) : Float32 :=
  w.weights.size.fold (fun i h acc => acc + value (w.first + i) * w.weights[i]) 0.0

/-- The nearest value of a channel, a half away from zero. -/
def toChannel (x : Float32) : UInt8 :=
  let high := if x < 255.0 then x else 255.0
  (atLeast 0.0 high).round.toUInt8

end Resample

namespace Raster

variable {π : Type} [Pixel π] [Inhabited π]

/-- One channel of one pixel of a resized raster. -/
def resampled (r : Raster π) (column row : Resample.Window) (k : Nat) : UInt8 :=
  Resample.toChannel <| column.sum fun x => row.sum fun y =>
    (Pixel.channel (r.pixels[y * r.width + x]?.getD default) k).toFloat32

/-- The raster in another size.  A raster without pixels becomes one whose channels are all
zero. -/
def resize (r : Raster π) (width height : Nat) : Raster π :=
  if r.isEmpty then fill width height (Pixel.ofChannels fun _ => 0)
  else
    let columns := Resample.windows r.width width
    let rows := Resample.windows r.height height
    build width height fun x y =>
      Pixel.ofChannels (r.resampled (columns[x]?.getD default) (rows[y]?.getD default))

/-- The raster in the given size: itself if it has that size already. -/
def fitted (r : Raster π) (width height : Nat) : Raster π :=
  if r.size = (width, height) then r else r.resize width height

end Raster

end Lookout
