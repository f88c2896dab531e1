import Lookout.Octets.BigEndian
import Lookout.Picture.Pixel
/-!
# Rasters

A raster is a rectangle of pixels, stored row by row from the top.  A side may be zero.

* `Raster.get?` is the view: the pixel in a column and a row, `none` outside the raster.
* `Raster.build` makes a raster from a function on columns and rows.
* `Raster.paint` sets the pixels of a box that lie on the raster; the box may reach beyond it.
-/

namespace Lookout

/-- A rectangle of pixels. -/
structure Raster (π : Type) where
  /-- How many columns there are. -/
  width : Nat
  /-- How many rows there are. -/
  height : Nat
  /-- The pixels, row by row. -/
  pixels : Array π
  /-- There is a pixel for every column and row. -/
  size_eq : pixels.size = width * height

/-- A box of whole pixels, by the first and the last column and row in it; a box whose last column
or row comes before the first is empty. -/
structure Box where
  /-- The first column. -/
  left : Int
  /-- The first row. -/
  top : Int
  /-- The last column. -/
  right : Int
  /-- The last row. -/
  bottom : Int
  deriving DecidableEq, Repr

namespace Raster

variable {π : Type}

/-- The raster of one colour. -/
def fill (width height : Nat) (p : π) : Raster π where
  width := width
  height := height
  pixels := Array.replicate (width * height) p
  size_eq := Array.size_replicate

/-- The raster whose pixel in column `x` and row `y` is `f x y`. -/
def build (width height : Nat) (f : Nat → Nat → π) : Raster π where
  width := width
  height := height
  pixels := Array.ofFn fun i : Fin (width * height) => f (i.val % width) (i.val / width)
  size_eq := Array.size_ofFn

/-- The pixel in column `x` and row `y`. -/
def get? (r : Raster π) (x y : Nat) : Option π :=
  if x < r.width then r.pixels[y * r.width + x]? else none

/-- Change every pixel on its own. -/
def map {ρ : Type} (f : π → ρ) (r : Raster π) : Raster ρ where
  width := r.width
  height := r.height
  pixels := r.pixels.map f
  size_eq := by rw [Array.size_map]; exact r.size_eq

/-- Width and height. -/
def size (r : Raster π) : Nat × Nat := (r.width, r.height)

/-- The raster has no pixels. -/
def isEmpty (r : Raster π) : Bool := r.width == 0 || r.height == 0

/-! ## Painting boxes -/

/-- Set `count` pixels from position `start` on. -/
def paintRun (p : π) (start : Nat) : Nat → Array π → Array π
  | 0, pixels => pixels
  | count + 1, pixels => paintRun p start count (pixels.setIfInBounds (start + count) p)

/-- A run keeps the number of pixels. -/
@[simp] theorem size_paintRun (p : π) (start count : Nat) (pixels : Array π) :
    (paintRun p start count pixels).size = pixels.size := by
  induction count generalizing pixels with
  | zero => rfl
  | succ n ih => simp [paintRun, ih]

/-- Set `count` pixels from column `left` on, in each of `rows` rows from `top` on. -/
def paintRows (p : π) (width left count top : Nat) : Nat → Array π → Array π
  | 0, pixels => pixels
  | rows + 1, pixels =>
    paintRows p width left count top rows (paintRun p ((top + rows) * width + left) count pixels)

/-- Rows of runs keep the number of pixels. -/
@[simp] theorem size_paintRows (p : π) (width left count top rows : Nat) (pixels : Array π) :
    (paintRows p width left count top rows pixels).size = pixels.size := by
  induction rows generalizing pixels with
  | zero => rfl
  | succ n ih => simp [paintRows, ih]

/-- How many of the numbers from `first` on are at most `last` and below `bound`. -/
def clipCount (first : Nat) (last : Int) (bound : Nat) : Nat :=
  (min (last + 1) bound - first).toNat

/-- Set the pixels of a box that lie on the raster. -/
def paint (r : Raster π) (b : Box) (p : π) : Raster π :=
  let left := b.left.toNat
  let top := b.top.toNat
  { r with
    pixels := paintRows p r.width left (clipCount left b.right r.width) top
      (clipCount top b.bottom r.height) r.pixels
    size_eq := by rw [size_paintRows]; exact r.size_eq }

/-! ## Octets -/

variable [Pixel π]

/-- The channels of every pixel, one octet each, row by row. -/
def octets (r : Raster π) : ByteArray :=
  r.pixels.foldl (fun acc p => (Pixel.channels π).fold (fun k _ acc => acc.push (Pixel.channel p k)) acc)
    (ByteArray.emptyWithCapacity (r.pixels.size * Pixel.channels π))

/-- The raster with the given octets, one for each channel of each pixel; octets after those are
ignored. -/
def ofOctets? (width height : Nat) (octets : ByteArray) : Option (Raster π) :=
  let n := Pixel.channels π
  if width * height * n ≤ octets.size then
    some (build width height fun x y =>
      Pixel.ofChannels fun k => Octets.octetAt octets ((y * width + x) * n + k))
  else none

end Raster

end Lookout
