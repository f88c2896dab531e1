import Lookout.Decimal.Binary
import Lookout.Display.Font
import Lookout.Display.Surface
import Lookout.Picture.Png.Writer
import Lookout.Picture.Resample
/-!
# A surface of pixels

A canvas starts out transparent.  Boxes and labels are placed by rounding to whole pixels and are
clipped to the canvas.  Coordinates are integers of 32 bits: a number beyond them becomes the
nearest of them, and drawing stops the program where a sum of two of them leaves their range.
-/

namespace Lookout

/-- A surface of pixels. -/
structure Canvas where
  /-- What it shows. -/
  picture : Raster Rgba
  /-- The font for labels; without one a label is a filled box. -/
  font : Option Font := none

namespace Canvas

/-- A transparent canvas. -/
def blank (width height : Nat) (font : Option Font := none) : Canvas :=
  ⟨Raster.fill width height .clear, font⟩

/-! ## Whole pixels -/

/-- The nearest integer of 32 bits, halves away from zero. -/
def toPixel (x : Float32) : Int :=
  (Decimal.readSingle x).nearestIn (-0x80000000) 0x7FFFFFFF

/-- The nearest length of at least one pixel, halves away from zero. -/
def toSide (x : Float32) : Nat :=
  max 1 ((Decimal.readSingle x).nearestIn 0 0xFFFFFFFF).toNat

/-- The whole part of a number as a length of at least one pixel. -/
def toLength (x : Float32) : Nat := (Resample.atLeast 1.0 x).toUInt32.toNat

/-- An integer of 32 bits, or the given fault. -/
def checked (fault : Fault) (n : Int) : Except Fault Int :=
  if -0x80000000 ≤ n ∧ n < 0x80000000 then .ok n else .error fault

/-- The last pixel of `length` pixels from `first` on.  The length is read as an integer of 32 bits
with a sign. -/
def lastPixel (first : Int) (length : Nat) : Except Fault Int := do
  let stop ← checked .edgeOverflow (first + (length : Int).bmod 0x100000000)
  checked .edgeOverflow (stop - 1)

/-- The box at a place with a size. -/
def boxAt (left top : Int) (width height : Nat) : Except Fault Box := do
  return ⟨left, top, ← lastPixel left width, ← lastPixel top height⟩

/-! ## Outlines -/

/-- The least coordinate that single precision rounds up to `2 ^ 31`. -/
def traceLimit : Int := 0x80000000 - 64

/-- Lines are traced up to their end and one step beyond, which has to be a pixel as well. -/
def checkTrace (first last : Int) : Except Fault Unit :=
  if traceLimit ≤ max first last then .error .edgeOverflow else .ok ()

/-- Draw the four sides of a box. -/
def outline (r : Raster Rgba) (b : Box) (p : Rgba) : Except Fault (Raster Rgba) := do
  checkTrace b.left b.right
  if min b.top b.bottom < traceLimit then checkTrace b.top b.bottom
  let left := min b.left b.right
  let right := max b.left b.right
  let top := min b.top b.bottom
  let bottom := max b.top b.bottom
  let r := r.paint ⟨left, b.top, right, b.top⟩ p
  let r := r.paint ⟨left, b.bottom, right, b.bottom⟩ p
  let r := r.paint ⟨b.left, top, b.left, bottom⟩ p
  return r.paint ⟨b.right, top, b.right, bottom⟩ p

/-- Draw `count` outlines around a box, the first with the distance `inset` and each farther out by
one pixel. -/
def outlines (x y : Int) (width height : Nat) (p : Rgba) :
    Nat → Nat → Raster Rgba → Except Fault (Raster Rgba)
  | 0, _, r => .ok r
  | count + 1, inset, r => do
    let grownWidth := width + 2 * inset
    let grownHeight := height + 2 * inset
    if 0x100000000 ≤ max grownWidth grownHeight then .error .sideOverflow
    let left ← checked .coordinateOverflow (x - inset)
    let top ← checked .coordinateOverflow (y - inset)
    let r ← outline r (← boxAt left top grownWidth grownHeight) p
    outlines x y width height p count (inset + 1) r

/-- How many outlines make up a line: one for each pixel of its width, and at least one.  A width
that is not an integer of 32 bits with a sign has none. -/
def outlineCount (lineWidth : Nat) : Nat := if lineWidth < 0x80000000 then max lineWidth 1 else 0

/-- Draw the outline of a box, thicker lines growing outwards. -/
def strokeBox (region : Region) (style : OverlayStyle) (c : Canvas) : Except Fault Canvas := do
  let picture ← outlines (toPixel region.x) (toPixel region.y) (toSide region.width)
    (toSide region.height) style.stroke.solid (outlineCount style.lineWidth) 0 c.picture
  return { c with picture }

/-! ## Labels -/

/-- The width of a label without a font: three fifths of the letters' size for each. -/
def labelWidth (text : String) (style : OverlayStyle) : Nat :=
  toLength (Float32.ofNat text.length * style.fontSize * 0.6)

/-- Write a label.  Without a font a box is filled instead, from the top of the letters on. -/
def fillText (text : String) (x y : Float32) (style : OverlayStyle) (c : Canvas) :
    Except Fault Canvas :=
  if text.isEmpty || c.font.isSome then .ok c
  else if c.picture.isEmpty then .error .emptySurface
  else do
    let top := toPixel (Resample.atLeast 0.0 (y - style.fontSize))
    let box ← boxAt (toPixel x) top (labelWidth text style) (toLength style.fontSize)
    return { c with picture := c.picture.paint box style.text.solid }

/-! ## The surface -/

/-- The canvas in another size, transparent again; a canvas of that size already is kept. -/
def resize (width height : Nat) (c : Canvas) : Canvas :=
  if c.picture.size = (width, height) then c else blank width height c.font

/-- A canvas that shows a picture and nothing else; one without pixels stays as it is. -/
def drawPicture (picture : Raster Rgb) (c : Canvas) : Canvas :=
  if c.picture.isEmpty then c
  else { c with picture := (picture.map Rgb.solid).fitted c.picture.width c.picture.height }

/-- The canvas, transparent again. -/
def clear (c : Canvas) : Canvas := blank c.picture.width c.picture.height c.font

/-! ## Keeping what it shows -/

/-- Why a canvas could not be saved. -/
inductive SaveFault where
  /-- There are no pixels to save. -/
  | noPixels
  deriving DecidableEq, Repr

/-- The wording of a fault. -/
def SaveFault.message : SaveFault → String
  | .noPixels => "Format error encoding Png: Zero width not allowed"

/-- The file to save. -/
def file (c : Canvas) : Except SaveFault ByteArray :=
  if c.picture.isEmpty then .error .noPixels else .ok (Png.encode c.picture)

/-- The file to save, if there are pixels. -/
def fileIfDrawn (c : Canvas) : Option ByteArray := c.file.toOption

instance : Surface Canvas where
  size c := c.picture.size
  resize := resize
  drawPicture := drawPicture
  strokeBox := strokeBox
  fillText := fillText
  clear := clear

end Canvas

end Lookout
