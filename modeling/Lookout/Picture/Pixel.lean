/-!
# Pixels

A pixel has three colour channels of eight bits; on a display it also has an opacity.
-/

namespace Lookout

/-- Kinds of pixels, each with a number of channels of eight bits. -/
class Pixel (π : Type) where
  /-- How many channels there are. -/
  channels : Nat
  /-- The value of a channel, by its position. -/
  channel : π → Nat → UInt8
  /-- The pixel with the given channels. -/
  ofChannels : (Nat → UInt8) → π

/-- A pixel of a picture. -/
structure Rgb where
  /-- The amount of red. -/
  red : UInt8 := 0
  /-- The amount of green. -/
  green : UInt8 := 0
  /-- The amount of blue. -/
  blue : UInt8 := 0
  deriving DecidableEq, Repr, Inhabited

/-- A pixel of a display. -/
structure Rgba where
  /-- The amount of red. -/
  red : UInt8 := 0
  /-- The amount of green. -/
  green : UInt8 := 0
  /-- The amount of blue. -/
  blue : UInt8 := 0
  /-- The opacity. -/
  alpha : UInt8 := 0
  deriving DecidableEq, Repr, Inhabited

instance : Pixel Rgb where
  channels := 3
  channel p
    | 0 => p.red
    | 1 => p.green
    | _ => p.blue
  ofChannels f := ⟨f 0, f 1, f 2⟩

instance : Pixel Rgba where
  channels := 4
  channel p
    | 0 => p.red
    | 1 => p.green
    | 2 => p.blue
    | _ => p.alpha
  ofChannels f := ⟨f 0, f 1, f 2, f 3⟩

/-- A colour that covers what is below it. -/
def Rgb.solid (c : Rgb) : Rgba := ⟨c.red, c.green, c.blue, 255⟩

/-- The colour without its opacity. -/
def Rgba.colour (p : Rgba) : Rgb := ⟨p.red, p.green, p.blue⟩

/-- The pixel that lets everything below it through. -/
def Rgba.clear : Rgba := {}

end Lookout
