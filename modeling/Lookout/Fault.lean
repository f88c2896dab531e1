/-!
# Faults

Some operations are only meant for arguments that their callers promise.  Outside those arguments
the program stops at once, which is an outcome of its own and not an error that anyone handles.
-/

namespace Lookout

/-- Why the program stopped at once. -/
inductive Fault where
  /-- A value was to be clamped to a range whose lower end lies above its upper end. -/
  | rangeInverted
  /-- A label was to be drawn on a surface without pixels. -/
  | emptySurface
  /-- A coordinate left the integers of 32 bits. -/
  | coordinateOverflow
  /-- A side of a box left the natural numbers of 32 bits. -/
  | sideOverflow
  /-- The far edge of a rectangle left the integers of 32 bits. -/
  | edgeOverflow
  /-- A display with more octets than can be held. -/
  | displayTooLarge
  /-- A picture with more octets than can be held. -/
  | pictureTooLarge
  deriving DecidableEq, Repr

/-- So many octets, and more, cannot be held together: the program stops where it is to make room
for them. -/
def octetLimit : Nat := 0x8000000000000000

end Lookout
