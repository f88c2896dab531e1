import Lookout.Url.Domain.ClassTable
/-!
# Directions of writing in domain names

As soon as one label of a domain name holds a character that is written from right to left, every
label has to keep to one direction, so that no two names look the same.
-/

namespace Lookout.Url

open Text

/-- The direction of a character. -/
inductive Direction where
  /-- A letter written from left to right. -/
  | left
  /-- A letter written from right to left. -/
  | right
  /-- A digit that goes with Arabic letters. -/
  | arabicNumber
  /-- A digit that goes with all letters. -/
  | europeanNumber
  /-- A mark, which takes the direction of the character before it. -/
  | mark
  /-- A sign without direction. -/
  | neutral
  /-- A blank or a control. -/
  | separator
  deriving DecidableEq, Repr

/-- The direction of a character. -/
def Direction.of (c : Char) : Direction :=
  if inRanges rightToLeftTable c then .right
  else if inRanges arabicNumberTable c then .arabicNumber
  else if inRanges europeanNumberTable c then .europeanNumber
  else if inRanges spacelessMarkTable c then .mark
  else if inRanges neutralTable c then .neutral
  else if inRanges separatorTable c then .separator
  else .left

/-- The label asks for the rules of direction. -/
def goesRight (label : List Direction) : Bool :=
  label.any fun d => d = .right || d = .arabicNumber

/-- The last direction, marks aside. -/
def lastDirection (label : List Direction) : Option Direction :=
  (label.reverse.dropWhile (· = .mark)).head?

/-- A label that starts with a letter written from right to left. -/
def isRightLabel (label : List Direction) : Bool :=
  label.all (fun d => d ≠ .left && d ≠ .separator)
    && ([some .right, some .europeanNumber, some .arabicNumber].contains (lastDirection label))
    && !(label.contains .europeanNumber && label.contains .arabicNumber)

/-- A label that starts with a letter written from left to right. -/
def isLeftLabel (label : List Direction) : Bool :=
  label.all (fun d => d ≠ .right && d ≠ .arabicNumber && d ≠ .separator)
    && [some .left, some .europeanNumber].contains (lastDirection label)

/-- The label keeps to one direction. -/
def keepsDirection (label : List Direction) : Bool :=
  match label with
  | [] => true
  | .right :: _ => isRightLabel label
  | .left :: _ => isLeftLabel label
  | _ => false

/-- The rules of direction hold for a domain name. -/
def directionsAgree (labels : List (List Char)) : Bool :=
  let labels := labels.map (·.map Direction.of)
  !labels.any goesRight || labels.all keepsDirection

end Lookout.Url
