import Lookout.Text.Normal
import Lookout.Url.Domain.Direction
import Lookout.Url.Domain.Joiner
import Lookout.Url.Domain.MappingTable
import Lookout.Url.Domain.Punycode
import Lookout.Url.Error
/-!
# Domain names

A host that is no network address is a domain name.  It is stored in ASCII form: characters are
mapped to those that stand for them in domain names, the text is brought to its normal form, and
each label that is not of ASCII is written in ASCII behind a mark.  Labels that are written so
already are read and checked.
-/

namespace Lookout.Url

open Text

/-! ## Characters -/

/-- An ASCII character that no domain name may hold. -/
def forbiddenInDomain (c : Char) : Bool :=
  c.toNat ≤ 0x20 || c.toNat = 0x7F
    || ['%', '#', '/', ':', '<', '>', '?', '@', '[', '\\', ']', '^', '|'].contains c

/-- What a character becomes in a domain name, unless it is not allowed there. -/
def mapChar (c : Char) : Option (List Char) :=
  if c.toNat < 0x80 then some [c.toLower]
  else if inRanges ignoredInDomain c then some []
  else if inRanges disallowedInDomain c then none
  else some ((replacement? mappedInDomain c).getD [c])

/-- What a text becomes in a domain name. -/
def mapped (cs : List Char) : Option (List Char) := do return (← cs.mapM mapChar).flatten

/-- A text of ASCII is its own normal form. -/
def normalized (cs : List Char) : List Char :=
  if cs.all (·.toNat < 0x80) then cs else normalForm cs

/-! ## Labels -/

/-- The mark of labels that are written in ASCII. -/
def asciiMark : List Char := ['x', 'n', '-', '-']

/-- The most characters that a label may have before it is written in ASCII. -/
def longestLabel : Nat := 1000

/-- The most characters that a label written in ASCII may have behind its mark. -/
def longestWritten : Nat := 2000

/-- The characters of a label are where they may be. -/
def wellPlaced (label : List Char) : Bool :=
  !label.head?.any (inRanges markTable) && joinersFit [] label

/-- A label that was read is one that could have been written: not of ASCII alone, and as it would
be after mapping. -/
def isWritable (label : List Char) : Bool :=
  label.any (0x80 ≤ ·.toNat) && label.all (fun c => mapChar c = some [c])
    && normalForm label = label && !asciiMark.isPrefixOf label

/-- The label that is meant: written labels are read. -/
def readLabel (label : List Char) : Option (List Char) :=
  if asciiMark.isPrefixOf label then do
    let written := label.drop asciiMark.length
    let meant ← if written.length ≤ longestWritten then Punycode.decode written else none
    if isWritable meant && wellPlaced meant then some meant else none
  else if wellPlaced label then some label
  else none

/-- The ASCII form of a label. -/
def writeLabel (label : List Char) : Option (List Char) :=
  if label.all (·.toNat < 0x80) then some label
  else if label.length ≤ longestLabel then some (asciiMark ++ Punycode.encode label)
  else none

/-! ## Names -/

/-- The ASCII form of a domain name. -/
def asciiName (name : List Char) : Option (List Char) := do
  let name := normalized (← mapped name)
  if name.any forbiddenInDomain then none
  let labels ← (parts (· == '.') name).mapM readLabel
  if !directionsAgree labels then none
  return ['.'].intercalate (← labels.mapM writeLabel)

/-- The ASCII form of a domain name given as octets. -/
def domainToAscii (octets : List UInt8) : Except UrlError (List Char) :=
  match (String.fromUTF8? ⟨octets.toArray⟩).bind fun text => asciiName text.toList with
  | some name => .ok name
  | none => .error .invalidDomain

end Lookout.Url
