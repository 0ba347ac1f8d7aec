import Confinement.Endpoint.Domain.Direction
import Confinement.Endpoint.Domain.Joining
import Confinement.Endpoint.Domain.Mapping
import Confinement.Endpoint.Domain.Punycode
import Confinement.Text.Composition

/-!
# Domain names

The ASCII form of a domain name with characters of all scripts.  Characters are first brought to
one form (case, width, composition); then each label between dots is looked at by itself and written
in ASCII, behind `xn--` where it has other characters.  A label that is written so already is read
back and has to be one that would be written so.
-/

namespace Confinement.Domain

open Text

/-- The characters that no host may hold. -/
def forbiddenHostChars : List Char :=
  ['\x00', '\t', '\n', '\r', ' ', '#', '/', ':', '<', '>', '?', '@', '[', '\\', ']', '^', '|']

/-- Whether no domain name may hold a character. -/
def isForbidden (c : Char) : Bool :=
  c ∈ forbiddenHostChars || c == '%' || c.toNat < 0x20 || c == '\x7f'

/-- What stands before the ASCII form of a label with other characters. -/
def mark : List Char := ['x', 'n', '-', '-']

/-- The longest ASCII form that is read back, without its mark. -/
def readLimit : Nat := 2000

/-- The length of the longest label that is written in ASCII. -/
def writeLimit : Nat := 1000

/-- Whether a label could have been written in ASCII. -/
def isWritable (label : List Char) : Bool :=
  label.any (fun c => !Punycode.isBasic c) &&
    label.all (fun c => Treatment.of c == .valid && !isForbidden c && c != '.') &&
    Composition.compose label == label && !mark.isPrefixOf label

/-- A label read back from its ASCII form; other labels stand for themselves. -/
def readBack? (label : List Char) : Option (List Char) :=
  if mark.isPrefixOf label then
    let spelling := label.drop mark.length
    if readLimit < spelling.length then none
    else (Punycode.decode? spelling).bind fun found => if isWritable found then some found else none
  else
    some label

/-- Whether a label may be part of a name. -/
def isLabel (label : List Char) : Bool :=
  !label.head?.any isMark && joinersFit [] label &&
    (label.all Punycode.isBasic || label.length ≤ writeLimit)

def asciiLabel (label : List Char) : List Char :=
  if label.all Punycode.isBasic then label else mark ++ Punycode.encode label

/-- The ASCII form of a name, if it has one. -/
def ascii? (name : List Char) : Option (List Char) := do
  let composed := Composition.compose (← mapped? name)
  if composed.any isForbidden then none
  else
    let labels ← (composed.splitOn '.').mapM readBack?
    if labels.all isLabel && keepDirections labels then
      some (['.'].intercalate (labels.map asciiLabel))
    else
      none

end Confinement.Domain
