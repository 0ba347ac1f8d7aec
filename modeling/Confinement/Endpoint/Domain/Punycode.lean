import Confinement.Text.Number

/-!
# Punycode

The spelling of a label with characters beyond ASCII in ASCII alone.  The ASCII characters come
first, a dash after them if there are any, and then a number for every other character, in
ascending order of their codes.  A number tells how far the state "next code and next position"
moves before the character is put in; it is written with 36 digits, the least significant one
first, and thresholds that adapt to the numbers before say which digit is the last one.
-/

namespace Confinement.Punycode

/-- The value of a digit: the letters are 0 to 25, the decimal digits 26 to 35. -/
def digitValue? (c : Char) : Option Nat :=
  if 'a' ≤ c ∧ c ≤ 'z' then some (c.toNat - 'a'.toNat)
  else if 'A' ≤ c ∧ c ≤ 'Z' then some (c.toNat - 'A'.toNat)
  else if c.isDigit then some (c.toNat - '0'.toNat + 26)
  else none

def digit (value : Nat) : Char :=
  if value < 26 then Char.ofNat ('a'.toNat + value) else Char.ofNat ('0'.toNat + (value - 26))

/-- The threshold of the digit at a position, positions being counted in steps of 36. -/
def threshold (position bias : Nat) : Nat :=
  if position ≤ bias then 1 else if bias + 26 ≤ position then 26 else position - bias

theorem threshold_pos (position bias : Nat) : 1 ≤ threshold position bias := by
  unfold threshold
  split
  · exact Nat.le_refl 1
  · split <;> omega

/-- The bias that follows from a number scaled down; `reached` counts the steps taken. -/
def settle (number reached : Nat) : Nat :=
  if 455 < number then settle (number / 35) (reached + 36)
  else reached + 36 * number / (number + 38)
termination_by number
decreasing_by omega

/-- The bias after a number, `count` characters then being in place. -/
def adapted (number count : Nat) (isFirst : Bool) : Nat :=
  let scaled := if isFirst then number / 700 else number / 2
  settle (scaled + scaled / count) 0

/-- The bias before the first number. -/
def firstBias : Nat := 72

/-- The first code beyond ASCII. -/
def firstCode : Nat := 128

/-- Whether a character is in ASCII. -/
def isBasic (c : Char) : Bool := c.toNat < firstCode

/-! ## Reading -/

/-- The number that digits spell after `value`, from a position on, and the digits after it. -/
def number? (bias position weight value : Nat) : List Char → Option (Nat × List Char)
  | [] => none
  | c :: rest =>
    match digitValue? c with
    | none => none
    | some digit =>
      let next := value + digit * weight
      let bound := threshold position bias
      if Text.wordBound ≤ next then none
      else if digit < bound then some (next, rest)
      else if Text.wordBound ≤ weight * (36 - bound) then none
      else number? bias (position + 36) (weight * (36 - bound)) next rest

/-- A label being read. -/
structure Reading where
  label : List Char
  code : Nat := firstCode
  position : Nat := 0
  bias : Nat := firstBias

/-- Moves on by a number and puts a character in. -/
def Reading.advance? (reading : Reading) (number : Nat) (isFirst : Bool) : Option Reading :=
  let count := reading.label.length + 1
  let moved := reading.position + number
  let code := reading.code + moved / count
  let position := moved % count
  if Text.wordBound ≤ moved ∨ !code.isValidChar then none
  else
    some {
      label := reading.label.take position ++ Char.ofNat code :: reading.label.drop position
      code
      position := position + 1
      bias := adapted number count isFirst }

/-- Reads the numbers of a label; each takes at least one of the digits left, counted by `fuel`. -/
def readNumbers (fuel : Nat) (reading : Reading) (isFirst : Bool) (digits : List Char) :
    Option (List Char) :=
  match fuel, digits with
  | _, [] => some reading.label
  | 0, _ :: _ => none
  | fuel + 1, digits => do
    let (number, rest) ← number? reading.bias 36 1 0 digits
    readNumbers fuel (← reading.advance? number isFirst) false rest

/--
The ASCII characters of a spelling and its digits; the last dash parts them if it is not first.
-/
def split (spelling : List Char) : List Char × List Char :=
  let reversed := spelling.reverse
  let basic := (reversed.dropWhile (· ≠ '-')).tail.reverse
  if basic.isEmpty then ([], spelling) else (basic, (reversed.takeWhile (· ≠ '-')).reverse)

/-- The label that a spelling stands for. -/
def decode? (spelling : List Char) : Option (List Char) :=
  let (basic, digits) := split spelling
  if basic.all isBasic then readNumbers digits.length { label := basic } true digits else none

/-! ## Writing -/

def numberDigits (bias position number : Nat) : List Char :=
  let bound := threshold position bias
  if number < bound then [digit number]
  else
    digit (bound + (number - bound) % (36 - bound)) ::
      numberDigits bias (position + 36) ((number - bound) / (36 - bound))
termination_by number
decreasing_by
  have positive := threshold_pos position bias
  have smaller := Nat.div_le_self (number - threshold position bias) (36 - threshold position bias)
  omega

/-- A label being written. -/
structure Writing where
  /-- What is written, reversed. -/
  reversed : List Char
  /-- How far the state has moved since the last character. -/
  number : Nat := 0
  count : Nat
  bias : Nat := firstBias

/-- Passes by a character of the label while the characters of a code are written. -/
def Writing.pass (basicCount code : Nat) (writing : Writing) (c : Char) : Writing :=
  if c.toNat < code then { writing with number := writing.number + 1 }
  else if c.toNat = code then {
    reversed := (numberDigits writing.bias 36 writing.number).reverse ++ writing.reversed
    number := 0
    count := writing.count + 1
    bias := adapted writing.number (writing.count + 1) (writing.count == basicCount) }
  else writing

/-- Writes the characters of ascending codes, `next` being the one after the last code. -/
def writeCodes (label : List Char) (basicCount next : Nat) (writing : Writing) :
    List Nat → List Char
  | [] => writing.reversed.reverse
  | code :: rest =>
    let moved := { writing with number := writing.number + (code - next) * (writing.count + 1) }
    let passed := label.foldl (Writing.pass basicCount code) moved
    writeCodes label basicCount (code + 1) { passed with number := passed.number + 1 } rest

/-- The codes of the characters of a label beyond ASCII, each once and in ascending order. -/
def codes (label : List Char) : List Nat :=
  ((label.filter fun c => !isBasic c).map Char.toNat).mergeSort.eraseDups

def encode (label : List Char) : List Char :=
  let basic := label.filter isBasic
  let start := if basic.isEmpty then [] else basic ++ ['-']
  writeCodes label basic.length firstCode ⟨start.reverse, 0, basic.length, firstBias⟩ (codes label)

end Confinement.Punycode
