/-!
# Numbers as text

Versions, ports and counts are read by one rule: decimal digits, at least one, with an optional
plus sign before them, and a value below a bound.  Hexadecimal digits may be in either case.

Of a number with a fraction or an exponent, a `Decimal`, only one thing is asked: whether it is too
large for a floating-point number of 64 bits, so that it would be read as infinite.
-/

namespace Confinement.Text

def wordBound : Nat := 0x100000000

def longBound : Nat := 0x10000000000000000

/-- One more than the largest number of 64 bits with a sign. -/
def signedBound : Nat := 0x8000000000000000

/-- The value of a run of decimal digits read after `value`. -/
def digitsFrom (value : Nat) : List Char → Option Nat
  | [] => some value
  | c :: rest => if c.isDigit then digitsFrom (value * 10 + (c.toNat - '0'.toNat)) rest else none

/-- The value of a non-empty run of decimal digits. -/
def digits? : List Char → Option Nat
  | [] => none
  | chars => digitsFrom 0 chars

/-- The value of a hexadecimal digit. -/
def hexDigit? (c : Char) : Option Nat :=
  if c.isDigit then some (c.toNat - '0'.toNat)
  else if 'a' ≤ c ∧ c ≤ 'f' then some (c.toNat - 'a'.toNat + 10)
  else if 'A' ≤ c ∧ c ≤ 'F' then some (c.toNat - 'A'.toNat + 10)
  else none

/-- The value of hexadecimal digits read after `value`. -/
def hexFrom (value : Nat) : List Char → Option Nat
  | [] => some value
  | c :: rest =>
    match hexDigit? c with
    | some digit => hexFrom (value * 16 + digit) rest
    | none => none

/-- Drops one leading plus sign. -/
def dropPlus : List Char → List Char
  | '+' :: rest => rest
  | chars => chars

/-- The number below `bound` that a text spells. -/
def unsigned? (bound : Nat) (text : String) : Option Nat :=
  match digits? (dropPlus text.toList) with
  | some value => if value < bound then some value else none
  | none => none

theorem unsigned?_lt {bound value : Nat} {text : String}
    (found : unsigned? bound text = some value) : value < bound := by
  unfold unsigned? at found
  split at found
  · split at found
    · cases found; assumption
    · simp at found
  · simp at found

/-- What follows one sign, or the whole text. -/
def dropSign : List Char → List Char
  | '+' :: rest | '-' :: rest => rest
  | chars => chars

/-- Whether a text is empty or an exponent. -/
def isExponent : List Char → Bool
  | [] => true
  | mark :: rest =>
    (mark == 'e' || mark == 'E') && (dropSign rest).all Char.isDigit && !(dropSign rest).isEmpty

/--
Whether a text spells a floating-point number: digits with at most one point, which need not have
digits on both sides, an exponent if one is wanted, and a sign before; or a word for infinity or for
no number at all.
-/
def isFloat (text : String) : Bool :=
  let chars := dropSign text.toList
  let whole := chars.takeWhile Char.isDigit
  let (part, rest) := match chars.dropWhile Char.isDigit with
    | '.' :: after => (after.takeWhile Char.isDigit, after.dropWhile Char.isDigit)
    | after => ([], after)
  ["inf", "infinity", "nan"].contains (String.ofList (chars.map Char.toLower)) ||
    (!(whole ++ part).isEmpty && isExponent rest)

/-- The number `digits * 10 ^ scale`. -/
structure Decimal where
  /-- The digits, without a point. -/
  digits : Nat
  scale : Int
  deriving DecidableEq, Repr

namespace Decimal

/-- The number with the given digits before and after its point and an exponent. -/
def ofDigits (whole part : List Char) (exponent : Int) : Decimal :=
  ⟨(digitsFrom 0 (whole ++ part)).getD 0, exponent - part.length⟩

/-- The least number that is rounded to infinity: it lies half a step above the largest one. -/
def infinite : Nat := Nat.pow 2 970 * (Nat.pow 2 54 - 1)

/--
Whether a number is rounded to infinity.  Numbers with many more or fewer than 309 digits before the
point are told by their size alone.
-/
def isInfinite (number : Decimal) : Bool :=
  let size := ((Nat.toDigits 10 number.digits).length : Int) + number.scale
  if number.digits = 0 ∨ size < 300 then false
  else if 320 < size then true
  else infinite * Nat.pow 10 (-number.scale).toNat ≤ number.digits * Nat.pow 10 number.scale.toNat

end Decimal

end Confinement.Text
