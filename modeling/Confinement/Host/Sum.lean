import Confinement.Text.Blank
import Confinement.Text.Number

/-!
# Sums

The value of a sum in a shell script: whole numbers and names of numbers, joined by the four
operations of arithmetic and by the remainder, with signs and parentheses.
-/

namespace Confinement.Host.Sum

/-- A value and the characters after it. -/
abbrev Reading := Option (Int × List Char)

/-- The number or the named number at the start of a text. -/
def operand? (named : String → Int) (chars : List Char) : Reading :=
  match chars.takeWhile Char.isDigit with
  | [] =>
    match chars.takeWhile fun c => c.isAlphanum || c == '_' with
    | [] => none
    | name => some (named (String.ofList name), chars.drop name.length)
  | digits => (Text.digits? digits).map fun value => ((value : Int), chars.drop digits.length)

/-- What two numbers come to; nothing can be divided by zero. -/
def result? (sign : Char) (left right : Int) : Option Int :=
  match sign with
  | '+' => some (left + right)
  | '-' => some (left - right)
  | '*' => some (left * right)
  | '/' => if right = 0 then none else some (left.tdiv right)
  | '%' => if right = 0 then none else some (left.tmod right)
  | _ => none

mutual

/-- A number with signs before it, or a sum in parentheses. -/
def factor? (fuel : Nat) (named : String → Int) (chars : List Char) : Reading :=
  match fuel, chars with
  | 0, _ => none
  | fuel + 1, '-' :: rest => (factor? fuel named rest).map fun (value, after) => (-value, after)
  | fuel + 1, '+' :: rest => factor? fuel named rest
  | fuel + 1, '(' :: rest => do
    let (value, after) ← terms? fuel named ['+', '-'] rest
    if after.head? = some ')' then some (value, after.tail) else none
  | _ + 1, rest => operand? named rest

/-- Parts joined by some signs; the parts between plus and minus are products. -/
def terms? (fuel : Nat) (named : String → Int) (signs : List Char) (chars : List Char) : Reading :=
  match fuel with
  | 0 => none
  | fuel + 1 => do
    let (value, after) ← part? fuel named signs chars
    more? fuel named signs value after

def part? (fuel : Nat) (named : String → Int) (signs : List Char) (chars : List Char) : Reading :=
  match fuel with
  | 0 => none
  | fuel + 1 =>
    if signs.contains '+' then terms? fuel named ['*', '/', '%'] chars else factor? fuel named chars

/-- The parts after a value. -/
def more? (fuel : Nat) (named : String → Int) (signs : List Char) (value : Int)
    (chars : List Char) : Reading :=
  match fuel, chars with
  | 0, _ => none
  | _ + 1, [] => some (value, [])
  | fuel + 1, sign :: rest =>
    if signs.contains sign then do
      let (other, after) ← part? fuel named signs rest
      more? fuel named signs (← result? sign value other) after
    else
      some (value, sign :: rest)

end

def value? (named : String → Int) (text : List Char) : Option Int :=
  let chars := text.filter fun c => !Text.isBlank c && c != '$'
  if chars.isEmpty then some 0
  else
    match terms? (8 * (chars.length + 1)) named ['+', '-'] chars with
    | some (value, []) => some value
    | _ => none

end Confinement.Host.Sum
