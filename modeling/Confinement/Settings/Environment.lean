import Confinement.Settings.Document
import Confinement.Settings.Selector
import Confinement.Text.Blank

/-!
# Environment variables

Settings from environment variables.  A variable names a setting by what follows the common start of
its name, in any case; two underscores or a dot lead into a table.  The text of a variable is
typed by its look: truth values, numbers, quoted texts, lists and tables are taken as such, a text
with commas is a list of texts, and everything else is a text.

Where several variables name parts of one setting, the last of them stands for the whole setting.
-/

namespace Confinement.Settings.Environment

open Text (trim)

/-- What the names of all variables for settings start with. -/
def commonStart : String := "SEC_LSM_MANAGER_"

/-- What follows the common start of a variable's name, when it starts so. -/
def ownName? (name : String) : Option String :=
  let chars := (trim name).toList
  let size := commonStart.length
  if lowered (String.ofList (chars.take size)) = lowered commonStart then
    some (String.ofList (chars.drop size))
  else
    none

/-- The keys that lead to the setting of a name; a name with an empty key names no setting. -/
def keys? (name : String) : Option (List String) :=
  let dotted := String.intercalate "." ((lowered name).splitOn "__")
  let parts := (trim dotted).splitOn "."
  if parts.contains "" then none else some parts

/-- Whether a character ends a scalar inside a list or a table. -/
def isSeparator (c : Char) : Bool := c == ',' || c == '{' || c == '}' || c == '[' || c == ']'

/-- Whether a character may stand before or after a value. -/
def isGap (c : Char) : Bool := c == ' ' || c == '\t' || c == '\n' || c == '\r' || c == '\x0c'

/-- The number with a point, and perhaps an exponent, that a text without a sign spells. -/
def decimal? (magnitude : List Char) : Option Text.Decimal := do
  let mantissa := magnitude.takeWhile (fun c => c.isDigit || c == '.')
  let whole := mantissa.takeWhile (· ≠ '.')
  let part := (mantissa.drop whole.length).drop 1
  let exponent ← match magnitude.drop mantissa.length with
    | [] => some 0
    | mark :: scale =>
      let (negative, digits) := Document.unsigned scale
      if mark == 'e' || mark == 'E' then
        (Text.digits? digits).map fun value => if negative then -(value : Int) else value
      else
        none
  if mantissa.count '.' = 1 ∧ mantissa.length > 1 then
    some (Text.Decimal.ofDigits whole part exponent)
  else
    none

/-- The whole number of 64 bits that a text spells. -/
def whole? (text : String) : Option Value :=
  match Text.unsigned? Text.longBound text with
  | some value => some (.natural value)
  | none =>
    match text.toList with
    | '-' :: '+' :: _ => none
    | '-' :: digits =>
      match Text.unsigned? (Text.signedBound + 1) (String.ofList digits) with
      | some 0 => some (.natural 0)
      | some value => some (.integer (-(value : Int)))
      | none => none
    | _ => none

/-- The value of a text without quotes; a number that is infinite is nothing. -/
def scalar (text : String) : Value :=
  if lowered text = "true" then .bool true
  else if lowered text = "false" then .bool false
  else
    match decimal? (Document.unsigned text.toList).2 with
    | some number => if number.isInfinite then .null else .other text
    | none => (whole? text).getD (.text text)

/-- The name of a member: in double quotes, or bare. -/
def memberName (input : List Char) : Option (String × List Char) :=
  match input with
  | '\'' :: _ => none
  | _ => Document.keyPart .narrow input

mutual

/-- A value and what follows it behind a gap; `fuel` bounds the depth and length. -/
def value : Nat → Document.Reader Value
  | 0, _ => none
  | fuel + 1, input =>
    match input.dropWhile isGap with
    | '[' :: rest => (items fuel rest).map (·.map .list (·.dropWhile isGap))
    | '{' :: rest => (members fuel rest).map (·.map .table (·.dropWhile isGap))
    | '"' :: rest =>
      (Document.basicString .narrow (rest.length + 1) rest).map
        (·.map (fun text => .text (String.ofList text)) (·.dropWhile isGap))
    | '\'' :: c :: '\'' :: rest => some (.text c.toString, rest.dropWhile isGap)
    | '\'' :: _ => none
    | start =>
      let text := start.takeWhile (fun c => !isSeparator c)
      some (scalar (trim (String.ofList text)), start.drop text.length)

/-- The items of a list after its bracket, or after a comma. -/
def items : Nat → Document.Reader (List Value)
  | 0, _ => none
  | fuel + 1, input =>
    match input with
    | ']' :: rest => some ([], rest)
    | start => do
      let (item, after) ← value fuel start
      match after with
      | ']' :: rest => some ([item], rest)
      | ',' :: rest => (items fuel rest).map (·.map (item :: ·) id)
      | _ => none

/-- The members of a table after its brace, or after a comma. -/
def members : Nat → Document.Reader (List (String × Value))
  | 0, _ => none
  | fuel + 1, input =>
    match input with
    | '}' :: rest => some ([], rest)
    | start => do
      let (name, rest) ← memberName (start.dropWhile isGap)
      let (found, after) ← value fuel (← Document.skip? '=' (rest.dropWhile isGap))
      match after with
      | '}' :: last => some ([(name, found)], last)
      | ',' :: more => (members fuel more).map (·.map ((name, found) :: ·) id)
      | _ => none

end

/-- The value of a text that is one value throughout, and the text itself otherwise. -/
def structured (text : String) : Value :=
  match value (text.length + 1) text.toList with
  | some (found, []) => found
  | _ => .text text

/-- Whether a text begins like a list, a table or a quoted text. -/
def beginsStructure (text : String) : Bool :=
  match text.toList with
  | first :: _ => first == '[' || first == '{' || first == '"' || first == '\''
  | [] => false

/-- The value of a variable's text. -/
def typed (text : String) : Value :=
  let bare := trim text
  if !beginsStructure bare && bare.toList.contains ',' then
    .list ((bare.splitOn ",").map fun part => .text (trim part))
  else
    structured bare

def nested (value : Value) : List String → Value
  | [] => value
  | key :: rest => .table [(key, nested value rest)]

/-- The settings that environment variables make; later variables replace earlier ones. -/
def entries (environment : List (String × String)) : List (String × Value) :=
  environment.foldl
    (fun before entry =>
      match (ownName? entry.1).bind keys? with
      | some (key :: path) => Value.put key (nested (typed entry.2) path) before
      | _ => before)
    []

def layer (environment : List (String × String)) : Value := .table (entries environment)

end Confinement.Settings.Environment
