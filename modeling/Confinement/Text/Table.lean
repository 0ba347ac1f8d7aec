import Confinement.Text.Number

/-!
# Tables of characters

Properties of characters are facts of a standard and are kept as tables.  A table is written as a
text of items with blanks between them, in which every number is hexadecimal.  `Ranges.ofText` reads
sets of characters and `Substitutions.ofText` reads texts that stand for characters.

Both are ascending arrays, in which `floor?` looks up the last entry that is not above a code.
-/

namespace Confinement.Text

/-- The last of the entries between two positions, or else `best`, whose key is at most a code. -/
def floorBetween {Value : Type} (entries : Array (Nat × Value)) (code low high : Nat)
    (best : Option (Nat × Value)) : Option (Nat × Value) :=
  if low < high then
    let middle := (low + high) / 2
    match entries[middle]? with
    | none => best
    | some entry =>
      if entry.1 ≤ code then floorBetween entries code (middle + 1) high (some entry)
      else floorBetween entries code low middle best
  else
    best
termination_by high - low

/-- The last entry of an ascending array whose key is at most a code. -/
def floor? {Value : Type} (entries : Array (Nat × Value)) (code : Nat) : Option (Nat × Value) :=
  floorBetween entries code 0 entries.size none

def items (table : String) : List (List Char) :=
  (table.toList.splitOnP fun c => c == ' ' || c == '\n').filter fun item => !item.isEmpty

/-- The number that an item spells. -/
def code (item : List Char) : Nat := (hexFrom 0 item).getD 0

/-- Ascending ranges of codes, given by their first and last members. -/
abbrev Ranges := Array (Nat × Nat)

namespace Ranges

/-- Reads ranges: `61` is one code, and `61-7A` is a range. -/
def ofText (table : String) : Ranges :=
  ((items table).map fun item =>
    match item.splitOn '-' with
    | [first, last] => (code first, code last)
    | _ => (code item, code item)).toArray

/-- Whether a character lies in one of the ranges. -/
def contains (ranges : Ranges) (c : Char) : Bool :=
  (floor? ranges c.toNat).any fun range => c.toNat ≤ range.2

end Ranges

/-- What stands for the codes of a stretch. -/
inductive Substitution where
  /-- The same characters for each code. -/
  | fixed (characters : List Char)
  /--
  A character for every code that lies a multiple of `step` above the first, up to `count` of them:
  the one at the same distance from `target`.
  -/
  | parallel (target step count : Nat)
  deriving DecidableEq, Repr

/-- Ascending stretches of codes with what stands for them. -/
abbrev Substitutions := Array (Nat × Substitution)

namespace Substitutions

/-- The number of codes that a substitution is about, with the gaps between them. -/
def width : Substitution → Nat
  | .fixed _ => 1
  | .parallel _ step count => step * count

/-- Reads an item other than a position. -/
def substitution (item : List Char) : Substitution :=
  match item.splitOn '*', item.splitOn '/' with
  | [target, count], _ => .parallel (code target) 1 (code count)
  | _, [target, count] => .parallel (code target) 2 (code count)
  | _, _ => .fixed ((item.splitOn '+').map fun part => Char.ofNat (code part))

/--
Reads substitutions for codes from a position on.  The item `@C0` moves to a code, and every other
item is about the code that is reached: `73+73` puts two characters in its place, `E0*17` is about
as many codes in a row, and `101/18` about as many codes with gaps of one between them.
-/
def entries (position : Nat) : List (List Char) → List (Nat × Substitution)
  | [] => []
  | ('@' :: start) :: rest => entries (code start) rest
  | item :: rest =>
    let found := substitution item
    (position, found) :: entries (position + width found) rest

def ofText (table : String) : Substitutions := (entries 0 (items table)).toArray

/-- The characters that stand for a character. -/
def find? (substitutions : Substitutions) (c : Char) : Option (List Char) :=
  match floor? substitutions c.toNat with
  | none => none
  | some (start, .fixed characters) => if c.toNat = start then some characters else none
  | some (start, .parallel target step count) =>
    let distance := c.toNat - start
    if distance % step = 0 ∧ distance < step * count then some [Char.ofNat (target + distance)]
    else none

end Substitutions

end Confinement.Text
