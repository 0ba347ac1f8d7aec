import Confinement.Text.Blank
import Confinement.Text.Category
import Confinement.Text.Number

/-!
# Patterns

Whether a text is a pattern for the values of a field, a regular expression.  Values are matched
byte by byte without tables of characters, so a pattern cannot use what needs such tables: classes
such as `\w`, letters regardless of case, and boundaries of words, unless it asks for ASCII alone.

`Pattern.fault?` reads a pattern from left to right.  Of what has been read it keeps the flags in
force, the groups that are open, and how deeply groups and repetitions are nested.
-/

namespace Confinement.Pattern

/-- Why a text is of no use as a pattern. -/
inductive Fault where
  /-- It is malformed, or uses something that needs a table. -/
  | malformed
  | wordBoundary
  deriving DecidableEq, Repr

/-- The text under which a fault is told. -/
def Fault.message : Fault → String
  | .malformed => "error building NFA"
  | .wordBoundary =>
    "unsupported regex feature for DFAs: cannot build DFAs for regexes with Unicode word " ++
    "boundaries; switch to ASCII word boundaries, or heuristically enable Unicode word " ++
    "boundaries or use a different regex engine"

/-- The flags that decide how a pattern is read. -/
structure Flags where
  unicode : Bool := true
  ignoreCase : Bool := false
  /-- Blanks and comments in the pattern do not count. -/
  verbose : Bool := false
  deriving DecidableEq, Repr

namespace Flags

/-- Whether both cases of a character have to be known. -/
def needsCases (flags : Flags) : Bool := flags.unicode && flags.ignoreCase

/-- Sets the flag of a letter; the other letters only change what a pattern matches. -/
def set (flags : Flags) (letter : Char) (on : Bool) : Flags :=
  match letter with
  | 'u' => { flags with unicode := on }
  | 'i' => { flags with ignoreCase := on }
  | 'x' => { flags with verbose := on }
  | _ => flags

/-- What follows blanks and comments; `inComment` tells whether a comment has begun. -/
def skipFrom (inComment : Bool) : List Char → List Char
  | [] => []
  | c :: rest =>
    if inComment then skipFrom (c != '\n') rest
    else if Text.isBlank c then skipFrom false rest
    else if c = '#' then skipFrom true rest
    else c :: rest

/-- What counts of a pattern next. -/
def skip (flags : Flags) (chars : List Char) : List Char :=
  if flags.verbose then skipFrom false chars else chars

end Flags

/-! ## Escapes -/

/-- What an escape or a single character stands for. -/
inductive Atom where
  | literal (c : Char)
  | numbered (c : Char)
  | kind (isNegated : Bool)
  /-- A boundary of a word, or no such boundary. -/
  | wordBoundary
  | anchor
  deriving DecidableEq, Repr

/-- Whether a character is read by itself after a backslash. -/
def isEscapable (c : Char) : Bool :=
  c.toNat < 0x80 && !c.isAlphanum && c != '<' && c != '>'

/-- The number that `count` hexadecimal digits spell after `value`. -/
def hex? (flags : Flags) (value : Nat) : Nat → List Char → Option (Nat × List Char)
  | 0, chars => some (value, chars)
  | count + 1, chars =>
    match flags.skip chars with
    | [] => none
    | c :: rest => (Text.hexDigit? c).bind fun digit => hex? flags (value * 16 + digit) count rest

/-- The character with a number of a fixed count of digits. -/
def numbered? (flags : Flags) (count : Nat) (chars : List Char) : Option (Char × List Char) :=
  (hex? flags 0 count chars).bind fun found =>
    if found.1.isValidChar then some (Char.ofNat found.1, found.2) else none

/-- What follows a backslash. -/
def escape? (flags : Flags) : List Char → Option (Atom × List Char)
  | [] => none
  | 'x' :: rest => (numbered? flags 2 rest).map fun found => (.numbered found.1, found.2)
  | 'u' :: rest => (numbered? flags 4 rest).map fun found => (.literal found.1, found.2)
  | 'U' :: rest => (numbered? flags 8 rest).map fun found => (.literal found.1, found.2)
  | 'b' :: '{' :: _ => none
  | c :: rest =>
    if c ∈ ['d', 's', 'w'] then some (.kind false, rest)
    else if c ∈ ['D', 'S', 'W'] then some (.kind true, rest)
    else if c ∈ ['b', 'B', '<', '>'] then some (.wordBoundary, rest)
    else if c ∈ ['A', 'z'] then some (.anchor, rest)
    else if c ∈ ['a', 'f', 't', 'n', 'r', 'v'] || isEscapable c then some (.literal c, rest)
    else none

/-- Whether a character may be part of a pattern; a set holds no byte that is no character. -/
def Atom.isUsable (flags : Flags) (inSet : Bool) : Atom → Bool
  | .literal c => !flags.needsCases && (flags.unicode || !inSet || c.toNat < 0x80)
  | .numbered c => !flags.needsCases && (flags.unicode || c.toNat < 0x80)
  | .kind isNegated => !flags.unicode && !isNegated
  | .wordBoundary | .anchor => !inSet

/-! ## Sets -/

/-- The names of the sets between `[:` and `:]`. -/
def setNames : List String :=
  ["alnum", "alpha", "ascii", "blank", "cntrl", "digit", "graph", "lower", "print", "punct",
    "space", "upper", "word", "xdigit"]

/-- What follows a named set, given what follows its opening bracket, and whether it is negated. -/
def named? (chars : List Char) : Option (Bool × List Char) :=
  match chars with
  | ':' :: rest =>
    let isNegated := rest.head? == some '^'
    let name := if isNegated then rest.tail else rest
    match name.dropWhile (· ≠ ':') with
    | ':' :: ']' :: after =>
      if setNames.contains (String.ofList (name.takeWhile (· ≠ ':'))) then some (isNegated, after)
      else none
    | _ => none
  | _ => none

/-- A set that is being read. -/
structure Members where
  /-- How many members have been read since the last operator. -/
  count : Nat := 0
  depth : Nat := 0
  /-- How deeply what is before the last operator is nested. -/
  left : Option Nat := none

namespace Members

def add (members : Members) (depth : Nat) : Members :=
  { members with count := members.count + 1, depth := max members.depth depth }

/-- How deeply the whole set is nested. -/
def total (members : Members) : Nat :=
  let right := if members.count ≤ 1 then members.depth else members.depth + 1
  match members.left with
  | none => right
  | some left => max left right + 1

/-- Goes on after an operator. -/
def next (members : Members) : Members := { left := some members.total }

end Members

/-- An item of a set: a character or a class. -/
def setItem? (flags : Flags) : List Char → Option (Atom × List Char)
  | [] => none
  | '\\' :: rest => (escape? flags rest).bind fun found =>
    if found.1.isUsable flags true then some found else none
  | c :: rest => if (Atom.literal c).isUsable flags true then some (.literal c, rest) else none

/-- The character of an item, when it is one. -/
def Atom.character? : Atom → Option Char
  | .literal c | .numbered c => some c
  | .kind _ | .wordBoundary | .anchor => none

/-- What follows an item or a range of a set. -/
def setRange? (flags : Flags) (chars : List Char) : Option (List Char) := do
  let (first, afterFirst) ← setItem? flags chars
  match flags.skip afterFirst with
  | [] => none
  | '-' :: rest =>
    let next := (flags.skip rest).head?
    if next = some ']' ∨ next = some '-' then some ('-' :: rest)
    else
      let (last, afterLast) ← setItem? flags (flags.skip rest)
      if (← first.character?).toNat ≤ (← last.character?).toNat then some afterLast else none
  | after => some after

/-- Dashes at the start of a set, which stand for themselves. -/
def leadingDashes (flags : Flags) (fuel : Nat) (members : Members) (chars : List Char) :
    Members × List Char :=
  match fuel, flags.skip chars with
  | fuel + 1, '-' :: rest => leadingDashes flags fuel (members.add 0) rest
  | _, rest => (members, rest)

/--
The start of a set: whether it is negated, the members that only the start can hold, and what
follows.  A bracket that closes, when it is the first member, stands for itself.
-/
def setStart (flags : Flags) (chars : List Char) : Bool × Members × List Char :=
  let (isNegated, rest) := match flags.skip chars with
    | '^' :: rest => (true, rest)
    | rest => (false, rest)
  match leadingDashes flags rest.length {} rest with
  | (members, ']' :: after) =>
    if members.count = 0 then (isNegated, members.add 0, after)
    else (isNegated, members, ']' :: after)
  | (members, after) => (isNegated, members, after)

/-- Whether a set can be used: bytes beyond ASCII are no characters. -/
def isUsableSet (flags : Flags) (isNegated : Bool) : Bool := flags.unicode || !isNegated

mutual

/-- How deeply a set is nested, and what follows it, after its opening bracket. -/
def set? (flags : Flags) (fuel : Nat) (chars : List Char) : Option (Nat × List Char) :=
  match fuel with
  | 0 => none
  | fuel + 1 =>
    let (isNegated, members, rest) := setStart flags chars
    if isUsableSet flags isNegated && (members.count = 0 || !flags.needsCases) then
      setMembers? flags fuel members rest
    else
      none

/-- How deeply a set is nested, and what follows it, after some of its members. -/
def setMembers? (flags : Flags) (fuel : Nat) (members : Members) (chars : List Char) :
    Option (Nat × List Char) :=
  match fuel with
  | 0 => none
  | fuel + 1 =>
    match flags.skip chars with
    | [] => none
    | ']' :: rest => some (members.total + 1, rest)
    | '[' :: rest =>
      match named? rest with
      | some (isNegated, after) =>
        if isUsableSet flags isNegated && !flags.needsCases then
          setMembers? flags fuel (members.add 0) after
        else
          none
      | none => do
        let (depth, after) ← set? flags fuel rest
        setMembers? flags fuel (members.add depth) after
    | '&' :: '&' :: rest | '-' :: '-' :: rest | '~' :: '~' :: rest =>
      setMembers? flags fuel members.next rest
    | next => do setMembers? flags fuel (members.add 0) (← setRange? flags next)

end

/-! ## Groups -/

/-- What has been read of a group, or of the whole pattern. -/
structure Group where
  pieces : Nat := 0
  depth : Nat := 0
  /-- How deeply the last piece is nested, when it can be repeated. -/
  last : Option Nat := none
  /-- How deeply the deepest branch before is nested, when there is one. -/
  branches : Option Nat := none

namespace Group

def add (group : Group) (depth : Nat) : Group :=
  { group with
    pieces := group.pieces + 1
    depth := max group.depth depth
    last := some depth }

/-- Adds a change of flags, which cannot be repeated. -/
def addFlags (group : Group) : Group := { group with pieces := group.pieces + 1, last := none }

/-- Repeats the last piece. -/
def repeat? (group : Group) : Option Group :=
  group.last.map fun depth =>
    { group with depth := max group.depth (depth + 1), last := some (depth + 1) }

/-- How deeply the branch under way is nested. -/
def branch (group : Group) : Nat := if group.pieces ≤ 1 then group.depth else group.depth + 1

/-- Begins another branch. -/
def next (group : Group) : Group :=
  { branches := some (max (group.branches.getD 0) group.branch) }

/-- How deeply the whole group is nested. -/
def total (group : Group) : Nat :=
  match group.branches with
  | none => group.branch
  | some depth => max depth group.branch + 1

end Group

def flagLetters : List Char := ['i', 'm', 's', 'U', 'u', 'R', 'x']

/--
Reads flags up to the sign that ends them; that sign and what follows it stay.  What has been seen
is kept in reverse: no letter may come twice, and a dash switches off the flags after it.
-/
def flags? (flags : Flags) (seen : List Char) : List Char → Option (Flags × List Char × List Char)
  | [] => none
  | c :: rest =>
    if c = ':' ∨ c = ')' then
      if seen.head? = some '-' then none else some (flags, seen, c :: rest)
    else if c ∉ '-' :: flagLetters ∨ c ∈ seen then none
    else flags? (flags.set c (!seen.contains '-')) (c :: seen) rest

/-- Whether a text can be the name of a group. -/
def isGroupName : List Char → Bool
  | [] => false
  | first :: rest =>
    (first == '_' || Text.isAlphabetic first) &&
      rest.all fun c => c ∈ ['_', '.', '[', ']'] || Text.isAlphanumeric c

/-- The most levels that may be nested. -/
def depthLimit : Nat := 250

/-- A pattern that is being read. -/
structure Reading where
  flags : Flags := {}
  /-- The innermost group that is open, or the pattern itself. -/
  group : Group := {}
  /-- The groups around it, with the flags in force before each next one. -/
  around : List (Group × Flags) := []
  names : List String := []
  /-- Whether a boundary of words beyond ASCII has been met. -/
  hasBoundary : Bool := false

namespace Reading

/-- Opens a group with flags of its own. -/
def openGroup (reading : Reading) (inside : Flags) : Reading :=
  { reading with
    flags := inside
    group := {}
    around := (reading.group, reading.flags) :: reading.around }

def close? (reading : Reading) : Option Reading :=
  match reading.around with
  | [] => none
  | (outer, flags) :: around =>
    some { reading with flags, group := outer.add (reading.group.total + 1), around }

/-- Adds what a character or an escape stands for. -/
def add? (reading : Reading) (atom : Atom) : Option Reading :=
  if atom.isUsable reading.flags false then
    some { reading with
      group := reading.group.add 0
      hasBoundary := reading.hasBoundary || (atom == .wordBoundary && reading.flags.unicode) }
  else
    none

/-- Opens a group with a name, given what follows the bracket before the name. -/
def openNamed? (reading : Reading) (chars : List Char) : Option (Reading × List Char) :=
  let name := chars.takeWhile (· ≠ '>')
  match chars.dropWhile (· ≠ '>') with
  | [] => none
  | _ :: rest =>
    let text := String.ofList name
    if isGroupName name && !reading.names.contains text then
      some (({ reading with names := text :: reading.names }).openGroup reading.flags, rest)
    else
      none

/-- Opens a group or changes flags, given what follows an opening parenthesis. -/
def open? (reading : Reading) (chars : List Char) : Option (Reading × List Char) :=
  match reading.flags.skip chars with
  | '?' :: '=' :: _ | '?' :: '!' :: _ => none
  | '?' :: 'P' :: '<' :: rest => reading.openNamed? rest
  | '?' :: '<' :: rest => reading.openNamed? rest
  | '?' :: rest => do
    let (inside, seen, after) ← flags? reading.flags [] rest
    if after.head? = some ':' then some (reading.openGroup inside, after.tail)
    else if seen.isEmpty then none
    else some ({ reading with flags := inside, group := reading.group.addFlags }, after.tail)
  | rest => some (reading.openGroup reading.flags, rest)

/-- Reads the next piece of a pattern that is not at its end. -/
def step? (reading : Reading) : List Char → Option (Reading × List Char)
  | [] => none
  | '(' :: rest => reading.open? rest
  | ')' :: rest => reading.close?.map (·, rest)
  | '|' :: rest => some ({ reading with group := reading.group.next }, rest)
  | '[' :: rest => do
    let (depth, after) ← set? reading.flags (2 * rest.length + 2) rest
    some ({ reading with group := reading.group.add depth }, after)
  | '{' :: _ => none
  | '\\' :: rest => do
    let (atom, after) ← escape? reading.flags rest
    return (← reading.add? atom, after)
  | '.' :: rest =>
    if reading.flags.unicode then (reading.add? .anchor).map (·, rest) else none
  | c :: rest =>
    if c ∈ ['?', '*', '+'] then
      reading.group.repeat?.map fun group =>
        ({ reading with group }, if rest.head? = some '?' then rest.tail else rest)
    else
      (reading.add? (if c = '^' ∨ c = '$' then .anchor else .literal c)).map (·, rest)

/-- Reads the rest of a pattern; every piece takes at least one character, counted by `fuel`. -/
def finish? (reading : Reading) (fuel : Nat) (chars : List Char) : Option Reading :=
  match fuel, reading.flags.skip chars with
  | _, [] => if reading.around.isEmpty then some reading else none
  | 0, _ :: _ => none
  | fuel + 1, next => do
    let (after, rest) ← reading.step? next
    after.finish? fuel rest

end Reading

/-- Why a text is of no use as a pattern, when it is. -/
def fault? (text : String) : Option Fault :=
  match ({} : Reading).finish? text.length text.toList with
  | none => some .malformed
  | some reading =>
    if depthLimit < reading.group.total then some .malformed
    else if reading.hasBoundary then some .wordBoundary
    else none

end Confinement.Pattern
