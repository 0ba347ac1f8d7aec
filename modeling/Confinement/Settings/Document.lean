import Confinement.Settings.Value

/-!
# Configuration documents

Reading a configuration file: lines `key = value` below headers `[table]` and `[[table]]`, with
quoted and dotted keys, four kinds of strings, numbers in four bases, dates, lists and tables in
braces.  `Document.parse?` gives the table that the text spells, or nothing when the text is
malformed or defines something twice.

A document is read in one of two dialects.  The wide one knows two more escapes, times without
seconds and tables in braces over several lines, and it allows one more level of nesting.
-/

namespace Confinement.Settings.Document

/-- A way of reading documents. -/
inductive Dialect where
  /-- The one that takes more. -/
  | wide
  /-- The one that takes less. -/
  | narrow
  deriving DecidableEq, Repr

/-- How deep values may be nested, and how many parts a key may have. -/
def Dialect.depth : Dialect → Nat
  | .wide => 80
  | .narrow => 79

/-- What has been read, and the text that is left. -/
abbrev Reader (Result : Type) := List Char → Option (Result × List Char)

/-! ## Characters -/

/-- Whether a character may stand between two words of a line. -/
def isGap (c : Char) : Bool := c == ' ' || c == '\t'

/-- Whether a character may stand in a comment or a string. -/
def isPrintable (c : Char) : Bool := c == '\t' || (0x20 ≤ c.toNat && c.toNat ≠ 0x7f)

/-- Whether a character may stand in a key without quotes. -/
def isBare (c : Char) : Bool := c.isAlphanum || c == '_' || c == '-'

/-- Skips the gap before the next word. -/
def skipGap (input : List Char) : List Char := input.dropWhile isGap

/-- Skips a line break. -/
def newline? : List Char → Option (List Char)
  | '\n' :: rest => some rest
  | '\r' :: '\n' :: rest => some rest
  | _ => none

/-- Skips a comment, if one begins here. -/
def skipComment? : List Char → Option (List Char)
  | '#' :: rest =>
    match rest.dropWhile isPrintable with
    | [] => some []
    | after => if (newline? after).isSome then some after else none
  | input => some input

/-- Skips the end of a line: a gap, a comment and the break. -/
def lineEnd? (input : List Char) : Option (List Char) := do
  match ← skipComment? (skipGap input) with
  | [] => some []
  | after => newline? after

/-- Skips gaps, comments and line breaks; `fuel` bounds the number of lines. -/
def skipLines : Nat → List Char → Option (List Char)
  | 0, input => some input
  | fuel + 1, input => do
    let after ← skipComment? (skipGap input)
    match newline? after with
    | some rest => skipLines fuel rest
    | none => some after

/-! ## Strings -/

def character? (value : Nat) : Option Char :=
  if value.isValidChar then some (Char.ofNat value) else none

/-- The character that an escape stands for, given what follows the backslash. -/
def escape? (dialect : Dialect) : Reader Char
  | 'b' :: rest => some ('\x08', rest)
  | 't' :: rest => some ('\t', rest)
  | 'n' :: rest => some ('\n', rest)
  | 'f' :: rest => some ('\x0c', rest)
  | 'r' :: rest => some ('\r', rest)
  | '"' :: rest => some ('"', rest)
  | '\\' :: rest => some ('\\', rest)
  | 'u' :: rest => escaped 4 rest
  | 'U' :: rest => escaped 8 rest
  | 'e' :: rest => if dialect = .wide then some ('\x1b', rest) else none
  | 'x' :: rest => if dialect = .wide then escaped 2 rest else none
  | _ => none
where
  /-- The character whose number takes `width` digits. -/
  escaped (width : Nat) (rest : List Char) : Option (Char × List Char) :=
    if (rest.take width).length < width then none
    else do
      let c ← (Text.hexFrom 0 (rest.take width)).bind character?
      some (c, rest.drop width)

/-- A string on one line after its opening quote, with escapes. -/
def basicString (dialect : Dialect) : Nat → Reader (List Char)
  | 0, _ => none
  | _ + 1, [] => none
  | _ + 1, '"' :: rest => some ([], rest)
  | fuel + 1, '\\' :: rest => do
    let (c, after) ← escape? dialect rest
    let (text, last) ← basicString dialect fuel after
    some (c :: text, last)
  | fuel + 1, c :: rest =>
    if isPrintable c then
      (basicString dialect fuel rest).map fun (text, last) => (c :: text, last)
    else none

/-- A string on one line after its opening quote, without escapes. -/
def literalString (input : List Char) : Option (List Char × List Char) :=
  let text := input.takeWhile (fun c => c != '\'' && isPrintable c)
  match input.drop text.length with
  | '\'' :: rest => some (text, rest)
  | _ => none

/-- The end of a string of several lines, at its closing quotes: up to two more may stand before. -/
def closing? (quote : Char) (input : List Char) : Option (List Char × List Char) :=
  let run := (input.takeWhile (· == quote)).length
  if run < 3 then none
  else
    let extra := min (run - 3) 2
    some (List.replicate extra quote, input.drop (extra + 3))

/-- Skips gaps and line breaks; `fuel` bounds the number of breaks. -/
def skipBreaks : Nat → List Char → List Char
  | 0, input => input
  | fuel + 1, input =>
    match newline? (skipGap input) with
    | some rest => skipBreaks fuel rest
    | none => skipGap input

/-- Skips what an escaped line break leaves out: the gap, the break and all white space after it. -/
def skipEscapedBreak? (input : List Char) : Option (List Char) :=
  (newline? (skipGap input)).map (skipBreaks input.length)

/-- A string of several lines after its opening quotes; each of its line breaks is one character. -/
def longString (dialect : Dialect) (quote : Char) (escapes : Bool) : Nat → Reader (List Char)
  | 0, _ => none
  | _ + 1, [] => none
  | fuel + 1, c :: rest =>
    match closing? quote (c :: rest) with
    | some found => some found
    | none =>
      if escapes && c == '\\' then
        match skipEscapedBreak? rest with
        | some after => longString dialect quote escapes fuel after
        | none => do
          let (escaped, after) ← escape? dialect rest
          let (text, last) ← longString dialect quote escapes fuel after
          some (escaped :: text, last)
      else
        match newline? (c :: rest) with
        | some after =>
          (longString dialect quote escapes fuel after).map fun (text, last) =>
            ('\n' :: text, last)
        | none =>
          if isPrintable c then
            (longString dialect quote escapes fuel rest).map fun (text, last) => (c :: text, last)
          else
            none

/-- A string of several lines, whose first line break does not count. -/
def blockString (dialect : Dialect) (quote : Char) (escapes : Bool) (input : List Char) :
    Option (List Char × List Char) :=
  longString dialect quote escapes (input.length + 1) ((newline? input).getD input)

def string? (dialect : Dialect) : Reader String
  | '"' :: '"' :: '"' :: rest => (blockString dialect '"' true rest).map (·.map String.ofList id)
  | '\'' :: '\'' :: '\'' :: rest =>
    (blockString dialect '\'' false rest).map (·.map String.ofList id)
  | '"' :: rest => (basicString dialect (rest.length + 1) rest).map (·.map String.ofList id)
  | '\'' :: rest => (literalString rest).map (·.map String.ofList id)
  | _ => none

/-! ## Numbers and dates -/

/-- Digits with single underscores between them, without the underscores. -/
def digits? (isDigit : Char → Bool) : List Char → Option (List Char)
  | [] => none
  | c :: rest => if isDigit c then (after rest).map (c :: ·) else none
where
  after : List Char → Option (List Char)
    | [] => some []
    | '_' :: c :: rest => if isDigit c then (after rest).map (c :: ·) else none
    | c :: rest => if isDigit c then (after rest).map (c :: ·) else none

/-- The number that digits of a base spell. -/
def number? (base : Nat) (token : List Char) : Option Nat := do
  let digits ← digits? (fun c => ((Text.hexDigit? c).any (· < base))) token
  some (digits.foldl (fun value c => value * base + (Text.hexDigit? c).getD 0) 0)

/-- Decimal digits without a needless leading zero. -/
def plainDigits? (token : List Char) : Option (List Char) := do
  let digits ← digits? Char.isDigit token
  if digits.head? = some '0' ∧ digits.length > 1 then none else some digits

/-- A token without its sign, and whether the sign is a minus. -/
def unsigned : List Char → Bool × List Char
  | '-' :: rest => (true, rest)
  | '+' :: rest => (false, rest)
  | token => (false, token)

/-- A whole number of 64 bits with a sign. -/
def integer? (token : List Char) : Option Value := do
  let (negative, magnitude) := unsigned token
  let digits ← plainDigits? magnitude
  let value : Nat := digits.foldl (fun value c => value * 10 + (c.toNat - 48)) 0
  if negative then
    if value = 0 then some (.natural 0)
    else if value ≤ Text.signedBound then some (.integer (-(value : Int)))
    else none
  else
    if value < Text.signedBound then some (.natural value) else none

def based? (token : List Char) : Option Value := do
  let value ← match token with
    | '0' :: 'x' :: rest => number? 16 rest
    | '0' :: 'o' :: rest => number? 8 rest
    | '0' :: 'b' :: rest => number? 2 rest
    | _ => none
  if value < Text.signedBound then some (.natural value) else none

def exponent? (token : List Char) : Option Int := do
  let (negative, magnitude) := unsigned token
  let value : Nat ← number? 10 magnitude
  some (if negative then -(value : Int) else value)

/-- The number of digits after the point and the digits of a number, with its exponent. -/
def decimal? (magnitude : List Char) : Option Text.Decimal := do
  let isMark (c : Char) : Bool := c == 'e' || c == 'E'
  let mantissa := magnitude.takeWhile (fun c => !isMark c)
  let scale := magnitude.dropWhile (fun c => !isMark c)
  let whole ← plainDigits? (mantissa.takeWhile (· != '.'))
  let point := mantissa.dropWhile (· != '.')
  let part ← if point.isEmpty then some [] else digits? Char.isDigit (point.drop 1)
  let exponent ← if scale.isEmpty then some 0 else exponent? (scale.drop 1)
  if point.isEmpty && scale.isEmpty then none
  else some (Text.Decimal.ofDigits whole part exponent)

/-- A number with a fraction or an exponent; the infinite ones and no number at all are nothing. -/
def fraction? (token : List Char) : Option Value := do
  let (_, magnitude) := unsigned token
  if magnitude = ['i', 'n', 'f'] ∨ magnitude = ['n', 'a', 'n'] then some .null
  else
    let decimal ← decimal? magnitude
    if decimal.isInfinite then none else some (.other (String.ofList token))

/-- The number that exactly `width` decimal digits spell, and the rest. -/
def fixed? (width : Nat) (input : List Char) : Option (Nat × List Char) :=
  let digits := input.take width
  if digits.length = width ∧ digits.all Char.isDigit then
    some (digits.foldl (fun value c => value * 10 + (c.toNat - 48)) 0, input.drop width)
  else
    none

/-- Skips a character that must stand here. -/
def skip? (c : Char) : List Char → Option (List Char)
  | first :: rest => if first = c then some rest else none
  | [] => none

def daysIn (year month : Nat) : Nat :=
  if month = 2 then
    if year % 4 = 0 ∧ (year % 100 ≠ 0 ∨ year % 400 = 0) then 29 else 28
  else if month = 4 ∨ month = 6 ∨ month = 9 ∨ month = 11 then 30
  else 31

def skipDate? (input : List Char) : Option (List Char) := do
  let (year, rest) ← fixed? 4 input
  let (month, rest) ← fixed? 2 (← skip? '-' rest)
  let (day, rest) ← fixed? 2 (← skip? '-' rest)
  if 1 ≤ month ∧ month ≤ 12 ∧ 1 ≤ day ∧ day ≤ daysIn year month then some rest else none

/-- Skips the seconds of a time and their fraction. -/
def skipSeconds? (input : List Char) : Option (List Char) := do
  let (second, rest) ← fixed? 2 (← skip? ':' input)
  if second ≤ 60 then
    match rest with
    | '.' :: c :: after => if c.isDigit then some (after.dropWhile Char.isDigit) else none
    | _ => some rest
  else
    none

def skipTime? (dialect : Dialect) (input : List Char) : Option (List Char) := do
  let (hour, rest) ← fixed? 2 input
  let (minute, rest) ← fixed? 2 (← skip? ':' rest)
  if hour < 24 ∧ minute < 60 then
    if dialect = .wide ∧ rest.head? ≠ some ':' then some rest else skipSeconds? rest
  else
    none

/-- Whether a text is a distance from universal time. -/
def isOffset : List Char → Bool
  | [] | ['Z'] | ['z'] => true
  | '+' :: rest | '-' :: rest =>
    match (do
      let (hour, after) ← fixed? 2 rest
      let (minute, last) ← fixed? 2 (← skip? ':' after)
      some (decide (hour < 24 ∧ minute < 60) && last.isEmpty) : Option Bool) with
    | some valid => valid
    | none => false
  | _ => false

/-- Whether a token is a date, a time or both. -/
def isMoment (dialect : Dialect) (token : List Char) : Bool :=
  match skipDate? token with
  | some [] => true
  | some (c :: rest) =>
    (c == 'T' || c == 't' || c == ' ') && (skipTime? dialect rest).any isOffset
  | none => (skipTime? dialect token).any List.isEmpty

/-- The value of a token without quotes. -/
def tokenValue? (dialect : Dialect) (token : List Char) : Option Value :=
  if token = "true".toList then some (.bool true)
  else if token = "false".toList then some (.bool false)
  else
    match integer? token with
    | some value => some value
    | none =>
      match based? token with
      | some value => some value
      | none =>
        if isMoment dialect token then some (.other (String.ofList token)) else fraction? token

/-- Whether a character may stand in a token. -/
def isTokenChar (c : Char) : Bool := isBare c || c == '+' || c == '.' || c == ':'

/-- A value without quotes; a date and a time may be one blank apart. -/
def bareValue (dialect : Dialect) (input : List Char) : Option (Value × List Char) :=
  let token := input.takeWhile isTokenChar
  match skipDate? token, input.drop token.length with
  | some [], ' ' :: c :: rest =>
    if c.isDigit then
      let time := (c :: rest).takeWhile isTokenChar
      (tokenValue? dialect (token ++ ' ' :: time)).map (·, (c :: rest).drop time.length)
    else
      (tokenValue? dialect token).map (·, ' ' :: c :: rest)
  | _, rest => (tokenValue? dialect token).map (·, rest)

/-! ## Keys -/

def keyPart (dialect : Dialect) (input : List Char) : Option (String × List Char) :=
  match input with
  | '"' :: rest => (basicString dialect (rest.length + 1) rest).map (·.map String.ofList id)
  | '\'' :: rest => (literalString rest).map (·.map String.ofList id)
  | _ =>
    let bare := input.takeWhile isBare
    if bare.isEmpty then none else some (String.ofList bare, input.drop bare.length)

/-- A key of one or more parts with dots between them; `room` bounds their number. -/
def keyFrom (dialect : Dialect) : Nat → Reader (List String)
  | 0, _ => none
  | room + 1, input => do
    let (part, rest) ← keyPart dialect (skipGap input)
    match skipGap rest with
    | '.' :: after => (keyFrom dialect room after).map fun (parts, last) => (part :: parts, last)
    | after => some ([part], after)

/-- A key, and what follows it behind a gap. -/
def key (dialect : Dialect) (input : List Char) : Option (List String × List Char) :=
  keyFrom dialect dialect.depth input

/-! ## Tables -/

/-- How a table came to be. -/
inductive TableForm where
  | implied
  | headed
  | dotted
  deriving DecidableEq, Repr

/-- What stands under a key. -/
inductive Node where
  /-- A value that nothing can be added to. -/
  | closed (value : Value)
  | table (form : TableForm) (entries : List (String × Node))
  /-- A list of tables, each with a header. -/
  | rows (tables : List (List (String × Node)))

abbrev Entries := List (String × Node)

/-- Changes what stands under a key. -/
def alter (name : String) (change : Option Node → Option Node) : Entries → Option Entries
  | [] => (change none).map fun node => [(name, node)]
  | (other, node) :: rest =>
    if other = name then (change (some node)).map fun next => (other, next) :: rest
    else (alter name change rest).map ((other, node) :: ·)

/-- Changes the last row of a list of tables. -/
def changeLast (change : Entries → Option Entries) : List Entries → Option (List Entries)
  | [] => none
  | [row] => (change row).map ([·])
  | row :: rest => (changeLast change rest).map (row :: ·)

/-- Changes the entries of a table, or of the last one in a list. -/
def Node.change (change : Entries → Option Entries) : Option Node → Option Node
  | none => (change []).map (.table .implied)
  | some (.table form entries) => (change entries).map (.table form)
  | some (.rows tables) => (changeLast change tables).map .rows
  | some (.closed _) => none

/-- Changes what stands at the end of a path of headers, making the tables on the way. -/
def atPath (change : Option Node → Option Node) : List String → Entries → Option Entries
  | [], entries => some entries
  | [name], entries => alter name change entries
  | name :: rest, entries => alter name (Node.change (atPath change rest)) entries

def openTable : Option Node → Option Node
  | none => some (.table .headed [])
  | some (.table .implied entries) => some (.table .headed entries)
  | some _ => none

/-- Opens one more table of a list by its header. -/
def openRow : Option Node → Option Node
  | none => some (.rows [[]])
  | some (.rows tables) => some (.rows (tables ++ [[]]))
  | some _ => none

/-- Puts a value under a name that is free. -/
def putNew (value : Value) (name : String) : Entries → Option Entries :=
  alter name fun found => if found.isNone then some (.closed value) else none

/--
Puts a value under a dotted key.  Tables with a header of their own are not reached by such a key,
and the table that gets the value must itself come from dotted keys.
-/
def put (value : Value) : List String → Entries → Option Entries
  | [], _ => none
  | [name], entries => putNew value name entries
  | [name, last], entries =>
    alter name
      (fun
        | none => (putNew value last []).map (.table .dotted)
        | some (.table .dotted inner) => (putNew value last inner).map (.table .dotted)
        | some _ => none)
      entries
  | name :: rest, entries =>
    alter name
      (fun
        | none => (put value rest []).map (.table .dotted)
        | some (.table .dotted inner) => (put value rest inner).map (.table .dotted)
        | some (.table .implied inner) => (put value rest inner).map (.table .implied)
        | some (.rows tables) => (changeLast (put value rest) tables).map .rows
        | some _ => none)
      entries

/-- Puts a value under a dotted key of the table with a header. -/
def putAt (header : List String) (path : List String) (value : Value) (entries : Entries) :
    Option Entries :=
  if header.isEmpty then put value path entries
  else atPath (Node.change (put value path)) header entries

mutual

/-- The value that stands under a key. -/
def Node.value : Node → Value
  | .closed value => value
  | .table _ entries => .table (entryValues entries)
  | .rows tables => .list (rowValues tables)

def entryValues : List (String × Node) → List (String × Value)
  | [] => []
  | (name, node) :: rest => (name, node.value) :: entryValues rest

def rowValues : List (List (String × Node)) → List Value
  | [] => []
  | row :: rest => .table (entryValues row) :: rowValues rest

end

/-! ## Values -/

/-- Skips what may stand between the members of a table in braces. -/
def skipBetween (dialect : Dialect) (input : List Char) : Option (List Char) :=
  match dialect with
  | .wide => skipLines input.length input
  | .narrow => some (skipGap input)

mutual

/-- A value of any kind; `room` bounds its depth, and `fuel` its length. -/
def value (dialect : Dialect) : (fuel room : Nat) → Reader Value
  | 0, _, _ => none
  | fuel + 1, room, input =>
    match input, room with
    | '[' :: rest, room + 1 => do
      let (items, last) ← items dialect fuel room rest
      some (.list items, last)
    | '{' :: rest, room + 1 => do
      let (entries, last) ← firstMember dialect fuel room rest
      some (.table (entryValues entries), last)
    | '[' :: _, 0 | '{' :: _, 0 => none
    | '"' :: _, _ | '\'' :: _, _ => (string? dialect input).map (·.map .text id)
    | _, _ => bareValue dialect input

/-- The items of a list after its bracket, or after a comma. -/
def items (dialect : Dialect) : (fuel room : Nat) → Reader (List Value)
  | 0, _, _ => none
  | fuel + 1, room, input => do
    match ← skipLines input.length input with
    | ']' :: rest => some ([], rest)
    | start =>
      let (item, after) ← value dialect fuel room start
      match ← skipLines after.length after with
      | ']' :: rest => some ([item], rest)
      | ',' :: rest => do
        let (more, last) ← items dialect fuel room rest
        some (item :: more, last)
      | _ => none

/-- The members of a table in braces, if there are any. -/
def firstMember (dialect : Dialect) : (fuel room : Nat) → Reader Entries
  | 0, _, _ => none
  | fuel + 1, room, input => do
    match ← skipBetween dialect input with
    | '\x7d' :: last => some ([], last)
    | start => members dialect fuel room [] start

/-- The members of a table in braces, at least one. -/
def members (dialect : Dialect) : (fuel room : Nat) → Entries → Reader Entries
  | 0, _, _, _ => none
  | fuel + 1, room, entries, input => do
    let (path, rest) ← key dialect input
    let (found, after) ← value dialect fuel room (skipGap (← skip? '=' rest))
    let next ← put found path entries
    match ← skipBetween dialect after with
    | '\x7d' :: last => some (next, last)
    | ',' :: more =>
      match ← skipBetween dialect more with
      | '\x7d' :: last => if dialect = .wide then some (next, last) else none
      | start => members dialect fuel room next start
    | _ => none

end

/-! ## Lines -/

/-- A header after its brackets. -/
def header (dialect : Dialect) (closing : List Char) (input : List Char) :
    Option (List String × List Char) := do
  let (path, rest) ← key dialect input
  if closing.isPrefixOf rest then
    some (path, ← lineEnd? (rest.drop closing.length))
  else
    none

/-- Reads the lines below a header; `fuel` bounds their number. -/
def readLines (dialect : Dialect) :
    Nat → (current : List String) → Entries → List Char → Option Entries
  | 0, _, _, _ => none
  | fuel + 1, current, entries, input =>
    match skipGap input with
    | [] => some entries
    | '[' :: '[' :: rest => do
      let (path, last) ← header dialect [']', ']'] rest
      readLines dialect fuel path (← atPath openRow path entries) last
    | '[' :: rest => do
      let (path, last) ← header dialect [']'] rest
      readLines dialect fuel path (← atPath openTable path entries) last
    | start =>
      match lineEnd? start with
      | some last => readLines dialect fuel current entries last
      | none => do
        let (path, rest) ← key dialect start
        let (found, after) ←
          value dialect (input.length + 1) dialect.depth (skipGap (← skip? '=' rest))
        readLines dialect fuel current (← putAt current path found entries) (← lineEnd? after)

/-- The key under which a table keeps a date that it stands for. -/
def dateKey : String := "$__toml_private_datetime"

/-- The first key in the order of the keys. -/
def leastKey? (entries : List (String × Value)) : Option String :=
  entries.foldl (fun least entry =>
    match least with
    | some key => if entry.1 < key then some entry.1 else some key
    | none => some entry.1) none

/-- Whether a table that stands for a date holds one. -/
def holdsDate (entries : List (String × Value)) : Bool :=
  ((Value.lookup? entries dateKey).bind Value.asText?).any fun text => isMoment .wide text.toList

mutual

/-- Whether every table that stands for a date, by its first key, holds one. -/
def isDated : Value → Bool
  | .table entries =>
    if leastKey? entries = some dateKey then holdsDate entries else areDatedEntries entries
  | .list items => areDated items
  | .null | .bool _ | .natural _ | .integer _ | .other _ | .text _ => true

/-- Whether every table in a list of values is sound in this way. -/
def areDated : List Value → Bool
  | [] => true
  | item :: rest => isDated item && areDated rest

/-- Whether every table below a table is sound in this way. -/
def areDatedEntries : List (String × Value) → Bool
  | [] => true
  | (_, item) :: rest => isDated item && areDatedEntries rest

end

/-- A text without a leading byte order mark. -/
def withoutMark : List Char → List Char
  | '\ufeff' :: rest => rest
  | input => input

/-- The table that a document spells. -/
def parse? (dialect : Dialect) (text : String) : Option (List (String × Value)) :=
  let input := withoutMark text.toList
  (readLines dialect (input.length + 1) [] [] input).map entryValues

/-- Whether a text is a document at all: in the wide dialect, and with its dates in order. -/
def isSound (text : String) : Bool :=
  match parse? .wide text with
  | some entries => isDated (.table entries)
  | none => false

end Confinement.Settings.Document
