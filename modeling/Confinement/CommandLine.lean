import Confinement.Text.Terminal

/-!
# Command lines

Reading options from the words of a command line.  A `Grammar` lists the options, and each option
that is read gives an item.  `Grammar.read` collects the items in order and stops at the first
fault, so a request for help counts only when nothing before it was wrong.  A value in a word of its
own is looked at when the next option or the command is reached, or the end.

Where a grammar has room for a command, the first word that it cannot read as an option begins the
command, and every word after it belongs to the command.
-/

namespace Confinement.CommandLine

/-- What an option does. -/
inductive OptionKind (Item : Type) where
  /-- It takes a value, which gives an item or is complained about. -/
  | valued (placeholder : String) (read : String → Except String Item)
  /-- It stands for an item by itself. -/
  | flag (item : Item)
  | help
  | version

/-- An option. -/
structure OptionForm (Item : Type) where
  /-- The name after two dashes. -/
  long : String
  /-- The letter after one dash. -/
  short : Option Char
  kind : OptionKind Item

/-- How an option is shown in a complaint. -/
def OptionForm.shown {Item : Type} (form : OptionForm Item) : String :=
  match form.kind with
  | .valued placeholder _ => "--" ++ form.long ++ " <" ++ placeholder ++ ">"
  | .flag _ | .help | .version => "--" ++ form.long

/-- The options of a program. -/
structure Grammar (Item : Type) where
  options : List (OptionForm Item)
  /-- Whether words other than options make up a command. -/
  takesCommand : Bool

/-- Why a command line was not read to its end. -/
inductive UsageError where
  | help (full : Bool)
  | version
  | missingValue (shown : String)
  /-- The value of an option is of no use. -/
  | invalidValue (shown value cause : String)
  | repeated (shown : String)
  /-- An option that takes no value is given one. -/
  | unneededValue (shown value : String)
  /-- A word has no place on the command line. -/
  | unexpectedWord (word : String)
  deriving DecidableEq, Repr

/-- What a complaint says; it sets apart what it quotes. -/
def UsageError.complaint : UsageError → String
  | .help _ | .version => ""
  | .missingValue shown =>
    "a value is required for '" ++ Terminal.marked shown ++ "' but none was supplied"
  | .invalidValue shown value cause =>
    "invalid value '" ++ Terminal.marked value ++ "' for '" ++ Terminal.marked shown ++
      "': " ++ cause
  | .repeated shown =>
    "the argument '" ++ Terminal.marked shown ++ "' cannot be used multiple times"
  | .unneededValue shown value =>
    "unexpected value '" ++ Terminal.marked value ++ "' for '" ++ Terminal.marked shown ++
      "' found; no more were expected"
  | .unexpectedWord word => "unexpected argument '" ++ Terminal.marked word ++ "' found"

/-- The lines in which a complaint is told, without what a terminal would make of them. -/
def UsageError.message (error : UsageError) : String :=
  Terminal.plain (Terminal.marked "error:" ++ " " ++ error.complaint ++
    "\n\nFor more information, try '" ++ Terminal.marked "--help" ++ "'.\n")

/-- What a word looks like. -/
inductive Shape where
  /-- Two dashes alone, after which there are no options. -/
  | terminator
  /-- A long name, with the text after an equals sign. -/
  | long (name : String) (attached : Option String)
  /-- Letters after one dash. -/
  | letters (letters : List Char)
  | plain
  deriving DecidableEq, Repr

def shape (word : String) : Shape :=
  match word.toList with
  | ['-', '-'] => .terminator
  | '-' :: '-' :: name =>
    .long (String.ofList (name.takeWhile (· ≠ '=')))
      (match name.dropWhile (· ≠ '=') with
        | [] => none
        | _ :: value => some (String.ofList value))
  | '-' :: letter :: rest => .letters (letter :: rest)
  | _ => .plain

/-- An option whose value is in a word of its own. -/
structure Pending (Item : Type) where
  form : OptionForm Item
  value : Option String

/-- What has been read so far. -/
structure Parsed (Item : Type) where
  /-- The long names of the options read, each with its item. -/
  given : List (String × Item) := []
  /-- The option whose value has not been looked at yet. -/
  pending : Option (Pending Item) := none
  command : List String := []

namespace Parsed

variable {Item : Type}

/-- Adds the item of an option that is given for the first time. -/
def add (parsed : Parsed Item) (form : OptionForm Item) (item : Except String Item)
    (value : String) : Except UsageError (Parsed Item) :=
  if parsed.given.any (fun entry => entry.1 == form.long) then
    .error (.repeated form.shown)
  else
    match item with
    | .ok item => .ok { parsed with given := parsed.given ++ [(form.long, item)] }
    | .error cause => .error (.invalidValue form.shown value cause)

def addValue (parsed : Parsed Item) (form : OptionForm Item) (value : String) :
    Except UsageError (Parsed Item) :=
  match form.kind with
  | .valued _ read => parsed.add form (read value) value
  | .flag _ | .help | .version => .ok parsed

/-- Looks at the value that has not been looked at. -/
def settle (parsed : Parsed Item) : Except UsageError (Parsed Item) :=
  match parsed.pending with
  | none => .ok parsed
  | some ⟨form, none⟩ => .error (.missingValue form.shown)
  | some ⟨form, some value⟩ => { parsed with pending := none }.addValue form value

/-- The option that is still without its value. -/
def waiting (parsed : Parsed Item) : Option (OptionForm Item) :=
  match parsed.pending with
  | some ⟨form, none⟩ => some form
  | some ⟨_, some _⟩ | none => none

/-- The items read, in order. -/
def items (parsed : Parsed Item) : List Item := parsed.given.map Prod.snd

end Parsed

namespace Grammar

variable {Item : Type}

def long? (grammar : Grammar Item) (name : String) : Option (OptionForm Item) :=
  grammar.options.find? (fun form => form.long == name)

def short? (grammar : Grammar Item) (letter : Char) : Option (OptionForm Item) :=
  grammar.options.find? (fun form => form.short == some letter)

/--
Whether a word is read as an option.  Where a command may follow, a word is an option only when it
is known throughout.
-/
def isOption (grammar : Grammar Item) : Shape → Bool
  | .terminator | .plain => false
  | .long name _ => (grammar.long? name).isSome || !grammar.takesCommand
  | .letters letters =>
    letters.all (fun letter => (grammar.short? letter).isSome) || !grammar.takesCommand

/-- A text without a leading equals sign. -/
def withoutEquals : List Char → String
  | '=' :: rest => String.ofList rest
  | chars => String.ofList chars

/-- Reads the letters after one dash. -/
def readLetters (grammar : Grammar Item) :
    List Char → Parsed Item → Except UsageError (Parsed Item)
  | [], parsed => .ok parsed
  | letter :: rest, parsed =>
    match grammar.short? letter with
    | none => .error (.unexpectedWord ("-" ++ letter.toString))
    | some form => do
      let settled ← parsed.settle
      match form.kind with
      | .help => .error (.help false)
      | .version => .error .version
      | .flag item => readLetters grammar rest (← settled.add form (.ok item) "")
      | .valued _ _ =>
        if rest.isEmpty then .ok { settled with pending := some ⟨form, none⟩ }
        else settled.addValue form (withoutEquals rest)

def readLong (grammar : Grammar Item) (name : String) (attached : Option String)
    (parsed : Parsed Item) : Except UsageError (Parsed Item) :=
  match grammar.long? name with
  | none => .error (.unexpectedWord ("--" ++ name))
  | some form =>
    match form.kind, attached with
    | .valued _ _, some value => do (← parsed.settle).addValue form value
    | .valued _ _, none => do return { ← parsed.settle with pending := some ⟨form, none⟩ }
    | _, some value => .error (.unneededValue form.shown value)
    | .help, none => do
      let _ ← parsed.settle
      .error (.help true)
    | .version, none => do
      let _ ← parsed.settle
      .error .version
    | .flag item, none => do (← parsed.settle).add form (.ok item) ""

def readOption (grammar : Grammar Item) (parsed : Parsed Item) :
    Shape → Except UsageError (Parsed Item)
  | .long name attached => grammar.readLong name attached parsed
  | .letters letters => grammar.readLetters letters parsed
  | .terminator | .plain => .ok parsed

/-- Takes the words that are left for the command. -/
def readRest (grammar : Grammar Item) (parsed : Parsed Item) :
    List String → Except UsageError (Parsed Item)
  | [] => parsed.settle
  | word :: rest =>
    if grammar.takesCommand then do return { ← parsed.settle with command := word :: rest }
    else .error (.unexpectedWord word)

/-- Reads words in order, the first one as a value when an option waits for one. -/
def readFrom (grammar : Grammar Item) :
    List String → Parsed Item → Except UsageError (Parsed Item)
  | [], parsed => parsed.settle
  | word :: rest, parsed =>
    let seen := shape word
    if seen = .terminator then
      grammar.readRest parsed rest
    else if grammar.isOption seen then do
      readFrom grammar rest (← grammar.readOption parsed seen)
    else
      match parsed.waiting with
      | some form => readFrom grammar rest { parsed with pending := some ⟨form, some word⟩ }
      | none => grammar.readRest parsed (word :: rest)

/-- Reads a command line. -/
def read (grammar : Grammar Item) (words : List String) : Except UsageError (Parsed Item) :=
  grammar.readFrom words {}

end Grammar

end Confinement.CommandLine
