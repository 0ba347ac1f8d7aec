import Confinement.Daemon.Pattern
import Confinement.Settings.Selector
import Confinement.Text.Utf8

/-!
# Log filters

A log filter is a list of directives with commas between them.  A directive names a target, a span
in brackets or both, and may end with a level; a level alone is a directive too.  A span may name a
field in braces, with a number, a truth value or a pattern for the field's value.

A directive is read without the blanks around it, but its parts are cut out of the whole directive,
at the distances in bytes that were counted without them.  So blanks at the start shift the parts,
and a part may begin or end inside a character.
-/

namespace Confinement.LogFilter

/-- Why a text is no log filter. -/
inductive Fault where
  /-- A directive does not have the form. -/
  | directive
  /-- The value of a field is no pattern. -/
  | field (fault : Pattern.Fault)
  /-- What stands in the place of a level is none. -/
  | level
  /-- A part begins or ends inside a character, which breaks the daemon off. -/
  | torn
  deriving DecidableEq, Repr

/-- The text under which a fault is told. -/
def Fault.message : Fault → String
  | .directive => "invalid filter directive"
  | .field fault => "invalid field filter: " ++ fault.message
  | .level =>
    "error parsing level filter: expected one of \"off\", \"error\", \"warn\", \"info\", " ++
    "\"debug\", \"trace\", or a number 0-5"
  | .torn => ""

def levelWords : List String := ["", "off", "error", "warn", "info", "debug", "trace"]

def isLevel (word : String) : Bool :=
  match Text.unsigned? Text.longBound word with
  | some value => value ≤ 5
  | none => levelWords.contains (Settings.lowered word)

/-- The part of a text between two distances from its start, unless it cuts a character. -/
def part? (text : String) (start finish : Nat) : Option String := do
  let data := Text.bytes text
  let _ ← Text.ofBytes? (data.take start)
  Text.ofBytes? ((data.take finish).drop start)

def cut (directive : String) (start finish : Nat) : Except Fault String :=
  match part? directive start finish with
  | some part => .ok part
  | none => .error .torn

/-- Judges a field: its name and, after an equals sign, what its value has to be. -/
def checkField (field : String) : Except Fault Unit :=
  match field.splitOn "=" with
  | _ :: value :: _ =>
    if value = "true" ∨ value = "false" ∨ Text.isFloat value then .ok ()
    else
      match Pattern.fault? value with
      | some fault => .error (.field fault)
      | none => .ok ()
  | _ => .ok ()

/-- How far a directive has been read. -/
inductive Progress where
  | start
  | target
  /-- The span in brackets, which begins at a distance. -/
  | span (start : Nat)
  /-- A field of the span, which begins at a distance. -/
  | field (start : Nat)
  | fields
  | afterSpan
  /-- The level, which begins at a distance. -/
  | level (start : Nat)
  deriving DecidableEq, Repr

def mayBegin (c : Char) : Bool := c == '-' || c == ':' || c == '_' || Text.isAlphanumeric c

/-- What follows when a character is read at a distance from the start of a directive. -/
def advance (directive : String) (distance : Nat) (c : Char) : Progress → Except Fault Progress
  | .start =>
    if c = '[' then .ok (.span (distance + 1))
    else if mayBegin c then .ok .target
    else .error .directive
  | .target =>
    if c = '=' then do
      let _ ← cut directive 0 distance
      return .level (distance + 1)
    else if c = '[' then do
      let _ ← cut directive 0 distance
      return .span (distance + 1)
    else .ok .target
  | .span start =>
    if c = ']' then do
      let _ ← cut directive start distance
      return .afterSpan
    else if c = '{' then do
      let _ ← cut directive start distance
      return .field (distance + 1)
    else .ok (.span start)
  | .field start =>
    if c = '}' then do
      let field ← cut directive start distance
      if field = "" then throw .directive
      checkField field
      return .fields
    else .ok (.field start)
  | .fields => if c = ']' then .ok .afterSpan else .error .directive
  | .afterSpan => if c = '=' then .ok (.level (distance + 1)) else .error .directive
  | .level start => .ok (.level start)

/-- Reads the characters of a directive from a distance on. -/
def progress (directive : String) (distance : Nat) :
    List Char → Progress → Except Fault Progress
  | [], reached => .ok reached
  | c :: rest, reached => do
    progress directive (distance + c.utf8Size) rest (← advance directive distance c reached)

def checkDirective (directive : String) : Except Fault Unit := do
  match ← progress directive 0 (Text.trim directive).toList .start with
  | .target | .afterSpan => return
  | .level start =>
    let level ← cut directive start directive.utf8ByteSize
    if isLevel level then return else throw .level
  | .start | .span _ | .field _ | .fields => throw .directive

/-- The fault of a log filter: that of its first faulty directive. -/
def fault? (filter : String) : Option Fault :=
  match ((filter.splitOn ",").filter (· ≠ "")).forM checkDirective with
  | .ok () => none
  | .error fault => some fault

end Confinement.LogFilter
