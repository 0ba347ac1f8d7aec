import Confinement.Endpoint.Basic

/-!
# Stored values

The values that a configuration file or a structured document can hold, and how an endpoint is read
from one: as a text, or as a table whose key `transport` says which fields to expect.  A list of the
fields in order is read like a table.
-/

namespace Confinement.Settings

/-- A stored value. -/
inductive Value where
  | null
  | bool (value : Bool)
  /-- A number without a sign. -/
  | natural (value : Nat)
  | integer (value : Int)
  /-- Any other scalar: a number with a fraction, a date. -/
  | other (text : String)
  | text (value : String)
  | list (items : List Value)
  | table (entries : List (String × Value))
  deriving Inhabited

namespace Value

/-- The entry of a table under a key. -/
def lookup? (entries : List (String × Value)) (key : String) : Option Value := entries.lookup key

/-- The entries of a table; any other value has none. -/
def entries : Value → List (String × Value)
  | .table entries => entries
  | _ => []

/-- Puts a value under a key, in place of what stood there. -/
def put (key : String) (value : Value) : List (String × Value) → List (String × Value)
  | [] => [(key, value)]
  | (name, found) :: rest =>
    if name = key then (name, value) :: rest else (name, found) :: put key value rest

@[simp]
theorem lookup?_put (key asked : String) (value : Value) (entries : List (String × Value)) :
    lookup? (put key value entries) asked =
      if asked = key then some value else lookup? entries asked := by
  induction entries with
  | nil =>
    by_cases same : asked = key
    · simp [put, lookup?, same]
    · have skipped : (asked == key) = false := by simpa using same
      simp [put, lookup?, same, List.lookup_cons, skipped]
  | cons entry rest hypothesis =>
    obtain ⟨name, found⟩ := entry
    by_cases same : asked = name
    · subst same
      by_cases here : asked = key <;> simp [put, lookup?, here]
    · have skipped : (asked == name) = false := by simpa using same
      by_cases here : name = key
      · subst here
        simp [put, lookup?, same, List.lookup_cons, skipped]
      · rw [put, if_neg here]
        simpa [lookup?, List.lookup_cons, skipped] using hypothesis

mutual

/-- One value over another: tables are joined key by key, and anything else is replaced. -/
def overlay (below : Value) : Value → Value
  | .table above => .table (overlayEntries below.entries above)
  | .null => .null
  | .bool value => .bool value
  | .natural value => .natural value
  | .integer value => .integer value
  | .other scalar => .other scalar
  | .text value => .text value
  | .list items => .list items

/-- Entries over others, one after another. -/
def overlayEntries (below : List (String × Value)) :
    List (String × Value) → List (String × Value)
  | [] => below
  | (key, value) :: rest =>
    overlayEntries (put key (overlay ((lookup? below key).getD .null) value) below) rest

end

def asText? : Value → Option String
  | .text value => some value
  | _ => none

/-- The number below `bound` that a value is. -/
def asNat? (bound : Nat) : Value → Option Nat
  | .natural value => if value < bound then some value else none
  | .integer value => if 0 ≤ value ∧ value.toNat < bound then some value.toNat else none
  | _ => none

def asBool? : Value → Option Bool
  | .bool value => some value
  | _ => none

end Value

/-- The two forms of an endpoint's table. -/
inductive Transport where
  | unix
  | tcp
  deriving DecidableEq, Repr

/-- The form that a value names, by its word or by its number. -/
def Transport.ofValue? : Value → Option Transport
  | .text "unix" | .natural 0 => some .unix
  | .text "tcp" | .natural 1 => some .tcp
  | _ => none

/-- The endpoint of one form with the given fields. -/
def Transport.endpoint? (path host port : Option Value) : Transport → Option Endpoint
  | .unix => (path.bind Value.asText?).map .unix
  | .tcp =>
    match host.bind Value.asText?, port.bind (Value.asNat? 65536) with
    | some host, some port => some (.tcp host port)
    | _, _ => none

/-- Why a value is no endpoint. -/
inductive EndpointValueError where
  /-- It is a text that is no endpoint. -/
  | text (error : EndpointError)
  | shape
  deriving DecidableEq, Repr

/-- The text under which the error is told. -/
def EndpointValueError.message : EndpointValueError → String
  | .text error => error.message
  | .shape => "data did not match any variant of untagged enum EndpointRepr"

def endpointOfTable? (entries : List (String × Value)) : Option Endpoint :=
  let field := Value.lookup? entries
  ((field "transport").bind Transport.ofValue?).bind
    (Transport.endpoint? (field "path") (field "host") (field "port"))

/-- The endpoint that a list of fields spells. -/
def endpointOfList? : List Value → Option Endpoint
  | [transport, path] =>
    match Transport.ofValue? transport with
    | some .unix => Transport.endpoint? (some path) none none .unix
    | _ => none
  | [transport, host, port] =>
    match Transport.ofValue? transport with
    | some .tcp => Transport.endpoint? none (some host) (some port) .tcp
    | _ => none
  | _ => none

def endpointOfValue : Value → Except EndpointValueError Endpoint
  | .text text => (Endpoint.parse text).mapError .text
  | .table entries =>
    match endpointOfTable? entries with
    | some endpoint => .ok endpoint
    | none => .error .shape
  | .list items =>
    match endpointOfList? items with
    | some endpoint => .ok endpoint
    | none => .error .shape
  | _ => .error .shape

end Confinement.Settings
