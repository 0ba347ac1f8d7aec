import Confinement.Proofs.Endpoint.RoundTrip
import Confinement.Settings.Value

/-!
# Addresses in stored values

A stored value gives an endpoint as a text or by its fields.  A text is only taken with an address,
but a field is taken as it stands, so an endpoint without an address comes from a value whose field
for the address is the empty text, and from no other (`address_ne_empty_iff`).
-/

namespace Confinement

/-- The path or the host by which an endpoint is reached. -/
def Endpoint.address : Endpoint → String
  | .unix path => path
  | .tcp host _ => host

/-- A text is only read as an endpoint that has an address. -/
theorem Endpoint.address_ne_empty_of_parse
    {text : String} {endpoint : Endpoint}
    (read : parse text = .ok endpoint) :
    endpoint.address ≠ "" := by
  have was := wasRead_of_parse read
  cases endpoint with
  | unix path => exact was
  | tcp host port => exact fun nothing => was.1.some (String.toList_eq_nil_iff.2 nothing)

namespace Settings

/-- The field that holds the address of an endpoint of one form. -/
def Transport.addressKey : Transport → String
  | .unix => "path"
  | .tcp => "host"

/-- What stands in the field for the address, in a value that gives an endpoint by its fields. -/
def Value.addressField? : Value → Option Value
  | .table entries =>
    ((lookup? entries "transport").bind Transport.ofValue?).bind fun transport =>
      lookup? entries transport.addressKey
  | .list (_ :: address :: _) => some address
  | .list [_] | .list [] => none
  | .null | .bool _ | .natural _ | .integer _ | .other _ | .text _ => none

variable {value : Value} {endpoint : Endpoint}

theorem eq_text_of_asText?
    {field : Option Value} {text : String}
    (read : field.bind Value.asText? = some text) :
    field = some (.text text) := by
  obtain ⟨value, rfl, found⟩ := Option.bind_eq_some_iff.1 read
  cases value with
  | text other =>
      obtain rfl : other = text := Option.some.inj found
      rfl
  | null | bool | natural | integer | other | list | table => cases found

/-- The address of an endpoint that is made from fields is what its field says. -/
theorem address_of_endpoint?
    {path host port : Option Value} {transport : Transport}
    (made : transport.endpoint? path host port = some endpoint) :
    (match transport with | .unix => path | .tcp => host) = some (.text endpoint.address) := by
  cases transport with
  | unix =>
      obtain ⟨text, found, rfl⟩ := Option.map_eq_some_iff.1 made
      exact eq_text_of_asText? found
  | tcp =>
      rw [Transport.endpoint?] at made
      split at made
      · rename_i found _
        cases made
        exact eq_text_of_asText? found
      · cases made

theorem addressField?_of_table
    {entries : List (String × Value)}
    (read : endpointOfTable? entries = some endpoint) :
    (Value.table entries).addressField? = some (.text endpoint.address) := by
  rw [endpointOfTable?] at read
  obtain ⟨transport, form, made⟩ := Option.bind_eq_some_iff.1 read
  have stated := address_of_endpoint? made
  rw [Value.addressField?, form]
  cases transport with
  | unix => exact stated
  | tcp => exact stated

theorem addressField?_of_list
    {items : List Value}
    (read : endpointOfList? items = some endpoint) :
    (Value.list items).addressField? = some (.text endpoint.address) := by
  rw [endpointOfList?.eq_def] at read
  split at read
  · split at read
    · exact address_of_endpoint? read
    · cases read
  · split at read
    · exact address_of_endpoint? read
    · cases read
  · cases read

/-- An endpoint comes from a text, and has an address, or has the address that its field says. -/
theorem addressField?_of_value
    (read : endpointOfValue value = .ok endpoint) :
    value.addressField? = none ∧ endpoint.address ≠ "" ∨
      value.addressField? = some (.text endpoint.address) := by
  cases value with
  | text text =>
      refine .inl ⟨rfl, ?_⟩
      cases parsed : Endpoint.parse text with
      | ok found =>
          rw [endpointOfValue, parsed] at read
          cases read
          exact Endpoint.address_ne_empty_of_parse parsed
      | error error =>
          rw [endpointOfValue, parsed] at read
          cases read
  | table entries =>
      rw [endpointOfValue] at read
      split at read
      · rename_i found
        cases read
        exact .inr (addressField?_of_table found)
      · cases read
  | list items =>
      rw [endpointOfValue] at read
      split at read
      · rename_i found
        cases read
        exact .inr (addressField?_of_list found)
      · cases read
  | null | bool | natural | integer | other => cases read

/--
An endpoint that is read from a stored value has an address exactly if the value does not say, in
the field for the address, that there is none.  So every text gives an endpoint with an address.
-/
theorem address_ne_empty_iff (read : endpointOfValue value = .ok endpoint) :
    endpoint.address ≠ "" ↔ value.addressField? ≠ some (.text "") := by
  rcases addressField?_of_value read with ⟨textual, some⟩ | stated
  · rw [textual]
    exact iff_of_true some nofun
  · rw [stated]
    constructor
    · rintro some same
      exact some (Value.text.inj (Option.some.inj same))
    · rintro other nothing
      exact other (by rw [nothing])

/-- A host that is stated by its field, and one that stands in a text. -/
theorem address_ne_empty_iff_of_host :
    let table : Value :=
      .table [("port", .natural 80), ("host", .text "h"), ("transport", .text "tcp")]
    (endpointOfValue table = .ok (.tcp "h" 80) ∧ (Endpoint.tcp "h" 80).address ≠ "") ∧
      endpointOfValue (.text "tcp://h:80") = .ok (.tcp "h" 80) ∧
      (Endpoint.tcp "h" 80).address ≠ "" := by
  intro table
  have stated : endpointOfValue table = .ok (.tcp "h" 80) := by decide
  have told : endpointOfValue (.text "tcp://h:80") = .ok (.tcp "h" 80) := by decide +kernel
  refine ⟨⟨stated, (address_ne_empty_iff stated).2 ?_⟩, told, (address_ne_empty_iff told).2 nofun⟩
  intro same
  have empty : ("h" : String) = "" := Value.text.inj (Option.some.inj same)
  exact absurd empty (by decide)

/-- The path of a socket file may be stated to be nothing. -/
theorem stated_without_address :
    ¬∀ value endpoint, endpointOfValue value = .ok endpoint → endpoint.address ≠ "" := by
  intro always
  have read : endpointOfValue (.table [("transport", .text "unix"), ("path", .text "")]) =
      .ok (.unix "") := by decide
  exact always _ _ read rfl

end Settings

end Confinement
