import Confinement.Proofs.Client.Requests
import Confinement.Proofs.Wire.Plain

/-!
# Printed answers

An answer is printed with one line for each record that was received, its fields put together as
they stand.  The lines have the form of records, but nothing in them is escaped: a decoder reads the
records back from them exactly when every record is plain (`printed_is_read_back_iff`).  A blank, a
line feed or a backslash in a field can show records that were never sent
(`listing_shows_unsent_ending`).
-/

namespace Confinement

open Host Wire

/-! ## Lines -/

theorem bytes_spaced (words : List String) :
    Text.bytes (spaced words) = (Record.ofTexts words).bareBody := by
  induction words with
  | nil => rfl
  | cons word rest hypothesis =>
      cases rest with
      | nil =>
          rw [spaced, String.intercalate_singleton]
          rfl
      | cons next others =>
          rw [spaced, String.intercalate_cons_cons, Text.bytes_append, Text.bytes_append,
            List.append_assoc]
          exact congrArg (Text.bytes word ++ separator :: ·) hypothesis

/-- The bytes that are printed for each line of an answer. -/
def Answer.printed (answer : Answer) : List Bytes :=
  answer.lines.map fun line => Text.bytes (line ++ "\n")

/-- Every record of an answer is printed as it stands. -/
theorem Answer.printed_eq (answer : Answer) : answer.printed = answer.records.map Record.bare := by
  have line (words : List String) :
      Text.bytes (spaced words ++ "\n") = (Record.ofTexts words).bare := by
    rw [Text.bytes_append, bytes_spaced]
    rfl
  simp only [printed, lines, records, List.map_append, List.map_map, List.map_cons, List.map_nil,
    line]
  congr 1
  exact List.map_congr_left fun row _ => line _

/-! ## Records behind an answer -/

/-- Whether an `error` among the records carries one token, as the daemon's do. -/
def Wire.Record.TellsOne (record : Record) : Prop :=
  ∀ fields, record.lossyTexts = "error" :: fields → fields.length = 1

/-- The records from which a client takes an answer: its rows, and one that ends it. -/
inductive Answer.Carried : List Record → Answer → Prop
  | done {record : Record} {fields : List String}
      (told : record.lossyTexts = "done" :: fields) :
      Carried [record] ⟨[], .done fields⟩
  | refused {record : Record} {fields : List String}
      (told : record.lossyTexts = "error" :: fields) :
      Carried [record] ⟨[], .refused (fields.headD "")⟩
  | row {record : Record} {row : List String} {records : List Record} {answer : Answer}
      (told : record.lossyTexts = "string" :: row)
      (rest : Carried records answer) :
      Carried (record :: records) ⟨row :: answer.rows, answer.status⟩

namespace Answer.Carried

variable {sent : List Record} {answer : Answer}

/-- An answer shows the records that carry it, if an `error` among them carries one token. -/
theorem texts
    (carried : Carried sent answer)
    (single : ∀ record ∈ sent, record.TellsOne) :
    answer.records.map Record.lossyTexts = sent.map Record.lossyTexts := by
  induction carried with
  | done told => simp [records, Status.fields, told]
  | @refused record fields told =>
      obtain ⟨token, rfl⟩ := List.length_eq_one_iff.1
        (single record (List.mem_singleton_self record) fields told)
      simp [records, Status.fields, told]
  | @row record row others answer told rest hypothesis =>
      have later := hypothesis fun other member => single other (List.mem_cons_of_mem _ member)
      rw [List.map_cons, told, ← later]
      simp [records]

theorem length_eq (carried : Carried sent answer) : answer.records.length = sent.length := by
  induction carried with
  | done told => rfl
  | refused told => rfl
  | row told rest hypothesis => simpa [records] using hypothesis

/-- What a client shows has no more fields than a record can have. -/
theorem allowed
    (carried : Carried sent answer)
    (bounded : ∀ record ∈ sent, record.length ≤ fieldLimit) :
    ∀ record ∈ answer.records, record.length ≤ fieldLimit := by
  have shown {record : Record} {texts : List String} (told : record.lossyTexts = texts)
      (within : record.length ≤ fieldLimit) :
      (Record.ofTexts texts).length ≤ fieldLimit := by
    rw [Record.ofTexts, List.length_map, ← told, Record.lossyTexts, List.length_map]
    exact within
  induction carried with
  | done told =>
      intro record member
      rw [List.mem_singleton.1 member]
      exact shown told (bounded _ (List.mem_singleton_self _))
  | refused told =>
      intro record member
      rw [List.mem_singleton.1 member]
      exact show 2 ≤ 20 by decide
  | row told rest hypothesis =>
      intro record member
      rcases List.mem_cons.1 member with rfl | later
      · exact shown told (bounded _ List.mem_cons_self)
      · exact hypothesis (fun other inside => bounded other (List.mem_cons_of_mem _ inside))
          record later

end Answer.Carried

/-- The records of an answer have a first field that is not empty. -/
theorem Answer.wire_ne_terminator
    {answer : Answer} {record : Record}
    (member : record ∈ answer.records) :
    record.wire ≠ [terminator] := by
  rcases List.mem_append.1 member with among | last
  · obtain ⟨row, _, rfl⟩ := List.mem_map.1 among
    exact Record.wire_ne_terminator (by decide)
  · obtain rfl := List.mem_singleton.1 last
    cases answer.status with
    | done fields => exact Record.wire_ne_terminator (by decide)
    | refused token => exact Record.wire_ne_terminator (by decide)

namespace Client

/-- The records that are still to come to a client. -/
def coming (client : Client) : List Record := client.connection.coming fun _ => false

/-- An answer is taken from the records that come next, and they carry it. -/
theorem carried_of_collect
    {gathered : List (List String)} {connection next : Connection} {answer : Answer}
    (collected : collect gathered connection = (.ok answer, next)) :
    ∃ sent rows, connection.coming (fun _ => false) = sent ++ next.coming (fun _ => false) ∧
      answer.rows = gathered ++ rows ∧ Answer.Carried sent ⟨rows, answer.status⟩ := by
  fun_induction collect gathered connection with
  | case1 => cases collected
  | case2 => cases collected
  | case3 gathered connection record after awaited row told hypothesis =>
      obtain ⟨sent, rows, whole, same, carried⟩ := hypothesis collected
      refine ⟨record :: sent, row :: rows, ?_, ?_, carried.row told⟩
      · rw [Connection.coming_of_await awaited, whole]
        rfl
      · rw [same, List.append_assoc]
        rfl
  | case4 gathered connection record after awaited fields told =>
      cases collected
      exact ⟨[record], [], Connection.coming_of_await awaited, (List.append_nil _).symm, .done told⟩
  | case5 gathered connection record after awaited fields told =>
      cases collected
      exact ⟨[record], [], Connection.coming_of_await awaited, (List.append_nil _).symm,
        .refused told⟩
  | case6 => cases collected

theorem coming_send (fields : List String) (client : Client) :
    (send fields client).2.coming = client.coming := by
  rw [send]
  split <;> rfl

/-- An answer shows the records that came next, and is printed as they stand. -/
theorem carried_of_ask
    {fields : List String} {client next : Client} {answer : Answer}
    (asked : ask fields client = (.ok answer, next)) :
    ∃ sent, client.coming = sent ++ next.coming ∧ Answer.Carried sent answer := by
  rw [ask, Action.bind_apply] at asked
  have same := coming_send fields client
  generalize send fields client = outcome at asked same
  obtain ⟨error | _, between⟩ := outcome
  · cases asked
  · dsimp only at asked same
    rw [receive] at asked
    cases collected : collect [] between.connection with
    | mk result connection =>
        rw [collected] at asked
        cases asked
        obtain ⟨sent, rows, whole, rfl, carried⟩ := carried_of_collect collected
        refine ⟨sent, ?_, carried⟩
        rw [← same]
        exact whole

theorem bounds_of_mem_coming
    {client : Client} {record : Record}
    (member : record ∈ client.coming) :
    record.length ≤ fieldLimit :=
  (bounds_of_mem_readStream (List.mem_filter.1 member).1).1

/--
Whatever a client is answered, its answer shows the records that came next, one for each printed
line, if an `error` among them carries one token.  A decoder that is fed the printed lines returns
the records of the answer, no more and no fewer, exactly when each of them is plain: no field would
be escaped on the wire, and the record fits.
-/
theorem printed_is_read_back_iff
    {fields : List String} {client next : Client} {answer : Answer}
    (asked : ask fields client = (.ok answer, next))
    (allowEmpty : Bool) :
    ∃ sent, client.coming = sent ++ next.coming ∧
      answer.printed.length = sent.length ∧
      ((∀ record ∈ sent, record.TellsOne) →
        answer.records.map Record.lossyTexts = sent.map Record.lossyTexts) ∧
      ((∃ last, feedAll (Decoder.empty allowEmpty) answer.printed = .done answer.records last ∧
          last.buffered = 0) ↔
        ∀ record ∈ answer.records, record.Plain) := by
  obtain ⟨sent, whole, carried⟩ := carried_of_ask asked
  refine ⟨sent, whole, ?_, carried.texts, ?_⟩
  · rw [Answer.printed_eq, List.length_map, carried.length_eq]
  · have bounded (record : Record) (member : record ∈ sent) : record.length ≤ fieldLimit := by
      have coming : record ∈ client.coming := by
        rw [whole]
        exact List.mem_append_left _ member
      exact bounds_of_mem_coming coming
    rw [Answer.printed_eq]
    exact feedAll_bare_iff (carried.allowed bounded)
      (fun _ member => Answer.wire_ne_terminator member) allowEmpty

/-- A client that has just connected and is sent an answer. -/
def sentAnswer (answer : Answer) : Client := (fresh ⟨[], {}⟩).facing [] [.bytes answer.wire]

theorem ask_sentAnswer
    {fields : List String} {answer : Answer}
    (fits : Fits fields)
    (sendable : answer.Sendable) :
    ∃ next, ask fields (sentAnswer answer) = (.ok answer, next) := by
  have steady : Source.Steady [.bytes answer.wire] := by
    intro cause member
    cases List.mem_singleton.1 member
  have lossless : ∀ outcome ∈ ([] : List WriteOutcome), outcome.Lossless := by simp
  obtain ⟨next, asked, _, _⟩ :=
    ask_of_answered (settled_fresh {}) lossless steady fits sendable (List.append_nil _)
  exact ⟨next, asked⟩

/-- A listing of one path. -/
def listing (path : String) : Answer := ⟨[["path", path, "data"]], .done []⟩

/-- A path without a blank, and with a backslash before an ordinary byte, is read back. -/
theorem listing_is_read_back :
    ∃ next, ask ["display"] (sentAnswer (listing "/opt/a\\b")) = (.ok (listing "/opt/a\\b"), next) ∧
      ∃ last, feedAll (Decoder.empty false) (listing "/opt/a\\b").printed =
          .done (listing "/opt/a\\b").records last ∧
        last.buffered = 0 := by
  have fits : Fits ["display"] := by decide
  have sendable : (listing "/opt/a\\b").Sendable := by decide
  obtain ⟨next, asked⟩ := ask_sentAnswer fits sendable
  obtain ⟨_, _, _, _, readBack⟩ := printed_is_read_back_iff asked false
  exact ⟨next, asked, readBack.2 (by decide)⟩

/-- A listing of a path with a line feed in it. -/
def forged : Answer := listing "a\nerror internal"

/-- The records that its lines show. -/
def forgedRecords : List Record :=
  [Record.ofTexts ["string", "path", "a"], Record.ofTexts ["error", "internal", "data"],
    Record.ofTexts ["done"]]

/-- Its row is cut short, and an ending is shown that was not sent. -/
theorem listing_shows_unsent_ending :
    (∃ next, ask ["display"] (sentAnswer forged) = (.ok forged, next)) ∧
      forged.records = [Record.ofTexts ["string", "path", "a\nerror internal", "data"],
        Record.ofTexts ["done"]] ∧
      ∃ last, feedAll (Decoder.empty false) forged.printed = .done forgedRecords last := by
  have fits : Fits ["display"] := by decide
  have sendable : forged.Sendable := by decide
  have shown : forged.printed.flatten = forgedRecords.flatMap Record.wire := by decide +kernel
  have accepted : feedAll (Decoder.empty false) forged.printed ≠ .refused :=
    feedAll_ne_refused (by decide +kernel)
  have read : readStream false (forgedRecords.flatMap Record.wire) = ⟨forgedRecords, some []⟩ :=
    readStream_wires false (by decide) (by decide)
  have follows := feedAll_follows (Decoder.drained_empty false) accepted
  rw [shown] at follows
  obtain ⟨last, fed, _⟩ := Reception.Follows.done (read ▸ follows)
  exact ⟨ask_sentAnswer fits sendable, rfl, last, fed⟩

end Client

end Confinement
