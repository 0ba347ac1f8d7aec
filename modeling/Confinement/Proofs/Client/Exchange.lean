import Confinement.Client.Basic
import Confinement.Proofs.Session.Responses
import Confinement.Proofs.Text.Lenient
import Confinement.Proofs.Wire.Awaiting

/-!
# One exchange of a client

A client whose writes are at most put off sends the whole of a request (`send_of_lossless`).  When
the bytes that lie ahead of it begin with an answer, it collects that answer and takes nothing of
what follows (`collect_of_ahead`).
-/

namespace Confinement

open Host Wire

/-! ## Records that arrive -/

theorem Wire.escape_ne_nil
    {field : Bytes}
    (some : field ≠ []) :
    escape field ≠ [] := by
  cases field with
  | nil => exact absurd rfl some
  | cons byte rest =>
      rw [escape]
      split <;> exact List.cons_ne_nil _ _

/-- A record whose first field is not empty is no bare terminator. -/
theorem Wire.Record.wire_ne_terminator
    {field : Bytes} {record : Record}
    (some : field ≠ []) :
    wire (field :: record) ≠ [terminator] := by
  intro bare
  have nothing : body (field :: record) = [] := by simpa [wire] using bare
  cases record with
  | nil => exact escape_ne_nil some nothing
  | cons next rest =>
      rw [body] at nothing
      · exact escape_ne_nil some (List.append_eq_nil_iff.1 nothing).1
      · exact List.cons_ne_nil _ _

theorem Fits.sendable
    {word : String} {fields : List String}
    (fits : Fits (word :: fields))
    (some : Text.bytes word ≠ []) :
    (Record.ofTexts (word :: fields)).Sendable := by
  refine ⟨?_, fits.2, Record.wire_ne_terminator some⟩
  rw [Record.ofTexts, List.length_map]
  exact fits.1

/-- Whether the records that carry an answer arrive. -/
def Answer.Sendable (answer : Answer) : Prop := ∀ record ∈ answer.records, record.Sendable

instance (answer : Answer) : Decidable answer.Sendable :=
  inferInstanceAs (Decidable (∀ record ∈ answer.records, record.Sendable))

theorem Answer.sendable_of_fits
    {answer : Answer}
    (rows : ∀ row ∈ answer.rows, Fits ("string" :: row))
    (ending : Fits answer.status.fields) :
    answer.Sendable := by
  intro record member
  rcases List.mem_append.1 member with among | last
  · obtain ⟨row, inside, rfl⟩ := List.mem_map.1 among
    exact (rows row inside).sendable (by decide)
  · obtain rfl := List.mem_singleton.1 last
    cases status : answer.status with
    | done fields =>
        rw [status] at ending
        exact Fits.sendable ending (by decide)
    | refused token =>
        rw [status] at ending
        exact Fits.sendable ending (by decide)

/-! ## Receiving -/

namespace Client

variable {connection : Connection}

/-- What a record is to a client that collects an answer. -/
theorem collect_of_await
    {rows : List (List String)} {record : Record} {next : Connection}
    (awaited : connection.await (fun _ => false) = (.ok record, next)) :
    collect rows connection =
      match record.lossyTexts with
      | "string" :: row => collect (rows ++ [row]) next
      | "done" :: fields => (.ok ⟨rows, .done fields⟩, next)
      | "error" :: fields => (.ok ⟨rows, .refused (fields.headD "")⟩, next)
      | words => (.error (.unexpectedReply (spaced words)), next) := by
  rw [collect]
  split
  · simp_all
  · simp_all
  · rename_i found
    rw [awaited] at found
    cases found
    rfl

/-- A client collects the answer that lies ahead, and takes nothing of what follows. -/
theorem collect_of_ahead
    {answer : Answer} {rest : Bytes}
    (sendable : answer.Sendable)
    (steady : connection.source.Steady)
    (whole : connection.ahead = answer.wire ++ rest)
    (gathered : List (List String)) :
    ∃ next, collect gathered connection =
        (.ok ⟨gathered ++ answer.rows, answer.status⟩, next) ∧
      connection.ReadsUpTo rest next := by
  obtain ⟨rows, status⟩ := answer
  induction rows generalizing gathered connection with
  | nil =>
      have arrives := sendable _ (List.mem_singleton_self _)
      rw [← Status.alone, Status.wire_alone] at whole
      obtain ⟨next, awaited, reads⟩ := Connection.await_of_ahead arrives steady whole
      refine ⟨next, ?_, reads⟩
      rw [collect_of_await awaited, Record.lossyTexts_ofTexts, List.append_nil]
      cases status with
      | done fields => rfl
      | refused token => rfl
  | cons row others hypothesis =>
      have arrives := sendable _ (List.mem_append_left _ List.mem_cons_self)
      have later : Answer.Sendable ⟨others, status⟩ := by
        intro record member
        exact sendable record (List.mem_cons_of_mem _ member)
      rw [Answer.wire_cons, List.append_assoc] at whole
      obtain ⟨next, awaited, reads⟩ := Connection.await_of_ahead arrives steady whole
      obtain ⟨last, collected, more⟩ :=
        hypothesis reads.steady (gathered ++ [row]) later reads.ahead
      refine ⟨last, ?_, reads.trans more⟩
      rw [collect_of_await awaited, Record.lossyTexts_ofTexts]
      show collect (gathered ++ [row]) next = _
      rw [collected, List.append_assoc]
      rfl

theorem collect_of_ended
    (steady : connection.source.Steady)
    (nothing : connection.ahead = [])
    (gathered : List (List String)) :
    ∃ next, collect gathered connection = (.error .closed, next) ∧
      connection.ReadsUpTo [] next := by
  obtain ⟨next, awaited, reads⟩ := Connection.await_of_ended steady nothing
  refine ⟨next, ?_, reads⟩
  rw [collect]
  split
  · rename_i found
    rw [awaited] at found
    cases found
    rfl
  · simp_all
  · simp_all

/-! ## Sending -/

/-- A client waits for as long as its writes are put off, and so they come to an end. -/
theorem flushFrom_outcomes
    {fuel : Nat} (encoder : Encoder) {sink : Sink}
    (enough : sink.script.length < fuel) :
    ∃ result last after part, flushFrom fuel encoder sink = (result, last, after) ∧
      after.accepted = sink.accepted ++ part ∧ part ++ last.sealedBytes = encoder.sealedBytes ∧
      (result = .ok () ∧ last.sealedBytes = [] ∨
        (∃ cause, result = .error (.stream cause)) ∧
          ∃ outcome ∈ sink.script, ¬outcome.Lossless) := by
  induction fuel generalizing encoder sink with
  | zero => exact absurd enough (Nat.not_lt_zero _)
  | succ fuel hypothesis =>
      obtain ⟨result, next, after, part, flushed, suffix, taken, split, outcome⟩ :=
        encoder.flush_outcomes sink
      rw [flushFrom, flushed]
      rcases outcome with ⟨⟨count, rfl⟩, nothing⟩ | ⟨rfl, _, shorter⟩ | ⟨⟨cause, rfl⟩, lossy⟩
      · exact ⟨_, _, _, part, rfl, taken, split, .inl ⟨rfl, nothing⟩⟩
      · obtain ⟨result, last, final, more, handed, later, rest, outcome⟩ :=
          hypothesis next (Nat.lt_of_lt_of_le shorter (Nat.le_of_lt_succ enough))
        refine ⟨result, last, final, part ++ more, handed, ?_, ?_, ?_⟩
        · rw [later, taken, List.append_assoc]
        · rw [List.append_assoc, rest, split]
        · rcases outcome with done | ⟨failed, outcome, member, lossy⟩
          · exact .inl done
          · exact .inr ⟨failed, outcome, suffix.subset member, lossy⟩
      · exact ⟨_, _, _, part, rfl, taken, split, .inr ⟨⟨cause, rfl⟩, lossy⟩⟩

/-- A client that waits whenever its write is put off hands over all that is sealed. -/
theorem flushFrom_of_lossless
    {fuel : Nat} (encoder : Encoder) {sink : Sink}
    (lossless : sink.Lossless)
    (enough : sink.script.length < fuel) :
    ∃ next after, flushFrom fuel encoder sink = (.ok (), next, after) ∧
      next.sealedBytes = [] ∧ after.accepted = sink.accepted ++ encoder.sealedBytes := by
  obtain ⟨_, next, after, part, handed, taken, split,
    ⟨rfl, nothing⟩ | ⟨_, outcome, member, lossy⟩⟩ := flushFrom_outcomes encoder enough
  · rw [nothing, List.append_nil] at split
    exact ⟨next, after, handed, nothing, split ▸ taken⟩
  · exact absurd (lossless outcome member) lossy

variable {client : Client} {fields : List String}

theorem send_of_lossless
    (nothing : client.connection.encoder.sealedBytes = [])
    (lossless : client.connection.sink.Lossless)
    (fits : Fits fields) :
    ∃ encoder sink, send fields client =
        (.ok (), { client with connection := { client.connection with encoder, sink } }) ∧
      encoder.sealedBytes = [] ∧
      sink.accepted = client.connection.sink.accepted ++ (Record.ofTexts fields).wire := by
  have allowed : (Record.ofTexts fields).length ≤ fieldLimit := by
    rw [Record.ofTexts, List.length_map]
    exact fits.1
  have room : client.connection.encoder.sealedBytes.length + (Record.ofTexts fields).wire.length ≤
      bufferLimit := by
    rw [nothing, List.length_nil, Nat.zero_add]
    exact fits.2
  obtain ⟨encoder, written, bytes⟩ := Encoder.writeRecord_of_fits allowed room
  obtain ⟨next, after, handed, empty, accepted⟩ :=
    flushFrom_of_lossless encoder lossless (Nat.lt_succ_self _)
  refine ⟨next, after, ?_, empty, ?_⟩
  · rw [send, written]
    dsimp only
    rw [handed]
    rfl
  · rw [accepted, bytes, nothing, List.nil_append]

/-! ## Asking -/

/-- Whether nothing waits to be sent or to be read. -/
structure Settled (client : Client) : Prop where
  sent : client.connection.encoder.sealedBytes = []
  read : client.connection.ahead = []
  steady : client.connection.source.Steady

theorem settled_fresh (sink : Sink) : (fresh ⟨[], sink⟩).Settled := by
  refine ⟨rfl, rfl, ?_⟩
  intro cause member
  cases member

/-- A client before an exchange: what becomes of its writes, and what it is sent meanwhile. -/
def facing (client : Client) (script : List WriteOutcome) (source : Source) : Client :=
  { client with
    connection := { client.connection with
      source := client.connection.source ++ source
      sink := { script } } }

variable {script : List WriteOutcome} {source : Source}

/-- A settled client sends the wire form of a request and then waits for what it is sent. -/
theorem ask_of_settled
    (settled : client.Settled)
    (lossless : ∀ outcome ∈ script, outcome.Lossless)
    (steady : source.Steady)
    (fits : Fits fields) :
    (send fields (client.facing script source)).2.connection.sink.accepted =
      (Record.ofTexts fields).wire ∧
    ∃ connection : Connection, ask fields (client.facing script source) =
        receive { client with connection } ∧
      connection.source.Steady ∧ connection.ahead = source.contents ∧
      connection.encoder.sealedBytes = [] := by
  have taking : (client.facing script source).connection.sink.Lossless := lossless
  have nothing : (client.facing script source).connection.encoder.sealedBytes = [] := settled.sent
  obtain ⟨encoder, sink, sent, empty, accepted⟩ := send_of_lossless nothing taking fits
  constructor
  · rw [sent]
    exact accepted
  · refine ⟨{ (client.facing script source).connection with encoder, sink }, ?_,
      settled.steady.append steady, ?_, empty⟩
    · rw [ask, Action.bind_apply, sent]
      rfl
    · obtain ⟨kept, spent⟩ := List.append_eq_nil_iff.1 settled.read
      rw [Connection.ahead]
      show client.connection.decoder.buffer.toList ++
        Source.contents (client.connection.source ++ source) = _
      rw [kept, Source.contents_append, spent]
      rfl

theorem settled_of_readsUpTo
    {connection next : Connection} {version : Nat}
    (reads : connection.ReadsUpTo [] next)
    (empty : connection.encoder.sealedBytes = []) :
    Settled ⟨next, version⟩ :=
  ⟨by rw [reads.encoder]; exact empty, reads.ahead, reads.steady⟩

/-- A client that is sent an answer gives that answer, and nothing is left. -/
theorem ask_of_answered
    {answer : Answer}
    (settled : client.Settled)
    (lossless : ∀ outcome ∈ script, outcome.Lossless)
    (steady : source.Steady)
    (fits : Fits fields)
    (sendable : answer.Sendable)
    (whole : source.contents = answer.wire) :
    ∃ next : Client, ask fields (client.facing script source) = (.ok answer, next) ∧
      next.Settled ∧ next.version = client.version := by
  obtain ⟨_, connection, asked, calm, ahead, empty⟩ := ask_of_settled settled lossless steady fits
  rw [whole, ← List.append_nil answer.wire] at ahead
  obtain ⟨next, collected, reads⟩ := collect_of_ahead sendable calm ahead []
  refine ⟨{ client with connection := next }, ?_, settled_of_readsUpTo reads empty, rfl⟩
  rw [asked, receive, collected]
  rfl

/-- A client that is sent nothing is told that the stream has ended. -/
theorem ask_of_silence
    (settled : client.Settled)
    (lossless : ∀ outcome ∈ script, outcome.Lossless)
    (steady : source.Steady)
    (fits : Fits fields)
    (silent : source.contents = []) :
    ∃ next : Client, ask fields (client.facing script source) = (.error .closed, next) ∧
      next.Settled ∧ next.version = client.version := by
  obtain ⟨_, connection, asked, calm, ahead, empty⟩ := ask_of_settled settled lossless steady fits
  rw [silent] at ahead
  obtain ⟨next, collected, reads⟩ := collect_of_ended calm ahead []
  refine ⟨{ client with connection := next }, ?_, settled_of_readsUpTo reads empty, rfl⟩
  rw [asked, receive, collected]

/-! ## The version -/

theorem handshake_of_ask
    {next : Client}
    (asked : ask [Command.magic, toString Command.defaultVersion] client =
      (.ok (Status.done [toString Command.defaultVersion]).alone, next)) :
    handshake client = (.ok (), { next with version := Command.defaultVersion }) := by
  have understood : Text.unsigned? Text.wordBound (toString Command.defaultVersion) =
      some Command.defaultVersion := by decide
  rw [handshake, Action.bind_apply, asked]
  dsimp only
  rw [Action.bind_apply]
  dsimp only [accepted, Status.alone, Action.answer, List.head?_cons, Option.bind_some]
  rw [understood]
  rfl

end Client

end Confinement
