import Confinement.Wire.Decoder
import Confinement.Wire.Encoder

/-!
# Connections

A `Connection` is one end of a conversation in records: what the peer will deliver, what it does
with what it is sent, and the two buffers.  `post` sends one record and `await` reads until one
arrives, passing over those that are only notices.
-/

namespace Confinement.Wire

open Host

/-- One end of a conversation in records. -/
structure Connection where
  /-- What the peer still delivers. -/
  source : Source
  sink : Sink
  encoder : Encoder
  decoder : Decoder

/-- Why no record arrived. -/
inductive AwaitError where
  | closed
  /-- The bytes received are no record, or the stream failed. -/
  | framing (error : FramingError)
  deriving DecidableEq, Repr

namespace Connection

def fresh (source : Source) (sink : Sink) : Connection :=
  ⟨source, sink, Encoder.empty, Decoder.empty false⟩

def post (connection : Connection) (record : Record) : Except FramingError Unit × Connection :=
  match connection.encoder.writeRecord record with
  | (.error error, encoder) => (.error error, { connection with encoder })
  | (.ok (), encoder) =>
    let (result, flushed, sink) := encoder.flush connection.sink
    (result.map (fun _ => ()), { connection with encoder := flushed, sink })

set_option linter.unusedVariables false in
/-- Reads until a record arrives that is no notice. -/
def await (isNotice : Record → Bool) (connection : Connection) :
    Except AwaitError Record × Connection :=
  match found : connection.decoder.tryRecord with
  | (.error error, decoder) => (.error (.framing error), { connection with decoder })
  | (.ok (some record), decoder) =>
    if isNotice record then
      await isNotice { connection with decoder := decoder.advance }
    else
      (.ok record, { connection with decoder := decoder.advance })
  | (.ok none, decoder) =>
    match filled : decoder.fillFrom connection.source with
    | (.error error, next, source) =>
      (.error (.framing error), { connection with decoder := next, source })
    | (.ok 0, next, source) => (.error .closed, { connection with decoder := next, source })
    | (.ok (_ + 1), next, source) => await isNotice { connection with decoder := next, source }
termination_by 2 * connection.source.left + connection.decoder.buffered
decreasing_by
  · have shorter := Decoder.buffered_advance_lt found
    omega
  · have kept := Decoder.buffered_tryRecord_le found
    have moved := Decoder.left_fillFrom filled
    omega

/-- The work that is left to a reader: bytes to be delivered count twice, and buffered ones once. -/
def workload (connection : Connection) : Nat :=
  2 * connection.source.left + connection.decoder.buffered

/-- A record that arrived makes the work less. -/
theorem workload_await_lt {isNotice : Record → Bool} {connection next : Connection}
    {record : Record} (result : connection.await isNotice = (.ok record, next)) :
    next.workload < connection.workload := by
  fun_induction await isNotice connection with
  | case1 => simp at result
  | case2 connection found decoder search notice hypothesis =>
    have shorter := Decoder.buffered_advance_lt search
    have less := hypothesis result
    simp only [workload] at less ⊢
    omega
  | case3 connection found decoder search notice =>
    simp only [Prod.mk.injEq, Except.ok.injEq] at result
    obtain ⟨_, rfl⟩ := result
    have shorter := Decoder.buffered_advance_lt search
    simp only [workload]
    omega
  | case4 => simp at result
  | case5 => simp at result
  | case6 connection decoder search count next source filled hypothesis =>
    have kept := Decoder.buffered_tryRecord_le search
    have moved := Decoder.left_fillFrom filled
    have less := hypothesis result
    simp only [workload] at less ⊢
    omega

end Connection

end Confinement.Wire
