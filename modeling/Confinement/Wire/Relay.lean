import Confinement.Wire.Decoder
import Confinement.Wire.Encoder

/-!
# Sending and receiving whole lists of records

`send` encodes records one after another and flushes each; `receive` takes in a stream piece by
piece and reads the complete records after every piece.
-/

namespace Confinement.Wire

open Host

/-- Encodes and flushes records in order to a sink that takes everything; the bytes sent. -/
def send : Encoder → List Record → Except FramingError Bytes
  | _, [] => .ok []
  | encoder, record :: rest =>
    match encoder.writeRecord record with
    | (.error error, _) => .error error
    | (.ok (), next) =>
      let (_, flushed, sink) := next.flush {}
      (send flushed rest).map (sink.accepted ++ ·)

/-- Takes in pieces in order and reads the complete records after each. -/
def receive : Decoder → List Bytes → Except FramingError (List Record)
  | _, [] => .ok []
  | decoder, piece :: rest =>
    match decoder.feed piece with
    | (.error error, _) => .error error
    | (.ok (), fed) =>
      match fed.drain with
      | (_, some error, _) => .error error
      | (records, none, drained) => (receive drained rest).map (records ++ ·)

/-- A byte list cut into pieces of `size` bytes, the last one shorter; `fuel` bounds their
number. -/
def piecesFrom (size : Nat) : Nat → Bytes → List Bytes
  | 0, _ => []
  | fuel + 1, data =>
    if data.isEmpty then [] else data.take size :: piecesFrom size fuel (data.drop size)

/-- A byte list cut into pieces of `size` bytes. -/
def pieces (size : Nat) (data : Bytes) : List Bytes := piecesFrom (max 1 size) data.length data

end Confinement.Wire
