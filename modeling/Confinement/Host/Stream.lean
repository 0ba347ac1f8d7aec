import Confinement.Text.Utf8
import Confinement.Host.Failure

/-!
# Sources and sinks

A `Source` is everything a peer will ever deliver and a `Sink` everything it will ever do with what
it is sent, both as data: a list of deliveries, each handed out over as many reads as needed, and
a list of write outcomes.  A run over them is a pure function, and a statement about every peer
is a statement about every list.
-/

namespace Confinement.Host

/-- One thing a peer delivers. -/
inductive Delivery where
  /-- Bytes, handed out as the reader has room for them. -/
  | bytes (data : Bytes)
  /-- One failing read. -/
  | failure (cause : Failure)
  deriving DecidableEq, Repr

/-- What a peer still delivers, in order; after it comes the end of the stream. -/
abbrev Source := List Delivery

namespace Source

/--
One read of at most `limit` bytes.  It hands out bytes of one delivery only; an empty result is
the end of the stream.
-/
def read (limit : Nat) : Source → Except Failure Bytes × Source
  | [] => (.ok [], [])
  | .failure cause :: rest => (.error cause, rest)
  | .bytes [] :: rest => read limit rest
  | .bytes (byte :: data) :: rest =>
    let run := byte :: data
    (.ok (run.take limit),
      if run.length ≤ limit then rest else .bytes (run.drop limit) :: rest)

/-- One read that is repeated as long as it is interrupted. -/
def readPatiently (limit : Nat) : Source → Except Failure Bytes × Source
  | [] => read limit []
  | .failure .interrupted :: rest => readPatiently limit rest
  | .bytes [] :: rest => readPatiently limit rest
  | delivery :: rest => read limit (delivery :: rest)

/-- The number of bytes not handed out yet. -/
def left : Source → Nat
  | [] => 0
  | .bytes data :: rest => data.length + left rest
  | .failure _ :: rest => left rest

/-- A source that delivers one byte list and ends. -/
def ofBytes (data : Bytes) : Source := [.bytes data]

/-- The bytes of a source, whatever failures come between them. -/
def contents : Source → Bytes
  | [] => []
  | .bytes data :: rest => data ++ contents rest
  | .failure _ :: rest => contents rest

theorem length_contents (source : Source) : source.contents.length = source.left := by
  induction source with
  | nil => rfl
  | cons delivery rest hypothesis =>
    cases delivery <;> simp [contents, left, hypothesis]

/-- A successful read splits the contents: what it returns comes first. -/
theorem contents_read {limit : Nat} {source rest : Source} {data : Bytes}
    (result : source.read limit = (.ok data, rest)) :
    source.contents = data ++ rest.contents := by
  induction source with
  | nil =>
    simp only [read, Prod.mk.injEq, Except.ok.injEq] at result
    simp [contents, ← result.1, ← result.2]
  | cons delivery tail hypothesis =>
    match delivery with
    | .failure cause => simp [read] at result
    | .bytes [] => exact hypothesis (by simpa [read] using result)
    | .bytes (byte :: run) =>
      simp only [read, Prod.mk.injEq, Except.ok.injEq] at result
      obtain ⟨rfl, rfl⟩ := result
      split
      · rename_i fits
        simp [contents, List.take_of_length_le fits]
      · simp [contents, ← List.append_assoc]

/-- A patient read splits the contents as a plain one does. -/
theorem contents_readPatiently {limit : Nat} {source rest : Source} {data : Bytes}
    (result : source.readPatiently limit = (.ok data, rest)) :
    source.contents = data ++ rest.contents := by
  fun_induction readPatiently limit source with
  | case1 => exact contents_read result
  | case2 tail hypothesis => exact hypothesis result
  | case3 tail hypothesis => exact hypothesis result
  | case4 => exact contents_read result

/-- What a patient read returns is no longer left. -/
theorem left_readPatiently {limit : Nat} {source rest : Source} {data : Bytes}
    (result : source.readPatiently limit = (.ok data, rest)) :
    source.left = data.length + rest.left := by
  rw [← length_contents, ← length_contents, contents_readPatiently result, List.length_append]

/-- The byte that ends a line. -/
def lineFeed : UInt8 := 0x0A

/--
Reads one line with its line feed, or what is left when there is none; an empty line is the end of
the stream.
-/
def readLine : Source → Except Failure Bytes × Source
  | [] => (.ok [], [])
  | .failure .interrupted :: rest => readLine rest
  | .failure cause :: rest => (.error cause, rest)
  | .bytes data :: rest =>
    if data.contains lineFeed then
      let line := data.takeWhile (· ≠ lineFeed) ++ [lineFeed]
      (.ok line, .bytes (data.drop line.length) :: rest)
    else
      match readLine rest with
      | (.ok more, after) => (.ok (data ++ more), after)
      | (.error cause, after) => (.error cause, after)

/-- A line that was read is no longer left. -/
theorem left_readLine {source rest : Source} {line : Bytes}
    (result : source.readLine = (.ok line, rest)) : source.left = line.length + rest.left := by
  induction source generalizing line with
  | nil =>
    simp only [readLine, Prod.mk.injEq, Except.ok.injEq] at result
    simp [left, ← result.1, ← result.2]
  | cons delivery tail hypothesis =>
    match delivery with
    | .failure cause =>
      cases cause <;> simp only [readLine, Prod.mk.injEq, reduceCtorEq, false_and] at result
      exact hypothesis result
    | .bytes data =>
      unfold readLine at result
      split at result
      · rename_i present
        simp only [Prod.mk.injEq, Except.ok.injEq] at result
        obtain ⟨rfl, rfl⟩ := result
        have bound : (data.takeWhile (· ≠ lineFeed)).length < data.length := by
          rcases Nat.lt_or_ge (data.takeWhile (· ≠ lineFeed)).length data.length with less | whole
          · exact less
          · have same : data.takeWhile (· ≠ lineFeed) = data :=
              (List.takeWhile_prefix _).eq_of_length_le whole
            have kept : (data.takeWhile (· ≠ lineFeed)).all (· ≠ lineFeed) = true :=
              List.all_takeWhile
            rw [same, List.all_eq_true] at kept
            have member : lineFeed ∈ data := by simpa using present
            simpa using kept lineFeed member
        simp only [left, List.length_append, List.length_drop, List.length_singleton]
        omega
      · split at result
        · rename_i more after read
          simp only [Prod.mk.injEq, Except.ok.injEq] at result
          obtain ⟨rfl, rfl⟩ := result
          have rest := hypothesis read
          simp only [left, List.length_append]
          omega
        · simp at result

end Source

/-- The outcome of one write. -/
inductive WriteOutcome where
  /-- At most this many bytes are taken. -/
  | accept (count : Nat)
  /-- The write fails. -/
  | failure (cause : Failure)
  deriving DecidableEq, Repr

/-- What a peer does with the writes still to come; after the script every write is taken whole. -/
structure Sink where
  /-- The outcomes of the next writes. -/
  script : List WriteOutcome := []
  /-- The bytes taken so far. -/
  accepted : Bytes := []
  deriving DecidableEq, Repr

namespace Sink

/-- One write: the number of bytes taken, or the failure. -/
def write (sink : Sink) (data : Bytes) : Except Failure Nat × Sink :=
  match sink.script with
  | [] => (.ok data.length, { sink with accepted := sink.accepted ++ data })
  | .accept count :: rest =>
    let taken := data.take count
    (.ok taken.length, ⟨rest, sink.accepted ++ taken⟩)
  | .failure cause :: rest => (.error cause, ⟨rest, sink.accepted⟩)

/-- A successful write takes a first part of the data, of the length it tells. -/
theorem accepted_write {sink next : Sink} {data : Bytes} {count : Nat}
    (result : sink.write data = (.ok count, next)) :
    next.accepted = sink.accepted ++ data.take count ∧ count ≤ data.length := by
  unfold write at result
  split at result <;> simp only [Prod.mk.injEq, Except.ok.injEq] at result
  · obtain ⟨rfl, rfl⟩ := result; simp
  · obtain ⟨rfl, rfl⟩ := result
    simp only [List.length_take, Nat.min_le_right, and_true, List.append_cancel_left_eq]
    rw [← List.take_eq_take_min]
  · cases result.1

/-- A failed write takes nothing. -/
theorem accepted_write_error {sink next : Sink} {data : Bytes} {cause : Failure}
    (result : sink.write data = (.error cause, next)) :
    next.accepted = sink.accepted := by
  unfold write at result
  split at result <;> simp only [Prod.mk.injEq, reduceCtorEq, false_and] at result
  obtain ⟨_, rfl⟩ := result
  rfl

/-- A write never makes the script longer. -/
theorem length_script_write {sink next : Sink} {data : Bytes} {result : Except Failure Nat}
    (found : sink.write data = (result, next)) : next.script.length ≤ sink.script.length := by
  unfold write at found
  split at found <;> simp only [Prod.mk.injEq] at found <;> obtain ⟨_, rfl⟩ := found <;>
    simp [*]

/-- A failed write uses up an outcome of the script. -/
theorem length_script_write_error {sink next : Sink} {data : Bytes} {cause : Failure}
    (found : sink.write data = (.error cause, next)) :
    next.script.length < sink.script.length := by
  unfold write at found
  split at found <;> simp only [Prod.mk.injEq, reduceCtorEq, false_and] at found
  obtain ⟨_, rfl⟩ := found
  simp [*]

/-- Writes all of the data, as often as it takes. -/
def writeAll (sink : Sink) (data : Bytes) : Except Failure Unit × Sink :=
  if data.isEmpty then (.ok (), sink)
  else
    match found : sink.write data with
    | (.ok 0, next) => (.error (.told "failed to write whole buffer"), next)
    | (.ok (count + 1), next) => writeAll next (data.drop (count + 1))
    | (.error .interrupted, next) => writeAll next data
    | (.error cause, next) => (.error cause, next)
termination_by data.length + sink.script.length
decreasing_by
  · have kept := length_script_write found
    have bound := (accepted_write found).2
    rw [List.length_drop]
    omega
  · have shorter := length_script_write_error found
    omega

end Sink

/-- The other end of a connection: what it delivers and what it does with what it is sent. -/
structure Peer where
  /-- What it delivers. -/
  source : Source
  /-- What it does with writes. -/
  sink : Sink := {}

end Confinement.Host
