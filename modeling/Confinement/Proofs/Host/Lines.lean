import Confinement.Host.Stream
import Mathlib.Data.List.Flatten

/-!
# Reading lines and writing all

A source delivers bytes until a read fails for good, and reading it line by line gives these bytes
cut behind each line feed (`readLine_cases`, `texts_of_line`).  What stands behind the last line
feed is a line as well if the source has come to its end, and is lost if it has failed.  Writing a
text to a sink puts all of it behind what the sink has taken, or a first part of it when a write
fails (`accepted_writeAll`).
-/

namespace Confinement.Host

namespace Source

/-! ## Lines -/

/-- The bytes that are delivered before a read fails, and how; an interrupted read is repeated. -/
def delivered : Source → Bytes × Option Failure
  | [] => ([], none)
  | .bytes data :: rest => (data ++ (delivered rest).1, (delivered rest).2)
  | .failure .interrupted :: rest => delivered rest
  | .failure cause :: _ => ([], some cause)

/-- The lines of delivered bytes, each with its line feed. -/
def linesOf (data : Bytes) (failure : Option Failure) : List Bytes :=
  let parts := data.splitOn lineFeed
  let unfinished := if failure.isNone then parts.getLast?.toList else []
  parts.dropLast.map (· ++ [lineFeed]) ++ unfinished.filter fun line => !line.isEmpty

/-- The lines of what a source delivers. -/
def lines (source : Source) : List Bytes := linesOf source.delivered.1 source.delivered.2

/-- Lines as texts, up to the first that is none, and why no line is read behind them. -/
def textsOf (failure : Option Failure) : List Bytes → List String × Option Failure
  | [] => ([], failure)
  | line :: rest =>
    match Text.ofBytes? line with
    | some text => (text :: (textsOf failure rest).1, (textsOf failure rest).2)
    | none => ([], some .notText)

/-- The lines of a source that can be read as texts, and the failure that ends them, if any. -/
def texts (source : Source) : List String × Option Failure :=
  textsOf source.delivered.2 source.lines

variable {source rest : Source} {line : Bytes}

theorem linesOf_append
    (inner : lineFeed ∉ line)
    (rest : Bytes) (failure : Option Failure) :
    linesOf (line ++ lineFeed :: rest) failure = (line ++ [lineFeed]) :: linesOf rest failure := by
  obtain ⟨first, others, parts⟩ :=
    List.exists_cons_of_ne_nil (List.splitOn_ne_nil lineFeed rest)
  rw [linesOf, linesOf, List.splitOn_append_cons_self_of_not_mem inner, parts]
  rfl

theorem linesOf_of_not_mem
    (inner : lineFeed ∉ line)
    (failure : Option Failure) :
    linesOf line failure = if failure.isNone && !line.isEmpty then [line] else [] := by
  have parts : line.splitOn lineFeed = [line] := by
    have cut := List.splitOn_intercalate lineFeed
      (List.forall_mem_singleton.2 inner) (List.cons_ne_nil line [])
    simpa using cut
  rw [linesOf, parts]
  cases failure with
  | none => cases line <;> rfl
  | some cause => rfl

/-- Bytes with a line feed are those before the first one, itself, and those behind it. -/
theorem takeWhile_append_lineFeed
    {data : Bytes}
    (present : data.contains lineFeed = true) :
    lineFeed ∉ data.takeWhile (· ≠ lineFeed) ∧
      data = data.takeWhile (· ≠ lineFeed) ++
        lineFeed :: data.drop (data.takeWhile (· ≠ lineFeed) ++ [lineFeed]).length := by
  constructor
  · intro member
    have kept : (data.takeWhile (· ≠ lineFeed)).all (· ≠ lineFeed) = true := List.all_takeWhile
    simpa using List.all_eq_true.1 kept lineFeed member
  · induction data with
    | nil => cases present
    | cons byte rest hypothesis =>
        by_cases feed : byte = lineFeed
        · rw [feed]
          simp
        · have later : rest.contains lineFeed = true := by
            simpa [Ne.symm feed] using present
          rw [List.takeWhile_cons_of_pos (by simpa using feed)]
          exact congrArg (byte :: ·) (hypothesis later)

/-- What reading a line can come to. -/
theorem readLine_cases (source : Source) :
    (∃ line rest, source.readLine = (.ok (line ++ [lineFeed]), rest) ∧ lineFeed ∉ line ∧
      source.delivered = (line ++ lineFeed :: rest.delivered.1, rest.delivered.2)) ∨
    (∃ line, source.readLine = (.ok line, []) ∧ lineFeed ∉ line ∧
      source.delivered = (line, none)) ∨
    (∃ line cause rest, source.readLine = (.error cause, rest) ∧ lineFeed ∉ line ∧
      source.delivered = (line, some cause)) := by
  induction source with
  | nil => exact .inr (.inl ⟨[], rfl, List.not_mem_nil, rfl⟩)
  | cons delivery tail hypothesis =>
      match delivery with
      | .failure cause =>
          by_cases interrupted : cause = .interrupted
          · rw [interrupted]
            exact hypothesis
          · refine .inr (.inr ⟨[], cause, tail, ?_, List.not_mem_nil, ?_⟩)
            · rw [readLine]
              exact interrupted
            · rw [delivered]
              exact interrupted
      | .bytes data =>
          rw [readLine, delivered]
          by_cases present : data.contains lineFeed = true
          · obtain ⟨inner, whole⟩ := takeWhile_append_lineFeed present
            refine .inl ⟨_, _, if_pos present, inner, ?_⟩
            conv => lhs; rw [whole]
            rw [List.append_assoc]
            rfl
          · have none : lineFeed ∉ data := by simpa using present
            have inner {line : Bytes} (more : lineFeed ∉ line) : lineFeed ∉ data ++ line := by
              rw [List.mem_append]
              exact fun member => member.elim none more
            rw [if_neg present]
            rcases hypothesis with
              ⟨line, rest, read, more, same⟩ | ⟨line, read, more, same⟩ |
              ⟨line, cause, rest, read, more, same⟩
            · refine .inl ⟨data ++ line, rest, ?_, inner more, ?_⟩
              · rw [read, List.append_assoc]
              · rw [same, List.append_assoc]
            · refine .inr (.inl ⟨data ++ line, ?_, inner more, ?_⟩)
              · rw [read]
              · rw [same]
            · refine .inr (.inr ⟨data ++ line, cause, rest, ?_, inner more, ?_⟩)
              · rw [read]
              · rw [same]

theorem texts_of_error
    {cause : Failure}
    (read : source.readLine = (.error cause, rest)) :
    source.texts = ([], some cause) := by
  rcases source.readLine_cases with
    ⟨_, _, found, _⟩ | ⟨_, found, _⟩ | ⟨line, _, _, found, inner, same⟩
  · rw [read] at found
    cases found
  · rw [read] at found
    cases found
  · rw [read] at found
    cases found
    rw [texts, lines, same, linesOf_of_not_mem inner]
    rfl

theorem texts_of_end
    (read : source.readLine = (.ok [], rest)) :
    source.texts = ([], none) := by
  rcases source.readLine_cases with
    ⟨line, _, found, _⟩ | ⟨_, found, inner, same⟩ | ⟨_, _, _, found, _⟩
  · rw [read] at found
    cases line <;> cases found
  · rw [read] at found
    cases found
    rw [texts, lines, same]
    rfl
  · rw [read] at found
    cases found

/-- A line that is read is the first of the lines, and the others are those of the rest. -/
theorem texts_of_line
    (read : source.readLine = (.ok line, rest))
    (nonempty : line ≠ []) :
    source.texts =
      match Text.ofBytes? line with
      | some text => (text :: rest.texts.1, rest.texts.2)
      | none => ([], some .notText) := by
  have first : source.lines = line :: rest.lines ∧ source.delivered.2 = rest.delivered.2 := by
    rcases source.readLine_cases with
      ⟨front, _, found, inner, same⟩ | ⟨_, found, inner, same⟩ | ⟨_, _, _, found, _⟩
    · rw [read] at found
      cases found
      rw [lines, same]
      exact ⟨linesOf_append inner _ _, rfl⟩
    · rw [read] at found
      cases found
      rw [lines, same, linesOf_of_not_mem inner, List.isEmpty_eq_false_iff.2 nonempty]
      exact ⟨rfl, rfl⟩
    · rw [read] at found
      cases found
  rw [texts, first.1, first.2]
  rfl

end Source

/-! ## Writing -/

namespace Sink

/-- What a sink has taken when all of some data was to be written to it. -/
theorem accepted_writeAll
    {sink next : Sink} {data : Bytes} {result : Except Failure Unit}
    (written : sink.writeAll data = (result, next)) :
    (result = .ok () ∧ next.accepted = sink.accepted ++ data) ∨
      ∃ cause part, result = .error cause ∧ part <+: data ∧
        next.accepted = sink.accepted ++ part := by
  fun_induction writeAll sink data with
  | case1 sink data nothing =>
      cases written
      rw [List.isEmpty_iff.1 nothing, List.append_nil]
      exact .inl ⟨rfl, rfl⟩
  | case2 sink data some after write =>
      cases written
      refine .inr ⟨_, [], rfl, List.nil_prefix, ?_⟩
      rw [(accepted_write write).1, List.take_zero]
  | case3 sink data some count after write hypothesis =>
      rcases hypothesis written with ⟨done, taken⟩ | ⟨cause, part, failed, before, taken⟩
      · refine .inl ⟨done, ?_⟩
        rw [taken, (accepted_write write).1, List.append_assoc, List.take_append_drop]
      · refine .inr ⟨cause, data.take (count + 1) ++ part, failed, ?_, ?_⟩
        · conv => rhs; rw [← List.take_append_drop (count + 1) data]
          exact (List.prefix_append_right_inj _).2 before
        · rw [taken, (accepted_write write).1, List.append_assoc]
  | case4 sink data some after write hypothesis =>
      rw [accepted_write_error write] at hypothesis
      exact hypothesis written
  | case5 sink data some cause after notInterrupted write =>
      cases written
      refine .inr ⟨cause, [], rfl, List.nil_prefix, ?_⟩
      rw [accepted_write_error write, List.append_nil]

end Sink

end Confinement.Host
