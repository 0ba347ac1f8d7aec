import Confinement.Proofs.Session.Chunks
import Confinement.Proofs.Session.Responses
import Confinement.Proofs.Wire.Awaiting

/-!
# The delivery of one record

A session to which the wire form of a record is delivered, in reads of any sizes, comes up with that
record and nothing else, and answers it when the last byte has arrived
(`deliverFrom_of_record`).  A client that takes every reply is handed the whole answer.
-/

namespace Confinement.Session

open Host Policy Staging Wire

variable {World : Type} (environment : Environment World)

/-- What the decoder of a session comes up with in a delivery. -/
def heardFrom : Nat → Session → Source → Sink → Shared World → List Inquiry
  | 0, _, _, _, _ => []
  | fuel + 1, session, source, sink, shared =>
    if source.left = 0 || !session.isOpen then []
    else
      match session.receive source with
      | (.error _, _, _) => []
      | (.ok (), next, rest) =>
        next.inquiries environment sink shared ++
          match process environment next sink shared with
          | (.error _, _, _, _) => []
          | (.ok (), last, taken, after) => heardFrom fuel last rest taken after

section

variable {environment} {session next last : Session} {source rest : Source} {sink taken : Sink}
  {shared after : Shared World}

/-- A read after which a session is done with what it holds is followed by the next one. -/
theorem deliverFrom_of_read
    (fuel : Nat)
    (isOpen : session.isOpen = true)
    (more : source.contents ≠ [])
    (received : session.receive source = (.ok (), next, rest))
    (processed : process environment next sink shared = (.ok (), last, taken, after)) :
    deliverFrom environment (fuel + 1) session source sink shared =
        deliverFrom environment fuel last rest taken after ∧
      heardFrom environment (fuel + 1) session source sink shared =
        next.inquiries environment sink shared ++
          heardFrom environment fuel last rest taken after := by
  have some : source.left ≠ 0 := by
    rw [← Source.length_contents]
    exact fun none => more (List.length_eq_zero_iff.1 none)
  have going : ¬(source.left = 0 || !session.isOpen) = true := by
    rw [isOpen, decide_eq_false some]
    exact Bool.false_ne_true
  constructor
  · rw [deliverFrom, if_neg going, received]
    dsimp only
    rw [processed]
  · rw [heardFrom, if_neg going, received]
    dsimp only
    rw [processed]

theorem heardFrom_of_closed
    (closed : session.isOpen = false)
    (fuel : Nat) (source : Source) (sink : Sink) (shared : Shared World) :
    heardFrom environment fuel session source sink shared = [] := by
  cases fuel with
  | zero => rfl
  | succ fuel =>
      rw [heardFrom, closed, if_pos]
      exact Bool.or_true _

theorem heardFrom_of_spent
    (spent : source.contents = [])
    (fuel : Nat) (session : Session) (sink : Sink) (shared : Shared World) :
    heardFrom environment fuel session source sink shared = [] := by
  cases fuel with
  | zero => rfl
  | succ fuel =>
      have none : source.left = 0 := by rw [← Source.length_contents, spent, List.length_nil]
      rw [heardFrom, none, if_pos]
      rfl

end

section

variable {environment} {decoder : Decoder} {record : Record} {turn last : Turn World}

/-- As long as the wire form of a record is not there, nothing is answered. -/
theorem processFrom_of_part
    (environment : Environment World) {ahead : Bytes}
    (isOpen : turn.dialogue.phase.isOpen = true)
    (sendable : record.Sendable)
    (whole : decoder.buffer.toList ++ ahead = record.wire)
    (more : ahead ≠ []) :
    ∃ next, processFrom environment decoder turn = (.ok (), next, turn) ∧
      inquiriesFrom environment decoder turn = [] ∧
      next.buffer.toList = decoder.buffer.toList := by
  rw [← List.append_nil record.wire] at whole
  rcases decoder.tryRecord_of_ahead sendable whole with
    ⟨next, _, left⟩ | ⟨next, found, same, _⟩
  · exact absurd (List.append_eq_nil_iff.1 left).2 more
  · obtain ⟨processed, nothing⟩ := processFrom_of_none environment isOpen found
    exact ⟨next, processed, nothing, same⟩

theorem processFrom_of_nil
    (environment : Environment World) (turn : Turn World)
    (nothing : decoder.buffer.toList = []) :
    ∃ next, processFrom environment decoder turn = (.ok (), next, turn) ∧
      inquiriesFrom environment decoder turn = [] ∧ next.buffer.toList = [] := by
  cases isOpen : turn.dialogue.phase.isOpen with
  | false =>
      obtain ⟨processed, none⟩ := processFrom_of_closed environment decoder isOpen
      exact ⟨decoder, processed, none, nothing⟩
  | true =>
      obtain ⟨next, found, still, _⟩ := Decoder.tryRecord_of_nil nothing
      obtain ⟨processed, none⟩ := processFrom_of_none environment isOpen found
      exact ⟨next, processed, none, still⟩

/-- When the wire form of a record is there, the record is answered and nothing is left. -/
theorem processFrom_of_whole
    (isOpen : turn.dialogue.phase.isOpen = true)
    (sendable : record.Sendable)
    (whole : decoder.buffer.toList = record.wire)
    (answered : answerRecord environment record turn = (.ok (), last)) :
    ∃ next, processFrom environment decoder turn = (.ok (), next, last) ∧
      inquiriesFrom environment decoder turn = [.received record] ∧
      next.buffer.toList = [] := by
  have all : decoder.buffer.toList ++ [] = record.wire ++ [] := by rw [whole]
  rcases decoder.tryRecord_of_ahead sendable all with
    ⟨next, found, left⟩ | ⟨next, _, _, _, short⟩
  · rw [List.append_nil] at left
    obtain ⟨processed, heard⟩ := processFrom_of_record environment isOpen found answered
    obtain ⟨final, rest, none, nothing⟩ :=
      processFrom_of_nil environment last left
    exact ⟨final, processed.trans rest, by rw [heard, none], nothing⟩
  · rw [whole] at short
    exact absurd short (Nat.lt_irrefl _)

end

theorem process_of_processFrom
    {session : Session} {sink : Sink} {shared : Shared World} {decoder : Decoder}
    {turn : Turn World}
    (processed : processFrom environment session.decoder ⟨session.dialogue, sink, shared⟩ =
      (.ok (), decoder, turn)) :
    process environment session sink shared =
      (.ok (), ⟨decoder, turn.dialogue⟩, turn.sink, turn.shared) := by
  rw [process, processed]

/-- Whether a session answers one record in a delivery, and keeps nothing. -/
def Answers (record : Record) (turn : Turn World) (fuel : Nat) (session : Session)
    (source : Source) (sink : Sink) (shared : Shared World) : Prop :=
  ∃ decoder rest, deliverFrom environment fuel session source sink shared =
      (.ok (), ⟨decoder, turn.dialogue⟩, rest, turn.sink, turn.shared) ∧
    heardFrom environment fuel session source sink shared = [.received record] ∧
    decoder.buffer.toList = []

section

variable {fuel : Nat} {session : Session} {source rest : Source} {sink : Sink}
  {shared : Shared World} {record : Record} {turn : Turn World} {next : Decoder}

/-- The read that brings the last byte is followed by the answer. -/
theorem answers_of_whole
    (isOpen : session.isOpen = true)
    (sendable : record.Sendable)
    (more : source.contents ≠ [])
    (answered : answerRecord environment record ⟨session.dialogue, sink, shared⟩ =
      (.ok (), turn))
    (received : session.receive source = (.ok (), { session with decoder := next }, rest))
    (whole : next.buffer.toList = record.wire)
    (spent : rest.contents = []) :
    Answers environment record turn (fuel + 1) session source sink shared := by
  have awake : (⟨session.dialogue, sink, shared⟩ : Turn World).dialogue.phase.isOpen = true :=
    isOpen
  obtain ⟨decoder, processed, heard, nothing⟩ :=
    processFrom_of_whole awake sendable whole answered
  obtain ⟨later, also⟩ := deliverFrom_of_read fuel isOpen more received
    (process_of_processFrom environment processed)
  refine ⟨decoder, rest, ?_, ?_, nothing⟩
  · rw [later, deliverFrom_of_spent environment spent]
  · rw [also, heardFrom_of_spent spent, inquiries, heard]
    rfl

/-- A read that does not bring the last byte is followed by the delivery of the rest. -/
theorem answers_of_part
    (isOpen : session.isOpen = true)
    (sendable : record.Sendable)
    (more : source.contents ≠ [])
    (received : session.receive source = (.ok (), { session with decoder := next }, rest))
    (whole : next.buffer.toList ++ rest.contents = record.wire)
    (others : rest.contents ≠ [])
    (onward : ∀ decoder : Decoder, decoder.buffer.toList ++ rest.contents = record.wire →
      Answers environment record turn fuel ⟨decoder, session.dialogue⟩ rest sink shared) :
    Answers environment record turn (fuel + 1) session source sink shared := by
  have awake : (⟨session.dialogue, sink, shared⟩ : Turn World).dialogue.phase.isOpen = true :=
    isOpen
  obtain ⟨kept, processed, silent, same⟩ :=
    processFrom_of_part environment awake sendable whole others
  obtain ⟨decoder, last, delivered, heard, nothing⟩ := onward kept (by rw [same]; exact whole)
  obtain ⟨later, also⟩ := deliverFrom_of_read fuel isOpen more received
    (process_of_processFrom environment processed)
  refine ⟨decoder, last, later.trans delivered, ?_, nothing⟩
  rw [also, heard, inquiries, silent]
  rfl

end

/--
The wire form of a record is delivered to an open session in any reads.  The session comes up with
the record, answers it, and keeps nothing.
-/
theorem deliverFrom_of_record
    {fuel : Nat} {session : Session} {source : Source} {sink : Sink} {shared : Shared World}
    {record : Record} {turn : Turn World}
    (isOpen : session.isOpen = true)
    (sendable : record.Sendable)
    (whole : session.decoder.buffer.toList ++ source.contents = record.wire)
    (more : source.contents ≠ [])
    (unbroken : source.Unbroken)
    (enough : source.workload ≤ fuel)
    (answered : answerRecord environment record ⟨session.dialogue, sink, shared⟩ =
      (.ok (), turn)) :
    Answers environment record turn fuel session source sink shared := by
  induction fuel generalizing session source with
  | zero =>
      have some : source.left ≠ 0 := by
        rw [← Source.length_contents]
        exact fun none => more (List.length_eq_zero_iff.1 none)
      exact absurd enough (by simp only [Source.workload]; omega)
  | succ fuel hypothesis =>
      have room : session.decoder.buffered < bufferLimit := by
        have length := congrArg List.length whole
        have positive := List.length_pos_iff.2 more
        have fits := sendable.fits
        rw [List.length_append, Ring.length_toList] at length
        rw [Decoder.buffered]
        omega
      rcases Decoder.fillFrom_cases room unbroken with
        ⟨data, next, rest, filled, some, grown, _, split, calm, less⟩ | ⟨_, _, _, ended⟩ |
        ⟨rest, filled, split, calm, less⟩
      · have received :
            session.receive source = (.ok (), { session with decoder := next }, rest) := by
          cases data with
          | nil => exact absurd rfl some
          | cons byte run => rw [receive, filled]; rfl
        rw [split, ← List.append_assoc, ← grown] at whole
        by_cases spent : rest.contents = []
        · rw [spent, List.append_nil] at whole
          exact answers_of_whole environment isOpen sendable more answered received whole spent
        · apply answers_of_part environment isOpen sendable more received whole spent
          intro decoder still
          exact hypothesis isOpen still spent calm (by omega) answered
      · exact absurd ended more
      · have received : session.receive source = (.ok (), session, rest) := by
          rw [receive, filled]
        rw [split] at whole
        have others : rest.contents ≠ [] := split ▸ more
        apply answers_of_part environment isOpen sendable more received whole others
        intro decoder still
        exact hypothesis isOpen still others calm (by omega) answered

end Confinement.Session
