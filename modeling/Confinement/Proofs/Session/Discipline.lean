import Confinement.Policy.Machine
import Confinement.Proofs.Session.Processing

/-!
# The discipline of replies

A `Line` is a session together with its client and what sessions share.  Whatever happens on a
line, as long as no reply fails for good, the client is told one group of records for each record
that the decoder came up with, in order (`Told`).  Only the last group can lack its end or answer
input that is no record, and then the session is no longer open; from there on nothing is read,
nothing is asked of a backend and nothing more is said.
-/

namespace Confinement

open Host Policy Staging Wire

variable {World : Type}

/-! ## What a client is told -/

/-- Whether a session can go on behind a group: it has its end, and it answers a record. -/
def Group.IsRegular (group : Group) : Prop :=
  group.IsComplete ∧ ∃ record, group.inquiry = .received record

/--
Whether the output grew by one group for each inquiry.  The groups are regular but for a final one,
behind which the session is not open.
-/
def Told (before : Bytes) (inquiries : List Inquiry) (after : Bytes) (isOpen : Bool) : Prop :=
  ∃ (groups : List Group) (final : Option Group),
    (groups ++ final.toList).map Group.inquiry = inquiries ∧
    after = before ++ (groups ++ final.toList).flatMap Group.wire ∧
    (∀ group ∈ groups, group.IsRegular) ∧
    (final ≠ none → isOpen = false)

namespace Told

variable {before middle after : Bytes} {inquiries more : List Inquiry} {isOpen wasOpen : Bool}

theorem nothing (output : Bytes) (isOpen : Bool) : Told output [] output isOpen := by
  refine ⟨[], none, rfl, (List.append_nil _).symm, ?_, ?_⟩
  · intro _ member
    cases member
  · intro some
    exact absurd rfl some

theorem final (group : Group) : Told before [group.inquiry] (before ++ group.wire) false := by
  refine ⟨[], some group, rfl, ?_, ?_, ?_⟩
  · exact congrArg (before ++ ·) (List.append_nil _).symm
  · intro _ member
    cases member
  · intro _
    rfl

theorem cons
    {group : Group}
    (regular : group.IsRegular)
    (told : Told (before ++ group.wire) inquiries after isOpen) :
    Told before (group.inquiry :: inquiries) after isOpen := by
  obtain ⟨groups, final, rfl, rfl, others, ended⟩ := told
  refine ⟨group :: groups, final, rfl, ?_, ?_, ended⟩
  · rw [List.cons_append, List.flatMap_cons, List.append_assoc]
  · intro other member
    rcases List.mem_cons.1 member with rfl | later
    · exact regular
    · exact others other later

/-- What is told later comes behind; where a session is not open, nothing does. -/
theorem append
    (first : Told before inquiries middle wasOpen)
    (next : Told middle more after isOpen)
    (silent : wasOpen = false → more = [] ∧ after = middle ∧ isOpen = false) :
    Told before (inquiries ++ more) after isOpen := by
  obtain ⟨groups, final, rfl, rfl, regular, ended⟩ := first
  cases final with
  | some group =>
      obtain ⟨rfl, rfl, rfl⟩ := silent (ended (Option.some_ne_none _))
      rw [List.append_nil]
      exact ⟨groups, some group, rfl, rfl, regular, fun _ => rfl⟩
  | none =>
      obtain ⟨later, final, rfl, rfl, others, ended⟩ := next
      rw [Option.toList_none, List.append_nil]
      refine ⟨groups ++ later, final, ?_, ?_, ?_, ended⟩
      · rw [List.append_assoc, List.map_append]
      · rw [List.append_assoc, List.append_assoc, ← List.flatMap_append]
      · intro group member
        rcases List.mem_append.1 member with earlier | later
        · exact regular group earlier
        · exact others group later

end Told

/-! ## Processing -/

/-- Processing tells the client one group for each record that the decoder comes up with. -/
theorem Session.processFrom_told
    {environment : Environment World} {decoder last : Decoder} {turn next : Turn World}
    (result : processFrom environment decoder turn = (.ok (), last, next)) :
    Told turn.output (inquiriesFrom environment decoder turn) next.output
      next.dialogue.phase.isOpen := by
  cases isOpen : turn.dialogue.phase.isOpen with
  | false =>
      obtain ⟨same, nothing⟩ := processFrom_of_closed environment decoder isOpen
      rw [same] at result
      cases result
      rw [nothing]
      exact Told.nothing _ _
  | true =>
      rcases decoder.tryRecord_cases with
        ⟨record, rest, found, _⟩ | ⟨rest, found, _⟩ | ⟨rest, found, _⟩
      · have shorter := Decoder.buffered_advance_lt found
        generalize answer : answerRecord environment record turn = outcome
        obtain ⟨error | done, middle⟩ := outcome
        · rw [(processFrom_of_failure environment isOpen found answer).1] at result
          cases result
        · obtain ⟨same, more⟩ := processFrom_of_record environment isOpen found answer
          rw [same] at result
          rw [more]
          obtain ⟨group, about, told, ended⟩ :=
            (answerRecord_yields turn environment record).ok answer
          by_cases complete : group.IsComplete
          · have later := processFrom_told result
            rw [told] at later
            rw [← about]
            exact Told.cons ⟨complete, record, about⟩ later
          · have closed := ended complete
            obtain ⟨still, nothing⟩ := processFrom_of_closed environment rest.advance closed
            rw [still] at result
            cases result
            rw [nothing, told, ← about, closed]
            exact Told.final group
      · obtain ⟨same, nothing⟩ := processFrom_of_none environment isOpen found
        rw [same] at result
        cases result
        rw [nothing]
        exact Told.nothing _ _
      · obtain ⟨same, one⟩ := processFrom_of_error environment isOpen found
        rw [same, Prod.mk.injEq, Prod.mk.injEq] at result
        obtain ⟨done, _, reached⟩ := result
        obtain ⟨⟨group, about, told, _⟩, closed⟩ :=
          (refuseInput_yields turn).ok (Prod.ext done reached)
        rw [one, told, ← about, closed]
        exact Told.final group
termination_by decoder.buffered

/-! ## Lines -/

/-- A session, its client as far as it takes replies, and what all sessions share. -/
structure Line (World : Type) where
  session : Session
  sink : Sink
  shared : Shared World

namespace Line

/-- What the client has been told. -/
def output (line : Line World) : Bytes :=
  line.sink.accepted ++ line.session.dialogue.encoder.sealedBytes

/-- A line whose records have been answered. -/
def processed (environment : Environment World) (line : Line World) : Line World where
  session := (line.session.process environment line.sink line.shared).2.1
  sink := (line.session.process environment line.sink line.shared).2.2.1
  shared := (line.session.process environment line.sink line.shared).2.2.2

variable {environment : Environment World}

/-- What can happen on a line, and what the decoder comes up with then. -/
inductive Step (environment : Environment World) :
    Line World → List Inquiry → Line World → Prop
  /-- One read, whatever it finds. -/
  | received (line : Line World) (source : Source) :
      Step environment line [] { line with session := (line.session.receive source).2.1 }
  /-- Records are answered, and no reply fails for good. -/
  | processed (line : Line World)
      (result : (line.session.process environment line.sink line.shared).1 = .ok ()) :
      Step environment line (line.session.inquiries environment line.sink line.shared)
        (line.processed environment)
  /-- Replies that still wait are handed over, as far as they can be. -/
  | flushed (line : Line World) :
      Step environment line []
        { line with
          session := (line.session.flush line.sink).2.1
          sink := (line.session.flush line.sink).2.2 }
  /-- The client makes up its mind about the writes to come. -/
  | turned (line : Line World) (script : List WriteOutcome) :
      Step environment line [] { line with sink := { line.sink with script } }
  /-- Other sessions act on what is shared. -/
  | shared (line : Line World) (shared : Shared World) :
      Step environment line [] { line with shared }
  /-- The client is let go. -/
  | closed (line : Line World) :
      Step environment line [] { line with session := line.session.close }

/-- What can happen on a line in any number of steps. -/
inductive Runs (environment : Environment World) :
    Line World → List Inquiry → Line World → Prop
  | start (line : Line World) : Runs environment line [] line
  | step {first line next : Line World} {inquiries more : List Inquiry}
      (run : Runs environment first inquiries line) (step : Step environment line more next) :
      Runs environment first (inquiries ++ more) next

theorem receive_keeps (session : Session) (source : Source) :
    ((session.receive source).2.1.dialogue.encoder = session.dialogue.encoder ∧
      (session.receive source).2.1.dialogue.context = session.dialogue.context) ∧
    (session.isOpen = false → (session.receive source).2.1.isOpen = false) := by
  rw [Session.receive]
  obtain ⟨result, decoder, rest⟩ := session.decoder.fillFrom source
  dsimp only
  split <;> refine ⟨⟨rfl, rfl⟩, ?_⟩
  · intro _
    rfl
  all_goals exact fun closed => closed

theorem flush_keeps (session : Session) (sink : Sink) :
    (session.flush sink).2.2.accepted ++
        (session.flush sink).2.1.dialogue.encoder.sealedBytes =
      sink.accepted ++ session.dialogue.encoder.sealedBytes ∧
    (session.flush sink).2.1.dialogue.context = session.dialogue.context ∧
    (session.flush sink).2.1.isOpen = session.isOpen := by
  rw [Session.flush]
  generalize flushed : session.dialogue.encoder.flush sink = outcome
  obtain ⟨result, encoder, after⟩ := outcome
  have told := Encoder.accepted_flush flushed
  dsimp only
  split <;> exact ⟨told, rfl, rfl⟩

/-- A session that is not open answers nothing, whatever its decoder holds. -/
theorem process_of_closed
    (environment : Environment World) {session : Session}
    (closed : session.isOpen = false)
    (sink : Sink) (shared : Shared World) :
    session.process environment sink shared = (.ok (), session, sink, shared) ∧
      session.inquiries environment sink shared = [] := by
  have shut : (⟨session.dialogue, sink, shared⟩ : Turn World).dialogue.phase.isOpen = false :=
    closed
  obtain ⟨same, nothing⟩ := Session.processFrom_of_closed environment session.decoder shut
  rw [Session.process, same]
  exact ⟨rfl, nothing⟩

/-- A step tells the client of what the decoder comes up with. -/
theorem Step.told
    {line next : Line World} {inquiries : List Inquiry}
    (step : Step environment line inquiries next) :
    Told line.output inquiries next.output next.session.isOpen := by
  cases step with
  | received source =>
      have same := (receive_keeps line.session source).1.1
      rw [output, output, same]
      exact Told.nothing _ _
  | processed result =>
      exact Session.processFrom_told (Prod.ext result rfl)
  | flushed =>
      have same := (flush_keeps line.session line.sink).1
      rw [output, output, same]
      exact Told.nothing _ _
  | turned => exact Told.nothing _ _
  | shared => exact Told.nothing _ _
  | closed => exact Told.nothing _ _

/-- On a line whose session is not open, nothing more happens. -/
theorem Step.silent
    {line next : Line World} {inquiries : List Inquiry}
    (step : Step environment line inquiries next)
    (closed : line.session.isOpen = false) :
    inquiries = [] ∧ next.output = line.output ∧ next.session.isOpen = false ∧
      next.session.context = line.session.context := by
  cases step with
  | received source =>
      obtain ⟨⟨encoder, context⟩, still⟩ := receive_keeps line.session source
      refine ⟨rfl, ?_, still closed, context⟩
      rw [output, output, encoder]
  | processed result =>
      obtain ⟨same, nothing⟩ := process_of_closed environment closed line.sink line.shared
      rw [Line.processed, same]
      exact ⟨nothing, rfl, closed, rfl⟩
  | flushed =>
      obtain ⟨told, context, phase⟩ := flush_keeps line.session line.sink
      exact ⟨rfl, told, phase.trans closed, context⟩
  | turned => exact ⟨rfl, rfl, closed, rfl⟩
  | shared => exact ⟨rfl, rfl, closed, rfl⟩
  | closed => exact ⟨rfl, rfl, rfl, rfl⟩

theorem Runs.told
    {first last : Line World} {inquiries : List Inquiry}
    (run : Runs environment first inquiries last) :
    Told first.output inquiries last.output last.session.isOpen := by
  induction run with
  | start => exact Told.nothing _ _
  | step run step hypothesis =>
      apply hypothesis.append step.told
      intro closed
      obtain ⟨nothing, same, still, _⟩ := step.silent closed
      exact ⟨nothing, same, still⟩

theorem Runs.silent
    {first last : Line World} {inquiries : List Inquiry}
    (run : Runs environment first inquiries last)
    (closed : first.session.isOpen = false) :
    inquiries = [] ∧ last.output = first.output ∧ last.session.isOpen = false ∧
      last.session.context = first.session.context := by
  induction run with
  | start => exact ⟨rfl, rfl, closed, rfl⟩
  | step run step hypothesis =>
      obtain ⟨rfl, same, shut, context⟩ := hypothesis
      obtain ⟨rfl, further, still, kept⟩ := step.silent shut
      exact ⟨rfl, further.trans same, still, kept.trans context⟩

/-! ## The discipline -/

/--
From any session on, with any deliveries, any backends and any client on which no reply fails for
good, the client is told one group for each inquiry, in order.  Once the session is not open, it
answers nothing, asks nothing of the backends and stays as it is.
-/
theorem told_in_groups
    {first last : Line World} {inquiries : List Inquiry}
    (run : Runs environment first inquiries last) :
    Told first.output inquiries last.output last.session.isOpen ∧
      (last.session.isOpen = false →
        (∀ (sink : Sink) (shared : Shared World),
          last.session.process environment sink shared = (.ok (), last.session, sink, shared) ∧
            last.session.inquiries environment sink shared = []) ∧
        ∀ (more : List Inquiry) (final : Line World), Runs environment last more final →
          more = [] ∧ final.output = last.output ∧ final.session.isOpen = false ∧
            final.session.context = last.session.context) := by
  constructor
  · exact run.told
  · intro closed
    constructor
    · intro sink shared
      exact process_of_closed environment closed sink shared
    · intro more final further
      exact further.silent closed

/-- A client that has sent three records, the last of them no command, and takes no reply now. -/
def stalled : Line Machine where
  session := ((Session.fresh false).receive
    [.bytes (Text.bytes "id ab\ndisplay\nstop\nclear\n")]).2.1
  sink := { script := List.replicate 3 (.failure .wouldBlock) }
  shared := { world := { files := FileTree.empty } }

/-- A stalled client is told of three records, and the fourth one is not answered. -/
theorem told_in_groups_while_stalled :
    ∃ last : Line Machine,
      Runs (machineEnvironment .memory .simulated) stalled
        ([["id", "ab"], ["display"], ["stop"]].map fun fields =>
          .received (Record.ofTexts fields)) last ∧
      last.sink.accepted = [] ∧ last.session.isOpen = false ∧
      Told []
        ([["id", "ab"], ["display"], ["stop"]].map fun fields =>
          .received (Record.ofTexts fields))
        (Text.bytes "done\nstring id ab\ndone\nerror protocol\n") false := by
  let environment := machineEnvironment .memory .simulated
  have ended : (stalled.session.process environment stalled.sink stalled.shared).1.toOption =
      some () := by decide +kernel
  have result : (stalled.session.process environment stalled.sink stalled.shared).1 = .ok () := by
    generalize (stalled.session.process environment stalled.sink stalled.shared).1 = outcome
      at ended
    cases outcome with
    | ok done => rfl
    | error error => cases ended
  have inquiries : [] ++ stalled.session.inquiries environment stalled.sink stalled.shared =
      [["id", "ab"], ["display"], ["stop"]].map fun fields =>
        .received (Record.ofTexts fields) := by decide +kernel
  have output : (stalled.processed environment).output =
      Text.bytes "done\nstring id ab\ndone\nerror protocol\n" := by decide +kernel
  have closed : (stalled.processed environment).session.isOpen = false := by decide +kernel
  have run : Runs environment stalled _ _ :=
    (Runs.start stalled).step (.processed stalled result)
  rw [inquiries] at run
  have told := (told_in_groups run).1
  rw [output, closed] at told
  exact ⟨_, run, by decide +kernel, closed, told⟩

end Line

end Confinement
