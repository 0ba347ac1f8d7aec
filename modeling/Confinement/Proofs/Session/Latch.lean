import Confinement.Proofs.Policy.Exchanges
import Confinement.Proofs.Session.Discipline
import Confinement.Proofs.Session.Entries
import Confinement.Proofs.Session.Failures

/-!
# The latch over a run

A line whose client takes every reply leaves one entry for each inquiry.  Its context is latched
exactly when something broke since the last `clear` (`Line.latched_iff_disturbed`); as long as it
is, no backend is called and nothing is staged.
-/

namespace Confinement

open Host Policy Staging Wire

variable {World : Type}

/-! ## The latch and one entry -/

/-- Whether the command of an entry met a failure that the client is not to blame for. -/
def Entry.Broke (environment : Environment World) (entry : Entry World) : Prop :=
  ∃ command, entry.inquiry.command? = some command ∧
    Breaks environment entry.before.dialogue.context entry.before.shared.world command

/-- What an entry does about the latch. -/
structure Entry.Latching (environment : Environment World) (entry : Entry World) : Prop where
  /-- A command is answered as an internal error exactly when it breaks. -/
  told : entry.inquiry.command? ≠ none →
    (entry.reply = internalError.wire ↔ entry.Broke environment)
  /-- Only a break raises the latch, and only `clear` lowers it. -/
  raised : entry.after.dialogue.context.latched = true ↔
    entry.Broke environment ∨
      entry.before.dialogue.context.latched = true ∧ entry.inquiry.command? ≠ some .clear
  released : entry.inquiry.command? = some .clear →
    entry.after.dialogue.context = Context.empty
  /-- Behind the latch nothing that is staged changes. -/
  kept : entry.before.dialogue.context.latched = true → entry.inquiry.command? ≠ some .clear →
    entry.after.dialogue.context = entry.before.dialogue.context
  /-- Behind the latch no backend is called. -/
  idle : entry.before.dialogue.context.latched = true →
    entry.after.shared.world = entry.before.shared.world
  refused : entry.before.dialogue.context.latched = true →
    ∀ command, entry.inquiry.command? = some command → command.Guarded →
      entry.reply = unrecoverableError.wire
  shown : entry.before.dialogue.context.latched = true →
    entry.inquiry.command? = some .display →
      ∃ rest, entry.reply = (Record.ofTexts ("string" :: latchRow)).wire ++ rest

theorem Entry.latching
    {environment : Environment World} {entry : Entry World}
    (willing : entry.before.sink.Willing)
    (answered : entry.after = (Session.answered environment entry.inquiry entry.before).2) :
    entry.Latching environment := by
  obtain ⟨reply, reached, _⟩ := Entry.meets willing answered
  have context : entry.after.dialogue.context = _ := congrArg Stance.context reached
  have world : entry.after.shared.world = _ := congrArg Stance.world reached
  rcases Stance.meet_cases environment entry.before.stance.phase entry.inquiry with
    ⟨command, spelled, same⟩ | ⟨nothing, answer, next, same⟩
  · rw [same entry.before.stance rfl] at reply context world
    have latching := Stance.latching_dispatched environment
      { entry.before.stance with phase := entry.before.stance.phase.settled } command
    have broke : entry.Broke environment ↔
        Breaks environment entry.before.dialogue.context entry.before.shared.world command := by
      rw [Entry.Broke, spelled]
      exact ⟨fun ⟨_, equal, breaks⟩ => Option.some.inj equal ▸ breaks,
        fun breaks => ⟨command, rfl, breaks⟩⟩
    constructor
    · intro _
      rw [reply, broke]
      exact latching.told
    · rw [context, broke, spelled, Ne, Option.some_inj]
      exact latching.raised
    · intro clear
      rw [spelled, Option.some_inj] at clear
      exact context.trans (latching.released clear)
    · intro latched notClear
      rw [spelled, Ne, Option.some_inj] at notClear
      exact context.trans (latching.kept latched notClear)
    · intro latched
      exact world.trans (latching.idle latched)
    · intro latched other equal guarded
      rw [spelled, Option.some_inj] at equal
      rw [reply, latching.refused latched (equal ▸ guarded)]
    · intro latched display
      rw [spelled, Option.some_inj] at display
      obtain ⟨rows, first⟩ := latching.shown latched display
      generalize Response.answer _ = answer at reply first
      obtain ⟨_, status⟩ := answer
      cases first
      exact ⟨_, reply.trans (Answer.wire_cons latchRow rows status)⟩
  · -- What spells no command changes the phase at most.
    rw [same entry.before.stance rfl] at context world
    have intact : ¬entry.Broke environment := by
      rintro ⟨command, spelled, _⟩
      rw [nothing] at spelled
      cases spelled
    have unspelled {command : Command} (spelled : entry.inquiry.command? = some command) :
        False := by
      rw [nothing] at spelled
      cases spelled
    refine ⟨fun some => absurd nothing some, ?_, fun clear => (unspelled clear).elim,
      fun _ _ => context, fun _ => world, fun _ _ spelled _ => (unspelled spelled).elim,
      fun _ display => (unspelled display).elim⟩
    rw [context, or_iff_right intact, and_iff_left unspelled]
    rfl

/-! ## Entries that follow each other -/

/-- Whether something broke since the last `clear`, or since the start. -/
def Disturbed (environment : Environment World) (entries : List (Entry World)) : Prop :=
  ∃ earlier entry later, entries = earlier ++ entry :: later ∧ entry.Broke environment ∧
    ∀ other ∈ later, other.inquiry.command? ≠ some .clear

theorem not_disturbed_nil (environment : Environment World) : ¬Disturbed environment [] := by
  rintro ⟨earlier, entry, later, split, _⟩
  exact List.append_ne_nil_of_right_ne_nil earlier (List.cons_ne_nil entry later) split.symm

theorem disturbed_cons_iff
    {environment : Environment World} {entry : Entry World} {rest : List (Entry World)} :
    Disturbed environment (entry :: rest) ↔ Disturbed environment rest ∨
      entry.Broke environment ∧ ∀ other ∈ rest, other.inquiry.command? ≠ some .clear := by
  constructor
  · rintro ⟨earlier, broken, later, split, broke, uncleared⟩
    rcases earlier with _ | ⟨first, earlier⟩
    · obtain ⟨rfl, rfl⟩ := List.cons.inj split
      exact .inr ⟨broke, uncleared⟩
    · obtain ⟨rfl, rfl⟩ := List.cons.inj split
      exact .inl ⟨earlier, broken, later, rfl, broke, uncleared⟩
  · rintro (⟨earlier, broken, later, rfl, broke, uncleared⟩ | ⟨broke, uncleared⟩)
    · exact ⟨entry :: earlier, broken, later, rfl, broke, uncleared⟩
    · exact ⟨[], entry, rest, rfl, broke, uncleared⟩

/--
Entries for a client that takes every reply, between which nothing but their inquiries changes what
is staged.
-/
inductive Follows (environment : Environment World) :
    Context → List (Entry World) → Context → Prop
  | nil (context : Context) : Follows environment context [] context
  | cons {entry : Entry World} {rest : List (Entry World)} {last : Context}
      (willing : entry.before.sink.Willing)
      (answered : entry.after = (Session.answered environment entry.inquiry entry.before).2)
      (others : Follows environment entry.after.dialogue.context rest last) :
      Follows environment entry.before.dialogue.context (entry :: rest) last

namespace Follows

variable {environment : Environment World} {first middle last : Context}
  {entries more : List (Entry World)}

theorem append
    (start : Follows environment first entries middle)
    (further : Follows environment middle more last) :
    Follows environment first (entries ++ more) last := by
  induction start with
  | nil context => exact further
  | cons willing answered others hypothesis => exact .cons willing answered (hypothesis further)

theorem split
    {earlier : List (Entry World)}
    (follows : Follows environment first (earlier ++ more) last) :
    ∃ middle, Follows environment first earlier middle ∧ Follows environment middle more last := by
  induction earlier generalizing first with
  | nil => exact ⟨first, .nil first, follows⟩
  | cons entry rest hypothesis =>
      cases follows with
      | cons willing answered others =>
          obtain ⟨middle, start, further⟩ := hypothesis others
          exact ⟨middle, .cons willing answered start, further⟩

/-- The latch is up when something broke and was not cleared, or was up and was not cleared. -/
theorem latched_iff
    (follows : Follows environment first entries last) :
    last.latched = true ↔ Disturbed environment entries ∨
      first.latched = true ∧ ∀ entry ∈ entries, entry.inquiry.command? ≠ some .clear := by
  induction follows with
  | nil context =>
      rw [or_iff_right (not_disturbed_nil environment), and_iff_left fun _ member => nomatch member]
  | @cons entry rest last willing answered others hypothesis =>
      rw [hypothesis, disturbed_cons_iff, (Entry.latching willing answered).raised,
        List.forall_mem_cons, or_and_right, or_assoc, and_assoc]

end Follows

namespace Session

/--
Answering inquiries for a client that takes every reply leaves entries that follow each other.
-/
theorem follows_entriesFrom
    (environment : Environment World) {turn : Turn World}
    (willing : turn.sink.Willing)
    (inquiries : List Inquiry) :
    Follows environment turn.dialogue.context (entriesFrom environment turn inquiries)
      (answeredAll environment turn inquiries).dialogue.context := by
  induction inquiries generalizing turn with
  | nil => exact .nil _
  | cons inquiry rest hypothesis =>
      let entry : Entry World := ⟨inquiry, turn, (answered environment inquiry turn).2⟩
      have taking : entry.before.sink.Willing := willing
      obtain ⟨_, _, still⟩ := Entry.meets taking rfl
      show Follows environment entry.before.dialogue.context (entry :: _) _
      exact .cons taking rfl (hypothesis still)

end Session

/-! ## Runs -/

namespace Line

variable {environment : Environment World}

/-- What answering a record on a line can see and change. -/
def turn (line : Line World) : Turn World :=
  ⟨line.session.dialogue, line.sink, line.shared⟩

/-- What can happen on a line whose client takes every reply, and the entries that it leaves. -/
inductive Leaves (environment : Environment World) :
    Line World → List (Entry World) → Line World → Prop
  | start (line : Line World) : Leaves environment line [] line
  | step {first line next : Line World} {entries : List (Entry World)} {inquiries : List Inquiry}
      (run : Leaves environment first entries line) (willing : line.sink.Willing)
      (step : Step environment line inquiries next) :
      Leaves environment first
        (entries ++ Session.entriesFrom environment line.turn inquiries) next

theorem Step.follows
    {line next : Line World} {inquiries : List Inquiry}
    (step : Step environment line inquiries next)
    (willing : line.sink.Willing) :
    Follows environment line.session.context
      (Session.entriesFrom environment line.turn inquiries) next.session.context := by
  cases step with
  | received source =>
      have same := (receive_keeps line.session source).1.2
      rw [Session.context, Session.context, same]
      exact .nil _
  | processed result =>
      have taking : line.turn.sink.Willing := willing
      have reached := Session.processFrom_answeredAll environment line.session.decoder line.turn
      have follows := Session.follows_entriesFrom environment taking
        (Session.inquiriesFrom environment line.session.decoder line.turn)
      rw [← reached] at follows
      exact follows
  | flushed =>
      have same := (flush_keeps line.session line.sink).2.1
      rw [Session.context, Session.context, same]
      exact .nil _
  | turned => exact .nil _
  | shared => exact .nil _
  | closed => exact .nil _

theorem Leaves.follows
    {first last : Line World} {entries : List (Entry World)}
    (run : Leaves environment first entries last) :
    Follows environment first.session.context entries last.session.context := by
  induction run with
  | start => exact .nil _
  | step run willing step hypothesis => exact hypothesis.append (step.follows willing)

/-! ## The latch -/

/--
A fresh session runs with any backends, any file system and a client that takes every reply; what is
shared may change at any time.  The calls of the backends are recorded in the world.  At the end and
around every entry, the context is latched exactly when something broke since the last `clear`.
What each entry does about the latch is as `Entry.Latching` says, and the run can always go on.
-/
theorem latched_iff_disturbed
    (environment : Environment World) (allowEmpty : Bool) (sink : Sink)
    (shared : Shared (Recorded World)) {entries : List (Entry (Recorded World))}
    {last : Line (Recorded World)}
    (run : Leaves environment.recorded ⟨Session.fresh allowEmpty, sink, shared⟩ entries last) :
    (last.session.context.latched = true ↔ Disturbed environment.recorded entries) ∧
    (∀ earlier entry later, entries = earlier ++ entry :: later →
      (entry.before.dialogue.context.latched = true ↔
        Disturbed environment.recorded earlier) ∧
      (entry.after.dialogue.context.latched = true ↔
        Disturbed environment.recorded (earlier ++ [entry])) ∧
      entry.Latching environment.recorded) ∧
    ∀ (sink : Sink) (shared : Shared (Recorded World)), sink.Willing →
      (last.session.process environment.recorded sink shared).1 = .ok () := by
  have follows := run.follows
  have told {entries : List (Entry (Recorded World))} {context : Context}
      (follows : Follows environment.recorded Context.empty entries context) :
      context.latched = true ↔ Disturbed environment.recorded entries := by
    rw [follows.latched_iff]
    exact or_iff_left fun both => Bool.false_ne_true both.1
  refine ⟨told follows, ?_, ?_⟩
  · rintro earlier entry later rfl
    obtain ⟨middle, start, further⟩ := follows.split
    cases further with
    | cons willing answered others =>
        exact ⟨told start, told (start.append (.cons willing answered (.nil _))),
          Entry.latching willing answered⟩
  · intro sink shared willing
    have taking : (⟨last.session.dialogue, sink, shared⟩ : Turn (Recorded World)).sink.Willing :=
      willing
    exact Session.processFrom_of_willing environment.recorded last.session.decoder taking

/-- A line whose client is about to send everything, and where access control cannot be set up. -/
def unlabelled : Line (Recorded Grants) :=
  ⟨Session.fresh false, {}, { world := (Grants.empty, []) }⟩

/-- A failed install, two commands behind the latch, and a new start. -/
def relapsing : Source :=
  [.bytes (Text.bytes "id ab\ninstall\npermission p\ndisplay\nclear\nid cd\n")]

/-- The latch is up from the failed install to `clear`. -/
theorem latched_iff_disturbed_while_relapsing :
    ∃ (entries : List (Entry (Recorded Grants))) (last : Line (Recorded Grants)),
      Leaves unlabelling.recorded unlabelled entries last ∧
      entries.map Entry.reply = [Text.bytes "done\n", Text.bytes "error internal\n",
        Text.bytes "error unrecoverable\n", Text.bytes "string error on\nstring id ab\ndone\n",
        Text.bytes "done\n", Text.bytes "done\n"] ∧
      Disturbed unlabelling.recorded (entries.take 4) ∧
      ¬Disturbed unlabelling.recorded entries := by
  let filled : Line (Recorded Grants) :=
    { unlabelled with session := (unlabelled.session.receive relapsing).2.1 }
  let inquiries := filled.session.inquiries unlabelling.recorded filled.sink filled.shared
  let entries := Session.entriesFrom unlabelling.recorded filled.turn inquiries
  have willing : unlabelled.sink.Willing := by intro outcome member; cases member
  have taking : filled.turn.sink.Willing := willing
  have result : (filled.session.process unlabelling.recorded filled.sink filled.shared).1 =
      .ok () :=
    Session.processFrom_of_willing unlabelling.recorded filled.session.decoder taking
  have run : Leaves unlabelling.recorded unlabelled entries
      (filled.processed unlabelling.recorded) :=
    ((Leaves.start unlabelled).step willing (.received unlabelled relapsing)).step taking
      (.processed filled result)
  obtain ⟨last, each, _⟩ :=
    latched_iff_disturbed unlabelling false {} { world := (Grants.empty, []) } run
  have latched : (entries.drop 4).head?.map (fun entry => entry.before.dialogue.context.latched) =
      some true := by decide +kernel
  have released : (filled.processed unlabelling.recorded).session.context.latched = false := by
    decide +kernel
  refine ⟨entries, _, run, by decide +kernel, ?_, ?_⟩
  · cases behind : entries.drop 4 with
    | nil =>
        rw [behind] at latched
        cases latched
    | cons entry later =>
        rw [behind] at latched
        have split : entries = entries.take 4 ++ entry :: later := by
          rw [← behind, List.take_append_drop]
        exact (each _ _ _ split).1.1 (Option.some.inj latched)
  · intro disturbed
    rw [last.2 disturbed] at released
    cases released

end Line

end Confinement
