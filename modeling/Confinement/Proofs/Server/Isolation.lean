import Confinement.Proofs.Server.Interleaving
import Confinement.Proofs.Session.Worlds
import Mathlib.Data.List.Forall2

/-!
# Isolation of sessions

The sessions of a hub share permissions, the applications that are set up and the log switch.  Still
each of them runs as it does alone, as long as its own client takes every reply: what it comes up
with, how far it has come and what it has staged are the same, and so is every reply but those to an
install and to the question for the log switch.  What the clients of the others take is no matter.

A client that leaves its replies untaken is not isolated: the replies that wait for it share one
buffer, and their lengths tell of the other sessions (`not_isolated_while_stalled`).
-/

namespace Confinement

open Host Policy Staging Wire

/-! ## Turns that are alike -/

/-- Whether turns are alike, their clients taking every reply. -/
structure Turn.Alike (left right : Turn Machine) : Prop where
  stance : left.stance.Alike right.stance
  reachable : Reachable left.dialogue.context
  willing : left.sink.Willing
  alsoWilling : right.sink.Willing

/-- Whether entries tell of the same inquiry and lead to the same; own replies are the same, too. -/
structure Entry.Resembles (left right : Entry Machine) : Prop where
  inquiry : left.inquiry = right.inquiry
  phase : left.after.dialogue.phase = right.after.dialogue.phase
  context : left.after.dialogue.context = right.after.dialogue.context
  reply : left.inquiry.IsOwn → left.reply = right.reply

namespace Turn.Alike

variable {left right : Turn Machine}

theorem sound
    (alike : left.Alike right)
    (inquiry : Inquiry) :
    Entry.Sound ⟨inquiry, left, (Session.answered inMemory inquiry left).2⟩ ∧
      Entry.Sound ⟨inquiry, right, (Session.answered inMemory inquiry right).2⟩ := by
  have context : left.dialogue.context = right.dialogue.context := alike.stance.context
  exact ⟨⟨alike.willing, alike.reachable, rfl⟩,
    ⟨alike.alsoWilling, context ▸ alike.reachable, rfl⟩⟩

/-- Alike turns meet an inquiry in the same way, and are alike afterwards. -/
theorem answered
    (alike : left.Alike right)
    (inquiry : Inquiry) :
    Entry.Resembles ⟨inquiry, left, (Session.answered inMemory inquiry left).2⟩
        ⟨inquiry, right, (Session.answered inMemory inquiry right).2⟩ ∧
      (Session.answered inMemory inquiry left).2.Alike
        (Session.answered inMemory inquiry right).2 := by
  obtain ⟨sound, alsoSound⟩ := alike.sound inquiry
  obtain ⟨reply, stance, willing⟩ := sound.met
  obtain ⟨otherReply, otherStance, alsoWilling⟩ := alsoSound.met
  have same := alike.stance.meet alike.reachable inquiry
  have after : (Session.answered inMemory inquiry left).2.stance.Alike
      (Session.answered inMemory inquiry right).2.stance := by
    have alike := same.stance
    rwa [← stance, ← otherStance] at alike
  refine ⟨⟨rfl, after.phase, after.context, ?_⟩,
    ⟨after, sound.reachable_after, willing, alsoWilling⟩⟩
  intro own
  rw [reply, otherReply]
  exact congrArg Answer.wire (same.answer own)

theorem answeredAll
    (alike : left.Alike right)
    (inquiries : List Inquiry) :
    List.Forall₂ Entry.Resembles (Session.entriesFrom inMemory left inquiries)
        (Session.entriesFrom inMemory right inquiries) ∧
      (Session.answeredAll inMemory left inquiries).Alike
        (Session.answeredAll inMemory right inquiries) := by
  induction inquiries generalizing left right with
  | nil => exact ⟨.nil, alike⟩
  | cons inquiry rest hypothesis =>
      obtain ⟨resembles, after⟩ := alike.answered inquiry
      obtain ⟨others, last⟩ := hypothesis after
      exact ⟨.cons resembles others, last⟩

/-- A decoder comes up with the same in alike turns, and is left the same. -/
theorem processFrom
    {left right : Turn Machine}
    (alike : left.Alike right)
    (decoder : Decoder) :
    Session.inquiriesFrom inMemory decoder left = Session.inquiriesFrom inMemory decoder right ∧
      (Session.processFrom inMemory decoder left).2.1 =
        (Session.processFrom inMemory decoder right).2.1 := by
  have phase : left.dialogue.phase = right.dialogue.phase := alike.stance.phase
  cases isOpen : left.dialogue.phase.isOpen with
  | false =>
      obtain ⟨same, nothing⟩ := Session.processFrom_of_closed inMemory decoder isOpen
      obtain ⟨otherSame, otherNothing⟩ :=
        Session.processFrom_of_closed inMemory decoder (phase ▸ isOpen)
      rw [same, nothing, otherSame, otherNothing]
      exact ⟨rfl, rfl⟩
  | true =>
      have alsoOpen : right.dialogue.phase.isOpen = true := phase ▸ isOpen
      rcases decoder.tryRecord_cases with
        ⟨record, next, found, _⟩ | ⟨next, found, _⟩ | ⟨next, found, _⟩
      · -- Both answer the same record, and go on alike with fewer bytes.
        have shorter := Decoder.buffered_advance_lt found
        have after : (Session.answerRecord inMemory record left).2.Alike
            (Session.answerRecord inMemory record right).2 :=
          (alike.answered (.received record)).2
        obtain ⟨middle, answered, _⟩ := Session.answerRecord_gives alike.willing inMemory record
        obtain ⟨other, alsoAnswered, _⟩ :=
          Session.answerRecord_gives alike.alsoWilling inMemory record
        rw [answered, alsoAnswered] at after
        obtain ⟨same, more⟩ := Session.processFrom_of_record inMemory isOpen found answered
        obtain ⟨otherSame, otherMore⟩ :=
          Session.processFrom_of_record inMemory alsoOpen found alsoAnswered
        obtain ⟨inquiries, last⟩ := processFrom after next.advance
        rw [same, more, otherSame, otherMore, inquiries, last]
        exact ⟨rfl, rfl⟩
      · obtain ⟨same, nothing⟩ := Session.processFrom_of_none inMemory isOpen found
        obtain ⟨otherSame, otherNothing⟩ := Session.processFrom_of_none inMemory alsoOpen found
        rw [same, nothing, otherSame, otherNothing]
        exact ⟨rfl, rfl⟩
      · obtain ⟨same, one⟩ := Session.processFrom_of_error inMemory isOpen found
        obtain ⟨otherSame, otherOne⟩ := Session.processFrom_of_error inMemory alsoOpen found
        rw [same, one, otherSame, otherOne]
        exact ⟨rfl, rfl⟩
termination_by decoder.buffered

end Turn.Alike

/-! ## Hubs that agree on a session -/

namespace Hub

variable {Index : Type} [DecidableEq Index]

/-- Whether an event is one of a session, or of the file system. -/
def Event.concerns (index : Index) : Event Index → Bool
  | .received other _ | .processed other _ | .closed other => decide (other = index)
  | .filed _ => true

/-- What one session has answered. -/
def heardBy (index : Index) (transcript : Transcript Index) : List (Entry Machine) :=
  (transcript.filter fun heard => decide (heard.1 = index)).map Prod.snd

theorem heardBy_append (index : Index) (first second : Transcript Index) :
    heardBy index (first ++ second) = heardBy index first ++ heardBy index second := by
  rw [heardBy, List.filter_append, List.map_append]
  rfl

/--
Whether hubs agree on a session and on the file system, the context of the session being one that
operations lead to.
-/
structure Agree (index : Index) (left right : Hub Index) : Prop where
  decoder : (left.sessions index).decoder = (right.sessions index).decoder
  phase : (left.sessions index).phase = (right.sessions index).phase
  context : (left.sessions index).context = (right.sessions index).context
  files : left.shared.world.files = right.shared.world.files
  reachable : Reachable (left.sessions index).context

variable {index : Index} {left right : Hub Index} {event : Event Index}

theorem heardBy_heard_of_not_concerned
    (hub : Hub Index)
    (other : event.concerns index = false) :
    heardBy index (hub.heard event) = [] := by
  cases event with
  | processed who script =>
      have apart : who ≠ index := of_decide_eq_false other
      simp [heardBy, heard, apart]
  | _ => rfl

theorem heardBy_heard_processed (hub : Hub Index) (index : Index) (script : List WriteOutcome) :
    heardBy index (hub.heard (.processed index script)) = hub.entries index script := by
  rw [heardBy, heard, List.filter_eq_self.2, List.map_map]
  · exact List.map_id _
  · intro heard member
    obtain ⟨entry, _, rfl⟩ := List.mem_map.1 member
    exact decide_eq_true rfl

/-- No call of the backends in memory changes the file system. -/
theorem sparesFiles_inMemory :
    inMemory.Moves fun before after : Machine => before.files = after.files where
  refl _ := rfl
  trans _ _ _ := Eq.trans
  check _ _ _ := rfl
  add _ _ _ _ := rfl
  drop _ _ := rfl
  install context machine := by
    cases named : context.id with
    | none =>
        obtain ⟨⟨call, done⟩, _⟩ := inMemory_unnamed named machine
        rw [done]
        rfl
    | some id =>
        obtain ⟨call, done⟩ := inMemory_install named machine
        rw [done]
        rfl
  uninstall context machine := by
    cases named : context.id with
    | none =>
        obtain ⟨_, call, done⟩ := inMemory_unnamed named machine
        rw [done]
        rfl
    | some id =>
        obtain ⟨call, done⟩ := inMemory_uninstall named machine
        rw [done]
        rfl

/-- Answering never changes the file system, whatever the client does with the replies. -/
theorem files_processed (hub : Hub Index) (index : Index) (script : List WriteOutcome) :
    (hub.processed index script).shared.world.files = hub.shared.world.files := by
  rw [processed_eq, answeredAll, inquiries, ← Session.processFrom_answeredAll]
  exact (sparesFiles_inMemory.processFrom _ (hub.turn index script)).symm

/-- What happens to other sessions leaves a session as it is. -/
theorem Agree.after_of_not_concerned
    (agree : left.Agree index right)
    (other : event.concerns index = false) :
    (left.after event).Agree index right := by
  have elsewhere {who : Index} (apart : who ≠ index) (session : Session) (shared : Shared Machine)
      (files : shared.world.files = left.shared.world.files) :
      Agree index { left.withSession who session with shared } right := by
    have kept := sessions_withSession_of_ne apart.symm left session
    constructor
    · exact (congrArg Session.decoder kept).trans agree.decoder
    · exact (congrArg Session.phase kept).trans agree.phase
    · exact (congrArg Session.context kept).trans agree.context
    · exact files.trans agree.files
    · exact congrArg Session.context kept ▸ agree.reachable
  cases event with
  | received who source => exact elsewhere (of_decide_eq_false other) _ left.shared rfl
  | closed who => exact elsewhere (of_decide_eq_false other) _ left.shared rfl
  | filed files => cases other
  | processed who script =>
      exact elsewhere (of_decide_eq_false other) _ _ (files_processed left who script)

/-- A read finds the same in sessions that agree. -/
theorem receive_agree
    {session other : Session} (source : Source)
    (decoder : session.decoder = other.decoder)
    (phase : session.phase = other.phase)
    (context : session.context = other.context) :
    (session.receive source).2.1.decoder = (other.receive source).2.1.decoder ∧
      (session.receive source).2.1.phase = (other.receive source).2.1.phase ∧
      (session.receive source).2.1.context = (other.receive source).2.1.context := by
  rw [Session.receive, Session.receive, decoder]
  obtain ⟨result, next, rest⟩ := other.decoder.fillFrom source
  dsimp only
  split
  · exact ⟨rfl, rfl, context⟩
  all_goals exact ⟨rfl, phase, context⟩

/-- What happens to a session happens to it in the same way at hubs that agree on it. -/
theorem Agree.after_of_concerned
    (agree : left.Agree index right)
    (willing : event.Willing)
    (concerned : event.concerns index = true) :
    (left.after event).Agree index (right.after event) ∧
      List.Forall₂ Entry.Resembles (heardBy index (left.heard event))
        (heardBy index (right.heard event)) := by
  have here (session other : Session) (decoder : session.decoder = other.decoder)
      (phase : session.phase = other.phase) (context : session.context = other.context)
      (reachable : Reachable session.context)
      (shared after : Shared Machine) (files : shared.world.files = after.world.files) :
      Agree index { left.withSession index session with shared }
        { right.withSession index other with shared := after } := by
    have mine := sessions_withSession_self left index session
    have others := sessions_withSession_self right index other
    constructor
    · exact (congrArg Session.decoder mine).trans
        (decoder.trans (congrArg Session.decoder others).symm)
    · exact (congrArg Session.phase mine).trans (phase.trans (congrArg Session.phase others).symm)
    · exact (congrArg Session.context mine).trans
        (context.trans (congrArg Session.context others).symm)
    · exact files
    · exact congrArg Session.context mine ▸ reachable
  cases event with
  | received who source =>
      obtain rfl : who = index := of_decide_eq_true concerned
      obtain ⟨decoder, phase, context⟩ :=
        receive_agree source agree.decoder agree.phase agree.context
      have reachable : Reachable ((left.sessions who).receive source).2.1.dialogue.context := by
        rw [(Line.receive_keeps (left.sessions who) source).1.2]
        exact agree.reachable
      exact ⟨here _ _ decoder phase context reachable left.shared right.shared agree.files, .nil⟩
  | closed who =>
      obtain rfl : who = index := of_decide_eq_true concerned
      exact ⟨here (left.sessions who).close (right.sessions who).close agree.decoder rfl
        agree.context agree.reachable left.shared right.shared agree.files, .nil⟩
  | filed files =>
      exact ⟨⟨agree.decoder, agree.phase, agree.context, rfl, agree.reachable⟩, .nil⟩
  | processed who script =>
      obtain rfl : who = index := of_decide_eq_true concerned
      have alike : (left.turn who script).Alike (right.turn who script) :=
        ⟨⟨agree.phase, agree.context, agree.files⟩, agree.reachable, willing, willing⟩
      -- What other sessions did to the machine and the log switch plays no part here.
      obtain ⟨inquiries, decoder⟩ := alike.processFrom (left.sessions who).decoder
      rw [agree.decoder] at inquiries decoder
      have same : left.inquiries who script = right.inquiries who script := by
        rw [Hub.inquiries, agree.decoder, inquiries]
        rfl
      obtain ⟨resembles, after⟩ := alike.answeredAll (left.inquiries who script)
      constructor
      · rw [Hub.after, Hub.after, processed_eq, processed_eq, agree.decoder, decoder]
        rw [Hub.answeredAll, Hub.answeredAll, ← same]
        apply here
        · rfl
        · exact after.stance.phase
        · exact after.stance.context
        · exact after.reachable
        · exact after.stance.files
      · rw [heardBy_heard_processed, heardBy_heard_processed, entries, entries, ← same]
        exact resembles

/-! ## Isolation -/

/--
Whether a session runs at a hub as it does alone: it comes to the same phase and context, and what
it answers resembles what it answers alone.
-/
def Isolated (hub : Hub Index) (events : List (Event Index)) (index : Index) : Prop :=
  let alone := events.filter (Event.concerns index)
  ((hub.afterAll events).sessions index).phase = ((hub.afterAll alone).sessions index).phase ∧
    ((hub.afterAll events).sessions index).context =
      ((hub.afterAll alone).sessions index).context ∧
    List.Forall₂ Entry.Resembles (heardBy index (hub.transcript events))
      (heardBy index (hub.transcript alone))

/-- Hubs that agree on a session go on to agree when one of them lacks the events of others. -/
theorem Agree.afterAll
    (agree : left.Agree index right)
    {events : List (Event Index)}
    (willing : ∀ event ∈ events, event.concerns index = true → event.Willing) :
    (left.afterAll events).Agree index (right.afterAll (events.filter (Event.concerns index))) ∧
      List.Forall₂ Entry.Resembles (heardBy index (left.transcript events))
        (heardBy index (right.transcript (events.filter (Event.concerns index)))) := by
  induction events generalizing left right with
  | nil => exact ⟨agree, .nil⟩
  | cons event rest hypothesis =>
      have others := fun other member => willing other (List.mem_cons_of_mem event member)
      cases concerned : event.concerns index with
      | false =>
          rw [List.filter_cons_of_neg (by rw [concerned]; exact Bool.false_ne_true)]
          obtain ⟨last, resembles⟩ := hypothesis (agree.after_of_not_concerned concerned) others
          refine ⟨last, ?_⟩
          rw [transcript, heardBy_append, heardBy_heard_of_not_concerned left concerned]
          exact resembles
      | true =>
          rw [List.filter_cons_of_pos concerned]
          have taking := willing event List.mem_cons_self concerned
          obtain ⟨still, here⟩ := agree.after_of_concerned taking concerned
          obtain ⟨last, resembles⟩ := hypothesis still others
          refine ⟨last, ?_⟩
          rw [transcript, transcript, heardBy_append, heardBy_append]
          exact List.rel_append here resembles

/--
Any number of fresh sessions share a machine and the log switch.  Whatever happens to them in
whatever order, and whatever other clients do with their replies, a session whose own client takes
every reply runs as it does when only its own events and those of the file system happen.
-/
theorem isolated_of_willing
    (modes : Index → Bool) (shared : Shared Machine) (events : List (Event Index))
    (index : Index)
    (willing : ∀ event ∈ events, event.concerns index = true → event.Willing) :
    (fresh modes shared).Isolated events index := by
  have same : (fresh modes shared).Agree index (fresh modes shared) :=
    ⟨rfl, rfl, rfl, rfl, Reachable.empty⟩
  obtain ⟨agree, resembles⟩ := same.afterAll willing
  exact ⟨agree.phase, agree.context, resembles⟩

/-- Two sessions, the log switch being on. -/
def pair : Hub Bool :=
  fresh (fun _ => false) { world := { files := FileTree.empty }, logging := true }

/-- One client turns the log switch and is gone, and the other one asks for it. -/
def switching : List (Event Bool) :=
  sending true "log off\nlog\n" [.failure .brokenPipe] ++
    sending false "id ab\nlog\n" [.accept 3, .failure .interrupted]

/--
A client that is gone is no harm to the other one.  What this is told of the log switch is no part
of what is isolated.
-/
theorem isolated_of_willing_while_switching :
    ¬(∀ event ∈ switching, event.Willing) ∧ pair.Isolated switching false ∧
      (heardBy false (pair.transcript switching)).map Entry.reply =
        [Text.bytes "done\n", Text.bytes "done off\n"] ∧
      (heardBy false (pair.transcript (switching.filter (Event.concerns false)))).map Entry.reply =
        [Text.bytes "done\n", Text.bytes "done on\n"] := by
  have willing : ∀ event ∈ switching, event.concerns false = true → event.Willing := by decide
  refine ⟨by decide, isolated_of_willing (fun _ => false) _ switching false willing, ?_, ?_⟩
  · decide +kernel
  · decide +kernel

/--
One client takes no reply, and its replies pile up.  The other one turns the log switch; the word
for its new position is longer, so that one reply does not fit any more.
-/
def stalling : List (Event Bool) :=
  sending false "id abcdefghijklmnopqrst\n" [.failure .wouldBlock] ++
    sending false "permission abcdefghijklmnopqrst\n" [.failure .wouldBlock] ++
    (List.replicate 26 (sending false "display\n" [.failure .wouldBlock])).flatten ++
    sending true "log off\n" [] ++
    (List.replicate 5
      (sending false "log\n" [.failure .wouldBlock, .failure .wouldBlock])).flatten

/-- A session whose client takes no reply is ended where it would go on alone. -/
theorem not_isolated_while_stalled : ¬pair.Isolated stalling false := by
  rintro ⟨phase, _⟩
  have ended : ((pair.afterAll stalling).sessions false).phase = .invalid := by decide +kernel
  have going : ((pair.afterAll (stalling.filter (Event.concerns false))).sessions false).phase =
      .active 1 := by decide +kernel
  rw [ended, going] at phase
  cases phase

end Hub

end Confinement
