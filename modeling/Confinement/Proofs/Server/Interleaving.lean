import Confinement.Proofs.Session.Entries
import Confinement.Proofs.Session.InMemory
import Confinement.Proofs.Session.Discipline
import Mathlib.Logic.Function.Basic

/-!
# Interleaved sessions

A `Hub` is any number of sessions with what they share.  Its events are reads of single sessions,
the answering of what a session has buffered, the closing of a session, and changes of the file
system from outside.  They come in any order, and a run of events leaves a transcript: every
inquiry that was answered, by which session, between which turns.
-/

namespace Confinement

open Host Policy Staging Wire

/--
An entry that a session leaves whose client takes every reply, its context being one that
operations lead to.
-/
structure Entry.Sound (entry : Entry Machine) : Prop where
  willing : entry.before.sink.Willing
  reachable : Reachable entry.before.dialogue.context
  answered : entry.after = (Session.answered inMemory entry.inquiry entry.before).2

namespace Entry.Sound

variable {entry : Entry Machine}

/-- The client is told the response to the inquiry, and the session stands where that leads. -/
theorem met (sound : entry.Sound) :
    entry.reply = (entry.before.stance.meet inMemory entry.inquiry).answer.wire ∧
      entry.after.stance = (entry.before.stance.meet inMemory entry.inquiry).stance ∧
      entry.after.sink.Willing :=
  Entry.meets sound.willing sound.answered

theorem reachable_after (sound : entry.Sound) : Reachable entry.after.dialogue.context := by
  have same : entry.after.dialogue.context =
      (entry.before.stance.meet inMemory entry.inquiry).stance.context :=
    congrArg Stance.context sound.met.2.1
  rw [same]
  have before : Reachable entry.before.stance.context := sound.reachable
  exact Stance.reachable_meet before entry.inquiry

/-- What an inquiry did to the machine, and how it was answered. -/
theorem effect (sound : entry.Sound) :
    ∃ answer : Answer, entry.reply = answer.wire ∧
      Effect entry.before.dialogue.context entry.before.shared.world entry.inquiry.command?
        answer entry.after.shared.world := by
  have before : Reachable entry.before.stance.context := sound.reachable
  have effect := Stance.effect_meet before entry.inquiry
  rw [← sound.met.2.1] at effect
  exact ⟨_, sound.met.1, effect⟩

end Entry.Sound

namespace Session

variable {turn : Turn Machine}

/-- Answering inquiries for a client that takes every reply leaves sound entries. -/
theorem sound_entriesFrom
    (willing : turn.sink.Willing)
    (reachable : Reachable turn.dialogue.context)
    (inquiries : List Inquiry) :
    (∀ entry ∈ entriesFrom inMemory turn inquiries, entry.Sound) ∧
      Reachable (answeredAll inMemory turn inquiries).dialogue.context := by
  induction inquiries generalizing turn with
  | nil => exact ⟨fun _ member => (by cases member), reachable⟩
  | cons inquiry rest hypothesis =>
      have sound : Entry.Sound ⟨inquiry, turn, (answered inMemory inquiry turn).2⟩ :=
        ⟨willing, reachable, rfl⟩
      obtain ⟨others, last⟩ := hypothesis sound.met.2.2 sound.reachable_after
      refine ⟨?_, last⟩
      intro entry member
      rcases List.mem_cons.1 member with rfl | later
      · exact sound
      · exact others entry later

end Session

/-! ## Hubs -/

/-- Sessions with what they share. -/
structure Hub (Index : Type) where
  sessions : Index → Session
  shared : Shared Machine

/-- What can happen at a hub. -/
inductive Hub.Event (Index : Type) where
  /-- A session reads once. -/
  | received (index : Index) (source : Source)
  /-- A session answers what it has buffered to a client that does this with the writes. -/
  | processed (index : Index) (script : List WriteOutcome)
  /-- A session is closed. -/
  | closed (index : Index)
  /-- The file system changes. -/
  | filed (files : FileTree)

/-- The records of who answered what. -/
abbrev Transcript (Index : Type) := List (Index × Entry Machine)

namespace Hub

variable {Index : Type} [DecidableEq Index]

/-- Whether a client takes every reply in an event. -/
def Event.Willing : Event Index → Prop
  | .processed _ script => ∀ outcome ∈ script, outcome.Willing
  | .received _ _ | .closed _ | .filed _ => True

instance (event : Event Index) : Decidable event.Willing :=
  match event with
  | .processed _ script => inferInstanceAs (Decidable (∀ outcome ∈ script, outcome.Willing))
  | .received _ _ | .closed _ | .filed _ => inferInstanceAs (Decidable True)

/-- The sessions that have just been accepted. -/
def fresh (modes : Index → Bool) (shared : Shared Machine) : Hub Index :=
  ⟨fun index => Session.fresh (modes index), shared⟩

/-- The turn of a session. -/
def turn (hub : Hub Index) (index : Index) (script : List WriteOutcome) : Turn Machine :=
  ⟨(hub.sessions index).dialogue, { script }, hub.shared⟩

def withSession (hub : Hub Index) (index : Index) (session : Session) : Hub Index :=
  { hub with sessions := Function.update hub.sessions index session }

/-- A hub after one of its sessions has answered what it has buffered. -/
def processed (hub : Hub Index) (index : Index) (script : List WriteOutcome) : Hub Index :=
  let (_, session, _, shared) := (hub.sessions index).process inMemory { script } hub.shared
  { hub.withSession index session with shared }

/-- What a session comes up with. -/
def inquiries (hub : Hub Index) (index : Index) (script : List WriteOutcome) : List Inquiry :=
  Session.inquiriesFrom inMemory (hub.sessions index).decoder (hub.turn index script)

/-- What a session answers. -/
def entries (hub : Hub Index) (index : Index) (script : List WriteOutcome) :
    List (Entry Machine) :=
  Session.entriesFrom inMemory (hub.turn index script) (hub.inquiries index script)

/-- The turn in which a session has answered what it has buffered. -/
def answeredAll (hub : Hub Index) (index : Index) (script : List WriteOutcome) : Turn Machine :=
  Session.answeredAll inMemory (hub.turn index script) (hub.inquiries index script)

/-- A hub after an event. -/
def after (hub : Hub Index) : Event Index → Hub Index
  | .received index source =>
    hub.withSession index ((hub.sessions index).receive source).2.1
  | .processed index script => hub.processed index script
  | .closed index => hub.withSession index (hub.sessions index).close
  | .filed files =>
    { hub with shared := { hub.shared with world := { hub.shared.world with files } } }

/-- What is answered in an event. -/
def heard (hub : Hub Index) : Event Index → Transcript Index
  | .processed index script => (hub.entries index script).map fun entry => (index, entry)
  | .received _ _ | .closed _ | .filed _ => []

/-- A hub after some events. -/
def afterAll : Hub Index → List (Event Index) → Hub Index
  | hub, [] => hub
  | hub, event :: rest => afterAll (hub.after event) rest

/-- What is answered in some events. -/
def transcript : Hub Index → List (Event Index) → Transcript Index
  | _, [] => []
  | hub, event :: rest => hub.heard event ++ transcript (hub.after event) rest

/-- Whether the contexts of all sessions are ones that operations lead to. -/
def Sound (hub : Hub Index) : Prop := ∀ index, Reachable (hub.sessions index).dialogue.context

omit [DecidableEq Index] in
theorem sound_fresh (modes : Index → Bool) (shared : Shared Machine) :
    (fresh modes shared).Sound := by
  intro index
  exact Reachable.empty

@[simp]
theorem sessions_withSession_self (hub : Hub Index) (index : Index) (session : Session) :
    (hub.withSession index session).sessions index = session := by
  simp [withSession]

theorem sessions_withSession_of_ne
    {index other : Index}
    (apart : other ≠ index) (hub : Hub Index) (session : Session) :
    (hub.withSession index session).sessions other = hub.sessions other := by
  simp [withSession, apart]

theorem Sound.withSession
    {hub : Hub Index} {session : Session}
    (sound : hub.Sound) (index : Index)
    (reachable : Reachable session.dialogue.context) :
    (hub.withSession index session).Sound := by
  intro other
  by_cases same : other = index
  · rw [same, sessions_withSession_self]
    exact reachable
  · rw [sessions_withSession_of_ne same]
    exact sound other

/-- What a session leaves when it has answered what it has buffered. -/
theorem processed_eq (hub : Hub Index) (index : Index) (script : List WriteOutcome) :
    hub.processed index script =
      { hub.withSession index
          ⟨(Session.processFrom inMemory (hub.sessions index).decoder (hub.turn index script)).2.1,
            (hub.answeredAll index script).dialogue⟩ with
        shared := (hub.answeredAll index script).shared } := by
  rw [answeredAll, inquiries, ← Session.processFrom_answeredAll]
  rfl

theorem Sound.after
    {hub : Hub Index} {event : Event Index}
    (sound : hub.Sound)
    (willing : event.Willing) :
    (∀ heard ∈ hub.heard event, heard.2.Sound) ∧ (hub.after event).Sound := by
  have silent : ∀ heard ∈ ([] : Transcript Index), heard.2.Sound := fun _ member => by cases member
  cases event with
  | received index source =>
      refine ⟨silent, sound.withSession index ?_⟩
      rw [(Line.receive_keeps (hub.sessions index) source).1.2]
      exact sound index
  | processed index script =>
      have taking : (hub.turn index script).sink.Willing := willing
      have before : Reachable (hub.turn index script).dialogue.context := sound index
      obtain ⟨entries, reachable⟩ :=
        Session.sound_entriesFrom taking before (hub.inquiries index script)
      constructor
      · intro heard member
        obtain ⟨entry, among, rfl⟩ := List.mem_map.1 member
        exact entries entry among
      · rw [Hub.after, processed_eq]
        exact sound.withSession index reachable
  | closed index => exact ⟨silent, sound.withSession index (sound index)⟩
  | filed files => exact ⟨silent, sound⟩

/-- A text arrives whole, and what it holds is answered. -/
def sending (index : Index) (text : String) (script : List WriteOutcome) : List (Event Index) :=
  [.received index [.bytes (Text.bytes text)], .processed index script]

end Hub

end Confinement
