import Confinement.Proofs.Policy.Labels
import Confinement.Proofs.Server.Interleaving

/-!
# The standing of applications

What a machine grants and has set up is told by the transcript of its sessions: an application
stands with the permissions that were staged when it was last installed, unless it was uninstalled
since.  Nothing else that is asked changes anything (`store_told_by_transcript`).
-/

namespace Confinement

open Host Policy Staging Wire

/-! ## Deeds -/

/-- Whether an inquiry was answered by a bare `done`. -/
def Entry.IsDone (entry : Entry Machine) : Prop := entry.reply = (Record.ofTexts ["done"]).wire

instance (entry : Entry Machine) : Decidable entry.IsDone :=
  inferInstanceAs (Decidable (entry.reply = _))

/-- What an entry does to the standing of an application, if anything. -/
def Entry.deed? (entry : Entry Machine) (id : String) : Option (Option TextSet) :=
  if entry.IsDone ∧ entry.before.dialogue.context.id = some id then
    match entry.inquiry.command? with
    | some .install => some (some entry.before.dialogue.context.permissions)
    | some .uninstall => some none
    | _ => none
  else
    none

variable {Index : Type}

/-- The permissions with which an application stands: those of the most recent deed about it. -/
def Transcript.standing (transcript : Transcript Index) (id : String) : Option TextSet :=
  (transcript.reverse.findSome? fun heard => heard.2.deed? id).join

theorem Transcript.standing_append
    (transcript : Transcript Index) (index : Index) (entry : Entry Machine) (id : String) :
    standing (transcript ++ [(index, entry)]) id =
      (entry.deed? id).getD (transcript.standing id) := by
  rw [standing, List.reverse_append, List.reverse_singleton, List.singleton_append,
    List.findSome?_cons]
  cases entry.deed? id with
  | none => rfl
  | some deed => rfl

/-! ## The store of a machine -/

namespace Policy.Machine

variable {machine next : Machine} {id : String} {standing : Option TextSet}

/-- Whether a machine grants and has set up what the standing of an application asks for. -/
def Holds (machine : Machine) (id : String) (standing : Option TextSet) : Prop :=
  machine.grants.of (applicationLabel id) = standing.getD TextSet.empty ∧
    (id ∈ machine.installed ↔ standing.isSome = true)

/-- Whether two machines grant and have set up the same. -/
def SameStore (machine next : Machine) : Prop :=
  next.grants = machine.grants ∧ next.installed = machine.installed

theorem SameStore.holds
    (same : machine.SameStore next)
    (holds : machine.Holds id standing) :
    next.Holds id standing := by
  rw [Holds, same.1, same.2]
  exact holds

/-- A commitment gives the application that is named its permissions, and no other application. -/
theorem Holds.committed
    (holds : machine.Holds id standing)
    (context : Context) :
    (machine.committed context).Holds id
      (if context.id = some id then some context.permissions else standing) := by
  rw [Machine.committed]
  cases named : context.id with
  | none => exact holds
  | some name =>
      by_cases same : name = id
      · subst same
        rw [if_pos rfl]
        constructor
        · exact (Grants.of_set _ _ _ _).trans (if_pos rfl)
        · exact iff_of_true (TextSet.mem_insert.2 (.inl rfl)) rfl
      · rw [if_neg fun equal => same (Option.some.inj equal)]
        constructor
        · refine ((Grants.of_set _ _ _ _).trans (if_neg ?_)).trans holds.1
          exact fun equal => same (applicationLabel_injective equal).symm
        · exact (TextSet.mem_insert.trans (or_iff_right fun equal => same equal.symm)).trans holds.2

/-- A retraction takes everything from the application that is named, and nothing from others. -/
theorem Holds.retracted
    (holds : machine.Holds id standing)
    (context : Context) :
    (machine.retracted context).Holds id (if context.id = some id then none else standing) := by
  rw [Machine.retracted]
  cases named : context.id with
  | none => exact holds
  | some name =>
      by_cases same : name = id
      · subst same
        rw [if_pos rfl]
        constructor
        · exact (Grants.of_erase _ _ _).trans (if_pos rfl)
        · exact iff_of_false (fun member => (TextSet.mem_erase.1 member).2 rfl) Bool.false_ne_true
      · rw [if_neg fun equal => same (Option.some.inj equal)]
        constructor
        · refine ((Grants.of_erase _ _ _).trans (if_neg ?_)).trans holds.1
          exact fun equal => same (applicationLabel_injective equal).symm
        · exact (TextSet.mem_erase.trans (and_iff_left fun equal => same equal.symm)).trans holds.2

/-- Whether a machine grants and has set up what a transcript tells. -/
def Reflects (machine : Machine) (transcript : Transcript Index) : Prop :=
  ∀ id, machine.Holds id (transcript.standing id)

end Policy.Machine

/-! ## One entry -/

namespace Entry

variable {entry : Entry Machine}

/-- Whether an entry is a transaction that was made. -/
def IsDeed (entry : Entry Machine) : Prop :=
  entry.IsDone ∧ (entry.inquiry.command? = some .install ∨
    entry.inquiry.command? = some .uninstall)

theorem deed?_of_not_isDeed
    (idle : ¬entry.IsDeed)
    (id : String) :
    entry.deed? id = none := by
  rw [deed?]
  split
  · rename_i done
    split
    · rename_i install
      exact absurd ⟨done.1, .inl install⟩ idle
    · rename_i uninstall
      exact absurd ⟨done.1, .inr uninstall⟩ idle
    · rfl
  · rfl

theorem refused_ne_done (refusal : Refusal) :
    (Status.refused refusal.token).alone.wire ≠ (Record.ofTexts ["done"]).wire := by
  cases refusal <;> decide

/-- A deed does what it is meant to do, and anything else leaves the store as it is. -/
theorem Sound.store (sound : entry.Sound) :
    let machine := entry.before.shared.world
    let context := entry.before.dialogue.context
    (entry.inquiry.command? = some .install ∧ entry.IsDone ∧ Ready context ∧
        Cleared machine.grants context ∧
        (machine.committed context).SameStore entry.after.shared.world) ∨
      (entry.inquiry.command? = some .uninstall ∧ entry.IsDone ∧
        (machine.retracted context).SameStore entry.after.shared.world) ∨
      (¬entry.IsDeed ∧ machine.SameStore entry.after.shared.world ∧
        (entry.inquiry.command? = some .install →
          ¬entry.IsDone ∧ ¬(Ready context ∧ Cleared machine.grants context))) := by
  obtain ⟨answer, reply, effect⟩ := sound.effect
  -- No refusal is spelled as a bare `done`, so the reply tells a deed from a refused command.
  have unlike (refusal : Refusal) (refused : answer = (Status.refused refusal.token).alone) :
      ¬entry.IsDone := by
    rw [IsDone, reply, refused]
    exact refused_ne_done refusal
  have same {machine next : Machine} (forgotten : next.forget = machine.forget) :
      machine.SameStore next := by
    obtain ⟨grants, installed, _⟩ := Machine.agree_of_forget forgotten
    exact ⟨grants, installed⟩
  generalize spelled : entry.inquiry.command? = command at effect
  generalize entry.after.shared.world = next at effect
  cases effect with
  | committed ready cleared forgotten =>
      exact .inl ⟨rfl, reply, ready, cleared, same forgotten⟩
  | notCommitted unfit refusal forgotten =>
      have undone := unlike refusal rfl
      exact .inr (.inr ⟨fun deed => undone deed.1, same forgotten, fun _ => ⟨undone, unfit⟩⟩)
  | retracted ready forgotten => exact .inr (.inl ⟨rfl, reply, same forgotten⟩)
  | notRetracted unready refusal =>
      have undone := unlike refusal rfl
      exact .inr (.inr ⟨fun deed => undone deed.1, ⟨rfl, rfl⟩,
        fun equal => Command.noConfusion (Option.some.inj equal)⟩)
  | idle answer notInstall notUninstall =>
      refine .inr (.inr ⟨?_, ⟨rfl, rfl⟩, fun install => absurd install notInstall⟩)
      rintro ⟨_, install | uninstall⟩
      · exact notInstall (spelled.symm.trans install)
      · exact notUninstall (spelled.symm.trans uninstall)

theorem deed?_of_install
    (install : entry.inquiry.command? = some .install)
    (done : entry.IsDone)
    (id : String) :
    entry.deed? id = if entry.before.dialogue.context.id = some id then
      some (some entry.before.dialogue.context.permissions) else none := by
  rw [deed?, install]
  simp only [done, true_and]

theorem deed?_of_uninstall
    (uninstall : entry.inquiry.command? = some .uninstall)
    (done : entry.IsDone)
    (id : String) :
    entry.deed? id = if entry.before.dialogue.context.id = some id then some none else none := by
  rw [deed?, uninstall]
  simp only [done, true_and]

/-- A machine that reflects a transcript reflects it with the entry that came next. -/
theorem Sound.reflects
    (sound : entry.Sound)
    {transcript : Transcript Index}
    (reflects : entry.before.shared.world.Reflects transcript)
    (index : Index) :
    entry.after.shared.world.Reflects (transcript ++ [(index, entry)]) := by
  intro id
  rw [Transcript.standing_append]
  have about := reflects id
  rcases sound.store with
    ⟨install, done, _, _, same⟩ | ⟨uninstall, done, same⟩ | ⟨idle, same, _⟩
  · rw [deed?_of_install install done, apply_ite (Option.getD · _)]
    exact same.holds (about.committed _)
  · rw [deed?_of_uninstall uninstall done, apply_ite (Option.getD · _)]
    exact same.holds (about.retracted _)
  · rw [deed?_of_not_isDeed idle]
    exact same.holds about

end Entry

/-! ## Transcripts -/

/-- Whether every entry is sound and found a machine that reflects all of what came before. -/
inductive Faithful : Transcript Index → Transcript Index → Prop
  | nil (earlier : Transcript Index) : Faithful earlier []
  | cons {earlier rest : Transcript Index} {index : Index} {entry : Entry Machine}
      (sound : entry.Sound) (reflects : entry.before.shared.world.Reflects earlier)
      (later : Faithful (earlier ++ [(index, entry)]) rest) :
      Faithful earlier ((index, entry) :: rest)

namespace Faithful

variable {earlier first second : Transcript Index}

theorem append
    (faithful : Faithful earlier first)
    (onward : Faithful (earlier ++ first) second) :
    Faithful earlier (first ++ second) := by
  induction faithful with
  | nil earlier => rwa [List.append_nil] at onward
  | cons sound reflects later hypothesis =>
      rw [List.append_assoc] at hypothesis
      exact .cons sound reflects (hypothesis onward)

/-- What is true of every entry in its place. -/
theorem entry
    {index : Index} {entry : Entry Machine}
    (faithful : Faithful earlier (first ++ (index, entry) :: second)) :
    entry.Sound ∧ entry.before.shared.world.Reflects (earlier ++ first) := by
  induction first generalizing earlier with
  | nil =>
      cases faithful with
      | cons sound reflects later =>
          rw [List.append_nil]
          exact ⟨sound, reflects⟩
  | cons heard rest hypothesis =>
      cases faithful with
      | cons sound reflects later =>
          have found := hypothesis later
          rwa [List.append_assoc] at found

end Faithful

/-- Answering inquiries is told faithfully. -/
theorem faithful_entriesFrom
    {transcript : Transcript Index} {turn : Turn Machine}
    (willing : turn.sink.Willing)
    (reachable : Reachable turn.dialogue.context)
    (reflects : turn.shared.world.Reflects transcript)
    (index : Index) (inquiries : List Inquiry) :
    let heard := (Session.entriesFrom inMemory turn inquiries).map fun entry => (index, entry)
    Faithful transcript heard ∧
      (Session.answeredAll inMemory turn inquiries).shared.world.Reflects
        (transcript ++ heard) := by
  induction inquiries generalizing turn transcript with
  | nil =>
      refine ⟨.nil transcript, ?_⟩
      rw [Session.entriesFrom, List.map_nil, List.append_nil]
      exact reflects
  | cons inquiry rest hypothesis =>
      have sound : Entry.Sound ⟨inquiry, turn, (Session.answered inMemory inquiry turn).2⟩ :=
        ⟨willing, reachable, rfl⟩
      obtain ⟨faithful, last⟩ :=
        hypothesis sound.met.2.2 sound.reachable_after (sound.reflects reflects index)
      refine ⟨.cons sound reflects faithful, ?_⟩
      rw [List.append_assoc] at last
      exact last

namespace Hub

variable [DecidableEq Index] {hub : Hub Index} {transcript : Transcript Index}

/-- Every event is told faithfully. -/
theorem faithful_heard
    (sound : hub.Sound)
    (reflects : hub.shared.world.Reflects transcript)
    {event : Event Index}
    (willing : event.Willing) :
    Faithful transcript (hub.heard event) ∧
      (hub.after event).shared.world.Reflects (transcript ++ hub.heard event) := by
  have silent {next : Machine} (same : hub.shared.world.SameStore next) :
      Faithful transcript [] ∧ next.Reflects (transcript ++ []) := by
    refine ⟨.nil transcript, fun id => ?_⟩
    rw [List.append_nil]
    exact same.holds (reflects id)
  cases event with
  | received index source => exact silent ⟨rfl, rfl⟩
  | closed index => exact silent ⟨rfl, rfl⟩
  | filed files => exact silent ⟨rfl, rfl⟩
  | processed index script =>
      rw [Hub.after, processed_eq]
      have taking : (hub.turn index script).sink.Willing := willing
      have before : Reachable (hub.turn index script).dialogue.context := sound index
      have shared : (hub.turn index script).shared.world.Reflects transcript := reflects
      exact faithful_entriesFrom taking before shared index (hub.inquiries index script)

theorem faithful_transcript
    (sound : hub.Sound)
    (reflects : hub.shared.world.Reflects transcript)
    {events : List (Event Index)}
    (willing : ∀ event ∈ events, event.Willing) :
    Faithful transcript (hub.transcript events) ∧
      (hub.afterAll events).shared.world.Reflects (transcript ++ hub.transcript events) := by
  induction events generalizing hub transcript with
  | nil =>
      refine ⟨.nil transcript, ?_⟩
      rw [Hub.transcript, List.append_nil]
      exact reflects
  | cons event rest hypothesis =>
      have taking := willing event List.mem_cons_self
      have others := fun other member => willing other (List.mem_cons_of_mem event member)
      obtain ⟨heard, next⟩ := faithful_heard sound reflects taking
      obtain ⟨later, last⟩ := hypothesis (sound.after taking).2 next others
      refine ⟨heard.append later, ?_⟩
      rw [List.append_assoc] at last
      exact last

/--
Any number of fresh sessions share a machine that grants nothing, and every client takes every
reply.  Whatever happens in whatever order, after every inquiry the machine grants and has set up
what the transcript tells up to there, and only deeds change that.  An install is done exactly when
the context is released, has an identifier or stages nothing that needs one, and has every
permission to export that its plugs need, as far as their importers are granted public plugs then.
-/
theorem store_told_by_transcript
    (modes : Index → Bool) (files : FileTree) (logging : Bool) (events : List (Event Index))
    (willing : ∀ event ∈ events, event.Willing) :
    let hub := fresh modes { world := { files }, logging }
    (hub.afterAll events).shared.world.Reflects (hub.transcript events) ∧
    ∀ earlier index entry later, hub.transcript events = earlier ++ (index, entry) :: later →
      let machine := entry.before.shared.world
      let context := entry.before.dialogue.context
      machine.Reflects earlier ∧
      entry.after.shared.world.Reflects (earlier ++ [(index, entry)]) ∧
      (¬entry.IsDeed → machine.SameStore entry.after.shared.world) ∧
      (entry.inquiry.command? = some .install →
        (entry.IsDone ↔ context.latched = false ∧
          (context.id ≠ none ∨ context.plugs = [] ∧ context.permissions = TextSet.empty ∧
            ∀ path ∈ context.paths, path.kind = .plain) ∧
          ∀ plug ∈ context.plugs, ∃ id, context.id = some id ∧
            exportPermission id
                (decide (publicPlugs ∈ machine.grants.of (applicationLabel plug.importId))) ∈
              context.permissions)) := by
  intro hub
  have nothing : hub.shared.world.Reflects ([] : Transcript Index) := by
    intro id
    exact ⟨rfl, iff_of_false List.not_mem_nil Bool.false_ne_true⟩
  obtain ⟨faithful, last⟩ := faithful_transcript (sound_fresh modes _) nothing willing
  refine ⟨last, ?_⟩
  intro earlier index entry later split
  rw [split] at faithful
  obtain ⟨sound, reflects⟩ := faithful.entry
  refine ⟨reflects, sound.reflects reflects index, ?_, ?_⟩
  · intro idle
    rcases sound.store with ⟨install, done, _⟩ | ⟨uninstall, done, _⟩ | ⟨_, same, _⟩
    · exact absurd ⟨done, .inl install⟩ idle
    · exact absurd ⟨done, .inr uninstall⟩ idle
    · exact same
  · intro install
    rw [← and_assoc, ← ready_iff sound.reachable]
    rcases sound.store with
      ⟨_, done, ready, cleared, _⟩ | ⟨uninstall, _⟩ | ⟨_, _, refused⟩
    · exact iff_of_true done ⟨ready, cleared⟩
    · rw [install] at uninstall
      cases uninstall
    · exact iff_of_false (refused install).1 (refused install).2

/-- Two applications: one lets everyone plug into it, and the other one plugs into it. -/
def plugging : List (Event Bool) :=
  sending true "id cd\npermission urn:redpesk:permission::public:plugs\ninstall\n" [] ++
    sending false "id ab\npermission urn:redpesk:permission:ab:public:export:plug\n" [] ++
    sending false "plug / cd /\ninstall\n" [.accept 2] ++
    sending true "uninstall\n" [] ++
    sending false "install\n" []

/--
The second `install` of the plugged application is refused, as its importer is not there any more;
the application stands as it did.
-/
theorem store_told_by_transcript_while_plugging :
    let hub := fresh (fun _ => false) { world := { files := FileTree.empty }, logging := false }
    (∀ event ∈ plugging, event.Willing) ∧
      (hub.afterAll plugging).shared.world.Reflects (hub.transcript plugging) ∧
      (hub.transcript plugging).standing "cd" = none ∧
      ((hub.transcript plugging).standing "ab").map TextSet.items =
        some ["urn:redpesk:permission:ab:public:export:plug"] ∧
      (hub.transcript plugging).map (fun heard => (heard.1, decide heard.2.IsDone)) =
        [(true, true), (true, true), (true, true), (false, true), (false, true), (false, true),
          (false, true), (true, true), (false, false)] := by
  intro hub
  have willing : ∀ event ∈ plugging, event.Willing := by decide
  refine ⟨willing, (store_told_by_transcript (fun _ => false) _ _ plugging willing).1, ?_, ?_, ?_⟩
  · decide +kernel
  · decide +kernel
  · decide +kernel

end Hub

end Confinement
