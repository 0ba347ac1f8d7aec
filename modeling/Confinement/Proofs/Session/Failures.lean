import Confinement.Proofs.Policy.Recording
import Confinement.Proofs.Session.Responses

/-!
# Failures that latch

Carrying out a command breaks (`Breaks`) when a backend fails in a transaction, or when a path or
the directory of a plug cannot be inspected for a cause that tells neither that it leads nowhere nor
that it may not be looked at.  A break is what a client is told as `error internal`, and nothing
else raises the latch of a context.

`Stance.Latching` says what one command does about the latch: which answer it has, whether the latch
is up afterwards, and that a latched context and the world behind it stay as they are.
-/

namespace Confinement

open Host Policy Staging Wire

variable {World : Type}

/-! ## Inspecting -/

namespace Staging

/-- Only the failure to inspect something is reported as internal. -/
theorem StagingError.refusal_eq_internal_iff {error : StagingError} :
    error.refusal = .internal ↔ ∃ path cause, error = .inspect path cause := by
  constructor
  · intro internal
    cases error with
    | inspect path cause => exact ⟨path, cause, rfl⟩
    | _ => cases internal
  · rintro ⟨path, cause, rfl⟩
    rfl

section

variable {context : Context} {inspect : Inspection} {path about : String} {cause : Failure}

/-- Staging an item fails for a cause without a class only at one of its paths. -/
theorem inspected_of_attempt
    (inspect : Inspection) (item : Item)
    (result : (Edit.stage inspect item).attempt context = .error (.inspect about cause)) :
    (∃ location ∈ item.locations, about = location.path) ∧
      inspect about = .error cause ∧ Unclassified cause := by
  obtain ⟨check, member, fails⟩ :=
    ((Edit.stage_obeys inspect context item).attempt_error result).fails
  exact Item.inspected_of_check member fails

/-- Behind the latch nothing else is looked at. -/
theorem attempt_of_latched
    (latched : context.latched = true)
    (inspect : Inspection) (item : Item) :
    (Edit.stage inspect item).attempt context = .error .latched := by
  have refused : Check.demand (context.latched = false) .latched .latched :=
    ⟨by rw [latched]; decide, rfl⟩
  rw [Edit.attempt]
  rcases Edit.stage_obeys inspect context item with ⟨passing, _⟩ | ⟨error, failing, ended⟩
  · exact absurd refused (passing _ List.mem_cons_self _)
  · rw [ended]
    cases failing with
    | here fails => rw [fails.2]
    | later passes _ => exact absurd refused (passes _)

theorem setId_ne_inspect
    (context : Context) (id about : String) (cause : Failure) :
    context.setId id ≠ .error (.inspect about cause) := by
  intro result
  obtain ⟨⟨_, nowhere, _⟩, _⟩ :=
    inspected_of_attempt (fun _ => .error .notText) (.id id) result
  cases nowhere

theorem addPermission_ne_inspect
    (context : Context) (permission about : String) (cause : Failure) :
    context.addPermission permission ≠ .error (.inspect about cause) := by
  intro result
  obtain ⟨⟨_, nowhere, _⟩, _⟩ :=
    inspected_of_attempt (fun _ => .error .notText) (.permission permission) result
  cases nowhere

theorem addPath_eq_inspect
    {kind : Kind}
    (result : context.addPath inspect path kind = .error (.inspect about cause)) :
    about = path ∧ inspect path = .error cause ∧ Unclassified cause := by
  obtain ⟨⟨location, member, rfl⟩, failed⟩ :=
    inspected_of_attempt inspect (.path ⟨path, kind⟩) result
  rw [Item.locations, List.mem_singleton] at member
  rw [member] at failed
  rw [member]
  exact ⟨rfl, failed⟩

theorem addPlug_eq_inspect
    {plug : Plug}
    (result : context.addPlug inspect plug = .error (.inspect about cause)) :
    (about = plug.exportDirectory ∨ about = plug.importDirectory) ∧
      inspect about = .error cause ∧ Unclassified cause := by
  obtain ⟨⟨location, member, rfl⟩, failed⟩ := inspected_of_attempt inspect (.plug plug) result
  refine ⟨?_, failed⟩
  rw [Item.locations, List.mem_cons, List.mem_singleton] at member
  rcases member with rfl | rfl
  · exact .inl rfl
  · exact .inr rfl

end

end Staging

/-! ## Breaks -/

/-- Only a backend's failure is reported as internal. -/
theorem Policy.TransactionError.refusal_eq_internal_iff {error : TransactionError} :
    error.refusal = .internal ↔ ∃ cause, error = .permission cause ∨ error = .labelling cause := by
  constructor
  · intro internal
    cases error with
    | permission cause => exact ⟨cause, .inl rfl⟩
    | labelling cause => exact ⟨cause, .inr rfl⟩
    | _ => cases internal
  · rintro ⟨cause, rfl | rfl⟩ <;> rfl

/-- Whether a backend failed and thereby a transaction. -/
def BackendFailed (result : Except TransactionError Unit) : Prop :=
  ∃ cause, result = .error (.permission cause) ∨ result = .error (.labelling cause)

/-- The failures that carrying out a command can meet and the client is not to blame for. -/
inductive Breaks (environment : Environment World) (context : Context) (world : World) :
    Command → Prop
  | install (failed : BackendFailed (Policy.install environment context world).1) :
      Breaks environment context world .install
  | uninstall (failed : BackendFailed (Policy.uninstall environment context world).1) :
      Breaks environment context world .uninstall
  /-- All checks on the arguments pass, but the path cannot be inspected. -/
  | path {location word : String} {cause : Failure} (unclassified : Unclassified cause)
      (inspected : environment.inspect world location = .error cause)
      (result : Reply.stagePath context (environment.inspect world) location word =
        .error (.inspect location cause)) :
      Breaks environment context world (.path location word)
  /-- All checks on the arguments pass, but one of the directories cannot be inspected. -/
  | plug {exportDirectory importId importDirectory directory : String} {cause : Failure}
      (unclassified : Unclassified cause)
      (either : directory = exportDirectory ∨ directory = importDirectory)
      (inspected : environment.inspect world directory = .error cause)
      (result : context.addPlug (environment.inspect world)
        ⟨exportDirectory, importId, importDirectory⟩ = .error (.inspect directory cause)) :
      Breaks environment context world (.plug exportDirectory importId importDirectory)

section

variable {environment : Environment World} {context : Context} {world : World}

theorem breaks_path_iff {location word : String} :
    Breaks environment context world (.path location word) ↔
      ∃ about cause, Reply.stagePath context (environment.inspect world) location word =
        .error (.inspect about cause) := by
  constructor
  · rintro ⟨⟩
    exact ⟨_, _, ‹_›⟩
  · rintro ⟨about, cause, result⟩
    have staged := result
    rw [Reply.stagePath] at staged
    split at staged
    · obtain ⟨rfl, inspected, unclassified⟩ := addPath_eq_inspect staged
      exact .path unclassified inspected result
    · cases staged

theorem breaks_plug_iff {exportDirectory importId importDirectory : String} :
    Breaks environment context world (.plug exportDirectory importId importDirectory) ↔
      ∃ about cause, context.addPlug (environment.inspect world)
        ⟨exportDirectory, importId, importDirectory⟩ = .error (.inspect about cause) := by
  constructor
  · rintro ⟨⟩
    exact ⟨_, _, ‹_›⟩
  · rintro ⟨about, cause, result⟩
    obtain ⟨either, inspected, unclassified⟩ := addPlug_eq_inspect result
    exact .plug unclassified either inspected result

theorem breaks_install_iff :
    Breaks environment context world .install ↔
      BackendFailed (install environment context world).1 :=
  ⟨fun breaks => by cases breaks; assumption, .install⟩

theorem breaks_uninstall_iff :
    Breaks environment context world .uninstall ↔
      BackendFailed (uninstall environment context world).1 :=
  ⟨fun breaks => by cases breaks; assumption, .uninstall⟩

end

/-! ## The latch and one command -/

/-- Whether a command is refused as long as the context is latched. -/
def Command.Guarded : Command → Prop
  | .id _ | .permission _ | .plug _ _ _ | .install | .uninstall => True
  | .path _ word => Kind.ofWord? word ≠ none
  | .clear | .display | .log _ => False

/-- What a client is told of a failure that it is not to blame for. -/
def internalError : Answer := (Status.refused Refusal.internal.token).alone

/-- What a client is told as long as its context is latched. -/
def unrecoverableError : Answer := (Status.refused Refusal.unrecoverable.token).alone

/-- The row that shows the latch. -/
def latchRow : List String := ["error", "on"]

/-- What a response to a command does about the latch, where `breaks` tells whether it breaks. -/
structure Stance.Latching (stance : Stance World) (command : Command) (breaks : Prop)
    (response : Response World) : Prop where
  told : response.answer.wire = internalError.wire ↔ breaks
  raised : response.stance.context.latched = true ↔
    breaks ∨ stance.context.latched = true ∧ command ≠ .clear
  released : command = .clear → response.stance.context = Context.empty
  kept : stance.context.latched = true → command ≠ .clear →
    response.stance.context = stance.context
  idle : stance.context.latched = true → response.stance.world = stance.world
  refused : stance.context.latched = true → command.Guarded →
    response.answer = unrecoverableError
  shown : stance.context.latched = true → command = .display →
    ∃ rows, response.answer.rows = latchRow :: rows

namespace Stance

variable {stance : Stance World} {command : Command} {breaks : Prop}

theorem wire_refused_eq_internalError_iff (stance : Stance World) (refusal : Refusal) :
    (stance.refused refusal).answer.wire = internalError.wire ↔ refusal = .internal := by
  show (Status.refused refusal.token).alone.wire = internalError.wire ↔ refusal = .internal
  cases refusal <;> decide

theorem wire_done_ne_internalError : (Status.done []).alone.wire ≠ internalError.wire := by decide

theorem latched_refused (stance : Stance World) (refusal : Refusal) :
    (stance.refused refusal).stance.context.latched = true ↔
      refusal = .internal ∨ stance.context.latched = true := by
  cases refusal with
  | internal => exact iff_of_true rfl (.inl rfl)
  | _ => exact ⟨.inr, fun either => either.resolve_left Refusal.noConfusion⟩

/-- A refusal does not change a context that is latched already. -/
theorem context_refused_of_latched
    (latched : stance.context.latched = true)
    (refusal : Refusal) :
    (stance.refused refusal).stance.context = stance.context := by
  cases refusal with
  | internal =>
      show { stance.context with latched := true } = stance.context
      rw [← latched]
  | _ => rfl

/-- What stages something does this about the latch. -/
theorem latching_staged
    {attempt : Except StagingError Context}
    (reason : breaks ↔ ∃ path cause, attempt = .error (.inspect path cause))
    (succeeds : ∀ next, attempt = .ok next →
      stance.context.latched = false ∧ next.latched = false)
    (refuses : stance.context.latched = true → command.Guarded → attempt = .error .latched)
    (notClear : command ≠ .clear)
    (notDisplay : command ≠ .display) :
    stance.Latching command breaks (stance.staged attempt) where
  told := by
    rw [reason]
    cases attempt with
    | ok next => exact iff_of_false wire_done_ne_internalError (by rintro ⟨_, _, ⟨⟩⟩)
    | error error =>
        simp only [Except.error.injEq]
        rw [← StagingError.refusal_eq_internal_iff]
        exact wire_refused_eq_internalError_iff stance error.refusal
  raised := by
    rw [reason]
    cases attempt with
    | ok next =>
        obtain ⟨before, after⟩ := succeeds next rfl
        refine iff_of_false ?_ ?_
        · exact ne_true_of_eq_false after
        · rintro (⟨_, _, ⟨⟩⟩ | ⟨latched, _⟩)
          exact ne_true_of_eq_false before latched
    | error error =>
        simp only [Except.error.injEq]
        rw [← StagingError.refusal_eq_internal_iff, and_iff_left notClear]
        exact latched_refused stance error.refusal
  released := fun clear => absurd clear notClear
  kept := by
    intro latched _
    cases attempt with
    | ok next => exact absurd latched (ne_true_of_eq_false (succeeds next rfl).1)
    | error error => exact context_refused_of_latched latched error.refusal
  idle := fun _ => world_staged stance attempt
  refused := by
    intro latched guarded
    rw [refuses latched guarded]
    rfl
  shown := fun _ display => absurd display notDisplay

/-- A transaction does this about the latch. -/
theorem latching_transacted
    {transaction : Context → World → Outcome World}
    (reason : breaks ↔ BackendFailed (transaction stance.context stance.world).1)
    (refuses : stance.context.latched = true →
      transaction stance.context stance.world = (.error .latched, stance.world))
    (notClear : command ≠ .clear)
    (notDisplay : command ≠ .display) :
    stance.Latching command breaks (stance.transacted transaction) := by
  rw [transacted]
  generalize transaction stance.context stance.world = ended at refuses reason
  obtain ⟨error | done, world⟩ := ended
  · have internal : breaks ↔ error.refusal = .internal := by
      rw [reason, TransactionError.refusal_eq_internal_iff]
      simp only [BackendFailed, Except.error.injEq]
    refine ⟨?_, ?_, fun clear => absurd clear notClear, ?_, ?_, ?_,
      fun _ display => absurd display notDisplay⟩
    · rw [internal]
      exact wire_refused_eq_internalError_iff { stance with world } error.refusal
    · rw [internal, and_iff_left notClear]
      exact latched_refused { stance with world } error.refusal
    · intro latched _
      have still : { stance with world }.context.latched = true := latched
      exact context_refused_of_latched still error.refusal
    · intro latched
      cases refuses latched
      rfl
    · intro latched _
      cases refuses latched
      rfl
  · have released : stance.context.latched ≠ true := by
      intro latched
      cases refuses latched
    have intact : ¬breaks := by
      rw [reason]
      rintro ⟨_, failed | failed⟩ <;> cases failed
    exact ⟨iff_of_false wire_done_ne_internalError intact,
      iff_of_false released (not_or.2 ⟨intact, fun both => released both.1⟩),
      fun clear => absurd clear notClear, fun latched => absurd latched released,
      fun latched => absurd latched released, fun latched => absurd latched released,
      fun latched => absurd latched released⟩

theorem wire_switch_ne_internalError (on : Bool) :
    (Status.done [Command.switchWord on]).alone.wire ≠ internalError.wire := by
  cases on <;> decide

theorem head?_wire_row (row : List String) :
    (Record.ofTexts ("string" :: row)).wire.head? = some 0x73 := by
  cases row <;> rfl

/-- What is shown begins with a row, or is a bare ending that tells of something else. -/
theorem wire_shown_ne_internalError (rows : List (List String)) :
    (shown rows).wire ≠ internalError.wire := by
  cases rows with
  | nil => decide
  | cons row rest =>
      by_cases fits : Fits ("string" :: row)
      · have some : (shown (row :: rest)).wire.head? = some 0x73 := by
          rw [shown, List.takeWhile_cons, if_pos (decide_eq_true fits), Answer.wire_cons,
            List.head?_append, head?_wire_row]
          rfl
        intro same
        rw [same] at some
        revert some
        decide
      · have nothing : shown (row :: rest) = (Status.refused Refusal.bufferFull.token).alone := by
          rw [shown, List.takeWhile_cons, if_neg (by rw [decide_eq_false fits]; decide),
            if_neg fun all => fits (all row List.mem_cons_self)]
          rfl
        rw [nothing]
        decide

theorem fits_latchRow : Fits ("string" :: latchRow) := by decide

/-- The first row that is shown of a latched context is the row of the latch. -/
theorem shown_contextRows_of_latched
    {context : Context}
    (latched : context.latched = true) :
    ∃ rows, (shown (Reply.contextRows context)).rows = latchRow :: rows := by
  have first : (Reply.contextRows context) = latchRow :: context.items.map Reply.itemRow := by
    rw [Reply.contextRows, if_pos latched]
    rfl
  rw [first, shown]
  dsimp only
  rw [List.takeWhile_cons, if_pos (decide_eq_true fits_latchRow)]
  exact ⟨_, rfl⟩

theorem unready?_of_latched
    {context : Context}
    (latched : context.latched = true) :
    unready? context = some .latched :=
  if_pos latched

theorem stagePath_ok
    {context next : Context} {inspect : Inspection} {location word : String}
    (result : Reply.stagePath context inspect location word = .ok next) :
    context.latched = false ∧ next.latched = false := by
  rw [Reply.stagePath] at result
  split at result
  · obtain ⟨released, _, _, _, rfl⟩ := addPath_ok result
    exact ⟨released, released⟩
  · cases result

theorem stagePath_of_latched
    {context : Context}
    (latched : context.latched = true)
    {word : String}
    (known : Kind.ofWord? word ≠ none)
    (inspect : Inspection) (location : String) :
    Reply.stagePath context inspect location word = .error .latched := by
  rw [Reply.stagePath]
  split
  · rename_i kind _
    exact attempt_of_latched latched inspect (.path ⟨location, kind⟩)
  · rename_i unknown
    exact absurd unknown known

/-- A command that stages nothing and asks no backend leaves the latch as it is. -/
theorem latching_of_kept
    {response : Response World}
    (intact : ¬breaks)
    (notClear : command ≠ .clear)
    (unguarded : ¬command.Guarded)
    (told : response.answer.wire ≠ internalError.wire)
    (context : response.stance.context = stance.context)
    (world : response.stance.world = stance.world)
    (shown : stance.context.latched = true → command = .display →
      ∃ rows, response.answer.rows = latchRow :: rows) :
    stance.Latching command breaks response where
  told := iff_of_false told intact
  raised := by
    rw [context, or_iff_right intact, and_iff_left notClear]
  released := fun clear => absurd clear notClear
  kept := fun _ _ => context
  idle := fun _ => world
  refused := fun _ guarded => absurd guarded unguarded
  shown := shown

/-- Every command does this about the latch. -/
theorem latching_dispatched
    (environment : Environment World) (stance : Stance World) (command : Command) :
    stance.Latching command (Breaks environment stance.context stance.world command)
      (stance.dispatched environment command) := by
  cases command with
  | clear =>
      have intact : ¬Breaks environment stance.context stance.world .clear := by rintro ⟨⟩
      refine ⟨iff_of_false wire_done_ne_internalError intact, iff_of_false (by rintro ⟨⟩) ?_,
        fun _ => rfl,
        fun _ notClear => absurd rfl notClear, fun _ => rfl, fun _ guarded => guarded.elim, ?_⟩
      · rintro (breaks | ⟨_, notClear⟩)
        · exact intact breaks
        · exact notClear rfl
      · rintro _ ⟨⟩
  | display =>
      exact latching_of_kept (by rintro ⟨⟩) Command.noConfusion (fun guarded => guarded)
        (wire_shown_ne_internalError _) rfl rfl
        fun latched _ => shown_contextRows_of_latched latched
  | log switch =>
      exact latching_of_kept (by rintro ⟨⟩) Command.noConfusion (fun guarded => guarded)
        (wire_switch_ne_internalError _) rfl rfl (by rintro _ ⟨⟩)
  | id id =>
      refine latching_staged (iff_of_false (by rintro ⟨⟩) ?_) ?_ ?_ Command.noConfusion
        Command.noConfusion
      · rintro ⟨about, cause, result⟩
        exact setId_ne_inspect _ _ _ _ result
      · intro next result
        obtain ⟨released, _, _, rfl⟩ := setId_ok result
        exact ⟨released, released⟩
      · intro latched _
        exact attempt_of_latched latched (fun _ => .error .notText) (.id id)
  | permission permission =>
      refine latching_staged (iff_of_false (by rintro ⟨⟩) ?_) ?_ ?_ Command.noConfusion
        Command.noConfusion
      · rintro ⟨about, cause, result⟩
        exact addPermission_ne_inspect _ _ _ _ result
      · intro next result
        obtain ⟨released, _, _, rfl⟩ := addPermission_ok result
        exact ⟨released, released⟩
      · intro latched _
        exact attempt_of_latched latched (fun _ => .error .notText) (.permission permission)
  | path location word =>
      refine latching_staged breaks_path_iff ?_ ?_ Command.noConfusion Command.noConfusion
      · intro next result
        exact stagePath_ok result
      · intro latched known
        exact stagePath_of_latched latched known _ location
  | plug exportDirectory importId importDirectory =>
      refine latching_staged breaks_plug_iff ?_ ?_ Command.noConfusion Command.noConfusion
      · intro next result
        obtain ⟨released, _, _, _, _, _, _, rfl⟩ := addPlug_ok result
        exact ⟨released, released⟩
      · intro latched _
        exact attempt_of_latched latched _ (.plug ⟨exportDirectory, importId, importDirectory⟩)
  | install =>
      refine latching_transacted breaks_install_iff ?_ Command.noConfusion Command.noConfusion
      intro latched
      rw [install, unready?_of_latched latched]
  | uninstall =>
      refine latching_transacted breaks_uninstall_iff ?_ Command.noConfusion Command.noConfusion
      intro latched
      rw [uninstall, unready?_of_latched latched]

end Stance

end Confinement
