import Confinement.Client.Batch

/-!
# The events of a batch

A batch is told by its events: the texts that it prints and the commands that it sends, each with
what came of it, in the order in which they happen (`Happens`).  `Obeys` says which events one line
of the input asks for, and `Course` which ones a whole input does: those of its lines, one after
another, up to the first that fails.  A course says which commands are sent, that nothing is done
after a failure, and whether the batch is a success.
-/

namespace Confinement.Batch

open Host Wire

/-! ## Events -/

/-- Something that a batch does, and what came of it. -/
inductive Event where
  | printed (text : String) (outcome : Except Failure Unit)
  /-- A command is sent and its answer is awaited. -/
  | asked (fields : List String) (outcome : Except ClientError Answer)

namespace Event

/-- Whether something failed, or was refused for good. -/
def Fails : Event → Prop
  | .printed _ outcome => outcome ≠ .ok ()
  | .asked _ (.ok answer) => answer.status = .refused Refusal.protocol.token
  | .asked _ (.error _) => True

/-- The command that is sent, if one is. -/
def request? : Event → Option (List String)
  | .printed _ _ => none
  | .asked fields _ => some fields

/--
Whether something may be done after an event: nothing after an error, and no command after one that
was refused for good.
-/
def Precedes : Event → Event → Prop
  | .printed _ outcome, _ => outcome = .ok ()
  | .asked _ (.ok answer), later =>
    answer.status = .refused Refusal.protocol.token → later.request? = none
  | .asked _ (.error _), _ => False

theorem precedes_of_not_fails
    {event : Event}
    (well : ¬event.Fails)
    (later : Event) :
    event.Precedes later := by
  match event with
  | .printed text outcome => exact Classical.not_not.1 well
  | .asked fields (.ok answer) => exact fun last => absurd last well
  | .asked fields (.error error) => exact absurd trivial well

end Event

/-- The commands that are sent among some events. -/
def requests (events : List Event) : List (List String) := events.filterMap Event.request?

@[simp]
theorem requests_append (before after : List Event) :
    requests (before ++ after) = requests before ++ requests after :=
  List.filterMap_append

/-- Where nothing has failed, whatever is in order may follow. -/
theorem precedes_append
    {before after : List Event}
    (well : ∀ event ∈ before, ¬event.Fails)
    (begun : before.Pairwise Event.Precedes)
    (later : after.Pairwise Event.Precedes) :
    (before ++ after).Pairwise Event.Precedes := by
  refine List.pairwise_append.2 ⟨begun, later, ?_⟩
  intro event member other _
  exact Event.precedes_of_not_fails (well event member) other

/-- Whether events happen in their order, and where they lead. -/
inductive Happens : List Event → Client → Sink → Client → Sink → Prop
  | nothing {client : Client} {output : Sink} : Happens [] client output client output
  | printed {client last : Client} {output between final : Sink} {text : String}
      {outcome : Except Failure Unit} {events : List Event}
      (written : output.writeAll (Text.bytes text) = (outcome, between))
      (rest : Happens events client between last final) :
      Happens (.printed text outcome :: events) client output last final
  | asked {client between last : Client} {output final : Sink} {fields : List String}
      {outcome : Except ClientError Answer} {events : List Event}
      (exchanged : Client.ask fields client = (outcome, between))
      (rest : Happens events between output last final) :
      Happens (.asked fields outcome :: events) client output last final

theorem Happens.append
    {first second : List Event} {client between last : Client} {output middle final : Sink}
    (begun : Happens first client output between middle)
    (ended : Happens second between middle last final) :
    Happens (first ++ second) client output last final := by
  induction begun with
  | nothing => exact ended
  | printed written rest hypothesis => exact .printed written (hypothesis ended)
  | asked exchanged rest hypothesis => exact .asked exchanged (hypothesis ended)

/-! ## Courses -/

/-- The events of printing texts in order, up to the first that fails. -/
inductive Prints : List String → List Event → Except Failure Unit → Prop
  | nothing : Prints [] [] (.ok ())
  | onward {text : String} {texts : List String} {events : List Event}
      {outcome : Except Failure Unit}
      (rest : Prints texts events outcome) :
      Prints (text :: texts) (.printed text (.ok ()) :: events) outcome
  | stuck {text : String} {texts : List String} {cause : Failure} :
      Prints (text :: texts) [.printed text (.error cause)] (.error cause)

/-- What is printed before a command is sent. -/
def echoed (echo : Bool) (fields : List String) : List String :=
  if echo then ["> " ++ spaced fields ++ "\n"] else []

/-- What is printed of an answer. -/
def shown (answer : Answer) : List String := answer.lines.map (· ++ "\n")

/-- The events for one line of input, and what came of them. -/
inductive Obeys (echo : Bool) : LineMeaning → List Event → Except BatchError Unit → Prop
  | passed : Obeys echo .nothing [] (.ok ())
  | helped {events : List Event}
      (told : Prints [vocabulary] events (.ok ())) :
      Obeys echo .help events (.ok ())
  | unhelped {events : List Event} {cause : Failure}
      (told : Prints [vocabulary] events (.error cause)) :
      Obeys echo .help events (.error (.writeOutput cause))
  /-- The command could not be printed, and is not sent. -/
  | unechoed {fields : List String} {events : List Event} {cause : Failure}
      (begun : Prints (echoed echo fields) events (.error cause)) :
      Obeys echo (.command fields) events (.error (.writeOutput cause))
  | unanswered {fields : List String} {before : List Event} {error : ClientError}
      (begun : Prints (echoed echo fields) before (.ok ())) :
      Obeys echo (.command fields) (before ++ [.asked fields (.error error)])
        (.error (.client error))
  /-- The answer could not be printed to its end. -/
  | unshown {fields : List String} {before after : List Event} {answer : Answer} {cause : Failure}
      (begun : Prints (echoed echo fields) before (.ok ()))
      (told : Prints (shown answer) after (.error cause)) :
      Obeys echo (.command fields) (before ++ .asked fields (.ok answer) :: after)
        (.error (.writeOutput cause))
  /-- The command was refused, and the daemon reads no other. -/
  | dismissed {fields : List String} {before after : List Event} {answer : Answer}
      (begun : Prints (echoed echo fields) before (.ok ()))
      (told : Prints (shown answer) after (.ok ()))
      (last : answer.status = .refused Refusal.protocol.token) :
      Obeys echo (.command fields) (before ++ .asked fields (.ok answer) :: after)
        (.error (.client (.refused (fields.headD "") Refusal.protocol.token)))
  | answered {fields : List String} {before after : List Event} {answer : Answer}
      (begun : Prints (echoed echo fields) before (.ok ()))
      (told : Prints (shown answer) after (.ok ()))
      (onward : answer.status ≠ .refused Refusal.protocol.token) :
      Obeys echo (.command fields) (before ++ .asked fields (.ok answer) :: after) (.ok ())

/-- The events for the lines of an input that ends in a failure or not, and what came of them. -/
inductive Course (echo : Bool) (ending : Option Failure) :
    List String → List Event → Except BatchError Unit → Prop
  | finished
      (whole : ending = none) :
      Course echo ending [] [] (.ok ())
  | unread {cause : Failure}
      (broken : ending = some cause) :
      Course echo ending [] [] (.error (.readInput cause))
  | onward {line : String} {lines : List String} {events more : List Event}
      {result : Except BatchError Unit}
      (obeys : Obeys echo (meaning line) events (.ok ()))
      (rest : Course echo ending lines more result) :
      Course echo ending (line :: lines) (events ++ more) result
  | halted {line : String} {lines : List String} {events : List Event} {error : BatchError}
      (obeys : Obeys echo (meaning line) events (.error error)) :
      Course echo ending (line :: lines) events (.error error)

/-! ## What follows from a course -/

variable {echo : Bool}

theorem Prints.requests_eq
    {texts : List String} {events : List Event} {outcome : Except Failure Unit}
    (prints : Prints texts events outcome) :
    requests events = [] := by
  induction prints with
  | nothing => rfl
  | onward rest hypothesis => exact hypothesis
  | stuck => rfl

/-- Texts are printed as a success exactly when no event fails. -/
theorem Prints.ok_iff
    {texts : List String} {events : List Event} {outcome : Except Failure Unit}
    (prints : Prints texts events outcome) :
    outcome = .ok () ↔ ∀ event ∈ events, ¬event.Fails := by
  induction prints with
  | nothing => simp
  | onward rest hypothesis => simp [Event.Fails, hypothesis]
  | stuck => simp [Event.Fails]

theorem Prints.precedes
    {texts : List String} {events : List Event} {outcome : Except Failure Unit}
    (prints : Prints texts events outcome) :
    events.Pairwise Event.Precedes := by
  induction prints with
  | nothing => exact .nil
  | onward rest hypothesis => exact .cons (fun _ _ => rfl) hypothesis
  | stuck => exact List.pairwise_singleton _ _

section Exchange

variable {texts others : List String} {before after : List Event} {outcome : Except Failure Unit}
variable {fields : List String} {answer : Answer}

theorem requests_exchange
    (begun : Prints texts before (.ok ()))
    (told : Prints others after outcome) :
    requests (before ++ .asked fields (.ok answer) :: after) = [fields] := by
  rw [requests_append, begun.requests_eq]
  exact congrArg (fields :: ·) told.requests_eq

theorem precedes_exchange
    (begun : Prints texts before (.ok ()))
    (told : Prints others after outcome) :
    (before ++ .asked fields (.ok answer) :: after).Pairwise Event.Precedes := by
  refine precedes_append (begun.ok_iff.1 rfl) begun.precedes (.cons ?_ told.precedes)
  -- Only texts are printed after an answer, so no command follows a refusal for good.
  intro later member _
  exact List.filterMap_eq_nil_iff.1 told.requests_eq later member

theorem exchange_ok_iff
    (begun : Prints texts before (.ok ()))
    (told : Prints others after outcome) :
    (∀ event ∈ before ++ .asked fields (.ok answer) :: after, ¬event.Fails) ↔
      answer.status ≠ .refused Refusal.protocol.token ∧ outcome = .ok () := by
  rw [told.ok_iff, List.forall_mem_append, List.forall_mem_cons]
  exact and_iff_right (begun.ok_iff.1 rfl)

end Exchange

/-- The words of a line that is a command. -/
def LineMeaning.fields? : LineMeaning → Option (List String)
  | .command fields => some fields
  | .nothing | .help => none

namespace Obeys

variable {meaning : LineMeaning} {events : List Event} {result : Except BatchError Unit}

/-- A line that is a command has it sent, unless something fails before. -/
theorem requests_eq
    (obeys : Obeys echo meaning events result) :
    requests events = meaning.fields?.toList ∨ requests events = [] ∧ result ≠ .ok () := by
  cases obeys with
  | passed => exact .inl rfl
  | helped told => exact .inl told.requests_eq
  | unhelped told => exact .inl told.requests_eq
  | unechoed begun => exact .inr ⟨begun.requests_eq, nofun⟩
  | unanswered begun =>
      rw [requests_append, begun.requests_eq]
      exact .inl rfl
  | unshown begun told => exact .inl (requests_exchange begun told)
  | dismissed begun told => exact .inl (requests_exchange begun told)
  | answered begun told => exact .inl (requests_exchange begun told)

theorem precedes
    (obeys : Obeys echo meaning events result) :
    events.Pairwise Event.Precedes := by
  cases obeys with
  | passed => exact .nil
  | helped told => exact told.precedes
  | unhelped told => exact told.precedes
  | unechoed begun => exact begun.precedes
  | unanswered begun =>
      exact precedes_append (begun.ok_iff.1 rfl) begun.precedes (List.pairwise_singleton _ _)
  | unshown begun told => exact precedes_exchange begun told
  | dismissed begun told => exact precedes_exchange begun told
  | answered begun told => exact precedes_exchange begun told

/-- A line is obeyed exactly when no event fails. -/
theorem ok_iff
    (obeys : Obeys echo meaning events result) :
    result = .ok () ↔ ∀ event ∈ events, ¬event.Fails := by
  cases obeys with
  | passed => simp
  | helped told => exact iff_of_true rfl (told.ok_iff.1 rfl)
  | unhelped told =>
      rw [← told.ok_iff]
      simp
  | unechoed begun =>
      rw [← begun.ok_iff]
      simp
  | unanswered begun => simp [Event.Fails]
  | unshown begun told =>
      rw [exchange_ok_iff begun told]
      simp
  | dismissed begun told last =>
      rw [exchange_ok_iff begun told]
      simp [last]
  | answered begun told onward =>
      rw [exchange_ok_iff begun told]
      simp [onward]

end Obeys

/-- The words of a line, unless it is blank, a comment or the command `help`. -/
def command? (line : String) : Option (List String) :=
  let text := Text.trim line
  if text = "" ∨ text.toList.head? = some '#' ∨ Text.words text = ["help"] then none
  else some (Text.words text)

/-- The commands among lines of input. -/
def commands (lines : List String) : List (List String) := lines.filterMap command?

theorem fields?_meaning (line : String) : (meaning line).fields? = command? line := by
  simp only [meaning, command?, isHelp, beq_iff_eq]
  split <;> split <;> simp_all [LineMeaning.fields?]

theorem commands_cons (line : String) (lines : List String) :
    commands (line :: lines) = (meaning line).fields?.toList ++ commands lines := by
  rw [commands, List.filterMap_cons, fields?_meaning]
  cases command? line <;> rfl

namespace Course

variable {ending : Option Failure} {lines : List String} {events : List Event}
variable {result : Except BatchError Unit}

/-- The commands that are sent are the first ones of the input, and all of them if none fails. -/
theorem requests_prefix
    (course : Course echo ending lines events result) :
    requests events <+: commands lines ∧
      ((∀ event ∈ events, ¬event.Fails) → requests events = commands lines) := by
  induction course with
  | finished => exact ⟨List.prefix_rfl, fun _ => rfl⟩
  | unread => exact ⟨List.prefix_rfl, fun _ => rfl⟩
  | @onward line lines events more result obeys rest hypothesis =>
      have first := obeys.requests_eq.resolve_right fun failed => failed.2 rfl
      rw [commands_cons, ← first, requests_append]
      refine ⟨(List.prefix_append_right_inj _).2 hypothesis.1, fun well => ?_⟩
      rw [hypothesis.2 fun event member => well event (List.mem_append_right _ member)]
  | @halted line lines events error obeys =>
      rw [commands_cons]
      refine ⟨?_, fun well => nomatch obeys.ok_iff.2 well⟩
      rcases obeys.requests_eq with first | ⟨nothing, _⟩
      · rw [first]
        exact List.prefix_append _ _
      · rw [nothing]
        exact List.nil_prefix

theorem precedes
    (course : Course echo ending lines events result) :
    events.Pairwise Event.Precedes := by
  induction course with
  | finished => exact .nil
  | unread => exact .nil
  | onward obeys rest hypothesis =>
      exact precedes_append (obeys.ok_iff.1 rfl) obeys.precedes hypothesis
  | halted obeys => exact obeys.precedes

/-- A run is a success exactly when no event fails and the input has ended well. -/
theorem ok_iff
    (course : Course echo ending lines events result) :
    result = .ok () ↔ ending = none ∧ ∀ event ∈ events, ¬event.Fails := by
  induction course with
  | finished whole => simp [whole]
  | unread broken => simp [broken]
  | onward obeys rest hypothesis =>
      rw [hypothesis, List.forall_mem_append]
      exact and_congr_right fun _ => (and_iff_right (obeys.ok_iff.1 rfl)).symm
  | halted obeys =>
      rw [← obeys.ok_iff]
      simp

end Course

end Confinement.Batch
