import Confinement.Proofs.Actions
import Confinement.Proofs.Client.Events
import Confinement.Proofs.Client.Requests
import Confinement.Proofs.Host.Lines

/-!
# What a batch does

Every run takes a course of its input (`course_runLines`), so all that there is to know of a run
follows from its events: which commands are sent, what the daemon and the standard output have
taken, and whether the program is a success (`batch_gives_account`).
-/

namespace Confinement.Batch

open Host Wire

/-! ## Every run takes a course -/

/-- Texts are printed in order, up to the first for which a write fails. -/
theorem prints_forEach
    {Item : Type} (text : Item → String) (items : List Item) (desk : Desk) :
    ∃ events output, Happens events desk.client desk.output desk.client output ∧
      (Action.forEach (fun item => print (text item)) items desk = (.ok (), { desk with output }) ∧
          Prints (items.map text) events (.ok ()) ∨
        ∃ cause, Action.forEach (fun item => print (text item)) items desk =
            (.error (.writeOutput cause), { desk with output }) ∧
          Prints (items.map text) events (.error cause)) := by
  induction items generalizing desk with
  | nil => exact ⟨[], desk.output, .nothing, .inl ⟨rfl, .nothing⟩⟩
  | cons item rest hypothesis =>
      rw [Action.forEach, Action.andThen, print]
      generalize written : desk.output.writeAll (Text.bytes (text item)) = ended
      obtain ⟨cause | _, output⟩ := ended
      · exact ⟨_, output, .printed written .nothing, .inr ⟨cause, rfl, .stuck⟩⟩
      · obtain ⟨events, final, happens, ⟨done, prints⟩ | ⟨cause, failed, prints⟩⟩ :=
          hypothesis { desk with output }
        · exact ⟨_, final, .printed written happens, .inl ⟨done, prints.onward⟩⟩
        · exact ⟨_, final, .printed written happens, .inr ⟨cause, failed, prints.onward⟩⟩

/-- A command is sent once what stands before it is printed. -/
theorem forward_eq (echo : Bool) (fields : List String) :
    forward echo fields =
      (Action.forEach print (echoed echo fields) >>= fun _ => do
        let answer ← exchange (Client.ask fields)
        printLines answer.lines
        judge fields answer) := by
  cases echo with
  | false => rfl
  | true =>
      rw [echoed, if_pos rfl, Action.forEach_singleton]
      rfl

/-- An answer that was printed leads on, unless it is a refusal for good. -/
theorem obeys_judge
    {echo : Bool} {fields : List String} {before after : List Event} {answer : Answer}
    (begun : Prints (echoed echo fields) before (.ok ()))
    (told : Prints (shown answer) after (.ok ()))
    (desk : Desk) :
    ∃ result, judge fields answer desk = (result, desk) ∧
      Obeys echo (.command fields) (before ++ .asked fields (.ok answer) :: after)
        (result.map fun _ => ()) := by
  rw [judge]
  cases status : answer.status with
  | done fields =>
      refine ⟨_, rfl, .answered begun told ?_⟩
      rw [status]
      exact Status.noConfusion
  | refused token =>
      dsimp only
      by_cases last : token = Refusal.protocol.token
      · rw [last] at status ⊢
        exact ⟨_, rfl, .dismissed begun told status⟩
      · rw [if_neg (by simpa [ClientError.isFatal] using last)]
        refine ⟨_, rfl, .answered begun told ?_⟩
        rw [status]
        simpa using last

theorem obeys_forward (echo : Bool) (fields : List String) (desk : Desk) :
    ∃ events result next, forward echo fields desk = (result, next) ∧
      Obeys echo (.command fields) events (result.map fun _ => ()) ∧
      Happens events desk.client desk.output next.client next.output := by
  obtain ⟨before, output, happened, first⟩ := prints_forEach id (echoed echo fields) desk
  simp only [id_eq, List.map_id] at first
  rw [forward_eq, Action.bind_apply]
  rcases first with ⟨printed, begun⟩ | ⟨cause, printed, begun⟩
  · rw [printed]
    dsimp only
    rw [Action.bind_apply, exchange]
    generalize exchanged : Client.ask fields desk.client = ended
    obtain ⟨error | answer, client⟩ := ended
    · exact ⟨_, _, _, rfl, .unanswered begun, happened.append (.asked exchanged .nothing)⟩
    · obtain ⟨after, final, followed, told⟩ :=
        prints_forEach (· ++ "\n") answer.lines { desk with client, output }
      have happens : Happens (before ++ .asked fields (.ok answer) :: after) desk.client
          desk.output client final := happened.append (.asked exchanged followed)
      show ∃ events result next, (printLines answer.lines >>= fun _ => judge fields answer)
        { desk with client, output } = (result, next) ∧ _
      rw [Action.bind_apply, printLines]
      rcases told with ⟨printed, told⟩ | ⟨cause, printed, told⟩
      · obtain ⟨result, judged, obeys⟩ :=
          obeys_judge begun told { desk with client, output := final }
        rw [printed]
        exact ⟨_, result, _, judged, obeys, happens⟩
      · rw [printed]
        exact ⟨_, _, _, rfl, .unshown begun told, happens⟩
  · rw [printed]
    exact ⟨before, _, _, rfl, .unechoed begun, happened⟩

/-- What is done for a line is what the line asks for. -/
theorem obeys_obey (echo : Bool) (meaning : LineMeaning) (desk : Desk) :
    ∃ events result next, obey echo meaning desk = (result, next) ∧
      Obeys echo meaning events result ∧
      Happens events desk.client desk.output next.client next.output := by
  cases meaning with
  | nothing => exact ⟨[], .ok (), desk, rfl, .passed, .nothing⟩
  | help =>
      obtain ⟨events, output, happens, told⟩ := prints_forEach id [vocabulary] desk
      simp only [id_eq, List.map_id, Action.forEach_singleton] at told
      rcases told with ⟨printed, told⟩ | ⟨cause, printed, told⟩
      · exact ⟨events, _, _, printed, .helped told, happens⟩
      · exact ⟨events, _, _, printed, .unhelped told, happens⟩
  | command fields =>
      obtain ⟨events, result, next, forwarded, obeys, happens⟩ := obeys_forward echo fields desk
      refine ⟨events, _, next, ?_, obeys, happens⟩
      rw [obey, Action.bind_apply, forwarded]
      cases result <;> rfl

/-- Every run over an input takes a course of it. -/
theorem course_runLines (echo : Bool) (source : Source) (desk : Desk) :
    ∃ events, Course echo source.texts.2 source.texts.1 events (runLines echo source desk).1 ∧
      Happens events desk.client desk.output (runLines echo source desk).2.client
        (runLines echo source desk).2.output := by
  fun_induction runLines echo source desk with
  | case1 source desk cause rest read =>
      rw [Source.texts_of_error read]
      exact ⟨[], .unread rfl, .nothing⟩
  | case2 source desk rest read =>
      rw [Source.texts_of_end read]
      exact ⟨[], .finished rfl, .nothing⟩
  | case3 source desk first others rest read unreadable =>
      rw [Source.texts_of_line read (List.cons_ne_nil _ _), unreadable]
      exact ⟨[], .unread rfl, .nothing⟩
  | case4 source desk first others rest read line decoded next obeyed hypothesis =>
      rw [Source.texts_of_line read (List.cons_ne_nil _ _), decoded]
      obtain ⟨events, _, _, found, obeys, happens⟩ :=
        obeys_obey echo (meaning line) { desk with input := rest }
      rw [obeyed] at found
      cases found
      obtain ⟨more, course, followed⟩ := hypothesis
      exact ⟨events ++ more, course.onward obeys, happens.append followed⟩
  | case5 source desk first others rest read line decoded error next obeyed =>
      rw [Source.texts_of_line read (List.cons_ne_nil _ _), decoded]
      obtain ⟨events, _, _, found, obeys, happens⟩ :=
        obeys_obey echo (meaning line) { desk with input := rest }
      rw [obeyed] at found
      cases found
      exact ⟨events, .halted obeys, happens⟩

/-! ## Bytes -/

/-- The bytes that a client puts on its connection in some events. -/
inductive Sends : List Event → Bytes → Prop
  | nothing : Sends [] []
  | printed {text : String} {outcome : Except Failure Unit} {events : List Event} {bytes : Bytes}
      (rest : Sends events bytes) :
      Sends (.printed text outcome :: events) bytes
  | answered {fields : List String} {answer : Answer} {events : List Event} {bytes : Bytes}
      (fits : Fits fields)
      (rest : Sends events bytes) :
      Sends (.asked fields (.ok answer) :: events) ((Record.ofTexts fields).wire ++ bytes)
  /-- A command that does not fit is not sent; another one is, unless the sending itself failed. -/
  | unanswered {fields : List String} {error : ClientError} {part : Bytes}
      (first : part <+: (Record.ofTexts fields).wire)
      (unfit : ¬Fits fields → part = [])
      (whole : part = (Record.ofTexts fields).wire ∨ ∃ cause, error = .send cause) :
      Sends [.asked fields (.error error)] part

/-- The bytes that are printed in some events. -/
inductive Shows : List Event → Bytes → Prop
  | nothing : Shows [] []
  | asked {fields : List String} {outcome : Except ClientError Answer} {events : List Event}
      {bytes : Bytes}
      (rest : Shows events bytes) :
      Shows (.asked fields outcome :: events) bytes
  | printed {text : String} {events : List Event} {bytes : Bytes}
      (rest : Shows events bytes) :
      Shows (.printed text (.ok ()) :: events) (Text.bytes text ++ bytes)
  | stuck {text : String} {cause : Failure} {part : Bytes}
      (first : part <+: Text.bytes text) :
      Shows [.printed text (.error cause)] part

namespace Happens

variable {events : List Event} {client last : Client} {output final : Sink}

theorem sends
    (happens : Happens events client output last final)
    (idle : client.Idle)
    (precedes : events.Pairwise Event.Precedes) :
    ∃ bytes, Sends events bytes ∧ last.sent = client.sent ++ bytes := by
  induction happens with
  | nothing => exact ⟨[], .nothing, (List.append_nil _).symm⟩
  | printed written rest hypothesis =>
      obtain ⟨bytes, sends, taken⟩ := hypothesis idle precedes.tail
      exact ⟨bytes, sends.printed, taken⟩
  | asked exchanged rest hypothesis =>
      rename_i fields outcome events
      rcases Client.ask_outcomes idle fields with
        ⟨answer, next, asked, fits, still, taken⟩ |
        ⟨error, next, part, asked, first, unfit, whole, taken⟩
      · rw [exchanged] at asked
        cases asked
        obtain ⟨bytes, sends, more⟩ := hypothesis still precedes.tail
        refine ⟨_, sends.answered fits, ?_⟩
        rw [more, taken, List.append_assoc]
      · rw [exchanged] at asked
        cases asked
        -- Nothing comes after a request that failed.
        obtain rfl : events = [] :=
          List.eq_nil_iff_forall_not_mem.2 (List.pairwise_cons.1 precedes).1
        cases rest
        exact ⟨part, .unanswered first unfit whole, taken⟩

theorem shows
    (happens : Happens events client output last final)
    (precedes : events.Pairwise Event.Precedes) :
    ∃ bytes, Shows events bytes ∧ final.accepted = output.accepted ++ bytes := by
  induction happens with
  | nothing => exact ⟨[], .nothing, (List.append_nil _).symm⟩
  | asked exchanged rest hypothesis =>
      obtain ⟨bytes, shows, taken⟩ := hypothesis precedes.tail
      exact ⟨bytes, shows.asked, taken⟩
  | printed written rest hypothesis =>
      rename_i text outcome events
      rcases Sink.accepted_writeAll written with ⟨rfl, taken⟩ | ⟨cause, part, rfl, first, taken⟩
      · obtain ⟨bytes, shows, more⟩ := hypothesis precedes.tail
        refine ⟨_, shows.printed, ?_⟩
        rw [more, taken, List.append_assoc]
      · -- Nothing comes after a text that could not be printed.
        obtain rfl : events = [] := by
          refine List.eq_nil_iff_forall_not_mem.2 fun later member => ?_
          cases (List.pairwise_cons.1 precedes).1 later member
        cases rest
        exact ⟨part, .stuck first, taken⟩

end Happens

/-! ## Accounts -/

/-- All that there is to say of the batch that a greeted client works off. -/
structure Account (echo : Bool) (client : Client) (input : Source) (output : Sink)
    (events : List Event) (report : Report) : Prop where
  /-- The events are those of the lines, in order, up to the first that fails. -/
  course : ∃ result, Course echo input.texts.2 input.texts.1 events result
  happens : ∃ last, Happens events client output last report.output ∧ report.sent = some last.sent
  precedes : events.Pairwise Event.Precedes
  inOrder : requests events <+: commands input.texts.1
  complete : (∀ event ∈ events, ¬event.Fails) → requests events = commands input.texts.1
  sent : ∃ bytes, Sends events bytes ∧ report.sent = some (client.sent ++ bytes)
  shown : ∃ bytes, Shows events bytes ∧ report.output.accepted = output.accepted ++ bytes
  success : report.code = 0 ↔ input.texts.2 = none ∧ ∀ event ∈ events, ¬event.Fails

/--
Whatever the input is and whatever the daemon and the standard output do, a batch prints and sends
what the lines of its input ask for, line by line.  Its commands are sent as they stand, up to the
first that fails or is refused for good, and everything that is to be printed for one of them is
printed before the next is sent.  The program is a success exactly when nothing has failed and the
input was read to its end; other refusals do not matter.
-/
theorem batch_gives_account
    {peer : Peer} {client : Client}
    (greeted : Client.handshake (Client.fresh peer) = (.ok (), client))
    (echo : Bool) (input : Source) (output : Sink) :
    ∃ events, Account echo client input output events (serve echo [] ⟨client, input, output⟩) := by
  obtain ⟨events, course, happens⟩ := course_runLines echo input ⟨client, input, output⟩
  have report : serve echo [] ⟨client, input, output⟩ =
      Report.ofOutcome (runLines echo input ⟨client, input, output⟩).2
        ((runLines echo input ⟨client, input, output⟩).1.map fun _ => true) := rfl
  have success := course.ok_iff
  rw [report]
  generalize runLines echo input ⟨client, input, output⟩ = ended at course happens success
  obtain ⟨result, last⟩ := ended
  have printed : (Report.ofOutcome last (result.map fun _ => true)).output = last.output := by
    cases result <;> rfl
  have taken : (Report.ofOutcome last (result.map fun _ => true)).sent = some last.client.sent := by
    cases result <;> rfl
  have code : (Report.ofOutcome last (result.map fun _ => true)).code = 0 ↔ result = .ok () := by
    cases result <;> simp [Report.ofOutcome, Except.map]
  -- The report shows no more of the run than where its events have led.
  obtain ⟨sent, sends, grown⟩ :=
    happens.sends (Client.idle_of_handshake greeted) course.precedes
  obtain ⟨shown, shows, longer⟩ := happens.shows course.precedes
  refine ⟨events, ⟨result, course⟩, ?_, course.precedes, course.requests_prefix.1,
    course.requests_prefix.2, ⟨sent, sends, ?_⟩, ⟨shown, shows, ?_⟩, code.trans success⟩
  · rw [printed, taken]
    exact ⟨last.client, happens, rfl⟩
  · rw [taken, grown]
  · rw [printed]
    exact longer

/-- A daemon that welcomes its client and then hangs up. -/
def curt : Peer := ⟨[.bytes (Text.bytes "done 1\n")], {}⟩

/-- A comment, a command with blanks around its words, and the command `help`. -/
def threeLines : Source := [.bytes (Text.bytes "# first\n  id   a \nhelp\n")]

/-- Of three lines one is sent, and the program is a success only if it is answered. -/
theorem batch_gives_account_of_three_lines :
    ∃ client events, Client.handshake (Client.fresh curt) = (.ok (), client) ∧
      requests events <+: [["id", "a"]] ∧
      ((∀ event ∈ events, ¬event.Fails) → requests events = [["id", "a"]]) ∧
      ((serve true [] ⟨client, threeLines, {}⟩).code = 0 ↔ ∀ event ∈ events, ¬event.Fails) := by
  have steady : curt.source.Steady := by
    intro cause member
    cases List.mem_singleton.1 member
  have lossless : ∀ outcome ∈ ([] : List WriteOutcome), outcome.Lossless := by simp
  have fits : Fits [Command.magic, toString Command.defaultVersion] := by decide
  have sendable : (Status.done [toString Command.defaultVersion]).alone.Sendable := by decide
  have whole : curt.source.contents =
      (Status.done [toString Command.defaultVersion]).alone.wire := by decide
  obtain ⟨next, asked, _, _⟩ :=
    Client.ask_of_answered (Client.settled_fresh {}) lossless steady fits sendable whole
  have greeted : Client.handshake (Client.fresh curt) =
      (.ok (), { next with version := Command.defaultVersion }) := Client.handshake_of_ask asked
  have lines : threeLines.texts = (["# first\n", "  id   a \n", "help\n"], none) := by
    decide +kernel
  have found : commands ["# first\n", "  id   a \n", "help\n"] = [["id", "a"]] := by decide +kernel
  obtain ⟨events, account⟩ := batch_gives_account greeted true threeLines {}
  have inOrder := account.inOrder
  have complete := account.complete
  have success := account.success
  rw [lines, found] at inOrder complete
  rw [lines] at success
  exact ⟨_, events, greeted, inOrder, complete, success.trans (and_iff_right rfl)⟩

end Confinement.Batch
