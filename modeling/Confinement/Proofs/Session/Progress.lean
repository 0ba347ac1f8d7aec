import Confinement.Policy.Machine
import Confinement.Proofs.Actions
import Confinement.Proofs.Session.Discipline
import Confinement.Proofs.Session.Settling
import Confinement.Proofs.Wire.Looking
import Confinement.Proofs.Wire.Outcomes

/-!
# Sessions that go on

Records are answered in a loop, each pass of which looks for a record and answers it (`pass`).
A pass that is not the last one has made the buffer shorter, so the loop comes to its end.  The
session is then not open any more, or it has found no record in a buffer that is not full.  So there
is room for the next read (`HasRoom`), which takes bytes, finds the end of the stream, or meets what
the stream itself has to tell (`Received`).  A full buffer, of which a read says nothing, is never
met: a server that attends to a session again and again gets to the end of what the client sends
(`Attended.bounded`).
-/

namespace Confinement

open Host Policy Staging Wire

variable {World : Type}

namespace Host.Source

/-- A read uses up something of a stream, unless it finds the end. -/
theorem workload_readPatiently
    {limit : Nat} {source rest : Source} {result : Except Failure Bytes}
    (found : source.readPatiently limit = (result, rest))
    (some : result ≠ .ok []) :
    rest.workload < source.workload := by
  fun_induction readPatiently limit source with
  | case1 =>
      cases found
      exact absurd rfl some
  | case2 tail hypothesis =>
      have less := hypothesis found
      simp only [workload, left, List.length_cons] at less ⊢
      omega
  | case3 tail hypothesis =>
      have less := hypothesis found
      simp only [workload, left, List.length_cons, List.length_nil] at less ⊢
      omega
  | case4 delivery tail notInterrupted notEmpty =>
      cases delivery with
      | failure cause =>
          cases found
          simp only [workload, left, List.length_cons]
          omega
      | bytes data =>
          cases data with
          | nil => exact absurd rfl notEmpty
          | cons byte run =>
              cases found
              have positive : limit ≠ 0 := by
                rintro rfl
                exact some rfl
              split
              · simp only [workload, left, List.length_cons]
                omega
              · simp only [workload, left, List.length_cons, List.length_drop]
                omega

end Host.Source

namespace Session

/-! ## The loop -/

/-- One pass of answering: a record is looked for, removed and answered. -/
def pass (environment : Environment World) :
    Session × Sink × Shared World →
      Pass (Session × Sink × Shared World)
        (Except FramingError Unit × Session × Sink × Shared World)
  | (session, sink, shared) =>
    let turn : Turn World := ⟨session.dialogue, sink, shared⟩
    if session.isOpen then
      match session.decoder.tryRecord with
      | (.ok (some record), next) =>
        match answerRecord environment record turn with
        | (.ok (), last) => .again (⟨next.advance, last.dialogue⟩, last.sink, last.shared)
        | (.error error, last) =>
          .ended (.error error, ⟨next.advance, last.dialogue⟩, last.sink, last.shared)
      | (.ok none, next) => .ended (.ok (), ⟨next, session.dialogue⟩, sink, shared)
      | (.error error, next) =>
        let (result, last) := refuseInput error turn
        .ended (result, ⟨next, last.dialogue⟩, last.sink, last.shared)
    else
      .ended (.ok (), session, sink, shared)

/-- To answer what is buffered is to go on with passes until one of them is the last. -/
theorem process_eq_pass
    (environment : Environment World) (session : Session) (sink : Sink) (shared : Shared World) :
    process environment session sink shared =
      (pass environment (session, sink, shared)).followedBy fun (next, taken, after) =>
        process environment next taken after := by
  rw [pass, process]
  dsimp only
  by_cases isOpen : session.isOpen = true
  · have reads : (⟨session.dialogue, sink, shared⟩ : Turn World).dialogue.phase.isOpen = true :=
      isOpen
    rw [if_pos isOpen]
    generalize found : session.decoder.tryRecord = search
    obtain ⟨error | none | record, next⟩ := search
    · rw [(processFrom_of_error environment reads found).1]
      rfl
    · rw [(processFrom_of_none environment reads found).1]
      rfl
    · dsimp only
      generalize answered : answerRecord environment record _ = outcome
      obtain ⟨error | done, last⟩ := outcome
      · rw [(processFrom_of_failure environment reads found answered).1]
        rfl
      · rw [(processFrom_of_record environment reads found answered).1]
        rfl
  · rw [if_neg isOpen]
    have closed : (⟨session.dialogue, sink, shared⟩ : Turn World).dialogue.phase.isOpen = false :=
      Bool.eq_false_iff.2 isOpen
    rw [(processFrom_of_closed environment session.decoder closed).1]
    rfl

/-- A pass that is not the last one makes the buffer shorter. -/
theorem shrinks_pass (environment : Environment World) :
    Pass.Shrinks (pass environment) fun state => state.1.decoder.buffered := by
  rintro ⟨session, sink, shared⟩ next again
  rw [pass] at again
  dsimp only at again
  split at again
  · split at again
    · rename_i record found search
      split at again
      · cases again
        exact Decoder.buffered_advance_lt search
      · cases again
    · cases again
    · cases again
  · cases again

/-- Answering comes to an end, after at most one pass for each byte and one more. -/
theorem ends_process
    (environment : Environment World) (session : Session) (sink : Sink) (shared : Shared World) :
    ∃ passes, passes ≤ session.decoder.buffered + 1 ∧
      Pass.Ends (pass environment) passes (session, sink, shared)
        (process environment session sink shared) :=
  Pass.ends_of_shrinks (fun (next, taken, after) => process environment next taken after)
    (shrinks_pass environment)
    (fun (next, taken, after) => process_eq_pass environment next taken after)
    (session, sink, shared)

/-! ## Room -/

/-- Whether bytes can be read into the buffer of a session. -/
structure HasRoom (session : Session) : Prop where
  notFull : session.decoder.buffered < bufferLimit
  /-- There are free cells behind the buffered bytes. -/
  slot : 0 < session.decoder.buffer.writable

variable {environment : Environment World} {session next last : Session}
  {source left rest : Source}

theorem hasRoom_of_notFull
    (notFull : session.decoder.buffered < bufferLimit) :
    session.HasRoom where
  notFull := notFull
  slot := by
    apply Nat.pos_of_ne_zero
    intro none
    exact absurd ((Ring.writable_eq_zero_iff _).1 none) (Nat.ne_of_lt notFull)

/-- A session that stays open has found no record, in a buffer that is not full. -/
theorem notFull_of_processFrom
    {decoder last : Decoder} {turn after : Turn World}
    (ended : processFrom environment decoder turn = (.ok (), last, after))
    (isOpen : after.dialogue.phase.isOpen = true) :
    last.buffered < bufferLimit := by
  fun_induction processFrom environment decoder turn with
  | case1 decoder turn wasOpen error next found result final refused =>
      cases ended
      obtain ⟨rfl, _⟩ := Decoder.tryRecord_error found
      have closed := ((refuseInput_yields turn).ok refused).2
      rw [isOpen] at closed
      cases closed
  | case2 decoder turn wasOpen next found =>
      cases ended
      exact (Decoder.tryRecord_none found).2.1.not_full
  | case3 decoder turn wasOpen record next found final answered hypothesis =>
      exact hypothesis ended
  | case4 => cases ended
  | case5 decoder turn closed =>
      cases ended
      exact absurd isOpen closed

theorem hasRoom_of_process
    {sink taken : Sink} {shared after : Shared World}
    (ended : process environment session sink shared = (.ok (), last, taken, after))
    (isOpen : last.isOpen = true) :
    last.HasRoom := by
  rw [process] at ended
  generalize answered : processFrom environment session.decoder ⟨session.dialogue, sink, shared⟩ =
    outcome at ended
  obtain ⟨result, decoder, turn⟩ := outcome
  cases ended
  exact hasRoom_of_notFull (notFull_of_processFrom answered isOpen)

/-! ## Reads -/

/-- What comes of one read by a session that has room. -/
inductive Received (session : Session) (source : Source) :
    Except FramingError Unit → Session → Source → Prop
  /-- Some bytes were there, and stand behind those that were buffered. -/
  | taken {data : Bytes} {next : Session} {rest : Source}
      (read : source.readPatiently session.decoder.buffer.writable = (.ok data, rest))
      (some : data ≠ [])
      (contents : next.decoder.buffer.toList = session.decoder.buffer.toList ++ data)
      (dialogue : next.dialogue = session.dialogue) :
      Received session source (.ok ()) next rest
  /-- All bytes have been read before. -/
  | ended {next : Session} {rest : Source}
      (read : source.readPatiently session.decoder.buffer.writable = (.ok [], rest))
      (nothing : source.contents = [])
      (closed : next.isOpen = false) :
      Received session source (.ok ()) next rest
  /-- The stream puts the read off. -/
  | putOff {rest : Source}
      (read : source.readPatiently session.decoder.buffer.writable = (.error .wouldBlock, rest)) :
      Received session source (.ok ()) session rest
  /-- The stream fails. -/
  | failed {cause : Failure} {rest : Source}
      (read : source.readPatiently session.decoder.buffer.writable = (.error cause, rest))
      (final : cause ≠ .wouldBlock) :
      Received session source (.error (.stream cause)) session rest

theorem received_of_hasRoom
    (room : session.HasRoom)
    (source : Source) :
    session.Received source (session.receive source).1 (session.receive source).2.1
      (session.receive source).2.2 := by
  rw [receive, Decoder.fillFrom, if_neg (Nat.ne_of_gt room.slot)]
  rcases Source.readPatiently_outcomes room.slot source with
    ⟨data, rest, read, some, bound, _⟩ | ⟨read, nothing⟩ | ⟨cause, rest, read, _⟩
  · obtain ⟨byte, run, rfl⟩ := List.exists_cons_of_ne_nil some
    have contents : (session.decoder.buffer.fill (byte :: run)).toList =
        session.decoder.buffer.toList ++ byte :: run := by
      rw [Ring.toList_fill, List.take_of_length_le bound]
    rw [read]
    exact .taken read some contents rfl
  · rw [read]
    exact .ended read nothing rfl
  · rw [read]
    by_cases blocked : cause = .wouldBlock
    · subst blocked
      exact .putOff read
    · cases cause with
      | wouldBlock => exact absurd rfl blocked
      | _ => exact .failed read blocked

theorem Received.workload
    {result : Except FramingError Unit}
    (received : session.Received source result next rest)
    (isOpen : next.isOpen = true) :
    rest.workload < source.workload := by
  cases received with
  | taken read some =>
      exact Source.workload_readPatiently read fun same => some (Except.ok.inj same)
  | ended read nothing closed =>
      rw [isOpen] at closed
      cases closed
  | putOff read => exact Source.workload_readPatiently read nofun
  | failed read => exact Source.workload_readPatiently read nofun

/-! ## Rounds -/

/-- Nothing opens a session again. -/
theorem isOpen_of_process
    {result : Except FramingError Unit} {sink taken : Sink} {shared after : Shared World}
    (ended : process environment session sink shared = (result, last, taken, after))
    (isOpen : last.isOpen = true) :
    session.isOpen = true := by
  rw [← Bool.not_eq_false]
  intro closed
  rw [(Line.process_of_closed environment closed sink shared).1] at ended
  cases ended
  rw [isOpen] at closed
  cases closed

theorem isOpen_of_receive
    {result : Except FramingError Unit}
    (received : session.receive source = (result, next, rest))
    (isOpen : next.isOpen = true) :
    session.isOpen = true := by
  rw [← Bool.not_eq_false]
  intro closed
  have still := (Line.receive_keeps session source).2 closed
  rw [received, isOpen] at still
  cases still

/-- Handing over replies leaves what is to be read. -/
theorem decoder_flush (session : Session) (sink : Sink) :
    (session.flush sink).2.1.decoder = session.decoder := by
  rw [flush]
  dsimp only
  split
  · rfl
  · rfl
  · rfl

/-- What a server does about a session, again and again, while the stream and the client last. -/
inductive Attended (environment : Environment World) (session : Session) (source : Source) :
    Nat → Session → Source → Prop
  | start : Attended environment session source 0 session source
  /-- It reads once, and answers what is complete then. -/
  | round {rounds : Nat} {next fed last : Session} {left rest : Source}
      {sink taken : Sink} {shared after : Shared World}
      (before : Attended environment session source rounds next left)
      (received : next.receive left = (.ok (), fed, rest))
      (answered : process environment fed sink shared = (.ok (), last, taken, after)) :
      Attended environment session source (rounds + 1) last rest
  /-- It hands over replies that wait. -/
  | flushed {rounds : Nat} {next last : Session} {left : Source} {sink taken : Sink}
      (before : Attended environment session source rounds next left)
      (handed : next.flush sink = (.ok (), last, taken)) :
      Attended environment session source rounds last left

/-- While the session stays open, every round finds room and uses up something of the stream. -/
theorem Attended.bounded
    {rounds : Nat}
    (attended : Attended environment session source rounds last rest)
    (room : session.HasRoom)
    (isOpen : last.isOpen = true) :
    last.HasRoom ∧ rounds + rest.workload ≤ source.workload := by
  induction attended with
  | start => exact ⟨room, Nat.le_of_eq (Nat.zero_add _)⟩
  | @round rounds next fed last left rest _ _ _ _ before received answered hypothesis =>
      have fedOpen := isOpen_of_process answered isOpen
      obtain ⟨found, spent⟩ := hypothesis (isOpen_of_receive received fedOpen)
      have outcome := received_of_hasRoom found left
      rw [received] at outcome
      have less : rest.workload < left.workload := outcome.workload fedOpen
      exact ⟨hasRoom_of_process answered isOpen, by omega⟩
  | @flushed rounds next last left sink _ before handed hypothesis =>
      have phase := (Line.flush_keeps next sink).2.2
      rw [handed] at phase
      obtain ⟨found, spent⟩ := hypothesis (phase.symm.trans isOpen)
      have decoder := decoder_flush next sink
      rw [handed] at decoder
      refine ⟨hasRoom_of_notFull ?_, spent⟩
      rw [decoder]
      exact found.notFull

/-! ## Going on -/

/--
A session never gets stuck.  Looking for a record and answering come to their ends, each pass but
the last making the buffer shorter, and answering does so after some number of writes, unless
infinitely many are interrupted.  A session that is open afterwards has room, and its next read
takes bytes, finds the end of the stream or meets what the stream tells.  A server that attends to
it again and again uses up something of the stream in every round.
-/
theorem ends_and_leaves_room
    (environment : Environment World) (session : Session) (shared : Shared World) :
    (Pass.Shrinks Decoder.look Decoder.buffered ∧
      ∃ passes, passes ≤ session.decoder.buffered + 1 ∧
        Pass.Ends Decoder.look passes session.decoder session.decoder.tryRecord) ∧
    (Pass.Shrinks (pass environment) (fun state => state.1.decoder.buffered) ∧
      ∀ sink, ∃ passes, passes ≤ session.decoder.buffered + 1 ∧
        Pass.Ends (pass environment) passes (session, sink, shared)
          (process environment session sink shared)) ∧
    (∀ writer : Writer, writer.Relents → ∀ accepted,
      ∃ writes result last taken after, ∀ more,
        process environment session ⟨writer.first writes ++ more, accepted⟩ shared =
          (result, last, ⟨more, taken⟩, after)) ∧
    (∀ sink last taken after,
      process environment session sink shared = (.ok (), last, taken, after) →
      last.isOpen = true →
        last.HasRoom ∧
        ∀ source,
          last.Received source (last.receive source).1 (last.receive source).2.1
            (last.receive source).2.2 ∧
          ∀ rounds final rest, Attended environment last source rounds final rest →
            final.isOpen = true → final.HasRoom ∧ rounds + rest.workload ≤ source.workload) := by
  refine ⟨⟨Decoder.shrinks_look, session.decoder.ends_tryRecord⟩, ⟨shrinks_pass environment, ?_⟩,
    ?_, ?_⟩
  · intro sink
    exact ends_process environment session sink shared
  · intro writer relents accepted
    exact process_settles environment relents session accepted shared
  · intro sink last taken after ended isOpen
    have room := hasRoom_of_process ended isOpen
    refine ⟨room, fun source => ⟨received_of_hasRoom room source, ?_⟩⟩
    intro rounds final rest attended stillOpen
    exact attended.bounded room stillOpen

/-- A session that was sent a record behind a bare terminator, and half of the next one. -/
def halfway : Session := ((fresh false).receive [.bytes (Text.bytes "\nid ab\ndis")]).2.1

/-- A writer that is interrupted, takes three bytes, and then puts every write off. -/
def reluctant : Writer
  | 0 => .failure .interrupted
  | 1 => .accept 3
  | _ => .failure .wouldBlock

/-- Half of a record is kept, and the read of the other half finds room. -/
theorem ends_and_leaves_room_halfway :
    let environment := machineEnvironment .memory .simulated
    let shared : Shared Machine := { world := { files := FileTree.empty } }
    let coming : Source := [.bytes (Text.bytes "play\n")]
    (∃ writes result last taken after, ∀ more,
      process environment halfway ⟨reluctant.first writes ++ more, []⟩ shared =
        (result, last, ⟨more, taken⟩, after)) ∧
    ∃ last taken after final rest,
      process environment halfway ⟨reluctant.first 3, []⟩ shared =
        (.ok (), last, taken, after) ∧
      taken.accepted = Text.bytes "don" ∧
      last.decoder.buffer.toList = Text.bytes "dis" ∧ last.HasRoom ∧
      Attended environment last coming 1 final rest ∧
      final.HasRoom ∧ 1 + rest.workload ≤ coming.workload := by
  intro environment shared coming
  have relents : reluctant.Relents := by
    refine ⟨1, fun index later => ?_⟩
    match index with
    | 1 => exact nofun
    | index + 2 => exact nofun
  obtain ⟨_, _, settles, goesOn⟩ := ends_and_leaves_room environment halfway shared
  refine ⟨settles reluctant relents [], ?_⟩
  let outcome := process environment halfway ⟨reluctant.first 3, []⟩ shared
  have done : outcome.1 = .ok () := toOption_eq_some_iff.1 (by decide +kernel)
  have ended : process environment halfway ⟨reluctant.first 3, []⟩ shared =
      (.ok (), outcome.2.1, outcome.2.2.1, outcome.2.2.2) := Prod.ext done rfl
  have isOpen : outcome.2.1.isOpen = true := by decide +kernel
  obtain ⟨room, further⟩ := goesOn _ _ _ _ ended isOpen
  let next := outcome.2.1.receive coming
  have read : next.1 = .ok () := toOption_eq_some_iff.1 (by decide +kernel)
  let last := process environment next.2.1 outcome.2.2.1 shared
  have again : last.1 = .ok () := toOption_eq_some_iff.1 (by decide +kernel)
  have attended : Attended environment outcome.2.1 coming 1 last.2.1 next.2.2 :=
    .round .start (Prod.ext read rfl) (Prod.ext again rfl)
  have stillOpen : last.2.1.isOpen = true := by decide +kernel
  obtain ⟨roomAgain, spent⟩ := (further coming).2 1 _ _ attended stillOpen
  exact ⟨_, _, _, _, _, ended, by decide +kernel, by decide +kernel, room, attended, roomAgain,
    spent⟩

end Session

end Confinement
