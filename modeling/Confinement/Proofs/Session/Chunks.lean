import Confinement.Policy.Machine
import Confinement.Proofs.Policy.Recording
import Confinement.Proofs.Session.Processing
import Confinement.Proofs.Wire.Reception

/-!
# Sessions and the cuts of a stream

What a session says and does depends on the bytes that it is sent, not on how they are cut into
deliveries.  `converse` answers the records of a stream without any buffer, and every delivery of
the stream to a client that takes all replies comes to the same (`deliverFrom_comesTo`).
-/

namespace Confinement.Session

open Host Policy Staging Wire

variable {World : Type} (environment : Environment World)

/-! ## Conversations -/

/-- Answers records as long as the session is open. -/
def answerAll : List Record → Turn World → Turn World
  | [], turn => turn
  | record :: rest, turn =>
    if turn.dialogue.phase.isOpen then answerAll rest (answerRecord environment record turn).2
    else turn

/-- Answers what a stream holds, and at last what can never become a record. -/
def converse (reading : Reading) (turn : Turn World) : Turn World :=
  match reading.left with
  | some _ => answerAll environment reading.records turn
  | none =>
    let last := answerAll environment reading.records turn
    if last.dialogue.phase.isOpen then (refuseInput .messageTooBig last).2 else last

variable {turn : Turn World}

theorem answerAll_of_closed
    (closed : turn.dialogue.phase.isOpen = false)
    (records : List Record) :
    answerAll environment records turn = turn := by
  cases records with
  | nil => rfl
  | cons record rest => rw [answerAll, closed, if_neg Bool.false_ne_true]

theorem answerAll_append (records more : List Record) (turn : Turn World) :
    answerAll environment (records ++ more) turn =
      answerAll environment more (answerAll environment records turn) := by
  induction records generalizing turn with
  | nil => rfl
  | cons record rest hypothesis =>
      rw [List.cons_append, answerAll, answerAll]
      split
      · exact hypothesis _
      · rename_i closed
        rw [answerAll_of_closed environment (Bool.eq_false_iff.2 closed)]

theorem converse_of_closed
    (closed : turn.dialogue.phase.isOpen = false)
    (reading : Reading) :
    converse environment reading turn = turn := by
  obtain ⟨records, left⟩ := reading
  cases left with
  | some left => exact answerAll_of_closed environment closed records
  | none =>
      rw [converse]
      dsimp only
      rw [answerAll_of_closed environment closed, closed, if_neg Bool.false_ne_true]

theorem converse_cons
    (isOpen : turn.dialogue.phase.isOpen = true)
    (record : Record) (reading : Reading) :
    converse environment (reading.cons record) turn =
      converse environment reading (answerRecord environment record turn).2 := by
  obtain ⟨records, left⟩ := reading
  cases left with
  | some left => simp only [converse, Reading.cons, answerAll, isOpen, ↓reduceIte]
  | none => simp only [converse, Reading.cons, answerAll, isOpen, ↓reduceIte]

/-- A conversation about a stream goes on with what is left where it was cut. -/
theorem converse_append
    {allowEmpty : Bool} {data left : Bytes}
    (waiting : (readStream allowEmpty data).left = some left)
    (more : Bytes) (turn : Turn World) :
    converse environment (readStream allowEmpty (data ++ more)) turn =
      converse environment (readStream allowEmpty (left ++ more))
        (converse environment (readStream allowEmpty data) turn) := by
  rw [readStream_append, Reading.andThen, waiting]
  simp only [converse, waiting, answerAll_append]

/-- What comes after the end of a session does not matter. -/
theorem converse_append_of_closed
    {allowEmpty : Bool} {data : Bytes}
    (closed : (converse environment (readStream allowEmpty data) turn).dialogue.phase.isOpen =
      false)
    (more : Bytes) :
    converse environment (readStream allowEmpty (data ++ more)) turn =
      converse environment (readStream allowEmpty data) turn := by
  cases waiting : (readStream allowEmpty data).left with
  | some left =>
      rw [converse_append environment waiting]
      exact converse_of_closed environment closed _
  | none => rw [readStream_append, Reading.andThen, waiting]

/-! ## Processing -/

/-- A client that takes every reply is answered whatever the decoder holds. -/
theorem processFrom_converse
    (decoder : Decoder) {turn : Turn World}
    (willing : turn.sink.script = []) :
    ∃ last, processFrom environment decoder turn =
        (.ok (), last, converse environment decoder.reading turn) ∧
      (converse environment decoder.reading turn).sink.script = [] ∧
      ((converse environment decoder.reading turn).dialogue.phase.isOpen = true →
        decoder.reading.left = some last.buffer.toList ∧
          last.allowEmpty = decoder.allowEmpty) := by
  cases isOpen : turn.dialogue.phase.isOpen with
  | false =>
      rw [(processFrom_of_closed environment decoder isOpen).1,
        converse_of_closed environment isOpen]
      refine ⟨decoder, rfl, willing, ?_⟩
      rw [isOpen]
      intro impossible
      cases impossible
  | true =>
      rcases decoder.tryRecord_cases with
        ⟨record, next, found, mode, reading⟩ | ⟨next, found, mode, reading⟩ |
        ⟨next, found, reading⟩
      · have shorter := Decoder.buffered_advance_lt found
        obtain ⟨done, middle, answered, still⟩ :=
          (answerRecord_yields turn environment record).willing willing
        rw [(processFrom_of_record environment isOpen found answered).1, reading,
          converse_cons environment isOpen, answered, ← mode]
        exact processFrom_converse next.advance still
      · rw [(processFrom_of_none environment isOpen found).1, reading]
        exact ⟨next, rfl, willing, fun _ => ⟨rfl, mode⟩⟩
      · obtain ⟨done, last, refused, still⟩ := (refuseInput_yields turn).willing willing
        have ended := ((refuseInput_yields turn).ok refused).2
        have told : converse environment decoder.reading turn = last := by
          rw [reading, converse]
          simp only [answerAll, isOpen, ↓reduceIte, refused]
        rw [(processFrom_of_error environment isOpen found).1, told, refused]
        refine ⟨next, rfl, still, ?_⟩
        rw [ended]
        intro impossible
        cases impossible
termination_by decoder.buffered

/-! ## Deliveries -/

/-- What lies ahead of a session: the bytes it has kept and those that are to be delivered. -/
def ahead (session : Session) (source : Source) : Reading :=
  readStream session.decoder.allowEmpty (session.decoder.buffer.toList ++ source.contents)

/--
Whether a delivery came to the conversation about what lay ahead of the session.  As long as the
session is open, all of it has been delivered, and what is left of it is kept.
-/
def ComesTo (session : Session) (source : Source) (turn : Turn World)
    (outcome : Except FramingError Unit × Session × Source × Sink × Shared World) : Prop :=
  ∃ last decoder rest, last = converse environment (session.ahead source) turn ∧
    outcome = (.ok (), ⟨decoder, last.dialogue⟩, rest, last.sink, last.shared) ∧
    (last.dialogue.phase.isOpen = true →
      rest.contents = [] ∧ (session.ahead source).left = some decoder.buffer.toList)

variable {session : Session} {source : Source} {sink : Sink} {shared : Shared World}

theorem deliverFrom_of_closed
    (closed : session.isOpen = false)
    (fuel : Nat) (source : Source) (sink : Sink) (shared : Shared World) :
    deliverFrom environment fuel session source sink shared =
      (.ok (), session, source, sink, shared) := by
  cases fuel with
  | zero => rfl
  | succ fuel =>
      rw [deliverFrom, closed, if_pos]
      exact Bool.or_true _

theorem deliverFrom_of_spent
    (spent : source.contents = [])
    (fuel : Nat) (session : Session) (sink : Sink) (shared : Shared World) :
    deliverFrom environment fuel session source sink shared =
      (.ok (), session, source, sink, shared) := by
  cases fuel with
  | zero => rfl
  | succ fuel =>
      have none : source.left = 0 := by rw [← Source.length_contents, spent, List.length_nil]
      rw [deliverFrom, none, if_pos]
      rfl

theorem comesTo_of_closed
    (closed : session.isOpen = false)
    (fuel : Nat) :
    ComesTo environment session source ⟨session.dialogue, sink, shared⟩
      (deliverFrom environment fuel session source sink shared) := by
  rw [deliverFrom_of_closed environment closed]
  have shut : (⟨session.dialogue, sink, shared⟩ : Turn World).dialogue.phase.isOpen = false :=
    closed
  refine ⟨⟨session.dialogue, sink, shared⟩, session.decoder, source,
    (converse_of_closed environment shut _).symm, rfl, ?_⟩
  intro isOpen
  rw [shut] at isOpen
  cases isOpen

theorem comesTo_of_spent
    (spent : source.contents = [])
    (drained : session.decoder.Drained)
    (fuel : Nat) :
    ComesTo environment session source ⟨session.dialogue, sink, shared⟩
      (deliverFrom environment fuel session source sink shared) := by
  have nothing : session.ahead source = ⟨[], some session.decoder.buffer.toList⟩ := by
    rw [ahead, spent, List.append_nil]
    exact drained
  rw [deliverFrom_of_spent environment spent]
  refine ⟨⟨session.dialogue, sink, shared⟩, session.decoder, source, ?_, rfl, ?_⟩
  · rw [nothing]
    rfl
  · intro _
    rw [nothing]
    exact ⟨spent, rfl⟩

/-- A session that has come to its end in a conversation stays there. -/
theorem comesTo_of_ended
    {turn middle : Turn World} {data : Bytes} {rest : Source} {decoder : Decoder}
    (whole : session.ahead source =
      readStream session.decoder.allowEmpty (data ++ rest.contents))
    (reached : converse environment (readStream session.decoder.allowEmpty data) turn = middle)
    (closed : middle.dialogue.phase.isOpen = false) :
    ComesTo environment session source turn
      (.ok (), ⟨decoder, middle.dialogue⟩, rest, middle.sink, middle.shared) := by
  refine ⟨middle, decoder, rest, ?_, rfl, ?_⟩
  · rw [← reached] at closed
    rw [whole, converse_append_of_closed environment closed, reached]
  · intro isOpen
    rw [closed] at isOpen
    cases isOpen

/-- A conversation that is still open goes on with the rest of the delivery. -/
theorem ComesTo.before
    {environment : Environment World} {turn middle : Turn World} {data : Bytes} {rest : Source}
    {decoder : Decoder}
    {outcome : Except FramingError Unit × Session × Source × Sink × Shared World}
    (comes : ComesTo environment ⟨decoder, middle.dialogue⟩ rest middle outcome)
    (whole : session.ahead source =
      readStream session.decoder.allowEmpty (data ++ rest.contents))
    (reached : converse environment (readStream session.decoder.allowEmpty data) turn = middle)
    (waiting : (readStream session.decoder.allowEmpty data).left = some decoder.buffer.toList)
    (mode : decoder.allowEmpty = session.decoder.allowEmpty) :
    ComesTo environment session source turn outcome := by
  obtain ⟨last, final, remaining, conversed, delivered, complete⟩ := comes
  have later : Session.ahead ⟨decoder, middle.dialogue⟩ rest =
      readStream session.decoder.allowEmpty (decoder.buffer.toList ++ rest.contents) := by
    rw [ahead, mode]
  rw [later] at conversed complete
  refine ⟨last, final, remaining, ?_, delivered, ?_⟩
  · rw [conversed, whole, converse_append environment waiting, reached]
  · intro isOpen
    obtain ⟨spent, left⟩ := complete isOpen
    refine ⟨spent, ?_⟩
    rw [whole, readStream_append, Reading.andThen, waiting]
    exact left

/-- What a read adds is answered, and the rest of the delivery goes on from there. -/
theorem comesTo_of_read
    {fuel : Nat} {next : Decoder} {rest : Source} {data : Bytes}
    (willing : sink.script = [])
    (grown : next.buffer.toList = session.decoder.buffer.toList ++ data)
    (mode : next.allowEmpty = session.decoder.allowEmpty)
    (split : source.contents = data ++ rest.contents)
    (received : session.receive source = (.ok (), { session with decoder := next }, rest))
    (going : (source.left = 0 || !session.isOpen) = false)
    (onward : ∀ (decoder : Decoder) (turn : Turn World), turn.sink.script = [] →
      decoder.Drained →
        ComesTo environment ⟨decoder, turn.dialogue⟩ rest turn
          (deliverFrom environment fuel ⟨decoder, turn.dialogue⟩ rest turn.sink turn.shared)) :
    ComesTo environment session source ⟨session.dialogue, sink, shared⟩
      (deliverFrom environment (fuel + 1) session source sink shared) := by
  have read := Decoder.reading_of_append grown mode
  have whole : session.ahead source =
      readStream session.decoder.allowEmpty
        ((session.decoder.buffer.toList ++ data) ++ rest.contents) := by
    rw [ahead, split, List.append_assoc]
  have taking : (⟨session.dialogue, sink, shared⟩ : Turn World).sink.script = [] := willing
  obtain ⟨decoder, answered, still, kept⟩ := processFrom_converse environment next taking
  rw [deliverFrom, if_neg (by rw [going]; exact Bool.false_ne_true), received]
  dsimp only
  rw [process, answered]
  dsimp only
  generalize reached :
    converse environment next.reading ⟨session.dialogue, sink, shared⟩ = middle at still kept ⊢
  rw [read] at reached kept
  cases isOpen : middle.dialogue.phase.isOpen with
  | false =>
      have shut : (⟨decoder, middle.dialogue⟩ : Session).isOpen = false := isOpen
      rw [deliverFrom_of_closed environment shut]
      exact comesTo_of_ended environment whole reached isOpen
  | true =>
      obtain ⟨waiting, same⟩ := kept isOpen
      have drained : decoder.Drained := by
        rw [← read] at waiting
        exact Decoder.drained_of_left waiting same
      exact (onward decoder middle still drained).before whole reached waiting (same.trans mode)

/-- Every delivery to a client that takes every reply comes to the conversation about it. -/
theorem deliverFrom_comesTo
    {fuel : Nat} {session : Session} {source : Source} {sink : Sink} (shared : Shared World)
    (enough : source.workload ≤ fuel)
    (drained : session.isOpen = true → session.decoder.Drained)
    (unbroken : source.Unbroken)
    (willing : sink.script = []) :
    ComesTo environment session source ⟨session.dialogue, sink, shared⟩
      (deliverFrom environment fuel session source sink shared) := by
  cases isOpen : session.isOpen with
  | false => exact comesTo_of_closed environment isOpen fuel
  | true =>
      by_cases spent : source.contents = []
      · exact comesTo_of_spent environment spent (drained isOpen) fuel
      · have some : source.left ≠ 0 := by
          rw [← Source.length_contents]
          exact fun none => spent (List.length_eq_zero_iff.1 none)
        have going : (source.left = 0 || !session.isOpen) = false := by
          rw [isOpen, decide_eq_false some]
          rfl
        -- Every read takes bytes or uses up a failure, so the reads allowed are enough.
        cases fuel with
        | zero => exact absurd enough (by simp only [Source.workload]; omega)
        | succ fuel =>
            rcases Decoder.fillFrom_cases (drained isOpen).not_full unbroken with
              ⟨data, next, rest, filled, some, grown, mode, split, onward, less⟩ |
              ⟨next, _, _, ended⟩ | ⟨rest, filled, split, onward, less⟩
            · have received : session.receive source =
                  (.ok (), { session with decoder := next }, rest) := by
                cases data with
                | nil => exact absurd rfl some
                | cons byte run => rw [receive, filled]; rfl
              apply comesTo_of_read environment willing grown mode split received going
              intro decoder turn still drained
              exact deliverFrom_comesTo turn.shared (by omega) (fun _ => drained) onward still
            · exact absurd ended spent
            · have received : session.receive source = (.ok (), session, rest) := by
                rw [receive, filled]
              apply comesTo_of_read environment willing (List.append_nil _).symm rfl split
                received going
              intro decoder turn still drained
              exact deliverFrom_comesTo turn.shared (by omega) (fun _ => drained) onward still

/--
Two deliveries of one stream to a fresh session, whose client takes every reply, come to the same:
what the client took, every call of a backend with its answer, what is shared, and all of the
session but for the place that the bytes kept have in its buffer.
-/
theorem same_for_any_delivery
    (environment : Environment World) (allowEmpty : Bool)
    (first second : Source) (firstFuel secondFuel : Nat)
    (sink : Sink) (shared : Shared (Recorded World))
    (firstUnbroken : first.Unbroken)
    (secondUnbroken : second.Unbroken)
    (same : first.contents = second.contents)
    (firstEnough : first.workload ≤ firstFuel)
    (secondEnough : second.workload ≤ secondFuel)
    (willing : sink.script = []) :
    ∃ dialogue taken after firstDecoder secondDecoder firstRest secondRest,
      deliverFrom environment.recorded firstFuel (fresh allowEmpty) first sink shared =
        (.ok (), ⟨firstDecoder, dialogue⟩, firstRest, taken, after) ∧
      deliverFrom environment.recorded secondFuel (fresh allowEmpty) second sink shared =
        (.ok (), ⟨secondDecoder, dialogue⟩, secondRest, taken, after) ∧
      (dialogue.phase.isOpen = true → firstRest.contents = [] ∧ secondRest.contents = [] ∧
        firstDecoder.buffer.toList = secondDecoder.buffer.toList) := by
  have drained : (fresh allowEmpty).isOpen = true → (fresh allowEmpty).decoder.Drained :=
    fun _ => Decoder.drained_empty allowEmpty
  have ahead_eq : (fresh allowEmpty).ahead first = (fresh allowEmpty).ahead second := by
    rw [ahead, ahead, same]
  obtain ⟨last, firstDecoder, firstRest, conversed, delivered, complete⟩ :=
    deliverFrom_comesTo environment.recorded shared firstEnough drained firstUnbroken willing
  obtain ⟨other, secondDecoder, secondRest, again, redelivered, finished⟩ :=
    deliverFrom_comesTo environment.recorded shared secondEnough drained secondUnbroken willing
  rw [← ahead_eq, ← conversed] at again
  rw [again] at redelivered finished
  refine ⟨last.dialogue, last.sink, last.shared, firstDecoder, secondDecoder, firstRest,
    secondRest, delivered, redelivered, ?_⟩
  intro isOpen
  obtain ⟨spent, kept⟩ := complete isOpen
  obtain ⟨used, left⟩ := finished isOpen
  refine ⟨spent, used, Option.some_inj.1 ?_⟩
  rw [← kept, ahead_eq, left]

/-- An install sent at once and sent with cuts, a read without data and an interruption. -/
theorem same_for_any_delivery_of_an_install :
    ∃ dialogue taken after firstDecoder secondDecoder firstRest secondRest,
      deliverFrom (machineEnvironment .memory .simulated).recorded 24 (fresh false)
          [.bytes (Text.bytes "id ab\ninstall\n\\")] {}
          { world := ({ files := FileTree.empty }, []) } =
        (.ok (), ⟨firstDecoder, dialogue⟩, firstRest, taken, after) ∧
      deliverFrom (machineEnvironment .memory .simulated).recorded 24 (fresh false)
          [.bytes (Text.bytes "id"), .failure .wouldBlock, .bytes (Text.bytes " ab\nins"),
            .failure .interrupted, .bytes (Text.bytes "tall\n\\")] {}
          { world := ({ files := FileTree.empty }, []) } =
        (.ok (), ⟨secondDecoder, dialogue⟩, secondRest, taken, after) ∧
      firstDecoder.buffer.toList = secondDecoder.buffer.toList ∧
      taken.accepted = Text.bytes "done\ndone\n" ∧ after.world.2.length = 2 := by
  obtain ⟨dialogue, taken, after, firstDecoder, secondDecoder, firstRest, secondRest, delivered,
    redelivered, complete⟩ := same_for_any_delivery (machineEnvironment .memory .simulated) false
      [.bytes (Text.bytes "id ab\ninstall\n\\")]
      [.bytes (Text.bytes "id"), .failure .wouldBlock, .bytes (Text.bytes " ab\nins"),
        .failure .interrupted, .bytes (Text.bytes "tall\n\\")]
      24 24 {} { world := ({ files := FileTree.empty }, []) }
      (by decide) (by decide) (by decide) (by decide) (by decide) rfl
  have isOpen : dialogue.phase.isOpen = true := by
    have reached := congrArg (fun outcome => outcome.2.1.dialogue.phase.isOpen) delivered
    exact reached.symm.trans (by decide +kernel)
  have accepted : taken.accepted = Text.bytes "done\ndone\n" := by
    have reached := congrArg (fun outcome => outcome.2.2.2.1.accepted) delivered
    exact reached.symm.trans (by decide +kernel)
  have calls : after.world.2.length = 2 := by
    have reached := congrArg (fun outcome => outcome.2.2.2.2.world.2.length) delivered
    exact reached.symm.trans (by decide +kernel)
  exact ⟨dialogue, taken, after, firstDecoder, secondDecoder, firstRest, secondRest, delivered,
    redelivered, (complete isOpen).2.2, accepted, calls⟩

end Confinement.Session
