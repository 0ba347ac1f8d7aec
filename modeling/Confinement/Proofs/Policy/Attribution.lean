import Confinement.Proofs.Policy.Turns

/-!
# Replies and the requests they belong to

What a peer sends is cut into records wherever reads happen to end, and it may say more than it is
asked, in any order.  Still the k-th request that is sent on a connection is decided by the k-th
record of the whole stream that is no notice, through any calls, refused or not
(`replies_attributed`).  So a check says `yes` if the record that answers it does.

This lasts until the stream itself fails.  A failure ends the connection, unless it comes in an
abort: then the connection stays in use, and replies no longer belong to the requests that they are
taken for (`replies_shifted_by_failed_abort`).
-/

namespace Confinement.Policy

open Host Wire Cynagora

/-- The records of a stream that can be replies: those that are no notices. -/
def replies (stream : Bytes) : List Record :=
  (readStream false stream).records.filter fun record => !isNotice record

theorem coming_opening (peer : Peer) :
    (opening peer).coming isNotice = replies peer.source.contents := rfl

theorem opening_dispatched (peer : Peer) : (opening peer).dispatched = peer.sink.accepted :=
  List.append_nil _

/-- The word of a reply to a check. -/
def answerWord (answer : Bool) : String := if answer then "yes" else "no"

/-- A check is answered by a reply with the word of the answer, and by nothing else. -/
theorem judged_eq_ok_iff
    {outcome : Except BackendError (List String)} {answer : Bool} :
    judged outcome = .ok answer ↔
      ∃ reply, outcome = .ok reply ∧ reply.head? = some (answerWord answer) := by
  constructor
  · intro judgement
    cases outcome with
    | error error => cases judgement
    | ok reply =>
        refine ⟨reply, rfl, ?_⟩
        rw [judged] at judgement
        split at judgement
        · rename_i yes
          cases judgement
          exact yes
        · rename_i no
          cases judgement
          exact no
        · cases judgement
  · rintro ⟨reply, rfl, word⟩
    rw [judged, word]
    cases answer with
    | true => rfl
    | false => rfl

/-- What a check comes to: the greeting is refused, or the check itself is asked last of all. -/
theorem check_after
    {history : History}
    (whole : history.Whole)
    (label permission : String) :
    let call := StoreCall.check label permission
    (∃ greet error, (history.after call).made = [greet] ∧ greet.fields = greeting ∧
      (call.on remote history.agent).1 = .error error) ∨
    ∃ earlier outcome,
      (history.after call).made =
        earlier ++ [⟨checkRequest history.agent.nextCheck label permission, outcome⟩] ∧
      (call.on remote history.agent).1 = (judged outcome).map some := by
  intro call
  have turned := (StoreCall.concluded_on_remote whole.reaches call).turned
  dsimp only [History.after]
  rw [History.earlier, StoreCall.asked]
  generalize history.agent.current = before at turned
  generalize (call.on remote history.agent).2.current = after at turned
  generalize (history.agent.whole (call.plan history.agent.nextCheck)).asked
    history.agent.line = asked at turned
  generalize (call.on remote history.agent).1 = result at turned
  cases turned with
  | rebuffed greet error fields => exact .inl ⟨greet, error, rfl, fields, rfl⟩
  | opened greet line => exact .inr ⟨[greet], _, rfl, rfl⟩
  | resumed line => exact .inr ⟨history.made, _, rfl, rfl⟩

theorem checkRequest_ne_greeting (serial : UInt64) (label permission : String) :
    checkRequest serial label permission ≠ greeting := by
  intro same
  exact absurd (List.cons.inj same).1 (by decide)

/-- The last request that was sent is decided by the record at its place. -/
theorem History.Whole.decided_last
    {history : History} {earlier : List Asked} {asked : Asked}
    (whole : history.Whole)
    (calm : ∀ asked ∈ history.made, ¬asked.BreaksDown)
    (made : history.made = earlier ++ [asked])
    (sent : asked.isSent = true) :
    asked.DecidedBy
      (replies history.peer.source.contents)[(earlier.filter Asked.isSent).length]? := by
  have paired := whole.conversed.paired
  rw [made, List.filter_append, List.filter_cons_of_pos sent, coming_opening] at paired
  have found : (earlier.filter Asked.isSent ++ [asked])[(earlier.filter Asked.isSent).length]? =
      some asked := List.getElem?_concat_length
  rw [made] at calm
  have before : ∀ other ∈ (earlier.filter Asked.isSent ++ [asked]).take
      (earlier.filter Asked.isSent).length, ¬other.BreaksDown := by
    rw [List.take_left]
    exact fun other member => calm other (List.mem_append_left _ (List.mem_filter.1 member).1)
  rcases paired _ asked found before with broken | decided
  · exact absurd broken (calm asked (List.mem_append_right _ (List.mem_singleton_self _)))
  · exact decided

/-- What a check comes to is the first word of the reply that was read for it. -/
theorem check_eq_ok_iff
    {history : History}
    (whole : history.Whole)
    (label permission : String) (answer : Bool) :
    ((StoreCall.check label permission).on remote history.agent).1 = .ok (some answer) ↔
      ∃ earlier reply, (history.after (.check label permission)).made =
          earlier ++ [⟨checkRequest history.agent.nextCheck label permission, .ok reply⟩] ∧
        reply.head? = some (answerWord answer) := by
  rcases check_after whole label permission with
    ⟨greet, error, made, greets, result⟩ | ⟨earlier, outcome, made, result⟩
  · rw [result]
    refine iff_of_false nofun ?_
    rintro ⟨earlier, reply, other, _⟩
    have same : [] ++ [greet] = earlier ++ [_] := made.symm.trans other
    obtain ⟨_, last⟩ := List.append_inj' same rfl
    obtain rfl := List.singleton_inj.1 last
    exact checkRequest_ne_greeting _ _ _ greets
  · rw [result]
    constructor
    · intro answered
      cases judgement : judged outcome with
      | error error =>
          rw [judgement] at answered
          cases answered
      | ok given =>
          rw [judgement] at answered
          cases answered
          obtain ⟨reply, rfl, word⟩ := judged_eq_ok_iff.1 judgement
          exact ⟨earlier, reply, made, word⟩
    · rintro ⟨before, reply, other, word⟩
      obtain ⟨_, last⟩ := List.append_inj' (made.symm.trans other) rfl
      obtain rfl := (Asked.mk.inj (List.singleton_inj.1 last)).2
      rw [judged_eq_ok_iff.2 ⟨reply, rfl, word⟩]
      rfl

/-- A check has the answer of the record that decides it. -/
theorem check_answers
    {history : History} {label permission : String}
    (whole : history.Whole)
    (calm : ∀ asked ∈ (history.after (.check label permission)).made, ¬asked.BreaksDown)
    (answer : Bool) :
    let later := history.after (.check label permission)
    ((StoreCall.check label permission).on remote history.agent).1 = .ok (some answer) ↔
      ∃ earlier asked record, later.made = earlier ++ [asked] ∧
        asked.fields = checkRequest history.agent.nextCheck label permission ∧
        asked.isSent = true ∧
        (replies later.peer.source.contents)[(earlier.filter Asked.isSent).length]? =
          some record ∧
        record.lossyTexts.head? = some (answerWord answer) := by
  intro later
  have onward : later.Whole := whole.after (.check label permission)
  rw [check_eq_ok_iff whole]
  constructor
  · rintro ⟨earlier, reply, made, word⟩
    have decided := onward.decided_last calm made rfl
    cases found : (replies later.peer.source.contents)[(earlier.filter Asked.isSent).length]? with
    | none =>
        rw [found] at decided
        rcases decided with impossible | impossible
        · cases impossible
        · cases impossible
    | some record =>
        rw [found] at decided
        have same : reply = record.lossyTexts := Except.ok.inj decided
        exact ⟨earlier, _, record, made, rfl, rfl, found, same ▸ word⟩
  · rintro ⟨earlier, ⟨fields, outcome⟩, record, made, rfl, sent, found, word⟩
    have decided := onward.decided_last calm made sent
    rw [found] at decided
    obtain rfl : outcome = .ok record.lossyTexts := decided
    exact ⟨earlier, _, made, word⟩

/--
The k-th request that was sent on the latest connection, after any calls, is decided by the k-th
record of its stream that is no notice, up to the first request on which the stream failed.  If no
peer makes it fail, all requests that fit were sent, and nothing but them.  A check has the answer
that the record has that decides it.
-/
theorem replies_attributed (endpoint : String) (peers : List Peer) (calls : List StoreCall) :
    let history := (History.fresh endpoint peers).afterAll calls
    let sent := history.made.filter Asked.isSent
    (∀ asked ∈ history.made.head?, asked.fields = greeting) ∧
    (∀ index asked, sent[index]? = some asked →
      (∀ earlier ∈ sent.take index, ¬earlier.BreaksDown) →
      asked.BreaksDown ∨
        asked.DecidedBy (replies history.peer.source.contents)[index]?) ∧
    history.taken <+: history.peer.sink.accepted ++ history.made.flatMap Asked.wire ∧
    ((∀ peer ∈ peers, peer.source.Steady ∧ peer.sink.Willing) →
      history.taken = history.peer.sink.accepted ++ history.made.flatMap Asked.wire ∧
      ∀ asked ∈ history.made, (asked.isSent = true ↔ Fits asked.fields) ∧ ¬asked.BreaksDown) ∧
    ∀ label permission answer,
      let later := history.after (.check label permission)
      (∀ asked ∈ later.made, ¬asked.BreaksDown) →
      (((StoreCall.check label permission).on remote history.agent).1 = .ok (some answer) ↔
        ∃ earlier asked record, later.made = earlier ++ [asked] ∧
          asked.fields = checkRequest history.agent.nextCheck label permission ∧
          asked.isSent = true ∧
          (replies later.peer.source.contents)[(earlier.filter Asked.isSent).length]? =
            some record ∧
          record.lossyTexts.head? = some (answerWord answer)) := by
  intro history sent
  have whole : history.Whole := (History.whole_fresh endpoint peers).afterAll calls
  refine ⟨whole.first, whole.conversed.paired, ?_, ?_, ?_⟩
  · rw [whole.taken, ← opening_dispatched, ← whole.conversed.dispatched]
    exact List.prefix_append _ _
  · intro obliging
    have calm : history.Calm := (History.calm_fresh obliging endpoint).afterAll calls
    refine ⟨?_, calm.made⟩
    have dispatched := whole.conversed.dispatched
    rw [Connection.dispatched, calm.clear.quiet, List.append_nil, opening_dispatched] at dispatched
    rw [whole.taken, dispatched]
  · intro label permission answer later calm
    exact check_answers whole calm answer

/-- Records as a peer sends them. -/
def spoken (replies : List (List String)) : Bytes :=
  (replies.map Record.ofTexts).flatMap Record.wire

/--
A service that refuses a change, and whose reply to the abort comes only after one read for it has
failed.  It permits the first check and refuses the second.
-/
def hesitating : Peer :=
  ⟨[.bytes (spoken [["done"], ["done"], ["nak"]]), .failure (.os .outOfMemory),
    .bytes (spoken [["done"], ["yes", "0"], ["no", "1"]])], {}⟩

/-- A service that refuses a change, and whose reply to the abort has too many fields. -/
def rambling : Peer :=
  ⟨.ofBytes (spoken [["done"], ["done"], ["nak"], List.replicate (fieldLimit + 1) "a", ["yes", "0"],
    ["yes", "0"]]), {}⟩

/--
A failure of the stream in an abort goes unnoticed, and the connection stays in use.  A check is
then answered by the reply to another one, or fails although the reply to it says `yes`.
-/
theorem replies_shifted_by_failed_abort :
    let change : StoreCall := .add "a" (TextSet.ofList ["p"]) false
    (¬∀ (peers : List Peer) (calls : List StoreCall) (label permission : String) (answer : Bool),
      let history := (History.fresh "/run/cynagora" peers).afterAll calls
      let later := history.after (.check label permission)
      ((StoreCall.check label permission).on remote history.agent).1 = .ok (some answer) →
        ∃ earlier asked record, later.made = earlier ++ [asked] ∧
          asked.fields = checkRequest history.agent.nextCheck label permission ∧
          (replies later.peer.source.contents)[(earlier.filter Asked.isSent).length]? =
            some record ∧
          record.lossyTexts.head? = some (answerWord answer)) ∧
      let history := (History.fresh "/run/cynagora" [rambling]).after change
      history.made.map Asked.isSent = [true, true, true, true] ∧
        ((StoreCall.check "a" "p").on remote history.agent).1 =
          .error (.framing .messageTooBig) := by
  intro change
  refine ⟨fun always => ?_, by decide +kernel⟩
  obtain ⟨earlier, asked, record, made, _, found, word⟩ :=
    always [hesitating] [change, .check "a" "p"] "a" "q" true (by decide +kernel)
  let before : List Asked := [⟨greeting, .ok ["done"]⟩, ⟨["enter"], .ok ["done"]⟩,
    ⟨setRequest "a" "p", .ok ["nak"]⟩,
    ⟨["leave", "abort"], .error (.framing (.stream (.os .outOfMemory)))⟩,
    ⟨checkRequest 0 "a" "p", .ok ["done"]⟩]
  let later := ((History.fresh "/run/cynagora" [hesitating]).afterAll
    [change, .check "a" "p"]).after (.check "a" "q")
  have asks : later.made = before ++ [⟨checkRequest 1 "a" "q", .ok ["yes", "0"]⟩] := by
    decide +kernel
  obtain ⟨rfl, _⟩ := List.append_inj' (made.symm.trans asks) rfl
  have own : ((replies later.peer.source.contents)[(before.filter Asked.isSent).length]?).map
      Record.lossyTexts = some ["no", "1"] := by decide +kernel
  rw [found] at own
  rw [Option.some.inj own] at word
  exact absurd word (by decide)

/-- The answer to a check, among notices and after a change that was refused. -/
example :
    let replies := [["clear"], ["done"], ["done"], ["nak"], ["clear", "x"], ["done"], ["no"]]
    let peer : Peer := ⟨.ofBytes ((replies.map Record.ofTexts).flatMap Record.wire), {}⟩
    let history := (History.fresh "/run/cynagora" [peer]).afterAll [.drop "a"]
    ((StoreCall.check "a" "p").on remote history.agent).1 = .ok (some false) := by
  decide +kernel

end Confinement.Policy
