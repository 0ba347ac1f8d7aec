import Confinement.Proofs.Policy.Attribution

/-!
# Serial numbers of checks

Each check is sent with a serial number of its own: the number of checks made before it, whether
they reached the service or not (`nextCheck_afterAll`).  A service repeats the number in its
verdict.  Of a reply only the first word is looked at, though, so a check is answered by whatever
verdict stands at its place in the stream, and by its own verdict wherever the service says its
verdicts in step with the requests (`check_told_by_word`).  A verdict that is out of step is taken
as well (`stale_verdict_taken`).
-/

namespace Confinement.Policy

open Host Wire Cynagora

variable {Result : Type}

/-! ## Counting -/

namespace Cynagora

theorem nextCheck_acquire (agent : Agent) : (acquire agent).2.nextCheck = agent.nextCheck := by
  rw [acquire]
  split
  · rfl
  · rw [connect]
    split
    · rfl
    · dsimp only
      generalize greet _ = greeted
      obtain ⟨error | done, connection⟩ := greeted
      · rfl
      · rfl

/-- Work on a connection counts no check. -/
theorem nextCheck_withConnection (work : Call Connection Result) (agent : Agent) :
    (withConnection work agent).2.nextCheck = agent.nextCheck := by
  have kept := nextCheck_acquire agent
  rw [withConnection]
  generalize acquire agent = acquired at kept
  obtain ⟨error | connection, next⟩ := acquired
  · exact kept
  · dsimp only
    generalize work connection = ended
    obtain ⟨result, last⟩ := ended
    exact (settle_spec next last result).2.2.1.trans kept

end Cynagora

namespace StoreCall

def isCheck : StoreCall → Bool
  | check _ _ => true
  | add _ _ _ | drop _ => false

theorem nextCheck_counted (call : StoreCall) (agent : Agent) :
    (call.counted agent).nextCheck = agent.nextCheck + if call.isCheck then 1 else 0 := by
  cases call with
  | check label permission => rfl
  | add | drop => exact (UInt64.add_zero _).symm

end StoreCall

/-- The next serial number is the number of checks made so far. -/
theorem History.nextCheck_afterAll (endpoint : String) (peers : List Peer)
    (calls : List StoreCall) :
    ((History.fresh endpoint peers).afterAll calls).agent.nextCheck =
      UInt64.ofNat (calls.countP StoreCall.isCheck) := by
  have onward (calls : List StoreCall) (history : History) :
      (history.afterAll calls).agent.nextCheck =
        history.agent.nextCheck + UInt64.ofNat (calls.countP StoreCall.isCheck) := by
    induction calls generalizing history with
    | nil => exact (UInt64.add_zero _).symm
    | cons call rest hypothesis =>
        have counted : (history.after call).agent.nextCheck =
            history.agent.nextCheck + if call.isCheck then 1 else 0 := by
          rw [History.after, StoreCall.on_remote, nextCheck_withConnection,
            StoreCall.nextCheck_counted]
        rw [afterAll, List.foldl_cons, ← afterAll, hypothesis, counted, List.countP_cons,
          UInt64.ofNat_add, UInt64.add_assoc, UInt64.add_comm (UInt64.ofNat _)]
        split
        · rfl
        · rfl
  rw [onward]
  exact UInt64.zero_add _

/-! ## Verdicts -/

/-- The beginning of the verdict on the check with a serial number. -/
def verdictOn (serial : UInt64) (answer : Bool) : List String :=
  [answerWord answer, toString serial.toNat]

theorem toString_nat_injective {first second : Nat} (same : toString first = toString second) :
    first = second := by
  rw [Nat.toString_eq_ofList_toDigits, Nat.toString_eq_ofList_toDigits] at same
  have digits : Nat.toDigits 10 first = Nat.toDigits 10 second := String.ofList_injective same
  calc
    first = Nat.ofDigitChars 10 (Nat.toDigits 10 first) 0 := Nat.ofDigitChars_ten_toDigits.symm
    _ = Nat.ofDigitChars 10 (Nat.toDigits 10 second) 0 := by rw [digits]
    _ = second := Nat.ofDigitChars_ten_toDigits

theorem serial_eq_of_checkRequest
    {serial other : UInt64} {label permission label' permission' : String}
    (same : checkRequest serial label permission = checkRequest other label' permission') :
    serial = other :=
  UInt64.toNat_inj.1 (toString_nat_injective (List.cons.inj (List.cons.inj same).2).1)

/-- A reply is the verdict on one check at most. -/
theorem serial_eq_of_verdictOn
    {serial other : UInt64} {answer given : Bool} {reply : List String}
    (own : verdictOn serial answer <+: reply)
    (found : verdictOn other given <+: reply) :
    other = serial := by
  have same := (List.prefix_of_prefix_length_le found own (Nat.le_refl 2)).eq_of_length rfl
  have numbers := (List.cons.inj (List.cons.inj same).2).1
  exact UInt64.toNat_inj.1 (toString_nat_injective numbers)

/--
Whether every verdict among some records, at the place of a check among the requests that were sent,
is the verdict on that check.
-/
def InStep (replies : List Record) (sent : List Asked) : Prop :=
  ∀ (index : Nat) (asked : Asked) (record : Record) (serial : UInt64)
      (label permission : String) (answer : Bool),
    sent[index]? = some asked →
    asked.fields = checkRequest serial label permission →
    replies[index]? = some record →
    record.lossyTexts.head? = some (answerWord answer) →
    verdictOn serial answer <+: record.lossyTexts

/--
A check is sent with the number of the checks before it, and its answer is the first word of the
reply that was read for it.  This is the verdict on this very check, and on no other, if the stream
did not fail and the verdicts in it are in step with the requests.
-/
theorem check_told_by_word (endpoint : String) (peers : List Peer) (calls : List StoreCall)
    (label permission : String) (answer : Bool) :
    let history := (History.fresh endpoint peers).afterAll calls
    let serial := UInt64.ofNat (calls.countP StoreCall.isCheck)
    let later := history.after (.check label permission)
    let result := ((StoreCall.check label permission).on remote history.agent).1
    (result = .ok (some answer) ↔
      ∃ earlier reply,
        later.made = earlier ++ [⟨checkRequest serial label permission, .ok reply⟩] ∧
        reply.head? = some (answerWord answer)) ∧
    ((∀ asked ∈ later.made, ¬asked.BreaksDown) →
      InStep (replies later.peer.source.contents) (later.made.filter Asked.isSent) →
      result = .ok (some answer) →
      ∃ earlier reply,
        later.made = earlier ++ [⟨checkRequest serial label permission, .ok reply⟩] ∧
        verdictOn serial answer <+: reply ∧
        ∀ other given, verdictOn other given <+: reply → other = serial) := by
  intro history serial later result
  have whole : history.Whole := (History.whole_fresh endpoint peers).afterAll calls
  have counted : history.agent.nextCheck = serial := History.nextCheck_afterAll endpoint peers calls
  have told := check_eq_ok_iff whole label permission answer
  rw [counted] at told
  refine ⟨told, fun calm inStep answered => ?_⟩
  obtain ⟨earlier, reply, made, word⟩ := told.1 answered
  obtain ⟨before, asked, record, other, _, sent, found, _⟩ :=
    (check_answers whole calm answer).1 answered
  obtain ⟨rfl, last⟩ := List.append_inj' (made.symm.trans other) rfl
  obtain rfl := List.singleton_inj.1 last
  have place : (later.made.filter Asked.isSent)[(earlier.filter Asked.isSent).length]? =
      some ⟨checkRequest serial label permission, .ok reply⟩ := by
    rw [made, List.filter_append, List.filter_cons_of_pos rfl, List.filter_nil]
    exact List.getElem?_concat_length
  have decided := (whole.after (.check label permission)).decided_last calm made rfl
  rw [found] at decided
  obtain rfl : reply = record.lossyTexts := Except.ok.inj decided
  have own := inStep _ _ _ _ _ _ _ place rfl found word
  exact ⟨earlier, _, made, own, fun other given => serial_eq_of_verdictOn own⟩

/-- A service that says the verdicts on two checks in turn. -/
def orderly : Peer :=
  ⟨.ofBytes (([["done", "1"], ["no", "0"], ["yes", "1"]].map Record.ofTexts).flatMap Record.wire),
    {}⟩

/-- The second check of an orderly service, with its own verdict. -/
theorem check_told_by_word_of_second_verdict :
    let history := (History.fresh "/run/cynagora" [orderly]).afterAll [.check "a" "p"]
    ((StoreCall.check "a" "q").on remote history.agent).1 = .ok (some true) ∧
      ∃ earlier reply, (history.after (.check "a" "q")).made =
          earlier ++ [⟨checkRequest 1 "a" "q", .ok reply⟩] ∧
        verdictOn 1 true <+: reply ∧
        ∀ other given, verdictOn other given <+: reply → other = 1 := by
  intro history
  have answered : ((StoreCall.check "a" "q").on remote history.agent).1 = .ok (some true) := by
    decide +kernel
  have made : (history.after (.check "a" "q")).made =
      [⟨greeting, .ok ["done", "1"]⟩, ⟨checkRequest 0 "a" "p", .ok ["no", "0"]⟩,
        ⟨checkRequest 1 "a" "q", .ok ["yes", "1"]⟩] := by decide +kernel
  have said : (replies (history.after (.check "a" "q")).peer.source.contents).map
      Record.lossyTexts = [["done", "1"], ["no", "0"], ["yes", "1"]] := by decide +kernel
  refine ⟨answered, (check_told_by_word "/run/cynagora" [orderly] [.check "a" "p"] "a" "q"
    true).2 ?_ ?_ answered⟩
  · rw [made]
    rintro asked member ⟨error, _, failed⟩
    have none : ∀ asked ∈ [(⟨greeting, .ok ["done", "1"]⟩ : Asked),
        ⟨checkRequest 0 "a" "p", .ok ["no", "0"]⟩, ⟨checkRequest 1 "a" "q", .ok ["yes", "1"]⟩],
        asked.outcome.toBool = true := by decide
    have fine := none asked member
    rw [failed] at fine
    cases fine
  · rw [made]
    intro index asked record serial label permission answer place fields found word
    have texts : [["done", "1"], ["no", "0"], ["yes", "1"]][index]? = some record.lossyTexts := by
      rw [← said, List.getElem?_map, found]
      rfl
    match index with
    | 0 =>
        obtain rfl := Option.some.inj place
        exact absurd fields.symm (checkRequest_ne_greeting _ _ _)
    | 1 =>
        obtain rfl := Option.some.inj place
        obtain rfl := serial_eq_of_checkRequest fields
        rw [← Option.some.inj texts] at word ⊢
        cases answer with
        | true => exact absurd word (by decide)
        | false => exact List.prefix_rfl
    | 2 =>
        obtain rfl := Option.some.inj place
        obtain rfl := serial_eq_of_checkRequest fields
        rw [← Option.some.inj texts] at word ⊢
        cases answer with
        | true => exact List.prefix_rfl
        | false => exact absurd word (by decide)

/-- A service that says the verdict on the first check twice. -/
def repeating : Peer :=
  ⟨.ofBytes (([["done", "1"], ["no", "0"], ["yes", "0"]].map Record.ofTexts).flatMap Record.wire),
    {}⟩

/-- A check is also answered by a verdict on another check. -/
theorem stale_verdict_taken :
    ¬∀ (peers : List Peer) (calls : List StoreCall) (label permission : String) (answer : Bool),
      let history := (History.fresh "/run/cynagora" peers).afterAll calls
      let serial := UInt64.ofNat (calls.countP StoreCall.isCheck)
      ((StoreCall.check label permission).on remote history.agent).1 = .ok (some answer) →
      ∃ earlier reply, (history.after (.check label permission)).made =
          earlier ++ [⟨checkRequest serial label permission, .ok reply⟩] ∧
        verdictOn serial answer <+: reply := by
  intro always
  have granted := always [repeating] [.check "a" "p"] "a" "q" true
  obtain ⟨earlier, reply, made, own⟩ := granted (by decide +kernel)
  have asked : (((History.fresh "/run/cynagora" [repeating]).afterAll [.check "a" "p"]).after
      (.check "a" "q")).made =
      [⟨greeting, .ok ["done", "1"]⟩, ⟨checkRequest 0 "a" "p", .ok ["no", "0"]⟩] ++
        [⟨checkRequest 1 "a" "q", .ok ["yes", "0"]⟩] := by decide +kernel
  obtain ⟨_, last⟩ := List.append_inj' (made.symm.trans asked) rfl
  have stale : reply = ["yes", "0"] :=
    Except.ok.inj (Asked.mk.inj (List.singleton_inj.1 last)).2
  rw [stale] at own
  exact absurd own (by decide +kernel)

end Confinement.Policy
