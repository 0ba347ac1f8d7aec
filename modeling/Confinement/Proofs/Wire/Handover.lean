import Confinement.Proofs.Wire.Sealing

/-!
# Handing over what is sealed

A sink is willing when it takes every write, if only in parts and after interruptions; it is
lossless when at worst it puts a write off.  A flush leaves nothing sealed, or it is put off and has
used up a part of the script, or it fails at a write that is not lossless (`flush_outcomes`); one to
a willing sink leaves nothing sealed.
-/

namespace Confinement.Host

/-- Whether a write takes something, or is interrupted and can be repeated at once. -/
def WriteOutcome.Willing : WriteOutcome → Prop
  | .accept count => count ≠ 0
  | .failure cause => cause = .interrupted

instance (outcome : WriteOutcome) : Decidable outcome.Willing :=
  match outcome with
  | .accept count => inferInstanceAs (Decidable (count ≠ 0))
  | .failure cause => inferInstanceAs (Decidable (cause = .interrupted))

/-- Whether nothing is lost by a write. -/
def WriteOutcome.Lossless (outcome : WriteOutcome) : Prop :=
  outcome.Willing ∨ outcome = .failure .wouldBlock

instance (outcome : WriteOutcome) : Decidable outcome.Lossless :=
  inferInstanceAs (Decidable (_ ∨ _))

/-- Whether a sink takes everything. -/
def Sink.Willing (sink : Sink) : Prop := ∀ outcome ∈ sink.script, outcome.Willing

/-- Whether a sink takes everything in the end. -/
def Sink.Lossless (sink : Sink) : Prop := ∀ outcome ∈ sink.script, outcome.Lossless

end Confinement.Host

namespace Confinement.Wire.Encoder

open Host

/-- As long as something is sealed, a write is offered something. -/
theorem offered_ne_nil
    {encoder : Encoder}
    (busy : ¬encoder.isFlushed = true) :
    encoder.offered ≠ [] := by
  have some : encoder.sealedBytes ≠ [] := fun nothing => busy ((isFlushed_iff encoder).2 nothing)
  have room : 0 < bufferLimit - encoder.buffer.head := by
    rcases encoder.buffer.head_lt with inside | first
    · exact Nat.sub_pos_of_lt inside
    · rw [first]
      exact Nat.succ_pos _
  rw [offered_eq_take]
  intro nothing
  rcases List.take_eq_nil_iff.1 nothing with zero | empty
  · omega
  · exact some empty

/--
What a flush can have come to under a script: nothing is left sealed, the flush is put off, or it
has failed because of a write in which something is lost.
-/
def Flushed.Possible (script : List WriteOutcome) (flushed : Flushed) : Prop :=
  flushed.script <:+ script ∧
    ((∃ count, flushed.result = .ok count ∧ flushed.encoder.sealedBytes = []) ∨
      (flushed.result = .error .wouldBlock ∧ .failure .wouldBlock ∈ script ∧
        flushed.script.length < script.length) ∨
      ((∃ cause, flushed.result = .error (.stream cause)) ∧ ∃ outcome ∈ script, ¬outcome.Lossless))

/-- A flush goes on after a write that was taken or interrupted. -/
theorem Flushed.Possible.cons
    {script : List WriteOutcome} {flushed : Flushed}
    (possible : flushed.Possible script)
    (outcome : WriteOutcome) :
    flushed.Possible (outcome :: script) := by
  obtain ⟨suffix, done | ⟨blocked, member, shorter⟩ | ⟨failed, other, member, lossy⟩⟩ := possible
  · exact ⟨suffix.trans (List.suffix_cons _ _), .inl done⟩
  · exact ⟨suffix.trans (List.suffix_cons _ _),
      .inr (.inl ⟨blocked, List.mem_cons_of_mem _ member, Nat.lt_succ_of_lt shorter⟩)⟩
  · exact ⟨suffix.trans (List.suffix_cons _ _),
      .inr (.inr ⟨failed, other, List.mem_cons_of_mem _ member, lossy⟩)⟩

theorem possible_flushFrom (encoder : Encoder) (written : Bytes) (script : List WriteOutcome) :
    (encoder.flushFrom written script).Possible script := by
  fun_induction flushFrom encoder written script with
  | case1 encoder written flushed =>
      exact ⟨List.suffix_rfl, .inl ⟨_, rfl, (isFlushed_iff encoder).1 flushed⟩⟩
  | case2 encoder written busy =>
      exact ⟨List.suffix_rfl, .inl ⟨_, rfl, sealedBytes_consume_pending encoder⟩⟩
  | case3 encoder written outcome rest flushed =>
      exact ⟨List.suffix_rfl, .inl ⟨_, rfl, (isFlushed_iff encoder).1 flushed⟩⟩
  | case4 encoder written rest busy count taken nothing =>
      -- A lossless write that is offered something takes something.
      refine ⟨List.suffix_cons _ _, .inr (.inr ⟨⟨_, rfl⟩, _, List.mem_cons_self, ?_⟩)⟩
      rintro (positive | blocked)
      · rcases List.take_eq_nil_iff.1 (List.isEmpty_iff.1 nothing) with zero | empty
        · exact positive zero
        · exact offered_ne_nil busy empty
      · cases blocked
  | case5 encoder written rest busy count taken some hypothesis => exact hypothesis.cons _
  | case6 encoder written rest busy hypothesis => exact hypothesis.cons _
  | case7 encoder written rest busy =>
      exact ⟨List.suffix_cons _ _,
        .inr (.inl ⟨rfl, List.mem_cons_self, Nat.lt_succ_self _⟩)⟩
  | case8 encoder written rest cause busy notInterrupted notBlocked =>
      refine ⟨List.suffix_cons _ _, .inr (.inr ⟨⟨_, rfl⟩, _, List.mem_cons_self, ?_⟩)⟩
      rintro (willing | blocked)
      · exact notInterrupted willing
      · cases blocked
        exact notBlocked rfl

/--
What a flush can do, whatever the sink is like.  It hands over a first part of what is sealed, and
that is all of it unless it is put off or fails.
-/
theorem flush_outcomes (encoder : Encoder) (sink : Sink) :
    ∃ result next after part, encoder.flush sink = (result, next, after) ∧
      after.script <:+ sink.script ∧
      after.accepted = sink.accepted ++ part ∧ part ++ next.sealedBytes = encoder.sealedBytes ∧
      ((∃ count, result = .ok count) ∧ next.sealedBytes = [] ∨
        (result = .error .wouldBlock ∧ .failure .wouldBlock ∈ sink.script ∧
          after.script.length < sink.script.length) ∨
        (∃ cause, result = .error (.stream cause)) ∧
          ∃ outcome ∈ sink.script, ¬outcome.Lossless) := by
  obtain ⟨suffix, outcome⟩ := encoder.possible_flushFrom [] sink.script
  refine ⟨_, _, _, _, rfl, suffix, rfl, written_flushFrom encoder [] sink.script, ?_⟩
  rcases outcome with ⟨count, done, nothing⟩ | blocked | failed
  · exact .inl ⟨⟨count, done⟩, nothing⟩
  · exact .inr (.inl blocked)
  · exact .inr (.inr failed)

/-- A willing sink takes every sealed byte. -/
theorem flush_of_willing
    (encoder : Encoder) {sink : Sink}
    (willing : sink.Willing) :
    ∃ count next after, encoder.flush sink = (.ok count, next, after) ∧ after.Willing ∧
      next.sealedBytes = [] ∧ after.accepted = sink.accepted ++ encoder.sealedBytes := by
  obtain ⟨_, next, after, part, flushed, suffix, taken, split,
    ⟨⟨count, rfl⟩, nothing⟩ | ⟨_, member, _⟩ | ⟨_, outcome, member, lossy⟩⟩ :=
    encoder.flush_outcomes sink
  · rw [nothing, List.append_nil] at split
    refine ⟨count, next, after, flushed, ?_, nothing, split ▸ taken⟩
    intro other member
    exact willing other (suffix.subset member)
  · have blocked := willing _ member
    cases blocked
  · exact absurd (.inl (willing outcome member)) lossy

end Confinement.Wire.Encoder
