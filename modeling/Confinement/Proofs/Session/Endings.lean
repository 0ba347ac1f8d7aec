import Confinement.Proofs.Session.Responses

/-!
# How answers end

Every record of an answer fits, whatever is asked of an open session.  The answer is a refusal as
malformed input exactly when it leaves the session closed, and a record is never refused for its
size (`regular_respond`): a session that has read a record has had room for it.
-/

namespace Confinement

open Host Policy Staging Wire

variable {World : Type}

theorem Wire.Refusal.token_injective
    {refusal other : Refusal}
    (same : refusal.token = other.token) :
    refusal = other := by
  have found := congrArg Refusal.ofToken? same
  rw [Refusal.ofToken?_token, Refusal.ofToken?_token] at found
  exact Option.some.inj found

theorem Staging.StagingError.refusal_ne_messageTooBig (error : StagingError) :
    error.refusal ≠ .messageTooBig := by
  cases error <;> simp [StagingError.refusal]

theorem Policy.TransactionError.refusal_ne_messageTooBig (error : TransactionError) :
    error.refusal ≠ .messageTooBig := by
  cases error <;> simp [TransactionError.refusal, BackendError.refusal]

/-- What holds of the response of an open session to any record. -/
structure Response.Regular (response : Response World) : Prop where
  rows : ∀ row ∈ response.answer.rows, Fits ("string" :: row)
  ending : Fits response.answer.status.fields
  notTooBig : response.answer.status ≠ .refused Refusal.messageTooBig.token
  closed_iff : response.stance.phase.isOpen = false ↔
    response.answer.status = .refused Refusal.protocol.token

namespace Stance

variable {stance : Stance World}

theorem regular_done
    {fields : List String}
    (isOpen : stance.phase.isOpen = true)
    (fits : Fits ("done" :: fields)) :
    (stance.done fields).Regular where
  rows := fun _ member => by cases member
  ending := fits
  notTooBig := Status.noConfusion
  closed_iff := iff_of_false (by rw [done, isOpen]; exact Bool.noConfusion) Status.noConfusion

/-- A refusal ends the session when it is about malformed input, and only then. -/
theorem regular_refused
    {refusal : Refusal}
    (isOpen : stance.phase.isOpen = true)
    (bounded : refusal ≠ .messageTooBig) :
    (stance.refused refusal).Regular where
  rows := fun _ member => by cases member
  ending := Reply.fits_refusal refusal
  notTooBig := fun same => bounded (Refusal.token_injective (Status.refused.inj same))
  closed_iff := by
    have told : (stance.refused refusal).answer.status = .refused Refusal.protocol.token ↔
        refusal = .protocol := by
      constructor
      · intro same
        exact Refusal.token_injective (Status.refused.inj same)
      · rintro rfl
        rfl
    rw [told]
    cases refusal with
    | «protocol» => exact iff_of_true rfl rfl
    | _ =>
        exact iff_of_false (fun closed => Bool.noConfusion (isOpen.symm.trans closed)) (by decide)

/-- The rows that are shown fit, up to an ending that is no refusal of the request. -/
theorem regular_shown
    (isOpen : stance.phase.isOpen = true)
    (rows : List (List String)) :
    (⟨shown rows, stance⟩ : Response World).Regular := by
  have going : ¬stance.phase.isOpen = false := by
    rw [isOpen]
    exact Bool.noConfusion
  have fit : ∀ row ∈ (shown rows).rows, Fits ("string" :: row) := by
    intro row member
    exact of_decide_eq_true (List.all_eq_true.1 List.all_takeWhile row member)
  by_cases whole : ∀ row ∈ rows, Fits ("string" :: row)
  · have ended : (shown rows).status = .done [] := if_pos whole
    refine ⟨fit, ?_, ?_, iff_of_false going ?_⟩
    · rw [ended]
      exact Reply.fits_done
    · rw [ended]
      exact Status.noConfusion
    · rw [ended]
      exact Status.noConfusion
  · have ended : (shown rows).status = .refused Refusal.bufferFull.token := if_neg whole
    refine ⟨fit, ?_, ?_, iff_of_false going ?_⟩
    · rw [ended]
      exact Reply.fits_refusal .bufferFull
    · rw [ended]
      decide
    · rw [ended]
      decide

theorem regular_negotiated
    (isOpen : stance.phase.isOpen = true)
    (offer : List String) :
    (stance.negotiated offer).Regular := by
  rw [negotiated]
  cases found : Reply.offered? offer with
  | none => exact regular_refused isOpen (by decide)
  | some version =>
      have fits : Fits ["done", toString version] := by
        rw [Reply.offered?_eq found]
        decide
      have active : ({ stance with phase := .active version } : Stance World).phase.isOpen = true :=
        rfl
      exact regular_done active fits

theorem regular_staged
    (isOpen : stance.phase.isOpen = true)
    (attempt : Except StagingError Context) :
    (stance.staged attempt).Regular := by
  cases attempt with
  | ok context =>
      have still : ({ stance with context } : Stance World).phase.isOpen = true := isOpen
      exact regular_done still Reply.fits_done
  | error error => exact regular_refused isOpen error.refusal_ne_messageTooBig

theorem regular_transacted
    (isOpen : stance.phase.isOpen = true)
    (transaction : Context → World → Outcome World) :
    (stance.transacted transaction).Regular := by
  rw [transacted]
  obtain ⟨result, world⟩ := transaction stance.context stance.world
  have still : ({ stance with world } : Stance World).phase.isOpen = true := isOpen
  cases result with
  | ok done => exact regular_done still Reply.fits_done
  | error error => exact regular_refused still error.refusal_ne_messageTooBig

theorem regular_dispatched
    (environment : Environment World)
    (isOpen : stance.phase.isOpen = true)
    (command : Command) :
    (stance.dispatched environment command).Regular := by
  cases command with
  | clear => exact regular_staged isOpen (.ok Context.empty)
  | display => exact regular_shown isOpen (Reply.contextRows stance.context)
  | log switch =>
      let next := { stance with logging := switch.getD stance.logging }
      have still : next.phase.isOpen = true := isOpen
      exact regular_done still (Reply.fits_switch next.logging)
  | install => exact regular_transacted isOpen (install environment)
  | uninstall => exact regular_transacted isOpen (uninstall environment)
  | _ => exact regular_staged isOpen _

theorem regular_commanded
    (environment : Environment World)
    (isOpen : stance.phase.isOpen = true)
    (fields : List String) :
    (stance.commanded environment fields).Regular := by
  rw [commanded]
  cases Command.parse fields with
  | ok command => exact regular_dispatched environment isOpen command
  | error error =>
      cases error with
      | empty => exact regular_done isOpen Reply.fits_done
      | _ =>
          have bounded : Refusal.protocol ≠ .messageTooBig := by decide
          exact regular_refused isOpen bounded

theorem regular_told
    (environment : Environment World)
    (isOpen : stance.phase.isOpen = true)
    (fields : List String) :
    (stance.told environment fields).Regular := by
  by_cases offer : stance.phase = .awaitingVersion ∧ fields.head? = some Command.magic
  · rw [told_of_offer environment offer.1 offer.2]
    exact regular_negotiated isOpen (fields.drop 1)
  · rw [told_of_command environment offer]
    have settled : ({ stance with phase := stance.phase.settled } : Stance World).phase.isOpen =
        true := by
      rw [← isOpen]
      exact stance.phase.isOpen_settled
    exact regular_commanded environment settled fields

/-- Whatever record an open session answers, its response is regular. -/
theorem regular_respond
    (environment : Environment World)
    (isOpen : stance.phase.isOpen = true)
    (record : Record) :
    (stance.respond environment record).Regular := by
  rw [respond]
  cases record.texts? with
  | ok fields => exact regular_told environment isOpen fields
  | error fault => exact regular_refused isOpen (by decide)

end Stance

end Confinement
