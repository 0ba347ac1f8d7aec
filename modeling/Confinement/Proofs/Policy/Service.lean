import Confinement.Policy.Cynagora
import Confinement.Policy.Memory
import Confinement.Proofs.Client.Exchange

/-!
# A permission service

The other end of the conversations of `Cynagora`.  A `Service` has the grants that are in force and,
within a transaction, those that a commit would put in force.  How it treats each of its requests
besides is a `Mood`: the words behind the first one of a reply, the notices around the reply, and
whether the request is refused.  The moods are given for all requests in advance, so that the
service is a function of what it hears (`Service.hears`), and what is said of all moods is said of
every service of this kind.
-/

namespace Confinement.Policy.Cynagora

open Host Wire

/-! ## Requests -/

/-- A request to a permission service. -/
inductive Request where
  | greet
  | enter
  | drop (label : String)
  | set (label permission : String)
  | commit
  | abort
  | check (serial label permission : String)
  deriving DecidableEq, Repr

namespace Request

def fields : Request → List String
  | .greet => ["cynagora", "1"]
  | .enter => ["enter"]
  | .drop label => ["drop", label, "*", "*", "*"]
  | .set label permission => ["set", label, "*", "*", permission, "yes"]
  | .commit => ["leave", "commit"]
  | .abort => ["leave", "abort"]
  | .check serial label permission => ["check", serial, label, "*", "*", permission]

/-- The request that fields make, if they make one. -/
def ofFields? : List String → Option Request
  | ["cynagora", "1"] => some .greet
  | ["enter"] => some .enter
  | ["drop", label, "*", "*", "*"] => some (.drop label)
  | ["set", label, "*", "*", permission, "yes"] => some (.set label permission)
  | ["leave", "commit"] => some .commit
  | ["leave", "abort"] => some .abort
  | ["check", serial, label, "*", "*", permission] => some (.check serial label permission)
  | _ => none

@[simp]
theorem ofFields?_fields (request : Request) : ofFields? request.fields = some request := by
  cases request <;> rfl

/-- What a request makes of grants. -/
def apply (grants : Grants) : Request → Grants
  | .drop label => grants.erase label
  | .set label permission => grants.add label (TextSet.ofList [permission]) false
  | .greet | .enter | .commit | .abort | .check _ _ _ => grants

end Request

/-! ## Moods -/

/-- Whether a record arrives, and only tells that cached answers are outdated. -/
def Notice (record : Record) : Prop := record.Sendable ∧ isNotice record = true

instance (record : Record) : Decidable (Notice record) := inferInstanceAs (Decidable (_ ∧ _))

/-- Whether a record arrives, and is a reply with a given first word. -/
def Answers (word : String) (record : Record) : Prop :=
  record.Sendable ∧ isNotice record = false ∧ record.lossyTexts.head? = some word

instance (word : String) (record : Record) : Decidable (Answers word record) :=
  inferInstanceAs (Decidable (_ ∧ _ ∧ _))

/-- How a request is treated, besides what it asks for. -/
structure Mood where
  /-- The notices before the reply. -/
  before : List Record
  /-- The reply with a given first word. -/
  reply : String → Record
  /-- What is replied instead of `done` when the request is refused. -/
  refusal : Option Record
  /-- The notices after the reply. -/
  after : List Record
  before_notices : ∀ record ∈ before, Notice record
  reply_answers : ∀ word ∈ ["done", "yes", "no"], Answers word (reply word)
  refusal_answers : ∀ record, refusal = some record → ∃ word, word ≠ "done" ∧ Answers word record
  after_notices : ∀ record ∈ after, Notice record

namespace Mood

/-- Nothing but a reply of one word, and no refusal. -/
def plain : Mood where
  before := []
  reply word := Record.ofTexts [word]
  refusal := none
  after := []
  before_notices := by decide
  reply_answers := by decide +kernel
  refusal_answers := by rintro _ ⟨⟩
  after_notices := by decide

/-- What is said around a reply. -/
def around (mood : Mood) (reply : Record) : Bytes :=
  (mood.before ++ reply :: mood.after).flatMap Record.wire

end Mood

/-! ## Services -/

/-- A permission service. -/
structure Service where
  /-- The grants in force. -/
  committed : Grants
  /-- Within a transaction, the grants that a commit puts in force. -/
  staged : Option Grants
  /-- The number of requests treated so far. -/
  turn : Nat
  deriving DecidableEq

namespace Service

/-- A service that has heard nothing yet. -/
def fresh (grants : Grants) : Service := ⟨grants, none, 0⟩

/-- The reply to a request that can be refused, and the service after it in either case. -/
def grant (mood : Mood) (granted refused : Service) : Record × Service :=
  match mood.refusal with
  | none => (mood.reply "done", granted)
  | some record => (record, refused)

/-- The reply to a request, and what the request does. -/
def treat (mood : Mood) (service : Service) : Request → Record × Service
  | .greet | .abort => (mood.reply "done", { service with staged := none })
  | .enter => grant mood { service with staged := some service.committed } service
  | .drop label =>
    grant mood { service with staged := service.staged.map (Request.drop label).apply } service
  | .set label permission =>
    grant mood { service with staged := service.staged.map (Request.set label permission).apply }
      service
  | .commit =>
    grant mood { service with committed := service.staged.getD service.committed, staged := none }
      { service with staged := none }
  | .check _ label permission =>
    (mood.reply (if permission ∈ service.committed.of label then "yes" else "no"), service)

section

variable (moods : Nat → Mood)

/-- The reply to a request in its turn, and the service after it. -/
def meet (service : Service) (request : Request) : Record × Service :=
  let (reply, next) := service.treat (moods service.turn) request
  (reply, { next with turn := service.turn + 1 })

/-- What a service says when it hears a record, and the service after it. -/
def hear (service : Service) (record : Record) : Bytes × Service :=
  match Request.ofFields? record.lossyTexts with
  | none => ([], service)
  | some request =>
    let (reply, next) := service.meet moods request
    ((moods service.turn).around reply, next)

/-- What a service says when it hears records, and the service after them. -/
def hearAll (service : Service) : List Record → Bytes × Service
  | [] => ([], service)
  | record :: rest =>
    let (said, next) := service.hear moods record
    let (more, last) := hearAll next rest
    (said ++ more, last)

/-- What a service says when it hears bytes, and the service after them. -/
def hears (service : Service) (heard : Bytes) : Bytes × Service :=
  service.hearAll moods (readStream false heard).records

end

end Service

end Confinement.Policy.Cynagora
