import Confinement.Staging.Context

/-!
# What is checked before something is staged

An item is staged after a list of checks (`Item.checks`): the latch, the form of its arguments,
whether it is there already, and what stands at its paths, in this order.  `FirstFailing` tells the
error of the first check that fails, and every edit that stages an item does what these checks say
(`Edit.stage_obeys`): when all of them pass, it stages exactly that item; otherwise it is refused
with the error of the first that fails and leaves the context as it was.

The forms are said in words of their own (`IsIdentifier`, `IsPermission`, `IsPath`), and the tests
that run decide them.
-/

namespace Confinement.Staging

open Host

/-! ## Forms of arguments -/

/-- The characters of identifiers: `A-Z`, `a-z`, `0-9`, `_` and `-`. -/
def IsIdentifierChar (c : Char) : Prop :=
  'A' ≤ c ∧ c ≤ 'Z' ∨ 'a' ≤ c ∧ c ≤ 'z' ∨ '0' ≤ c ∧ c ≤ '9' ∨ c = '_' ∨ c = '-'

/-- Identifiers have 2 to 200 of these characters. -/
structure IsIdentifier (text : String) : Prop where
  long : 2 ≤ text.length
  short : text.length ≤ 200
  chars : ∀ c ∈ text.toList, IsIdentifierChar c

/-- Permissions have 1 to 1024 bytes and neither blanks nor control characters. -/
structure IsPermission (text : String) : Prop where
  full : text ≠ ""
  short : text.utf8ByteSize ≤ 1024
  unbroken : ∀ c ∈ text.toList, Text.isBlank c = false ∧ Text.isControl c = false

/-- Paths have 1 to 4096 bytes, none of them NUL. -/
structure IsPath (text : String) : Prop where
  full : text ≠ ""
  short : text.utf8ByteSize ≤ 4096
  unended : '\x00' ∉ text.toList

theorem isIdChar_iff {c : Char} : isIdChar c = true ↔ IsIdentifierChar c := by
  delta isIdChar IsIdentifierChar Char.isAlphanum Char.isAlpha Char.isUpper Char.isLower
    Char.isDigit
  simp only [Bool.or_eq_true, Bool.and_eq_true, decide_eq_true_eq, beq_iff_eq, ge_iff_le,
    Char.le_def, or_assoc]

/-- The characters of identifiers take one byte each. -/
theorem utf8Size_of_isIdentifierChar {c : Char} (allowed : IsIdentifierChar c) :
    c.utf8Size = 1 := by
  have small : c.val ≤ 0x7F := by
    simp only [IsIdentifierChar, Char.le_def, UInt32.le_iff_toNat_le] at allowed ⊢
    rcases allowed with upper | lower | digit | rfl | rfl
    · exact Nat.le_trans upper.2 (by decide)
    · exact Nat.le_trans lower.2 (by decide)
    · exact Nat.le_trans digit.2 (by decide)
    · decide
    · decide
  simp [Char.utf8Size, small]

theorem utf8ByteSize_of_isIdentifierChar
    {text : String}
    (chars : ∀ c ∈ text.toList, IsIdentifierChar c) :
    text.utf8ByteSize = text.length := by
  have size (cs : List Char) (each : ∀ c ∈ cs, IsIdentifierChar c) :
      (String.ofList cs).utf8ByteSize = cs.length := by
    induction cs with
    | nil => rfl
    | cons c rest hypothesis =>
        rw [String.ofList_cons, String.utf8ByteSize_append, String.utf8ByteSize_singleton,
          utf8Size_of_isIdentifierChar (each c List.mem_cons_self),
          hypothesis fun other member => each other (List.mem_cons_of_mem _ member),
          List.length_cons, Nat.add_comm]
  rw [← String.length_toList, ← size text.toList chars, String.ofList_toList]

theorem isValidId_iff {id : String} : isValidId id = true ↔ IsIdentifier id := by
  simp only [isValidId, Bool.and_eq_true, decide_eq_true_eq, List.all_eq_true]
  constructor
  · rintro ⟨⟨long, short⟩, chars⟩
    have allowed : ∀ c ∈ id.toList, IsIdentifierChar c := fun c member =>
      isIdChar_iff.1 (chars c member)
    rw [utf8ByteSize_of_isIdentifierChar allowed] at long short
    exact ⟨long, short, allowed⟩
  · rintro ⟨long, short, chars⟩
    rw [utf8ByteSize_of_isIdentifierChar chars]
    exact ⟨⟨long, short⟩, fun c member => isIdChar_iff.2 (chars c member)⟩

theorem isValidPermission_iff {permission : String} :
    isValidPermission permission = true ↔ IsPermission permission := by
  simp only [isValidPermission, Bool.and_eq_true, decide_eq_true_eq, List.all_eq_true,
    Bool.not_eq_true']
  constructor
  · rintro ⟨⟨full, short⟩, unbroken⟩
    exact ⟨full, short, unbroken⟩
  · rintro ⟨full, short, unbroken⟩
    exact ⟨⟨full, short⟩, unbroken⟩

theorem isValidPath_iff {path : String} : isValidPath path = true ↔ IsPath path := by
  simp only [isValidPath, Bool.and_eq_true, decide_eq_true_eq, List.all_eq_true]
  constructor
  · rintro ⟨⟨full, short⟩, unended⟩
    exact ⟨full, short, fun member => unended _ member rfl⟩
  · rintro ⟨full, short, unended⟩
    exact ⟨⟨full, short⟩, fun c member equal => unended (equal ▸ member)⟩

/-! ## Checks -/

/-- A check, given by the errors that it fails with: it passes when there are none. -/
abbrev Check := StagingError → Prop

namespace Check

def Passes (check : Check) : Prop := ∀ error, ¬check error

/-- Whether a check fails with one error at most. -/
def Sharp (check : Check) : Prop := ∀ one other, check one → check other → one = other

/-- The check that something holds. -/
def demand (condition : Prop) (failure : StagingError) : Check :=
  fun error => ¬condition ∧ error = failure

theorem passes_demand_iff {condition : Prop} {failure : StagingError} :
    (demand condition failure).Passes ↔ condition := by
  constructor
  · intro passes
    exact Classical.byContradiction fun violated => passes failure ⟨violated, rfl⟩
  · intro holds error fails
    exact fails.1 holds

theorem sharp_demand (condition : Prop) (failure : StagingError) :
    (demand condition failure).Sharp := by
  rintro one other ⟨_, rfl⟩ ⟨_, rfl⟩
  rfl

end Check

/-- Whether an error is that of the first check that fails. -/
inductive FirstFailing : List Check → StagingError → Prop
  | here {check : Check} {rest : List Check} {error : StagingError}
      (fails : check error) : FirstFailing (check :: rest) error
  | later {check : Check} {rest : List Check} {error : StagingError}
      (passes : check.Passes) (further : FirstFailing rest error) :
      FirstFailing (check :: rest) error

namespace FirstFailing

variable {checks : List Check} {error other : StagingError}

/-- The first failure is that of one of the checks. -/
theorem fails (first : FirstFailing checks error) : ∃ check ∈ checks, check error := by
  induction first with
  | here fails => exact ⟨_, List.mem_cons_self, fails⟩
  | later _ _ hypothesis =>
      obtain ⟨check, member, fails⟩ := hypothesis
      exact ⟨check, List.mem_cons_of_mem _ member, fails⟩

theorem not_all_pass
    (first : FirstFailing checks error) :
    ¬∀ check ∈ checks, check.Passes := by
  intro passing
  obtain ⟨check, member, fails⟩ := first.fails
  exact passing check member error fails

/-- There is one first failure only. -/
theorem unique
    (sharp : ∀ check ∈ checks, check.Sharp)
    (first : FirstFailing checks error)
    (second : FirstFailing checks other) :
    error = other := by
  induction first with
  | here fails =>
      cases second with
      | here also => exact sharp _ List.mem_cons_self _ _ fails also
      | later passes _ => exact absurd fails (passes _)
  | later passes _ hypothesis =>
      cases second with
      | here fails => exact absurd fails (passes _)
      | later _ further =>
          exact hypothesis (fun check member => sharp check (List.mem_cons_of_mem _ member)) further

end FirstFailing

/-! ## What stands at a path -/

/-- Whether a cause tells neither that a path leads nowhere nor that it may not be inspected. -/
def Unclassified (cause : Failure) : Prop :=
  cause ≠ .os .noEntry ∧ cause ≠ .os .notADirectory ∧ cause ≠ .os .accessDenied ∧
    cause ≠ .os .notPermitted

/-- The check of what stands at a path. -/
inductive Misplaced (inspect : Inspection) (needsDirectory : Bool) (path : String) : Check
  /-- Nothing stands there. -/
  | missing (inspected : inspect path = .error (.os .noEntry)) :
      Misplaced inspect needsDirectory path (.notFound path)
  /-- Something on the way is no directory. -/
  | severed (inspected : inspect path = .error (.os .notADirectory)) :
      Misplaced inspect needsDirectory path (.notFound path)
  | denied (inspected : inspect path = .error (.os .accessDenied)) :
      Misplaced inspect needsDirectory path (.accessDenied path)
  | forbidden (inspected : inspect path = .error (.os .notPermitted)) :
      Misplaced inspect needsDirectory path (.accessDenied path)
  | failed {cause : Failure} (inspected : inspect path = .error cause)
      (unclassified : Unclassified cause) :
      Misplaced inspect needsDirectory path (.inspect path cause)
  /-- It must be a directory and is something else. -/
  | unfit {node : Node} (inspected : inspect path = .ok node) (needed : needsDirectory = true)
      (other : node.isDirectory = false) :
      Misplaced inspect needsDirectory path (.notADirectory path)

section

variable {inspect : Inspection} {needsDirectory : Bool} {path : String}

theorem Misplaced.sharp : Check.Sharp (Misplaced inspect needsDirectory path) := by
  intro one other first second
  cases first <;> cases second <;> simp_all [Unclassified]

/-- A probe finds out what the check says. -/
theorem probe_cases (inspect : Inspection) (needsDirectory : Bool) (path : String) :
    (Check.Passes (Misplaced inspect needsDirectory path) ∧
      probe inspect needsDirectory path = .ok ()) ∨
    ∃ error, Misplaced inspect needsDirectory path error ∧
      probe inspect needsDirectory path = .error error := by
  rw [probe]
  split
  · rename_i node inspected
    cases unfit : needsDirectory && !node.isDirectory with
    | true =>
        simp only [Bool.and_eq_true, Bool.not_eq_true'] at unfit
        exact Or.inr ⟨_, .unfit inspected unfit.1 unfit.2, rfl⟩
    | false =>
        refine Or.inl ⟨?_, rfl⟩
        intro error misplaced
        cases misplaced <;> simp_all
  · rename_i inspected
    exact Or.inr ⟨_, .missing inspected, rfl⟩
  · rename_i inspected
    exact Or.inr ⟨_, .severed inspected, rfl⟩
  · rename_i inspected
    exact Or.inr ⟨_, .denied inspected, rfl⟩
  · rename_i inspected
    exact Or.inr ⟨_, .forbidden inspected, rfl⟩
  · rename_i cause noEntry notADirectory accessDenied notPermitted inspected
    exact Or.inr ⟨_, .failed inspected ⟨noEntry, notADirectory, accessDenied, notPermitted⟩, rfl⟩

theorem passes_misplaced_iff :
    Check.Passes (Misplaced inspect needsDirectory path) ↔
      probe inspect needsDirectory path = .ok () := by
  rcases probe_cases inspect needsDirectory path with ⟨passes, found⟩ | ⟨error, fails, found⟩
  · exact iff_of_true passes found
  · refine iff_of_false (fun passes => passes error fails) ?_
    rw [found]
    nofun

end

/-! ## Items and edits -/

/-- A path of an item and whether it must lead to a directory. -/
structure Location where
  path : String
  needsDirectory : Bool

namespace Item

/-- The checks of the form of an item. -/
def formChecks : Item → List Check
  | .id text => [.demand (IsIdentifier text) (.invalidId text)]
  | .path entry => [.demand (IsPath entry.path) (.invalidPath entry.path)]
  | .permission text => [.demand (IsPermission text) (.invalidPermission text)]
  | .plug added =>
    [.demand (IsPath added.exportDirectory) (.invalidPath added.exportDirectory),
      .demand (IsPath added.importDirectory) (.invalidPath added.importDirectory),
      .demand (IsIdentifier added.importId) (.invalidId added.importId)]

/-- The check that an item is not there already. -/
def newnessCheck (context : Context) : Item → Check
  | .id _ => fun error => ∃ current, context.id = some current ∧ error = .idAlreadySet current
  | .path entry =>
    .demand (∀ other ∈ context.paths, ¬Path.Same other.path entry.path) (.pathExists entry.path)
  | .permission text => .demand (text ∉ context.permissions) (.permissionExists text)
  | .plug added =>
    .demand (∀ other ∈ context.plugs, ¬Path.Same other.importDirectory added.importDirectory)
      (.plugExists added.importDirectory)

/-- The paths of an item that are inspected, in order. -/
def locations : Item → List Location
  | .id _ | .permission _ => []
  | .path entry => [⟨entry.path, entry.kind.needsDirectory⟩]
  | .plug added => [⟨added.exportDirectory, true⟩, ⟨added.importDirectory, true⟩]

/-- Everything that is checked before an item is staged, in order. -/
def checks (inspect : Inspection) (context : Context) (item : Item) : List Check :=
  .demand (context.latched = false) .latched ::
    (item.formChecks ++ item.newnessCheck context ::
      item.locations.map fun location =>
        Misplaced inspect location.needsDirectory location.path)

/-- Only the inspection of a path of the item fails for a cause that has no class. -/
theorem inspected_of_check
    {inspect : Inspection} {context : Context} {item : Item} {check : Check}
    {about : String} {cause : Failure}
    (member : check ∈ item.checks inspect context)
    (fails : check (.inspect about cause)) :
    (∃ location ∈ item.locations, about = location.path) ∧
      inspect about = .error cause ∧ Unclassified cause := by
  rcases List.mem_cons.1 member with rfl | member
  · cases fails.2
  rcases List.mem_append.1 member with form | member
  · cases item <;> simp only [formChecks, List.mem_cons, List.not_mem_nil, or_false] at form
    case plug => rcases form with rfl | rfl | rfl <;> cases fails.2
    all_goals (subst form; cases fails.2)
  rcases List.mem_cons.1 member with rfl | member
  · cases item with
    | id text =>
        obtain ⟨_, _, equal⟩ := fails
        cases equal
    | path entry => cases fails.2
    | permission text => cases fails.2
    | plug added => cases fails.2
  · obtain ⟨location, place, rfl⟩ := List.mem_map.1 member
    cases fails with
    | failed inspected unclassified =>
        exact ⟨⟨location, place, rfl⟩, inspected, unclassified⟩

/-- Whether an item belongs to an application with an identifier. -/
def needsId : Item → Bool
  | .id _ => false
  | .path entry => entry.kind.needsId
  | .permission _ | .plug _ => true

end Item

/-- A context with one more item, paths and plugs behind those that are there. -/
def Context.including (context : Context) (item : Item) : Context :=
  let noted := { context with needsId := context.needsId || item.needsId }
  match item with
  | .id id => { noted with id := some id }
  | .path entry => { noted with paths := context.paths ++ [entry] }
  | .permission permission =>
    { noted with permissions := context.permissions.insert permission }
  | .plug plug => { noted with plugs := context.plugs ++ [plug] }

namespace Edit

/-- The edit that stages an item. -/
def stage (inspect : Inspection) : Item → Edit
  | .id id => setId id
  | .path entry => addPath inspect entry.path entry.kind
  | .permission permission => addPermission permission
  | .plug plug => addPlug inspect plug

/--
Whether an edit does what checks say: it leads to the given context when all of them pass, and
otherwise fails with the error of the first that fails and leaves the context as it was.
-/
def Obeys (edit : Edit) (context : Context) (checks : List Check) (next : Context) : Prop :=
  ((∀ check ∈ checks, check.Passes) ∧ edit context = (.ok (), next)) ∨
  ∃ error, FirstFailing checks error ∧ edit context = (.error error, context)

section

variable {context next : Context} {check : Check} {checks : List Check}

/-- A check in front of an edit comes first. -/
theorem Obeys.andThen
    {first others : Edit}
    (checked : Obeys first context [check] context)
    (further : Obeys others context checks next) :
    Obeys (first >>= fun _ => others) context (check :: checks) next := by
  rw [Obeys, Action.bind_apply]
  rcases checked with ⟨passing, result⟩ | ⟨error, failing, result⟩
  · have passes := passing check List.mem_cons_self
    rw [result]
    rcases further with ⟨passing, result⟩ | ⟨error, failing, result⟩
    · exact Or.inl ⟨List.forall_mem_cons.2 ⟨passes, passing⟩, result⟩
    · exact Or.inr ⟨error, .later passes failing, result⟩
  · rw [result]
    cases failing with
    | here fails => exact Or.inr ⟨error, .here fails, rfl⟩
    | later _ further => cases further

/-- Looking at the context is no check. -/
theorem Obeys.ofContext
    {edit : Context → Edit}
    (further : Obeys (edit context) context checks next) :
    Obeys (Action.get >>= edit) context checks next := further

/-- An edit without checks. -/
theorem obeys_of_ok {edit : Edit} (result : edit context = (.ok (), next)) :
    Obeys edit context [] next :=
  Or.inl ⟨fun _ member => absurd member List.not_mem_nil, result⟩

/-- An edit with a single check. -/
theorem obeys_of_check
    {edit : Edit}
    (outcome : (check.Passes ∧ edit context = (.ok (), next)) ∨
      ∃ error, check error ∧ edit context = (.error error, context)) :
    Obeys edit context [check] next := by
  rcases outcome with ⟨passes, result⟩ | ⟨error, fails, result⟩
  · exact Or.inl ⟨List.forall_mem_singleton.2 passes, result⟩
  · exact Or.inr ⟨error, .here fails, result⟩

theorem Obeys.attempt_ok
    {edit : Edit} {reached : Context}
    (obeys : Obeys edit context checks next)
    (result : edit.attempt context = .ok reached) :
    (∀ check ∈ checks, check.Passes) ∧ reached = next := by
  rw [attempt] at result
  rcases obeys with ⟨passing, ended⟩ | ⟨error, _, ended⟩
  · rw [ended] at result
    cases result
    exact ⟨passing, rfl⟩
  · rw [ended] at result
    cases result

theorem Obeys.attempt_error
    {edit : Edit} {error : StagingError}
    (obeys : Obeys edit context checks next)
    (result : edit.attempt context = .error error) :
    FirstFailing checks error := by
  rw [attempt] at result
  rcases obeys with ⟨_, ended⟩ | ⟨cause, failing, ended⟩
  · rw [ended] at result
    cases result
  · rw [ended] at result
    cases result
    exact failing

theorem obeys_require
    {holds : Bool} {condition : Prop} (failure : StagingError)
    (decides : holds = true ↔ condition) :
    Obeys (require holds failure) context [.demand condition failure] context := by
  apply obeys_of_check
  cases holds with
  | true => exact Or.inl ⟨Check.passes_demand_iff.2 (decides.1 rfl), rfl⟩
  | false =>
      refine Or.inr ⟨failure, ⟨fun holds => ?_, rfl⟩, rfl⟩
      cases decides.2 holds

theorem obeys_requireReleased :
    Obeys requireReleased context [.demand (context.latched = false) .latched] context := by
  have required : Obeys (require (!context.latched) .latched) context
      [.demand (context.latched = false) .latched] context :=
    obeys_require _ (by rw [Bool.not_eq_true'])
  exact required

theorem obeys_requireAt (inspect : Inspection) (needsDirectory : Bool) (path : String) :
    Obeys (requireAt inspect needsDirectory path) context
      [Misplaced inspect needsDirectory path] context := by
  apply obeys_of_check
  rcases probe_cases inspect needsDirectory path with ⟨passes, found⟩ | ⟨error, fails, found⟩
  · exact Or.inl ⟨passes, by rw [requireAt, found]⟩
  · exact Or.inr ⟨error, fails, by rw [requireAt, found]⟩

end

/-- Every edit that stages an item does what the checks of the item say. -/
theorem stage_obeys (inspect : Inspection) (context : Context) (item : Item) :
    Obeys (stage inspect item) context (item.checks inspect context)
      (context.including item) := by
  cases item with
  | id id =>
      refine obeys_requireReleased.andThen ((obeys_require _ isValidId_iff).andThen ?_)
      refine Obeys.ofContext (obeys_of_check ?_)
      cases named : context.id with
      | none =>
          refine Or.inl ⟨?_, ?_⟩
          · rintro error ⟨current, present, _⟩
            rw [named] at present
            cases present
          · simp [Action.modify, Context.including, Item.needsId]
      | some current => exact Or.inr ⟨_, ⟨current, named, rfl⟩, rfl⟩
  | path entry =>
      refine obeys_requireReleased.andThen ((obeys_require _ isValidPath_iff).andThen ?_)
      refine Obeys.ofContext (Obeys.andThen (obeys_require _ (by simp)) ?_)
      exact (obeys_requireAt _ _ _).andThen (obeys_of_ok rfl)
  | permission permission =>
      refine obeys_requireReleased.andThen ((obeys_require _ isValidPermission_iff).andThen ?_)
      refine Obeys.ofContext (Obeys.andThen (obeys_require _ (by simp)) (obeys_of_ok ?_))
      simp [Action.bind_apply, Action.modify, Context.including, Item.needsId]
  | plug plug =>
      refine obeys_requireReleased.andThen ((obeys_require _ isValidPath_iff).andThen
        ((obeys_require _ isValidPath_iff).andThen ((obeys_require _ isValidId_iff).andThen ?_)))
      refine Obeys.ofContext (Obeys.andThen (obeys_require _ (by simp)) ?_)
      refine (obeys_requireAt _ _ _).andThen ((obeys_requireAt _ _ _).andThen (obeys_of_ok ?_))
      simp [Action.bind_apply, Action.modify, Context.including, Item.needsId]

/-- Each check of an item fails with one error at most. -/
theorem sharp_of_mem_checks
    {inspect : Inspection} {context : Context} {item : Item} {check : Check}
    (member : check ∈ item.checks inspect context) :
    check.Sharp := by
  rcases List.mem_cons.1 member with rfl | member
  · exact Check.sharp_demand _ _
  rcases List.mem_append.1 member with form | member
  · cases item <;> simp only [Item.formChecks, List.mem_cons, List.not_mem_nil, or_false] at form
    case plug => rcases form with rfl | rfl | rfl <;> exact Check.sharp_demand _ _
    all_goals (subst form; exact Check.sharp_demand _ _)
  rcases List.mem_cons.1 member with rfl | member
  · cases item with
    | id id =>
        rintro one other ⟨current, named, rfl⟩ ⟨again, same, rfl⟩
        rw [named] at same
        cases same
        rfl
    | path entry => exact Check.sharp_demand _ _
    | permission permission => exact Check.sharp_demand _ _
    | plug plug => exact Check.sharp_demand _ _
  · obtain ⟨location, _, rfl⟩ := List.mem_map.1 member
    exact Misplaced.sharp

/--
Staging an item, in any context and with any file system: it succeeds exactly when every check
passes, and then the context has that item more and differs in nothing else but the note whether an
identifier is needed.  It fails exactly with the error of the first check that fails, and then the
context is as it was.
-/
theorem staged_or_refused (inspect : Inspection) (context : Context) (item : Item) :
    let outcome := stage inspect item context
    (outcome.1 = .ok () ↔ ∀ check ∈ item.checks inspect context, check.Passes) ∧
    (outcome.1 = .ok () → outcome.2 = context.including item) ∧
    (∀ error, outcome.1 = .error error ↔ FirstFailing (item.checks inspect context) error) ∧
    ∀ error, outcome.1 = .error error → outcome.2 = context := by
  intro outcome
  rcases stage_obeys inspect context item with ⟨passing, result⟩ | ⟨error, failing, result⟩
  · have ended : outcome = (.ok (), context.including item) := result
    rw [ended]
    refine ⟨iff_of_true rfl passing, fun _ => rfl, fun error => ?_, fun error failed => ?_⟩
    · exact iff_of_false nofun fun failing => failing.not_all_pass passing
    · cases failed
  · have ended : outcome = (.error error, context) := result
    rw [ended]
    refine ⟨iff_of_false nofun failing.not_all_pass, nofun, fun other => ?_, fun _ _ => rfl⟩
    rw [Except.error.injEq]
    constructor
    · rintro rfl
      exact failing
    · exact failing.unique fun check member => sharp_of_mem_checks member

/-- Where both directories of a plug are wrong, the exported one is told. -/
example :
    Edit.stage
        (fun path => if path = "file" then .ok (.file []) else .error (.os .notADirectory))
        (.plug ⟨"file", "ab", "file/in"⟩) Context.empty =
      (.error (.notADirectory "file"), Context.empty) := by
  rfl

end Edit

end Confinement.Staging
