import Confinement.Policy.Memory
import Confinement.Policy.Selinux
import Confinement.Policy.Simulated
import Confinement.Policy.Smack
import Confinement.Policy.Transaction
import Confinement.Proofs.Policy.Labels

/-!
# Identities

To the permission store an application is the label that the labeller derives from its identifier.
Transactions with one identifier leave what another label holds as it is, whatever the backends do
and however they fail (`Keeper.grants_of_others_stay`).  So applications that a labeller gives
different labels never touch each other's permissions; under policy modules, identifiers that differ
in dashes and underscores only share a label (`Keeper.shared_under_modules`).
-/

namespace Confinement.Policy

open Host Staging

variable {Kept Outside : Type}

/-! ## Keepers -/

/-- A permission store whose calls may fail, with what each label holds in it. -/
structure Keeper (Kept : Type) where
  store : PermissionStore Kept
  /-- What each label holds. -/
  held : Kept → String → TextSet
  held_check : ∀ label permission kept,
    held (store.check label permission kept).2 = held kept
  /-- A check that is answered tells whether the permission is held. -/
  answer_check : ∀ label permission kept answer,
    (store.check label permission kept).1 = .ok answer →
      answer = decide (permission ∈ held kept label)
  /-- Only the label that is given permissions can hold others than before. -/
  held_add : ∀ label permissions replace kept other, other ≠ label →
    held (store.add label permissions replace kept).2 other = held kept other
  /-- Only the label from which permissions are taken can hold others than before. -/
  held_drop : ∀ label kept other, other ≠ label →
    held (store.drop label kept).2 other = held kept other

/-- Permissions in memory. -/
def memoryKeeper : Keeper Grants where
  store := memoryStore ⟨fun grants => grants, fun grants _ => grants⟩
  held := Grants.of
  held_check _ _ _ := rfl
  answer_check _ _ _ _ answered := (Except.ok.inj answered).symm
  held_add label _ _ grants _ apart := (Grants.of_set grants label _ _).trans (if_neg apart)
  held_drop label grants _ apart := (Grants.of_erase grants label _).trans (if_neg apart)

/-- The labellers that can be selected, on any file system and with any tools. -/
inductive Selectable (Outside : Type) where
  | simulated (installed : Part Outside TextSet)
  | smack (rules : Smack Outside)
  | selinux (modules : Selinux Outside)

def Selectable.labeller : Selectable Outside → Labeller Outside
  | .simulated installed => simulatedLabeller installed
  | .smack rules => rules.labeller
  | .selinux modules => modules.labeller

/-- Different identifiers get different labels, and under policy modules if their modules differ. -/
theorem Selectable.label_ne
    {selected : Selectable Outside} {id other : String}
    (distinct : other ≠ id)
    (apart : ∀ modules, selected = .selinux modules → moduleName other ≠ moduleName id) :
    selected.labeller.label other ≠ selected.labeller.label id := by
  intro same
  cases selected with
  | simulated installed => exact distinct (applicationLabel_injective same)
  | smack rules => exact distinct (applicationLabel_injective same)
  | selinux modules => exact apart modules rfl (domainLabel_eq_iff.1 same)

/-- The left part of a pair of worlds. -/
def Part.left : Part (Kept × Outside) Kept := ⟨Prod.fst, fun kept both => (kept, both.2)⟩

/-- The right part of a pair of worlds. -/
def Part.right : Part (Kept × Outside) Outside := ⟨Prod.snd, fun outside both => (both.1, outside)⟩

namespace Keeper

variable (keeper : Keeper Kept)

/-- The environment in which a labeller has nothing in common with a permission store. -/
def beside (labeller : Labeller Outside) (inspect : Kept × Outside → Inspection) :
    Environment (Kept × Outside) where
  store :=
    { name := keeper.store.name
      check := fun label permission => Part.left.call (keeper.store.check label permission)
      add := fun label permissions replace =>
        Part.left.call (keeper.store.add label permissions replace)
      drop := fun label => Part.left.call (keeper.store.drop label) }
  labeller :=
    { name := labeller.name
      label := labeller.label
      install := fun context => Part.right.call (labeller.install context)
      uninstall := fun context => Part.right.call (labeller.uninstall context) }
  inspect

@[simp]
theorem label_beside (labeller : Labeller Outside) (inspect : Kept × Outside → Inspection) :
    (keeper.beside labeller inspect).labeller.label = labeller.label := rfl

/-- Whether every label but one holds afterwards what it held before. -/
def Spares (label : String) (world next : Kept × Outside) : Prop :=
  ∀ other, other ≠ label → keeper.held next.1 other = keeper.held world.1 other

variable {keeper} {label : String} {world middle last : Kept × Outside}

theorem Spares.refl (world : Kept × Outside) : keeper.Spares label world world :=
  fun _ _ => rfl

theorem Spares.trans
    (first : keeper.Spares label world middle)
    (second : keeper.Spares label middle last) :
    keeper.Spares label world last :=
  fun other apart => (second other apart).trans (first other apart)

/-! ## Transactions -/

section

variable (keeper) (world) (labeller : Labeller Outside) (inspect : Kept × Outside → Inspection)
  (label : String) {context : Context} {id : String}

theorem spares_drop :
    keeper.Spares label world ((keeper.beside labeller inspect).store.drop label world).2 :=
  fun other apart => keeper.held_drop label _ other apart

theorem spares_add (permissions : TextSet) (replace : Bool) :
    keeper.Spares label world
      ((keeper.beside labeller inspect).store.add label permissions replace world).2 :=
  fun other apart => keeper.held_add label permissions replace _ other apart

/-- Checks do not even change what the label itself holds. -/
theorem spares_checkPlug (context : Context) (id : String) (plug : Plug) :
    keeper.Spares label world
      (checkPlug (keeper.beside labeller inspect) context id plug world).2 := by
  have kept : keeper.Spares label world ((keeper.beside labeller inspect).store.check
      ((keeper.beside labeller inspect).labeller.label plug.importId) publicPlugs world).2 :=
    fun other _ => congrFun (keeper.held_check _ _ _) other
  rw [checkPlug]
  generalize (keeper.beside labeller inspect).store.check _ _ world = answered at kept ⊢
  obtain ⟨error | isPublic, next⟩ := answered
  · exact kept
  · dsimp only
    split <;> exact kept

theorem spares_checkPlugs (context : Context) (id : String) (plugs : List Plug) :
    keeper.Spares label world
      (checkPlugs (keeper.beside labeller inspect) context id plugs world).2 := by
  induction plugs generalizing world with
  | nil => exact Spares.refl world
  | cons plug rest hypothesis =>
      have first := spares_checkPlug keeper world labeller inspect label context id plug
      rw [checkPlugs]
      generalize checkPlug _ context id plug world = checked at first ⊢
      obtain ⟨error | done, next⟩ := checked
      · exact first.trans (hypothesis next)
      · exact first.trans (hypothesis next)

/-- A labeller does not touch the store, and what is undone is taken from the label alone. -/
theorem spares_installLabels (context : Context) :
    keeper.Spares label world (installLabels (keeper.beside labeller inspect) context
      (fun last => ((keeper.beside labeller inspect).store.drop label last).2) world).2 := by
  have kept : keeper.Spares label world
      ((keeper.beside labeller inspect).labeller.install context world).2 := fun _ _ => rfl
  rw [installLabels]
  generalize (keeper.beside labeller inspect).labeller.install context world = installed at kept ⊢
  obtain ⟨error | done, next⟩ := installed
  · exact kept.trans (spares_drop keeper next labeller inspect label)
  · exact kept

theorem spares_uninstallLabels (context : Context) :
    keeper.Spares label world
      (uninstallLabels (keeper.beside labeller inspect) context world).2 := by
  have kept : keeper.Spares label world
      ((keeper.beside labeller inspect).labeller.uninstall context world).2 := fun _ _ => rfl
  rw [uninstallLabels]
  generalize (keeper.beside labeller inspect).labeller.uninstall context world = retracted
    at kept ⊢
  obtain ⟨error | done, next⟩ := retracted <;> exact kept

/-- An install leaves other labels as they are, however it ends. -/
theorem spares_install
    (named : context.id = some id) :
    keeper.Spares (labeller.label id) world
      (install (keeper.beside labeller inspect) context world).2 := by
  rw [install, named]
  cases unready? context with
  | some error => exact Spares.refl world
  | none =>
      have checked := spares_checkPlugs keeper world labeller inspect (labeller.label id)
        context id context.plugs
      dsimp only
      generalize checkPlugs _ context id context.plugs world = outcome at checked ⊢
      obtain ⟨error | done, next⟩ := outcome
      · exact checked
      · have granted := spares_add keeper next labeller inspect (labeller.label id)
          context.permissions true
        rw [label_beside]
        dsimp only
        generalize (keeper.beside labeller inspect).store.add (labeller.label id)
          context.permissions true next = added at granted ⊢
        obtain ⟨error | done, after⟩ := added
        · exact checked.trans granted
        · exact (checked.trans granted).trans
            (spares_installLabels keeper after labeller inspect (labeller.label id) context)

/-- An uninstall leaves other labels as they are, however it ends. -/
theorem spares_uninstall
    (named : context.id = some id) :
    keeper.Spares (labeller.label id) world
      (uninstall (keeper.beside labeller inspect) context world).2 := by
  rw [uninstall, named]
  cases unready? context with
  | some error => exact Spares.refl world
  | none =>
      have dropped := spares_drop keeper world labeller inspect (labeller.label id)
      rw [label_beside]
      dsimp only
      generalize (keeper.beside labeller inspect).store.drop (labeller.label id) world = taken
        at dropped ⊢
      obtain ⟨error | done, next⟩ := taken
      · exact dropped
      · exact dropped.trans
          (spares_uninstallLabels keeper next labeller inspect (labeller.label id) context)

end

/-! ## Runs -/

end Keeper

/-- A transaction with a context. -/
inductive Transaction where
  | install (context : Context)
  | uninstall (context : Context)

namespace Transaction

/-- The context with which a transaction is made. -/
def context : Transaction → Context
  | .install context => context
  | .uninstall context => context

variable {World : Type}

def perform (environment : Environment World) : Transaction → World → Outcome World
  | .install context => Policy.install environment context
  | .uninstall context => Policy.uninstall environment context

/-- The world that transactions leave, whether or not they succeed. -/
def performAll (environment : Environment World) (transactions : List Transaction)
    (world : World) : World :=
  transactions.foldl (fun world transaction => (transaction.perform environment world).2) world

end Transaction

namespace Keeper

theorem spares_perform
    (keeper : Keeper Kept) (labeller : Labeller Outside)
    (inspect : Kept × Outside → Inspection) {id : String}
    {transaction : Transaction}
    (named : transaction.context.id = some id)
    (world : Kept × Outside) :
    keeper.Spares (labeller.label id) world
      (transaction.perform (keeper.beside labeller inspect) world).2 := by
  cases transaction with
  | install context => exact spares_install keeper world labeller inspect named
  | uninstall context => exact spares_uninstall keeper world labeller inspect named

theorem spares_performAll
    (keeper : Keeper Kept) (labeller : Labeller Outside)
    (inspect : Kept × Outside → Inspection) {id : String}
    {transactions : List Transaction}
    (named : ∀ transaction ∈ transactions, transaction.context.id = some id)
    (world : Kept × Outside) :
    keeper.Spares (labeller.label id) world
      (Transaction.performAll (keeper.beside labeller inspect) transactions world) := by
  induction transactions generalizing world with
  | nil => exact Spares.refl world
  | cons transaction rest hypothesis =>
      have first := spares_perform keeper labeller inspect (named transaction List.mem_cons_self)
        world
      exact first.trans
        (hypothesis (fun other member => named other (List.mem_cons_of_mem _ member)) _)

/--
Any permission store, any of the labellers, two applications and any transactions with contexts of
one of them, whether or not they succeed: what the other one holds stays as it is, and so does every
answer to the question for its permissions.  Under policy modules this is said of identifiers whose
modules differ.
-/
theorem grants_of_others_stay
    (keeper : Keeper Kept) (selected : Selectable Outside) (inspect : Kept × Outside → Inspection)
    {id other : String}
    (distinct : other ≠ id)
    (apart : ∀ modules, selected = .selinux modules → moduleName other ≠ moduleName id)
    (transactions : List Transaction)
    (named : ∀ transaction ∈ transactions, transaction.context.id = some id)
    (world : Kept × Outside) :
    let environment := keeper.beside selected.labeller inspect
    let label := environment.labeller.label other
    let last := Transaction.performAll environment transactions world
    keeper.held last.1 label = keeper.held world.1 label ∧
      ∀ permission answer, (environment.store.check label permission last).1 = .ok answer →
        answer = decide (permission ∈ keeper.held world.1 label) := by
  intro environment label last
  have stays : keeper.held last.1 label = keeper.held world.1 label :=
    spares_performAll keeper selected.labeller inspect named world label
      (Selectable.label_ne distinct apart)
  refine ⟨stays, ?_⟩
  intro permission answer answered
  rw [← stays]
  exact keeper.answer_check label permission last.1 answer answered

/-- Policy modules that cannot be loaded, in a file tree. -/
def unloadable : Selinux FileTree where
  modulesDirectory := "modules"
  files := ⟨fun tree => tree, fun tree _ => tree⟩
  run program _ _ := fun tree =>
    (if program = "semodule" then .error (.toolFailed program "status 1") else .ok (), tree)

/-- What an application of this identifier asks for. -/
def asking (id permission : String) : Context :=
  { id := some id, needsId := true, permissions := TextSet.ofList [permission] }

/-- Permissions in memory beside policy modules that cannot be loaded. -/
def modular : Environment (Grants × FileTree) :=
  memoryKeeper.beside (Selectable.selinux unloadable).labeller fun both => both.2.stat

/-- An application whose identifier has a dash holds a permission. -/
def dashed : Grants × FileTree :=
  (Grants.empty.set (domainLabel "my-app") (TextSet.ofList ["p"]), FileTree.empty)

/-- An install that fails and is undone, and an uninstall, do not touch another application. -/
theorem grants_of_others_stay_while_undone :
    let transactions := [.install (asking "other" "q"), .uninstall (asking "other" "q")]
    let last := Transaction.performAll modular transactions dashed
    "my-app" ≠ "other" ∧ moduleName "my-app" ≠ moduleName "other" ∧
      (∀ transaction ∈ transactions, transaction.context.id = some "other") ∧
      (install modular (asking "other" "q") dashed).1.toOption = none ∧
      (last.1.of (domainLabel "my-app")).items = ["p"] := by
  intro transactions last
  have distinct : "my-app" ≠ "other" := by decide
  have apart : moduleName "my-app" ≠ moduleName "other" := by decide
  have named : ∀ transaction ∈ transactions, transaction.context.id = some "other" := by
    simp [transactions, Transaction.context, asking]
  refine ⟨distinct, apart, named, by decide +kernel, ?_⟩
  have stays := (grants_of_others_stay memoryKeeper (.selinux unloadable)
    (fun both => both.2.stat) distinct (fun _ _ => apart) transactions named dashed).1
  exact congrArg TextSet.items stays

/--
Under policy modules, an uninstall of one application takes the permissions of another one, whose
identifier has a dash in place of an underscore.
-/
theorem shared_under_modules :
    let last := Transaction.performAll modular [.uninstall (asking "my_app" "q")] dashed
    isValidId "my-app" = true ∧ isValidId "my_app" = true ∧ "my-app" ≠ "my_app" ∧
      (modular.store.check (modular.labeller.label "my-app") "p" dashed).1 = .ok true ∧
      (modular.store.check (modular.labeller.label "my-app") "p" last).1 = .ok false := by
  refine ⟨by decide, by decide, by decide, rfl, rfl⟩

end Keeper

end Confinement.Policy
