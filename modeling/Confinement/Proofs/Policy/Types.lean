import Confinement.Proofs.Policy.Locations
import Mathlib.Data.List.Lattice

/-!
# Types of policy modules

The source of a policy module declares the type of its domain and one type for each kind of file,
each in a line of its own.  A type is named by gluing parts with underscores, and the name of a
module may hold underscores itself.  Cut at its last two underscores, a type of files still tells
its module and its kind; but it may also be the domain of the module whose name is all that stands
before the last one.

So two modules have a type in common exactly if the name of one is the name of the other followed by
an underscore and the word for a kind of file, and then it is the domain of the former
(`common_types_iff`).
-/

namespace Confinement.Policy.Selinux

open Staging

/-! ## Declarations -/

/-- The type that a line declares, if it declares one. -/
def declaration? : List Char → Option String
  | 't' :: 'y' :: 'p' :: 'e' :: ' ' :: rest =>
    if rest.getLast? = some ';' then some (String.ofList rest.dropLast) else none
  | _ => none

/-- The types that the lines of a source declare. -/
def declaredTypes (source : String) : List String :=
  (source.toList.splitOn '\n').filterMap declaration?

/-- The type of a module's domain. -/
def domainType (name : String) : String := name ++ "_t"

theorem declaration?_of_type (type : String) :
    declaration? ("type " ++ type ++ ";").toList = some type := by
  have line : ("type " ++ type ++ ";").toList =
      't' :: 'y' :: 'p' :: 'e' :: ' ' :: (type.toList ++ [';']) := by
    simp [String.toList_append]
  rw [line, declaration?, if_pos (List.getLast?_concat ..), List.dropLast_concat,
    String.ofList_toList]

/-- A line that begins otherwise declares nothing. -/
theorem declaration?_of_head
    {line : List Char}
    (other : line.head? ≠ some 't') :
    declaration? line = none := by
  rw [declaration?]
  rintro rest rfl
  exact other rfl

/-- The lines of the source that declares a module's types. -/
def enforcementLines (name : String) (context : Context) : List String :=
  ["policy_module(" ++ name ++ ", 1.0)", "", "type " ++ name ++ "_t;",
      "domain_type(" ++ name ++ "_t)"] ++
    Kind.all.flatMap (kindLines name) ++
    ["domain_entry_file(" ++ name ++ "_t, " ++ name ++ "_exec_t)"] ++
    context.plugs.flatMap (plugLines name) ++ [""]

theorem typeEnforcement_eq (name : String) (context : Context) :
    typeEnforcement name context = String.intercalate "\n" (enforcementLines name context) := rfl

theorem filterMap_kindLines (name : String) (kind : Kind) :
    (kindLines name kind).filterMap (fun line => declaration? line.toList) =
      [fileType name kind] := by
  rw [kindLines, List.filterMap_cons, declaration?_of_type, List.filterMap_cons,
    declaration?_of_head, List.filterMap_cons, declaration?_of_head, List.filterMap_cons,
    declaration?_of_head]
  · rfl
  all_goals simp [String.toList_append]

theorem filterMap_plugLines (name : String) (plug : Plug) :
    (plugLines name plug).filterMap (fun line => declaration? line.toList) = [] := by
  rw [List.filterMap_eq_nil_iff]
  intro line member
  apply declaration?_of_head
  simp only [plugLines, List.mem_cons, List.not_mem_nil, or_false] at member
  rcases member with rfl | rfl | rfl | rfl <;> simp [String.toList_append]

/-- Of all lines, one declares the domain and one for each kind declares a type of files. -/
theorem filterMap_enforcementLines (name : String) (context : Context) :
    (enforcementLines name context).filterMap (fun line => declaration? line.toList) =
      domainType name :: Kind.all.map (fileType name) := by
  have opening : ["policy_module(" ++ name ++ ", 1.0)", "", "type " ++ name ++ "_t;",
      "domain_type(" ++ name ++ "_t)"].filterMap (fun line => declaration? line.toList) =
        [domainType name] := by
    have domain : "type " ++ name ++ "_t;" = "type " ++ domainType name ++ ";" := by
      simp [domainType, String.append_assoc]
    rw [domain, List.filterMap_cons, declaration?_of_head, List.filterMap_cons,
      declaration?_of_head, List.filterMap_cons, declaration?_of_type, List.filterMap_cons,
      declaration?_of_head]
    · rfl
    all_goals simp [String.toList_append]
  have entry : ["domain_entry_file(" ++ name ++ "_t, " ++ name ++ "_exec_t)"].filterMap
      (fun line => declaration? line.toList) = [] := by
    rw [List.filterMap_cons, declaration?_of_head]
    · rfl
    · simp [String.toList_append]
  have kinds : (Kind.all.flatMap (kindLines name)).filterMap
      (fun line => declaration? line.toList) = Kind.all.map (fileType name) := by
    have each : (fun kind => (kindLines name kind).filterMap fun line => declaration? line.toList) =
        fun kind => [fileType name kind] := funext (filterMap_kindLines name)
    rw [List.filterMap_flatMap, each, List.map_eq_flatMap]
  have plugs : (context.plugs.flatMap (plugLines name)).filterMap
      (fun line => declaration? line.toList) = [] := by
    rw [List.filterMap_flatMap, List.flatMap_eq_nil_iff]
    intro plug _
    exact filterMap_plugLines name plug
  rw [enforcementLines, List.filterMap_append, List.filterMap_append, List.filterMap_append,
    List.filterMap_append, opening, kinds, entry, plugs]
  simp [declaration?]

theorem lineFeed_not_mem_enforcementLines
    {name : String} {context : Context} {line : String}
    (named : '\n' ∉ name.toList)
    (importers : ∀ plug ∈ context.plugs, '\n' ∉ (moduleName plug.importId).toList)
    (member : line ∈ enforcementLines name context) :
    '\n' ∉ line.toList := by
  simp only [enforcementLines, List.mem_append, List.mem_flatMap, List.mem_cons, List.not_mem_nil,
    or_false] at member
  rcases member with (((fixed | ⟨kind, _, kinds⟩) | rfl) | ⟨plug, among, lines⟩) | rfl
  · rcases fixed with rfl | rfl | rfl | rfl <;> simp [String.toList_append, named]
  · have type := lineFeed_not_mem_fileType named kind
    simp only [kindLines, List.mem_cons, List.not_mem_nil, or_false] at kinds
    rcases kinds with rfl | rfl | rfl | rfl <;> simp [String.toList_append, named, type]
  · simp [String.toList_append, named]
  · have importer := importers plug among
    simp only [plugLines, List.mem_cons, List.not_mem_nil, or_false] at lines
    rcases lines with rfl | rfl | rfl | rfl <;> simp [String.toList_append, named, importer]
  · exact List.not_mem_nil

/-- The source of a module declares its domain and one type for each kind of file. -/
theorem declaredTypes_typeEnforcement
    {name : String} {context : Context}
    (named : '\n' ∉ name.toList)
    (importers : ∀ plug ∈ context.plugs, '\n' ∉ (moduleName plug.importId).toList) :
    declaredTypes (typeEnforcement name context) =
      domainType name :: Kind.all.map (fileType name) := by
  have lines : (typeEnforcement name context).toList.splitOn '\n' =
      (enforcementLines name context).map String.toList := by
    rw [typeEnforcement_eq, String.toList_intercalate]
    apply List.splitOn_intercalate
    · intro line member
      obtain ⟨text, among, rfl⟩ := List.mem_map.1 member
      exact lineFeed_not_mem_enforcementLines named importers among
    · exact List.cons_ne_nil _ _
  rw [declaredTypes, lines, List.filterMap_map, ← filterMap_enforcementLines name context]
  rfl

/-! ## Names -/

/-- The name of the module whose domain is called like the files of one kind of another module. -/
def namesake (name : String) (kind : Kind) : String := name ++ "_" ++ typeSuffix kind

theorem domainType_eq_iff {name other : String} :
    domainType name = domainType other ↔ name = other :=
  String.append_left_inj "_t"

theorem typeSuffix_injective
    {kind other : Kind}
    (same : typeSuffix kind = typeSuffix other) :
    kind = other := by
  have found (kind : Kind) :
      Kind.all.find? (fun among => typeSuffix among == typeSuffix kind) = some kind := by
    cases kind <;> decide
  have first := found kind
  rw [same, found other] at first
  exact (Option.some.inj first).symm

/-- The word behind the last underscore tells the kind, and what stands before it the module. -/
theorem namesake_eq_iff
    {name other : String} {kind otherKind : Kind} :
    namesake name kind = namesake other otherKind ↔ name = other ∧ kind = otherKind := by
  have plain (kind : Kind) : '_' ∉ (typeSuffix kind).toList := by
    cases kind <;> decide
  have chars (name : String) (kind : Kind) :
      (namesake name kind).toList = name.toList ++ '_' :: (typeSuffix kind).toList := by
    simp [namesake, String.toList_append]
  constructor
  · intro same
    have cut := congrArg String.toList same
    rw [chars, chars] at cut
    obtain ⟨before, behind⟩ := Text.eq_of_append_separator (plain kind) (plain otherKind) cut
    exact ⟨String.toList_inj.1 before, typeSuffix_injective (String.toList_inj.1 behind)⟩
  · rintro ⟨rfl, rfl⟩
    rfl

/-- The types of a module with the given name. -/
def typesOf (name : String) : List String := domainType name :: Kind.all.map (fileType name)

theorem mem_typesOf_iff {name type : String} :
    type ∈ typesOf name ↔
      type = domainType name ∨ ∃ kind, type = domainType (namesake name kind) := by
  rw [typesOf, List.mem_cons, List.mem_map]
  constructor
  · rintro (domain | ⟨kind, _, rfl⟩)
    · exact .inl domain
    · exact .inr ⟨kind, rfl⟩
  · rintro (domain | ⟨kind, rfl⟩)
    · exact .inl domain
    · exact .inr ⟨kind, kind.mem_all, rfl⟩

/-- A type that two modules have in common is the domain of one and a type of files of the other. -/
theorem mem_typesOf_both_iff
    {name other : String} (type : String)
    (apart : name ≠ other) :
    type ∈ typesOf name ∧ type ∈ typesOf other ↔
      (∃ kind, other = namesake name kind ∧ type = domainType other) ∨
        ∃ kind, name = namesake other kind ∧ type = domainType name := by
  rw [mem_typesOf_iff, mem_typesOf_iff]
  constructor
  · rintro ⟨rfl | ⟨kind, rfl⟩, same | ⟨otherKind, same⟩⟩
    · exact absurd (domainType_eq_iff.1 same) apart
    · exact .inr ⟨otherKind, domainType_eq_iff.1 same, rfl⟩
    · exact .inl ⟨kind, (domainType_eq_iff.1 same).symm, same⟩
    · exact absurd (namesake_eq_iff.1 (domainType_eq_iff.1 same)).1 apart
  · rintro (⟨kind, named, rfl⟩ | ⟨kind, named, rfl⟩)
    · exact ⟨.inr ⟨kind, congrArg domainType named⟩, .inl rfl⟩
    · exact ⟨.inl rfl, .inr ⟨kind, congrArg domainType named⟩⟩

/-! ## Modules of applications -/

theorem declaredTypes_of_reachable
    {id : String} {context : Context}
    (valid : isValidId id = true)
    (reachable : Reachable context) :
    declaredTypes (typeEnforcement (moduleName id) context) = typesOf (moduleName id) := by
  apply declaredTypes_typeEnforcement (lineFeed_not_mem_moduleName valid)
  intro plug member
  exact lineFeed_not_mem_moduleName (reachable.validIds.importers plug member)

/--
Two applications whose modules have different names, with any contexts.  The types that both sources
declare are domains: that of the one, where its name is a namesake of the other, and that of the
other, where it is the other way round.  So the declared types are disjoint exactly if neither name
is a namesake of the other.
-/
theorem common_types_iff
    {id other : String}
    (valid : isValidId id = true)
    (validOther : isValidId other = true)
    (apart : moduleName id ≠ moduleName other)
    {context otherContext : Context}
    (reachable : Reachable context)
    (reachableOther : Reachable otherContext) :
    let types := declaredTypes (typeEnforcement (moduleName id) context)
    let others := declaredTypes (typeEnforcement (moduleName other) otherContext)
    (∀ type, type ∈ types ∧ type ∈ others ↔
      (∃ kind, moduleName other = namesake (moduleName id) kind ∧
        type = domainType (moduleName other)) ∨
      ∃ kind, moduleName id = namesake (moduleName other) kind ∧
        type = domainType (moduleName id)) ∧
    (types.Disjoint others ↔ ∀ kind, moduleName other ≠ namesake (moduleName id) kind ∧
      moduleName id ≠ namesake (moduleName other) kind) := by
  intro types others
  have common (type : String) := mem_typesOf_both_iff type apart
  rw [← declaredTypes_of_reachable valid reachable,
    ← declaredTypes_of_reachable validOther reachableOther] at common
  refine ⟨common, ?_⟩
  constructor
  · intro disjoint kind
    constructor
    · intro named
      have both := (common (domainType (moduleName other))).2 (.inl ⟨kind, named, rfl⟩)
      exact disjoint both.1 both.2
    · intro named
      have both := (common (domainType (moduleName id))).2 (.inr ⟨kind, named, rfl⟩)
      exact disjoint both.1 both.2
  · intro unrelated type among also
    rcases (common type).1 ⟨among, also⟩ with ⟨kind, named, _⟩ | ⟨kind, named, _⟩
    · exact (unrelated kind).1 named
    · exact (unrelated kind).2 named

/-- An application that exports a directory to another. -/
def sharingSteps (id : String) : List Operation :=
  [.setId id, .addPlug (fun _ => .ok (.directory 0o755)) ⟨"d1", "x-y", "d2"⟩]

/-- Names of which one begins with the other need not lead to a common type. -/
theorem common_types_iff_of_longer_word :
    isValidId "ab" = true ∧ isValidId "ab-files" = true ∧
      moduleName "ab" ≠ moduleName "ab-files" ∧
      ∃ context, Reachable context ∧ context.plugs ≠ [] ∧
        (declaredTypes (typeEnforcement (moduleName "ab") context)).Disjoint
          (declaredTypes (typeEnforcement (moduleName "ab-files") Context.empty)) := by
  have valid : isValidId "ab" = true := by decide
  have validOther : isValidId "ab-files" = true := by decide
  have apart : moduleName "ab" ≠ moduleName "ab-files" := by decide
  have reachable : Reachable ((sharingSteps "ab").foldl Operation.leaves Context.empty) :=
    Reachable.empty.steps _
  refine ⟨valid, validOther, apart, _, reachable, by decide +kernel, ?_⟩
  apply (common_types_iff valid validOther apart reachable Reachable.empty).2.2
  intro kind
  cases kind <;> decide

/-- The domain of one application is declared as a type of another one's configuration files. -/
theorem domain_declared_as_file_type :
    ¬∀ id other, isValidId id = true → isValidId other = true →
      moduleName id ≠ moduleName other →
      ∀ context otherContext, Reachable context → Reachable otherContext →
        (declaredTypes (typeEnforcement (moduleName id) context)).Disjoint
          (declaredTypes (typeEnforcement (moduleName other) otherContext)) := by
  intro always
  have valid : isValidId "ab" = true := by decide
  have validOther : isValidId "ab-conf" = true := by decide
  have disjoint := always "ab" "ab-conf" valid validOther (by decide) _ _ Reachable.empty
    Reachable.empty
  rw [declaredTypes_of_reachable valid Reachable.empty,
    declaredTypes_of_reachable validOther Reachable.empty] at disjoint
  have file : "ab_conf_t" ∈ typesOf (moduleName "ab") :=
    mem_typesOf_iff.2 (.inr ⟨.conf, by decide⟩)
  have domain : "ab_conf_t" ∈ typesOf (moduleName "ab-conf") := mem_typesOf_iff.2 (.inl (by decide))
  exact disjoint file domain

end Confinement.Policy.Selinux
