import Confinement.Policy.Selinux
import Confinement.Proofs.Policy.RuleText
import Confinement.Proofs.Staging.Reachable
import Confinement.Proofs.Text.Splitting

/-!
# Locations in a policy module

The source that gives each location its type has one line for each location, and a line is read back
by taking what stands before the mark that covers all that is below a directory, and removing the
escapes.  An escaped path never holds the mark, because the mark begins with a character that is
escaped.

Only characters with a meaning in a pattern are escaped, and a line feed, which ends the line, is
none of them.  So the source says what was staged exactly when no location has a line feed in it
(`fileContexts_states_locations`); a path with one is two lines, neither of which is the path
(`path_in_two_lines`).
-/

namespace Confinement.Policy.Selinux

open Staging

/-! ## Reading a line back -/

/-- What stands behind a location and covers all that is below it. -/
def locationMark : List Char := ['(', '/', '.', '*', ')', '?', '\t']

/-- What stands before the first occurrence of a mark. -/
def before? (mark : List Char) : List Char → Option (List Char)
  | [] => if mark.isEmpty then some [] else none
  | c :: rest =>
    if mark.isPrefixOf (c :: rest) then some [] else (before? mark rest).map (c :: ·)

/-- A pattern without its escapes. -/
def unescape : List Char → List Char
  | [] => []
  | [c] => [c]
  | c :: next :: rest => if c = '\\' then next :: unescape rest else c :: unescape (next :: rest)

/-- The location that a line is about. -/
def readLocation (line : List Char) : Option String :=
  (before? locationMark line).map fun pattern => String.ofList (unescape pattern)

/-- The characters of a pattern that stands for a path. -/
def escaped (path : List Char) : List Char :=
  path.flatMap fun c => if c ∈ patternChars then ['\\', c] else [c]

theorem escaped_cons (c : Char) (rest : List Char) :
    escaped (c :: rest) = (if c ∈ patternChars then ['\\', c] else [c]) ++ escaped rest :=
  List.flatMap_cons

theorem unescape_cons_of_ne
    {c : Char} (ordinary : c ≠ '\\')
    (rest : List Char) :
    unescape (c :: rest) = c :: unescape rest := by
  cases rest with
  | nil => rfl
  | cons next others => rw [unescape, if_neg ordinary]

/-- Removing the escapes of an escaped path gives the path. -/
theorem unescape_escaped (path : List Char) : unescape (escaped path) = path := by
  induction path with
  | nil => rfl
  | cons c rest hypothesis =>
      rw [escaped_cons]
      by_cases special : c ∈ patternChars
      · rw [if_pos special, List.cons_append, List.cons_append, List.nil_append, unescape,
          if_pos rfl, hypothesis]
      · have ordinary : c ≠ '\\' := by
          rintro rfl
          exact special (by decide)
        rw [if_neg special, List.cons_append, List.nil_append, unescape_cons_of_ne ordinary,
          hypothesis]

/-- Removing escapes adds no character. -/
theorem mem_of_mem_unescape {c : Char} {pattern : List Char} (member : c ∈ unescape pattern) :
    c ∈ pattern := by
  fun_induction unescape pattern with
  | case1 => exact member
  | case2 => exact member
  | case3 next rest hypothesis =>
      rcases List.mem_cons.1 member with rfl | later
      · exact List.mem_cons_of_mem _ List.mem_cons_self
      · exact List.mem_cons_of_mem _ (List.mem_cons_of_mem _ (hypothesis later))
  | case4 first next rest ordinary hypothesis =>
      rcases List.mem_cons.1 member with rfl | later
      · exact List.mem_cons_self
      · exact List.mem_cons_of_mem _ (hypothesis later)

theorem mem_of_mem_before?
    {mark line pattern : List Char} {c : Char}
    (found : before? mark line = some pattern)
    (member : c ∈ pattern) :
    c ∈ line := by
  induction line generalizing pattern with
  | nil =>
      rw [before?] at found
      split at found
      · cases found
        exact member
      · cases found
  | cons first rest hypothesis =>
      rw [before?] at found
      split at found
      · cases found
        cases member
      · obtain ⟨shorter, inside, rfl⟩ := Option.map_eq_some_iff.1 found
        rcases List.mem_cons.1 member with rfl | later
        · exact List.mem_cons_self
        · exact List.mem_cons_of_mem _ (hypothesis inside later)

/-- A location that is read back has no character that its line has not. -/
theorem mem_of_readLocation
    {line : List Char} {place : String}
    (read : readLocation line = some place)
    {c : Char} (member : c ∈ place.toList) :
    c ∈ line := by
  obtain ⟨pattern, found, rfl⟩ := Option.map_eq_some_iff.1 read
  rw [String.toList_ofList] at member
  exact mem_of_mem_before? found (mem_of_mem_unescape member)

/-! ## The first mark -/

theorem before?_cons_of_ne
    {c : Char} (other : c ≠ '(')
    (rest : List Char) :
    before? locationMark (c :: rest) = (before? locationMark rest).map (c :: ·) := by
  rw [before?, if_neg]
  intro marked
  rw [List.isPrefixOf_iff_prefix, locationMark, List.cons_prefix_cons] at marked
  exact other marked.1.symm

/--
A bracket before an escaped path does not begin the mark: the dot of the mark would have to be one
of the path, and these are escaped.
-/
theorem not_marked (path tail : List Char) :
    ¬locationMark <+: '(' :: (escaped path ++ (locationMark ++ tail)) := by
  have noDot (path : List Char) :
      (escaped path ++ (locationMark ++ tail)).head? ≠ some '.' := by
    cases path with
    | nil => simp [escaped, locationMark]
    | cons c rest =>
        rw [escaped_cons]
        by_cases special : c ∈ patternChars
        · simp [special]
        · have plain : c ≠ '.' := by
            rintro rfl
            exact special (by decide)
          simp [special, plain]
  rw [locationMark, List.cons_prefix_cons]
  rintro ⟨_, marked⟩
  cases path with
  | nil =>
      rw [escaped, List.flatMap_nil, List.nil_append, List.cons_append,
        List.cons_prefix_cons] at marked
      exact absurd marked.1 (by decide)
  | cons c rest =>
      rw [escaped_cons] at marked
      by_cases special : c ∈ patternChars
      · rw [if_pos special, List.cons_append, List.cons_append, List.cons_prefix_cons] at marked
        exact absurd marked.1 (by decide)
      · rw [if_neg special, List.cons_append, List.cons_append, List.nil_append,
          List.cons_prefix_cons] at marked
        obtain ⟨others, same⟩ := marked.2
        apply noDot rest
        rw [locationMark, ← same]
        rfl

/-- The mark behind an escaped path is the first one. -/
theorem before?_escaped (path tail : List Char) :
    before? locationMark (escaped path ++ (locationMark ++ tail)) = some (escaped path) := by
  induction path with
  | nil =>
      rw [escaped, List.flatMap_nil, List.nil_append, locationMark, List.cons_append, before?,
        if_pos]
      rw [List.isPrefixOf_iff_prefix]
      exact List.prefix_append _ _
  | cons c rest hypothesis =>
      rw [escaped_cons]
      by_cases special : c ∈ patternChars
      · rw [if_pos special]
        show before? locationMark ('\\' :: c :: (escaped rest ++ (locationMark ++ tail))) = _
        rw [before?_cons_of_ne (by decide)]
        by_cases bracket : c = '('
        · rw [bracket, before?, if_neg, hypothesis]
          · rfl
          · rw [List.isPrefixOf_iff_prefix]
            exact not_marked rest tail
        · rw [before?_cons_of_ne bracket, hypothesis]
          rfl
      · have other : c ≠ '(' := by
          rintro rfl
          exact special (by decide)
        rw [if_neg special]
        show before? locationMark (c :: (escaped rest ++ (locationMark ++ tail))) = _
        rw [before?_cons_of_ne other, hypothesis]
        rfl

/-! ## Lines -/

/-- The line of a location without its end. -/
def lineOf (name : String) (location : String × Kind) : List Char :=
  escaped location.1.toList ++
    (locationMark ++
      ("gen_context(system_u:object_r:" ++ fileType name location.2 ++ ",s0)").toList)

theorem toList_locationLine (name : String) (location : String × Kind) :
    (locationLine name location).toList = lineOf name location ++ ['\n'] := by
  simp [locationLine, lineOf, escapePattern, escaped, locationMark, String.toList_append]

theorem readLocation_lineOf (name : String) (location : String × Kind) :
    readLocation (lineOf name location) = some location.1 := by
  rw [readLocation, lineOf, before?_escaped, Option.map_some, unescape_escaped,
    String.ofList_toList]

theorem lineOf_ne_nil (name : String) (location : String × Kind) : lineOf name location ≠ [] :=
  List.append_ne_nil_of_right_ne_nil _ (List.cons_ne_nil _ _)

theorem lineFeed_not_mem_fileType
    {name : String}
    (named : '\n' ∉ name.toList)
    (kind : Kind) :
    '\n' ∉ (fileType name kind).toList := by
  rw [fileType, String.toList_append, String.toList_append, String.toList_append]
  simp only [List.mem_append, not_or]
  refine ⟨⟨⟨named, by decide⟩, ?_⟩, by decide⟩
  cases kind <;> decide

/-- A line is one line unless its location or the name of the module is not. -/
theorem lineFeed_not_mem_lineOf
    {name : String} {location : String × Kind}
    (named : '\n' ∉ name.toList)
    (place : '\n' ∉ location.1.toList) :
    '\n' ∉ lineOf name location := by
  have type := lineFeed_not_mem_fileType named location.2
  rw [lineOf, String.toList_append, String.toList_append]
  simp only [List.mem_append, not_or]
  refine ⟨?_, by decide, ⟨by decide, type⟩, by decide⟩
  intro member
  obtain ⟨c, inside, among⟩ := List.mem_flatMap.1 member
  by_cases special : c ∈ patternChars
  · rw [if_pos special] at among
    rcases List.mem_cons.1 among with escape | self
    · exact absurd escape (by decide)
    · rw [← List.mem_singleton.1 self] at inside
      exact place inside
  · rw [if_neg special] at among
    rw [← List.mem_singleton.1 among] at inside
    exact place inside

/-- The source is made of the lines, each with its end. -/
theorem toList_fileContexts (name : String) (context : Context) :
    (fileContexts name context).toList =
      (locations context).flatMap fun location => lineOf name location ++ ['\n'] := by
  rw [fileContexts]
  generalize locations context = places
  induction places with
  | nil => rfl
  | cons location rest hypothesis =>
      rw [List.map_cons, String.join_cons, String.toList_append, toList_locationLine, hypothesis,
        List.flatMap_cons]

/-! ## The source as a statement of the locations -/

/-- The places that get a type: the staged paths, then the exported directories. -/
def places (context : Context) : List String :=
  context.paths.map (·.path) ++ context.plugs.map (·.exportDirectory)

/-- Whether the lines of a text are about the given places, one each and in their order. -/
def States (text : String) (places : List String) : Prop :=
  ∃ lines, text.toList.splitOn '\n' = lines ++ [[]] ∧ (∀ line ∈ lines, line ≠ []) ∧
    lines.map readLocation = places.map some

/-- Lines that are about places say that the places have no line feed in them. -/
theorem States.unbroken
    {text : String} {places : List String}
    (states : States text places) :
    ∀ place ∈ places, '\n' ∉ place.toList := by
  obtain ⟨lines, split, _, read⟩ := states
  intro place member broken
  have among : some place ∈ lines.map readLocation := by
    rw [read]
    exact List.mem_map_of_mem member
  obtain ⟨line, inside, about⟩ := List.mem_map.1 among
  have part : line ∈ text.toList.splitOn '\n' := by
    rw [split]
    exact List.mem_append_left _ inside
  exact Text.not_mem_of_mem_splitOn part (mem_of_readLocation about broken)

theorem states_of_unbroken
    {name : String} {context : Context}
    (named : '\n' ∉ name.toList)
    (unbroken : ∀ place ∈ places context, '\n' ∉ place.toList) :
    States (fileContexts name context) (places context) := by
  have about : (locations context).map (fun location => location.1) = places context := by
    rw [locations, places, List.map_append, List.map_map, List.map_map]
    rfl
  refine ⟨(locations context).map (lineOf name), ?_, ?_, ?_⟩
  · rw [toList_fileContexts, ← List.flatMap_map (lineOf name) (fun line => line ++ ['\n'])]
    apply Text.splitOn_lines
    intro line member
    obtain ⟨location, inside, rfl⟩ := List.mem_map.1 member
    apply lineFeed_not_mem_lineOf named
    apply unbroken
    rw [← about]
    exact List.mem_map_of_mem inside
  · intro line member
    obtain ⟨location, _, rfl⟩ := List.mem_map.1 member
    exact lineOf_ne_nil name location
  · rw [List.map_map, ← about, List.map_map]
    apply List.map_congr_left
    intro location _
    exact readLocation_lineOf name location

/-- The name of an application's module is one line. -/
theorem lineFeed_not_mem_moduleName
    {id : String}
    (valid : isValidId id = true) :
    '\n' ∉ (moduleName id).toList := by
  rw [moduleName, String.toList_ofList]
  intro member
  obtain ⟨c, inside, same⟩ := List.mem_map.1 member
  split at same
  · exact absurd same (by decide)
  · rw [same] at inside
    exact absurd (unbroken_of_isValidId valid '\n' inside) (by decide)

/--
The source of an application's module states the staged paths and then the exported directories, one
line each and in their order, exactly when none of them has a line feed in it.
-/
theorem fileContexts_states_locations
    {id : String}
    (valid : isValidId id = true)
    (context : Context) :
    States (fileContexts (moduleName id) context) (places context) ↔
      ∀ place ∈ places context, '\n' ∉ place.toList := by
  constructor
  · exact States.unbroken
  · exact states_of_unbroken (lineFeed_not_mem_moduleName valid)

/-- Paths that hold the mark of a line, an escape at their end, or a first part of the mark. -/
def markedPaths : Context where
  id := some "my-app"
  needsId := true
  paths := [⟨"/a(/.*)?\tb\\", .conf⟩, ⟨"we ird.d", .plain⟩]
  plugs := [⟨"x(/", "cd", "d2"⟩]

theorem fileContexts_states_locations_with_marks :
    isValidId "my-app" = true ∧
      States (fileContexts (moduleName "my-app") markedPaths)
        ["/a(/.*)?\tb\\", "we ird.d", "x(/"] := by
  have valid : isValidId "my-app" = true := by decide
  exact ⟨valid, (fileContexts_states_locations valid markedPaths).2 (by decide)⟩

/-- A directory with a line feed in its name is staged. -/
def brokenPath : Context :=
  [Operation.setId "ab", .addPath (fun _ => .ok (.directory 0o755)) "a\nb" .conf].foldl
    Operation.leaves Context.empty

/-- A path with a line feed in it takes two lines, and neither is read back as the path. -/
theorem path_in_two_lines :
    ¬∀ context : Context, Reachable context → ∀ id, isValidId id = true →
      States (fileContexts (moduleName id) context) (places context) := by
  intro always
  have states := always brokenPath (Reachable.empty.steps _) "ab" (by decide)
  have staged : "a\nb" ∈ places brokenPath := by decide +kernel
  exact states.unbroken "a\nb" staged (by decide)

end Confinement.Policy.Selinux
