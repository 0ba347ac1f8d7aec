/-!
# Paths

A path is a text; what it names depends on its components only.  `Path.components` gives them,
and two paths are the same path (`Path.Same`) when their components agree: repeated slashes, a
trailing slash and a `.` between two components do not count, a leading `.` does.

`Path.parent?` and `Path.join` are the textual operations on paths.

A doubled slash and a `.` between two slashes are other spellings of one slash, wherever they stand
(`same_of_doubled_slash`, `same_of_inner_dot`).
-/

namespace Confinement.Host.Path

/-- One step of a path. -/
inductive Component where
  | root
  /-- A leading `.`. -/
  | here
  /-- A `..`. -/
  | up
  | name (text : String)
  deriving DecidableEq, Repr

/-- A path cut at its slashes. -/
def segments (path : String) : List String :=
  (path.toList.splitOn '/').map String.ofList

/-- Whether a path starts at the root. -/
def isAbsolute (path : String) : Bool := path.toList.head? == some '/'

/-- The component that a segment inside a path stands for, if any. -/
def inner? (segment : String) : Option Component :=
  if segment = "" ∨ segment = "." then none
  else if segment = ".." then some .up
  else some (.name segment)

/-- The component that the first segment of a relative path stands for, if any. -/
def first? (segment : String) : Option Component :=
  if segment = "." then some .here else inner? segment

def components (path : String) : List Component :=
  if isAbsolute path then
    .root :: (segments path).filterMap inner?
  else
    match segments path with
    | [] => []
    | segment :: rest => (first? segment).toList ++ rest.filterMap inner?

/-- Two texts that name the same path. -/
def Same (left right : String) : Prop := components left = components right

instance (left right : String) : Decidable (Same left right) :=
  inferInstanceAs (Decidable (components left = components right))

/-- Segments joined by slashes. -/
def ofSegments (parts : List String) : String := String.intercalate "/" parts

/-- Drops trailing segments that stand for no component; the first of a relative path stands. -/
def dropTrailing (absolute : Bool) (parts : List String) : List String :=
  match absolute, parts with
  | true, parts => dropNull parts
  | false, [] => []
  | false, segment :: rest =>
    let kept := dropNull rest
    if kept.isEmpty ∧ segment = "" then [] else segment :: kept
where
  /-- Drops trailing empty and `.` segments. -/
  dropNull (parts : List String) : List String :=
    (parts.reverse.dropWhile (fun segment => segment == "" || segment == ".")).reverse

/-- The path without its last component, or `none` when it has no component but the root. -/
def parent? (path : String) : Option String :=
  let absolute := isAbsolute path
  let parts := if absolute then (segments path).drop 1 else segments path
  match dropTrailing absolute parts with
  | [] => none
  | kept =>
    let text := ofSegments (dropTrailing absolute kept.dropLast)
    some (if absolute then "/" ++ text else text)

/-- The last component of a path, when it is a name. -/
def fileName? (path : String) : Option String :=
  match (components path).getLast? with
  | some (.name text) => some text
  | _ => none

/-- What follows the last dot of a name, when something stands before that dot. -/
def extension? (name : String) : Option String :=
  let chars := name.toList
  let after := (chars.reverse.takeWhile (· ≠ '.')).reverse
  if after.length + 1 < chars.length then some (String.ofList after) else none

/-- A path followed by its parents; `fuel` bounds their number. -/
def ancestorsFrom (path : String) : Nat → List String
  | 0 => [path]
  | fuel + 1 =>
    match parent? path with
    | some parent => path :: ancestorsFrom parent fuel
    | none => [path]

/-- A path and its parents, nearest first. -/
def ancestors (path : String) : List String := ancestorsFrom path path.length

/-- The path of `child` seen from `base`; an absolute child stands for itself. -/
def join (base child : String) : String :=
  if isAbsolute child then child
  else if base = "" ∨ base.toList.getLast? = some '/' then base ++ child
  else base ++ "/" ++ child

/-! ## Spellings of one path -/

/-- The segments of a path stand side by side in a longer one. -/
theorem segments_join (left right : String) :
    segments (left ++ "/" ++ right) = segments left ++ segments right := by
  have cut : (left ++ "/" ++ right).toList.splitOn '/' =
      left.toList.splitOn '/' ++ right.toList.splitOn '/' := by
    rw [String.toList_append, String.toList_append, List.append_assoc]
    exact List.splitOn_append_cons_self left.toList right.toList
  rw [segments, cut, List.map_append, segments, segments]

theorem segments_ne_nil (path : String) : segments path ≠ [] := by
  rw [segments, ne_eq, List.map_eq_nil_iff]
  exact List.splitOn_ne_nil '/' path.toList

/-- A path starts at the root or not, whatever is added behind a slash. -/
theorem isAbsolute_join (left right other : String) :
    isAbsolute (left ++ "/" ++ right) = isAbsolute (left ++ "/" ++ other) := by
  have start (rest : String) :
      (left ++ "/" ++ rest).toList.head? = (left.toList ++ ['/']).head? := by
    rw [String.toList_append, String.toList_append]
    cases left.toList <;> rfl
  rw [isAbsolute, isAbsolute, start, start]

/-- A segment inside a path that stands for no component makes no difference. -/
theorem same_of_needless
    (left right : String) {middle : String}
    (whole : segments middle = [middle])
    (needless : inner? middle = none) :
    Same (left ++ "/" ++ (middle ++ "/" ++ right)) (left ++ "/" ++ right) := by
  have dropped (parts : List String) :
      (parts ++ ([middle] ++ segments right)).filterMap inner? =
        (parts ++ segments right).filterMap inner? := by
    simp [List.filterMap_append, needless]
  rw [Same, components, components, isAbsolute_join left _ right, segments_join, segments_join,
    segments_join, whole]
  split
  · rw [dropped]
  · obtain ⟨first, rest, parts⟩ := List.exists_cons_of_ne_nil (segments_ne_nil left)
    rw [parts]
    exact congrArg ((first? first).toList ++ ·) (dropped rest)

/-- A doubled slash is one slash. -/
theorem same_of_doubled_slash (left right : String) :
    Same (left ++ "//" ++ right) (left ++ "/" ++ right) := by
  have spelt : left ++ "//" ++ right = left ++ "/" ++ ("" ++ "/" ++ right) := by
    rw [show "//" = "/" ++ ("" ++ "/") by decide]
    simp only [String.append_assoc]
  rw [spelt]
  exact same_of_needless left right (by decide) (by decide)

/-- A `.` between two slashes does not count. -/
theorem same_of_inner_dot (left right : String) :
    Same (left ++ "/./" ++ right) (left ++ "/" ++ right) := by
  have spelt : left ++ "/./" ++ right = left ++ "/" ++ ("." ++ "/" ++ right) := by
    rw [show "/./" = "/" ++ ("." ++ "/") by decide]
    simp only [String.append_assoc]
  rw [spelt]
  exact same_of_needless left right (by decide) (by decide)

end Confinement.Host.Path
