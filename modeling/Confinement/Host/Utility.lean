import Confinement.Host.FileTree
import Confinement.Text.Number

/-!
# Utilities

The small programs that policy tools are made of.  Each is a function of its arguments, of what it
reads and of the file tree: `Utility.run?` gives what it leaves and prints, and the exit code, for
the programs that are known.
-/

namespace Confinement.Host.Utility

/-- What a utility does. -/
structure Effect where
  /-- The file tree that is left. -/
  tree : FileTree
  code : Nat := 0
  output : Bytes := []

/-- The letters of the options and the other arguments. -/
def arguments : List String → List Char × List String
  | [] => ([], [])
  | "--" :: rest => ([], rest)
  | argument :: rest =>
    let (letters, others) := arguments rest
    match argument.toList with
    | '-' :: letter :: more => (letter :: more ++ letters, others)
    | _ => (letters, argument :: others)

/-- Changes a file tree for each name; the exit code is 1 when one of the changes fails. -/
def changeEach (change : FileTree → String → Except Failure FileTree) (tree : FileTree)
    (names : List String) : Effect :=
  names.foldl (fun effect name =>
    match change effect.tree name with
    | .ok next => { effect with tree := next }
    | .error _ => { effect with code := 1 }) { tree, code := if names.isEmpty then 1 else 0 }

/-! ## Printing -/

/-- A text with its escapes replaced, and whether it ended early. -/
def unescaped : List Char → List Char × Bool
  | '\\' :: 'c' :: _ => ([], true)
  | '\\' :: c :: rest =>
    let (others, stopped) := unescaped rest
    let character? :=
      [('a', '\x07'), ('b', '\x08'), ('f', '\x0c'), ('n', '\n'), ('r', '\r'), ('t', '\t'),
        ('v', '\x0b'), ('\\', '\\')].lookup c
    match character? with
    | some character => (character :: others, stopped)
    | none => ('\\' :: c :: others, stopped)
  | c :: rest =>
    let (others, stopped) := unescaped rest
    (c :: others, stopped)
  | [] => ([], false)

/-- What `echo` prints. -/
def echoed : List String → String
  | "-n" :: words => String.ofList (unescaped (String.intercalate " " words).toList).1
  | words =>
    let (text, stopped) := unescaped (String.intercalate " " words).toList
    String.ofList text ++ (if stopped then "" else "\n")

/-- What a format prints once, and the arguments that are left. -/
def formatted : List Char → List String → List Char × List String
  | '%' :: '%' :: rest, words =>
    let (text, others) := formatted rest words
    ('%' :: text, others)
  | '%' :: kind :: rest, words =>
    let (text, others) := formatted rest words.tail
    let blank := if kind = 'd' ∨ kind = 'i' then "0" else ""
    ((words.headD blank).toList ++ text, others)
  | c :: rest, words =>
    let (text, others) := formatted rest words
    (c :: text, others)
  | [], words => ([], words)

/-- What `printf` prints: its format is used again as long as arguments are left. -/
def printed (format : List Char) (fuel : Nat) (words : List String) : List Char :=
  let (text, others) := formatted format words
  match fuel with
  | 0 => text
  | fuel + 1 =>
    if others.isEmpty ∨ others.length = words.length then text
    else text ++ printed format fuel others

/-! ## Files -/

/-- Makes an empty file, unless something is there. -/
def touch (tree : FileTree) (path : String) : Except Failure FileTree :=
  if tree.isPresent path then .ok tree else tree.writeFile path []

/-- The path of a file below a directory that is to hold it; other targets are paths themselves. -/
def targetOf (tree : FileTree) (path target : String) : String :=
  if tree.isDirectory target then Path.join target ((Path.fileName? path).getD "") else target

/-- The place of something, links at the end not followed. -/
def placeOf (tree : FileTree) (path : String) : Except Failure (Place × Node) :=
  match tree.locate false (FileTree.withoutTrailingSlashes path) with
  | .error cause => .error cause
  | .ok (.vacant _ _) => .error (.os .noEntry)
  | .ok (.present place node) => .ok (place, node)

/-- What is listed of a place and below it, moved to another place. -/
def below {Entry : Type} (entries : List (Place × Entry)) (place target : Place) :
    List (Place × Entry) :=
  (entries.filter fun entry => FileTree.isWithin place entry.1).map fun entry =>
    (target ++ entry.1.drop place.length, entry.2)

/-- Copies a file, or a directory with all it holds. -/
def copy (isDeep : Bool) (target : String) (tree : FileTree) (path : String) :
    Except Failure FileTree := do
  let goal := targetOf tree path target
  match ← tree.stat path with
  | .directory _ =>
    let (place, _) ← placeOf tree path
    if !isDeep then throw (.os .isADirectory)
    match ← tree.locate true (FileTree.withoutTrailingSlashes goal) with
    | .present _ _ => throw (.os .exists)
    | .vacant parent name =>
      if !tree.may .change parent then throw (.os .accessDenied)
      let found := below tree.entries place (parent ++ [name])
      return found.foldl (fun tree entry => tree.add entry.1 entry.2) tree
  | _ =>
    if (tree.locate true path).toOption = (tree.locate true goal).toOption then
      throw (.os .invalid)
    tree.writeFile goal (← tree.readFile path)

/-- Gives something another place. -/
def move (target : String) (tree : FileTree) (path : String) : Except Failure FileTree := do
  let (place, node) ← placeOf tree path
  let goal := targetOf tree path target
  let (parent, name) ← match ← tree.locate false (FileTree.withoutTrailingSlashes goal) with
    | .vacant parent name => pure (parent, name)
    | .present found other =>
      if node.isDirectory ∨ other.isDirectory ∨ found = place then throw (.os .exists)
      pure (found.dropLast, found.getLastD "")
  if FileTree.isWithin place (parent ++ [name]) then throw (.os .invalid)
  if let some cause := tree.removalBar? place then throw (.os cause)
  if !tree.may .change parent then throw (.os .accessDenied)
  let goal := parent ++ [name]
  let rest := (tree.without place).without goal
  return { rest with
    entries := below tree.entries place goal ++ rest.entries
    owners := below tree.owners place goal ++ rest.owners }

/-- Makes a link, in place of what is there when `isForced` is set. -/
def link (isSymbolic isForced : Bool) (target : String) (tree : FileTree) (path : String) :
    Except Failure FileTree := do
  let goal := targetOf tree path target
  let cleared := if isForced then (tree.removeFile goal).toOption.getD tree else tree
  if isSymbolic then cleared.makeLink goal path
  else
    match placeOf cleared path, cleared.locate false goal with
    | .ok (_, .file content), .ok (.vacant _ _) => cleared.writeFile goal content
    | _, _ => throw (.os .exists)

/-- Does something for all names but the last, for which that one is the target. -/
def toLast (change : String → FileTree → String → Except Failure FileTree) (tree : FileTree)
    (names : List String) : Effect :=
  match names.getLast? with
  | none => { tree, code := 1 }
  | some target =>
    if names.length > 2 ∧ !tree.isDirectory target then { tree, code := 1 }
    else changeEach (change target) tree names.dropLast

def remove (isDeep isForced : Bool) (tree : FileTree) (path : String) : Except Failure FileTree :=
  match placeOf tree path with
  | .error cause => if isForced ∧ cause = .os .noEntry then .ok tree else .error cause
  | .ok (_, .directory _) => if isDeep then tree.removeAll path else .error (.os .isADirectory)
  | .ok _ => tree.removeFile path

/-- Removes a directory that holds nothing. -/
def removeEmpty (tree : FileTree) (path : String) : Except Failure FileTree :=
  match placeOf tree path with
  | .error cause => .error cause
  | .ok (place, .directory _) =>
    match tree.removalBar? place with
    | some cause => .error (.os cause)
    | none =>
      if (below tree.entries place place).length = 1 then .ok (tree.erase place)
      else .error (.os .notEmpty)
  | .ok _ => .error (.os .notADirectory)

/-- The files of some names after one another, or what is read when there are none. -/
def concatenated (tree : FileTree) (input : Bytes) (names : List String) : Effect :=
  if names.isEmpty then { tree, output := input }
  else
    names.foldl (fun effect name =>
      match if name = "-" then .ok input else tree.readFile name with
      | .ok content => { effect with output := effect.output ++ content }
      | .error _ => { effect with code := 1 }) { tree }

/-- The names in a directory, without those that begin with a dot. -/
def namesIn (tree : FileTree) (path : String) : List String :=
  match tree.locate true path with
  | .ok (.present place (.directory _)) =>
    Text.ascending (tree.entries.filterMap fun entry =>
      if entry.1.length = place.length + 1 ∧ FileTree.isWithin place entry.1 then
        entry.1.getLast?.filter fun name => name.toList.head? != some '.'
      else
        none)
  | _ => []

/-! ## Questions -/

/-- The number that a text spells. -/
def integer? (text : String) : Option Int :=
  match text.toList with
  | '-' :: digits => (Text.digits? digits).map fun value => -(value : Int)
  | digits => (Text.digits? (Text.dropPlus digits)).map fun value => (value : Int)

/-- Compares two numbers as a word says. -/
def comparison? (word : String) : Option (Int → Int → Bool) :=
  [("-eq", fun left right => left == right), ("-ne", fun left right => left != right),
    ("-lt", fun left right => decide (left < right)),
    ("-le", fun left right => decide (left ≤ right)),
    ("-gt", fun left right => decide (right < left)),
    ("-ge", fun left right => decide (right ≤ left))].lookup word

/-- Answers a question about one word. -/
def question? (tree : FileTree) (word operand : String) : Option Bool :=
  match word with
  | "-n" => some (operand != "")
  | "-z" => some (operand == "")
  | "-e" | "-r" | "-w" => some (tree.isPresent operand)
  | "-x" | "-d" => some (tree.isDirectory operand)
  | "-f" => some (tree.isFile operand)
  | "-s" =>
    some (match tree.stat operand with
      | .ok (.file content) => !content.isEmpty
      | .ok node => node.isDirectory
      | .error _ => false)
  | "-L" | "-h" =>
    some (match tree.linkStat operand with
      | .ok (.link _) => true
      | _ => false)
  | _ => none

/-- The answer to a question, unless it is none. -/
def answer? (tree : FileTree) : List String → Option Bool
  | [] => some false
  | [word] => some (word != "")
  | ["!", word] => some (word == "")
  | [word, operand] => question? tree word operand
  | [left, "=", right] => some (left == right)
  | [left, "!=", right] => some (left != right)
  | "!" :: rest => (answer? tree rest).map not
  | [left, word, right] =>
    match comparison? word, integer? left, integer? right with
    | some compare, some left, some right => some (compare left right)
    | _, _, _ => none
  | _ => none

/-- What a question comes to: 2 is the exit code when it is none. -/
def asked (tree : FileTree) (words : List String) : Effect :=
  match answer? tree words with
  | some answer => { tree, code := if answer then 0 else 1 }
  | none => { tree, code := 2 }

/-! ## The programs -/

/-- What a utility does, when it is known. -/
def run? (tree : FileTree) (input : Bytes) (name : String) (words : List String) : Option Effect :=
  let (letters, names) := arguments words
  let isDeep := letters.any fun letter => letter ∈ ['r', 'R', 'a']
  let isForced := letters.contains 'f'
  match name with
  | "true" | "sleep" => some { tree }
  | "false" => some { tree, code := 1 }
  | "echo" => some { tree, output := Text.bytes (echoed words) }
  | "printf" =>
    match words with
    | [] => some { tree, code := 2 }
    | format :: values =>
      let text := printed (unescaped format.toList).1 values.length values
      some { tree, output := Text.bytes (String.ofList text) }
  | "pwd" => some { tree, output := Text.bytes ("/" ++ String.intercalate "/" tree.start ++ "\n") }
  | "touch" => some (changeEach touch tree names)
  | "mkdir" =>
    let make (tree : FileTree) (path : String) : Except Failure FileTree :=
      if letters.contains 'p' then tree.makeAll path else tree.makeDirectory 0o755 path
    some (changeEach make tree names)
  | "rmdir" => some (changeEach removeEmpty tree names)
  | "rm" =>
    if names.isEmpty ∧ isForced then some { tree }
    else some (changeEach (remove isDeep isForced) tree names)
  | "cp" => some (toLast (copy isDeep) tree names)
  | "mv" => some (toLast move tree names)
  | "ln" => some (toLast (link (letters.contains 's') isForced) tree names)
  | "chmod" =>
    some (changeEach (fun tree path => (tree.stat path).map fun _ => tree) tree words.tail)
  | "cat" => some (concatenated tree input names)
  | "tee" =>
    let effect := changeEach (fun tree path => tree.writeFile path input) tree names
    some { effect with output := input, code := if names.isEmpty then 0 else effect.code }
  | "ls" =>
    let listed := names.headD "."
    if tree.isDirectory listed then
      some { tree, output := Text.bytes (String.join ((namesIn tree listed).map (· ++ "\n"))) }
    else if tree.isPresent listed then some { tree, output := Text.bytes (listed ++ "\n") }
    else some { tree, code := 2 }
  | "basename" =>
    some { tree, output := Text.bytes ((Path.fileName? (names.headD "")).getD "" ++ "\n") }
  | "dirname" =>
    let parent := (Path.parent? (names.headD "")).getD ""
    some { tree, output := Text.bytes ((if parent = "" then "." else parent) ++ "\n") }
  | "test" => some (asked tree words)
  | "[" =>
    if words.getLast? = some "]" then some (asked tree words.dropLast) else some { tree, code := 2 }
  | _ => none

end Confinement.Host.Utility
