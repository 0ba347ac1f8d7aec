import Confinement.Host.ShellScript
import Confinement.Host.Sum
import Confinement.Host.Utility

/-!
# Shells

A shell carries out a script: it replaces parameters in words, cuts the results into words, opens
the files of redirections, and runs utilities and the few commands that are its own.  `Shell.run`
gives the shell after a script; the file tree that is left is part of it.

The process number of a shell is made up, and what it complains about is not kept.
-/

namespace Confinement.Host

/-- How a program ended. -/
inductive Status where
  | exited (code : Nat)
  | killed (signal : Nat)
  deriving DecidableEq, Repr

namespace Status

/-- The signals that end a program, by number. -/
def signals : List (Nat × String) :=
  [(1, "HUP"), (2, "INT"), (3, "QUIT"), (4, "ILL"), (5, "TRAP"), (6, "ABRT"), (7, "BUS"),
    (8, "FPE"), (9, "KILL"), (10, "USR1"), (11, "SEGV"), (12, "USR2"), (13, "PIPE"), (14, "ALRM"),
    (15, "TERM")]

/-- The words in which a status is told. -/
def message : Status → String
  | .exited code => "exit status: " ++ toString code
  | .killed signal =>
    "signal: " ++ toString signal ++
      ((signals.lookup signal).elim "" fun name => " (SIG" ++ name ++ ")")

/-- The exit code under which a shell knows a status. -/
def code : Status → Nat
  | .exited code => code
  | .killed signal => 128 + signal

/-- The signal that a word names, by number or by name. -/
def signal? (word : String) : Option Nat :=
  (signals.find? fun entry =>
    toString entry.1 == word || entry.2 == word || "SIG" ++ entry.2 == word).map Prod.fst

end Status

/-- Where output goes. -/
inductive Outlet where
  /-- To the one who runs the shell. -/
  | outside
  | nowhere
  | file (place : Place)
  deriving DecidableEq, Repr

/-- A shell. -/
structure Shell where
  /-- The file tree; it starts at the shell's directory. -/
  tree : FileTree
  parameters : List String
  values : List (String × String) := []
  input : Bytes := []
  output : Outlet := .outside
  complaints : Outlet := .nowhere
  shown : Bytes := []
  /-- The exit code of the last command. -/
  code : Nat := 0
  /-- Whether a command that fails ends the shell. -/
  isStrict : Bool := false
  ended : Option Status := none

namespace Shell

/-- The process number that a shell tells of itself. -/
def ownNumber : String := "2"

def put (shell : Shell) (outlet : Outlet) (data : Bytes) : Shell :=
  match outlet with
  | .outside => { shell with shown := shell.shown ++ data }
  | .nowhere => shell
  | .file place =>
    match shell.tree.lookup place with
    | some (.file content) =>
      { shell with tree := shell.tree.insert place (.file (content ++ data)) }
    | _ => shell

def finish (shell : Shell) (status : Status) : Shell :=
  { shell with ended := some status, code := status.code }

/-- The status of a shell whose script is over. -/
def status (shell : Shell) : Status := shell.ended.getD (.exited shell.code)

/-! ## Parameters -/

/-- The values that a parameter stands for; only some stand for other than one. -/
def parameter (shell : Shell) (name : String) : List String :=
  match name with
  | "@" | "*" => shell.parameters.tail
  | "#" => [toString (shell.parameters.length - 1)]
  | "?" => [toString shell.code]
  | "$" => [ownNumber]
  | _ =>
    match name.toNat? with
    | some index => [(shell.parameters[index]?).getD ""]
    | none => [(shell.values.lookup name).getD ""]

/-- The number that a parameter stands for. -/
def number (shell : Shell) (name : String) : Int :=
  (Utility.integer? (String.join (shell.parameter name))).getD 0

/-- A word under way: each character with whether it is quoted. -/
abbrev Field := List (Char × Bool)

/-- The words that pieces come to. -/
structure Fields where
  /-- The words that are finished, the last one first. -/
  done : List Field := []
  /-- The word under way, reversed. -/
  current : Option Field := none

namespace Fields

/-- Adds characters to the word under way. -/
def add (fields : Fields) (isQuoted : Bool) (text : List Char) : Fields :=
  { fields with
    current := some ((text.map fun c => (c, isQuoted)).reverse ++ fields.current.getD []) }

/-- Finishes the word under way. -/
def close (fields : Fields) : Fields :=
  match fields.current with
  | some field => ⟨field.reverse :: fields.done, none⟩
  | none => fields

/-- Adds characters and begins another word at blanks. -/
def split (fields : Fields) (text : List Char) : Fields :=
  text.foldl (fun fields c =>
    if c = ' ' ∨ c = '\t' ∨ c = '\n' then fields.close else fields.add false [c]) fields

/-- Adds a value, cut at blanks unless it is quoted. -/
def addValue (fields : Fields) (isQuoted : Bool) (value : String) : Fields :=
  if isQuoted then fields.add true value.toList else fields.split value.toList

/-- Adds values, each but the first as another word. -/
def addEach (fields : Fields) (isQuoted : Bool) : List String → Fields
  | [] => fields
  | value :: rest =>
    rest.foldl (fun fields next => fields.close.addValue isQuoted next)
      (fields.addValue isQuoted value)

/-- The finished words, in order. -/
def toList (fields : Fields) : List Field := fields.close.done.reverse

end Fields

/-- Whether a name fits a pattern, in which only characters without quotes stand for others. -/
def fits (fuel : Nat) (pattern : Field) (name : List Char) : Bool :=
  match fuel, pattern, name with
  | 0, _, _ => false
  | _, [], name => name.isEmpty
  | fuel + 1, ('*', false) :: rest, name =>
    fits fuel rest name || (!name.isEmpty && fits fuel (('*', false) :: rest) name.tail)
  | fuel + 1, ('?', false) :: rest, _ :: others => fits fuel rest others
  | fuel + 1, (c, _) :: rest, d :: others => c == d && fits fuel rest others
  | _, _ :: _, [] => false

/-- The words for a word: the names that it fits, if it is a pattern and fits any. -/
def names (tree : FileTree) (field : Field) : List String :=
  let text := String.ofList (field.map Prod.fst)
  let isPattern := field.contains ('*', false) || field.contains ('?', false)
  let found :=
    if isPattern && !text.toList.contains '/' then
      (Utility.namesIn tree ".").filter fun name =>
        fits (2 * (field.length + name.length) + 2) field name.toList
    else []
  if found.isEmpty then [text] else found

/-! ## Redirections -/

/-- The place of a file that is made for output, its content kept or not. -/
def openFile (tree : FileTree) (keeps : Bool) (path : String) :
    Except Failure (FileTree × Outlet) := do
  if path = "/dev/null" then return (tree, .nowhere)
  let next ← if keeps && tree.isFile path then pure tree else tree.writeFile path []
  match ← next.locate true path with
  | .present place _ => return (next, Outlet.file place)
  | .vacant _ _ => throw (.os .noEntry)

/-- Carries out a redirection to the file or stream that a word names. -/
def redirect (shell : Shell) (stream : Nat) (kind : RedirectionKind) (target : String) :
    Except Failure Shell := do
  let sent (shell : Shell) (outlet : Outlet) : Shell :=
    if stream = 1 then { shell with output := outlet }
    else if stream = 2 then { shell with complaints := outlet }
    else shell
  match kind with
  | .source =>
    if target = "/dev/null" then return { shell with input := [] }
    return { shell with input := ← shell.tree.readFile target }
  | .write | .append =>
    let (tree, outlet) ← openFile shell.tree (kind = .append) target
    return sent { shell with tree } outlet
  | .same =>
    return sent shell
      (if target = "1" then shell.output else if target = "2" then shell.complaints else .nowhere)

/-- A shell after a part of its script, with input and output as they were before. -/
def restored (before after : Shell) : Shell :=
  { after with input := before.input, output := before.output, complaints := before.complaints }

/-- A shell after a part of its script that was carried out by another one. -/
def isolated (before after : Shell) : Shell :=
  { before with
    tree := { after.tree with start := before.tree.start }
    shown := after.shown
    code := after.status.code
    ended := match after.ended with
      | some (.killed signal) => some (.killed signal)
      | _ => none }

/-! ## Commands -/

/-- Goes to another directory; without a name nothing happens. -/
def goTo (shell : Shell) : List String → Shell
  | [] => { shell with code := 0 }
  | path :: _ =>
    match shell.tree.locate true path with
    | .ok (.present place (.directory _)) =>
      { shell with tree := { shell.tree with start := place }, code := 0 }
    | _ => { shell with code := 2 }

/-- Sends a signal; only the shell itself can be reached. -/
def kill (shell : Shell) (words : List String) : Shell :=
  let (signal, target) := match words with
    | ["-s", name, target] => (name, target)
    | [word, target] => (String.ofList (word.toList.dropWhile (· == '-')), target)
    | [target] => ("TERM", target)
    | _ => ("", "")
  match Status.signal? signal with
  | some number =>
    if target = ownNumber then shell.finish (.killed number) else { shell with code := 1 }
  | none => { shell with code := if signal = "0" ∧ target = ownNumber then 0 else 1 }

/-- Sets parameters and the strictness of a shell. -/
def configure (shell : Shell) (words : List String) : Shell :=
  let shell := { shell with code := 0 }
  match words with
  | "--" :: parameters => { shell with parameters := shell.parameters.take 1 ++ parameters }
  | word :: parameters =>
    match word.toList with
    | '-' :: letters => { shell with isStrict := shell.isStrict || letters.contains 'e' }
    | '+' :: letters => { shell with isStrict := shell.isStrict && !letters.contains 'e' }
    | _ => { shell with parameters := shell.parameters.take 1 ++ word :: parameters }
  | [] => shell

/-- Reads a line, whose words are the values of names; the last name has all that is left. -/
def readLine (shell : Shell) (names : List String) : Shell :=
  let line := shell.input.takeWhile (· != 0x0A)
  let rest := shell.input.drop line.length
  let texts := Text.words (Utf8.lossy line)
  let given := names.dropLast.zip (texts ++ names.map fun _ => "")
  let last := names.getLast?.toList.map fun name =>
    (name, String.intercalate " " (texts.drop (names.length - 1)))
  { shell with
    input := rest.tail
    values := last ++ given ++ shell.values
    code := if rest.isEmpty then 1 else 0 }

/-- The text after the equals sign of a word, with the name before it. -/
def assigned? (word : String) : Option (String × String) :=
  match word.toList.dropWhile (· ≠ '=') with
  | [] => none
  | _ :: value => some (String.ofList (word.toList.takeWhile (· ≠ '=')), String.ofList value)

def programName (program : String) : String :=
  if ["/bin/", "/usr/bin/"].any fun directory => directory.toList.isPrefixOf program.toList then
    (Path.fileName? program).getD program
  else
    program

/-- The exit code for a program that cannot be run. -/
def refusal (tree : FileTree) (program : String) : Nat :=
  if program.toList.contains '/' && tree.isPresent program then 126 else 127

def runUtility (shell : Shell) (name : String) (words : List String) : Shell :=
  match Utility.run? shell.tree shell.input (programName name) words with
  | some effect =>
    { shell with tree := effect.tree, code := effect.code }.put shell.output effect.output
  | none => { shell with code := refusal shell.tree name }

/-- A shell at the start of a script in another shell. -/
def inside (shell : Shell) (parameters : List String) : Shell :=
  { tree := shell.tree, parameters, input := shell.input, output := shell.output,
    complaints := shell.complaints, shown := shell.shown }

/-- The script and the parameters among the arguments of a shell, and whether it is strict. -/
def invocation? (name : String) : List String → Option (Bool × String × List String)
  | [] => none
  | option :: rest =>
    match option.toList with
    | '-' :: letters =>
      if letters.contains 'c' then
        match rest with
        | [] => none
        | script :: parameters =>
          some (letters.contains 'e', script, if parameters.isEmpty then [name] else parameters)
      else
        (invocation? name rest).map fun found => (found.1 || letters.contains 'e', found.2)
    | _ => none

/-- Ends a strict shell whose last command failed where that is not looked at. -/
def judged (shell : Shell) (isLookedAt : Bool) : Shell :=
  if shell.isStrict && !isLookedAt && shell.code != 0 && shell.ended.isNone then
    shell.finish (.exited shell.code)
  else
    shell

mutual

/-- Replaces the pieces of a word, the shell being changed by scripts among them. -/
def fieldsOf (fuel : Nat) (shell : Shell) (fields : Fields) : Word → Shell × Fields
  | [] => (shell, fields)
  | piece :: rest =>
    match fuel with
    | 0 => (shell, fields)
    | fuel + 1 =>
      let (next, found) : Shell × Fields := match piece with
        | .text isQuoted text => (shell, fields.add isQuoted text)
        | .value isQuoted name fallback =>
          let values := shell.parameter name
          let values := if values.all (· == "") then fallback.elim values ([·]) else values
          let values := if isQuoted ∧ name = "*" then [String.intercalate " " values] else values
          (shell, fields.addEach isQuoted values)
        | .output isQuoted script =>
          let start := { shell with shown := [], output := .outside }
          let after := runText fuel start script
          let text := (Utf8.lossy after.shown).toList
          let text := (text.reverse.dropWhile (· == '\n')).reverse
          let back := { shell.isolated after with shown := shell.shown }
          (back, if isQuoted then fields.add true text else fields.split text)
        | .sum isQuoted text =>
          match Sum.value? shell.number text with
          | some value => (shell, fields.add isQuoted (toString value).toList)
          | none => (shell.finish (.exited 2), fields)
      fieldsOf fuel next found rest

/-- Replaces the pieces of words and cuts the results into words. -/
def wordsOf (fuel : Nat) (shell : Shell) : List Word → Shell × List String
  | [] => (shell, [])
  | word :: rest =>
    match fuel with
    | 0 => (shell, [])
    | fuel + 1 =>
      let (next, fields) := fieldsOf fuel shell {} word
      let (last, others) := wordsOf fuel next rest
      (last, fields.toList.flatMap (names shell.tree) ++ others)

/-- Gives values to names. -/
def assign (fuel : Nat) (shell : Shell) : List (String × Word) → Shell
  | [] => shell
  | (name, word) :: rest =>
    match fuel with
    | 0 => shell
    | fuel + 1 =>
      let whole := word.map fun piece => match piece with
        | .text _ text => Piece.text true text
        | .value _ name fallback => .value true name fallback
        | .output _ script => .output true script
        | .sum _ text => .sum true text
      let (next, fields) := fieldsOf fuel shell {} whole
      let text := String.intercalate " " (fields.toList.map fun field =>
        String.ofList (field.map Prod.fst))
      assign fuel { next with values := (name, text) :: next.values } rest

/-- Carries out redirections up to one that fails. -/
def redirectAll (fuel : Nat) (shell : Shell) : List Redirection → Except Failure Shell
  | [] => .ok shell
  | ⟨stream, kind, target⟩ :: rest =>
    match fuel with
    | 0 => .ok shell
    | fuel + 1 => do
      let (next, words) := wordsOf fuel shell [target]
      redirectAll fuel (← next.redirect stream kind (String.intercalate " " words)) rest

/-- Runs the text of a script; text that is none has the exit code 2. -/
def runText (fuel : Nat) (shell : Shell) (text : List Char) : Shell :=
  match fuel with
  | 0 => shell
  | fuel + 1 =>
    match ShellScript.parse? text with
    | some script => run fuel false shell script
    | none => shell.finish (.exited 2)

/-- Runs a command that is made of words. -/
def runWords (fuel : Nat) (shell : Shell) (name : String) (words : List String) : Shell :=
  match fuel with
  | 0 => shell
  | fuel + 1 =>
    match name with
    | ":" | "trap" | "umask" | "wait" => { shell with code := 0 }
    | "cd" => shell.goTo words
    | "kill" => shell.kill words
    | "exit" | "return" =>
      match words with
      | [] => shell.finish (.exited shell.code)
      | code :: _ => shell.finish (.exited (code.toNat?.getD 2 % 256))
    | "set" => shell.configure words
    | "read" => shell.readLine words
    | "shift" =>
      { shell with
        parameters := shell.parameters.take 1 ++ shell.parameters.drop 2
        code := if shell.parameters.length ≤ 1 then 2 else 0 }
    | "export" | "readonly" | "local" =>
      { shell with values := words.filterMap assigned? ++ shell.values, code := 0 }
    | "unset" =>
      { shell with values := words.map (·, "") ++ shell.values, code := 0 }
    | "eval" => runText fuel { shell with code := 0 } (String.intercalate " " words).toList
    | "exec" =>
      match words with
      | [] => { shell with code := 0 }
      | program :: rest =>
        let after := runWords fuel shell program rest
        after.finish after.status
    | "command" =>
      match words with
      | [] => { shell with code := 0 }
      | program :: rest => runWords fuel shell program rest
    | _ =>
      if ["sh", "dash", "bash"].contains (programName name) then
        match invocation? name words with
        | some (isStrict, script, parameters) =>
          let after := runText fuel { shell.inside parameters with isStrict } script.toList
          { shell.isolated after with ended := none }
        | none => { shell with code := if words.isEmpty then 0 else 2 }
      else
        shell.runUtility name words

/-- Runs a script, whose exit code may be looked at by what is around it. -/
def run (fuel : Nat) (isLookedAt : Bool) (shell : Shell) (script : ShellScript) : Shell :=
  match fuel with
  | 0 => shell
  | fuel + 1 =>
    if shell.ended.isSome then shell
    else
      match script with
      | .skip => shell
      | .simple values words others =>
        let (next, found) := wordsOf fuel shell words
        let code := if found.isEmpty then 0 else next.code
        let assigned := assign fuel { next with code } values
        let opened := if assigned.ended.isSome then .ok assigned
          else redirectAll fuel assigned others
        match opened with
        | .error _ => { next with code := 2 }.judged isLookedAt
        | .ok ready =>
          match if ready.ended.isSome then [] else found with
          | [] => { shell.restored ready with values := assigned.values }
          | name :: rest =>
            let done := runWords fuel ready name rest
            let reads := others.any fun redirection => redirection.kind == .source
            let input := if reads then shell.input else done.input
            let after := { shell.restored done with input }
            let kept := if name = "exec" ∧ rest.isEmpty then
                { after with output := ready.output, complaints := ready.complaints }
              else after
            kept.judged isLookedAt
      | .pipe left right =>
        let start := { shell with shown := [], output := .outside }
        let first := run fuel true start left
        let between := { shell.isolated first with shown := shell.shown }
        let last := run fuel true { between with input := first.shown } right
        (shell.isolated last).judged isLookedAt
      | .both left right =>
        let first := run fuel true shell left
        if first.code = 0 then run fuel isLookedAt first right else first
      | .either left right =>
        let first := run fuel true shell left
        if first.code = 0 then first else run fuel isLookedAt first right
      | .sequence left right => run fuel isLookedAt (run fuel isLookedAt shell left) right
      | .negated body =>
        let after := run fuel true shell body
        { after with code := if after.code = 0 then 1 else 0 }
      | .group isIsolated body others =>
        match redirectAll fuel shell others with
        | .error _ => { shell with code := 2 }.judged isLookedAt
        | .ok ready =>
          let after := run fuel isLookedAt ready body
          if isIsolated then (shell.isolated after).judged isLookedAt else shell.restored after
      | .choice condition consequence alternative =>
        let first := run fuel true shell condition
        if first.code = 0 then run fuel isLookedAt first consequence
        else run fuel isLookedAt { first with code := 0 } alternative
      | .loop untilSuccess condition body =>
        let first := run fuel true shell condition
        if (first.code == 0) == untilSuccess then { first with code := 0 }
        else
          run fuel isLookedAt (run fuel isLookedAt first body) (.loop untilSuccess condition body)
      | .each name words body =>
        let (next, found) := wordsOf fuel shell words
        runEach fuel isLookedAt { next with code := 0 } name body found

/-- Runs a script for each value of a name. -/
def runEach (fuel : Nat) (isLookedAt : Bool) (shell : Shell) (name : String) (body : ShellScript) :
    List String → Shell
  | [] => shell
  | value :: rest =>
    match fuel with
    | 0 => shell
    | fuel + 1 =>
      let next := run fuel isLookedAt { shell with values := (name, value) :: shell.values } body
      runEach fuel isLookedAt next name body rest

end

/-- How deeply a shell works at most. -/
def workLimit : Nat := 10000

/-- The shell after a script in the directory where a file tree starts. -/
def runScript (tree : FileTree) (isStrict : Bool) (script : String) (parameters : List String) :
    Shell :=
  runText workLimit { tree, parameters, isStrict } script.toList

end Shell

end Confinement.Host
