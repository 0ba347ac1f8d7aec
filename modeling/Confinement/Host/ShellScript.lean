import Confinement.Text.Blank

/-!
# Shell scripts

The form of the scripts that a shell carries out: commands made of words and redirections, joined
by `;`, `&&`, `||` and `|`, in groups, choices and loops.  `ShellScript.parse?` reads the text of a
script; text that is no script is refused as a whole.
-/

namespace Confinement.Host

/-- A piece of a word. -/
inductive Piece where
  /-- Characters that stand for themselves. -/
  | text (isQuoted : Bool) (text : List Char)
  /-- The value of a parameter, or of another word when it has none. -/
  | value (isQuoted : Bool) (name : String) (fallback : Option String)
  | output (isQuoted : Bool) (script : List Char)
  | sum (isQuoted : Bool) (text : List Char)
  deriving DecidableEq, Repr

/-- A word before its pieces are replaced. -/
abbrev Word := List Piece

/-- What a redirection does. -/
inductive RedirectionKind where
  | source
  | write
  | append
  /-- Output goes where that of another number goes. -/
  | same
  deriving DecidableEq, Repr

/-- A redirection of the stream with a number. -/
structure Redirection where
  stream : Nat
  kind : RedirectionKind
  target : Word
  deriving DecidableEq, Repr

/-- A script. -/
inductive ShellScript where
  | skip
  /-- Values given to names, then a command if there are words. -/
  | simple (values : List (String × Word)) (words : List Word) (redirections : List Redirection)
  /-- The output of one is the input of the other. -/
  | pipe (left right : ShellScript)
  /-- The second follows if the first succeeds. -/
  | both (left right : ShellScript)
  /-- The second follows if the first fails. -/
  | either (left right : ShellScript)
  /-- The second follows the first. -/
  | sequence (left right : ShellScript)
  /-- Succeeds if the other fails. -/
  | negated (body : ShellScript)
  /-- A part with redirections of its own, which may leave the shell as it was. -/
  | group (isIsolated : Bool) (body : ShellScript) (redirections : List Redirection)
  | choice (condition consequence alternative : ShellScript)
  /-- A part that is repeated as long as a condition succeeds or fails. -/
  | loop (untilSuccess : Bool) (condition body : ShellScript)
  /-- A part for each of some words. -/
  | each (name : String) (values : List Word) (body : ShellScript)

namespace ShellScript

/-! ## Words -/

/-- What the text of a script is cut into. -/
inductive Token where
  | word (word : Word)
  /-- A sign that joins commands, or a line's end. -/
  | sign (sign : String)
  /-- The sign of a redirection, with the number before it. -/
  | redirection (stream : Option Nat) (sign : String)
  deriving DecidableEq, Repr

/-- Whether a character may be part of a variable's name. -/
def isNameChar (c : Char) : Bool := c.isAlphanum || c == '_'

/-- Whether a character ends a word outside quotes. -/
def endsWord (c : Char) : Bool := c ∈ [' ', '\t', '\n', ';', '&', '|', '<', '>', '(', ')']

/-- The sign that encloses a script whose output is wanted. -/
def backtick : Char := '\x60'

/-- The characters up to the parenthesis that closes, and what follows it. -/
def enclosed? (depth : Nat) : List Char → Option (List Char × List Char)
  | [] => none
  | c :: rest =>
    if c = ')' ∧ depth = 0 then some ([], rest)
    else
      let next := if c = '(' then depth + 1 else if c = ')' then depth - 1 else depth
      (enclosed? next rest).map fun (inside, after) => (c :: inside, after)

/-- The characters up to a sign, and what follows it. -/
def upTo? (sign : Char) (chars : List Char) : Option (List Char × List Char) :=
  match chars.dropWhile (· ≠ sign) with
  | [] => none
  | _ :: after => some (chars.takeWhile (· ≠ sign), after)

/-- A parameter in braces: its name, and after `:-` or `-` the word for one without a value. -/
def braced (isQuoted : Bool) (chars : List Char) : Piece :=
  let name := chars.takeWhile isNameChar
  let name := if name.isEmpty then chars.take 1 else name
  match chars.drop name.length with
  | ':' :: '-' :: fallback | '-' :: fallback =>
    .value isQuoted (String.ofList name) (some (String.ofList fallback))
  | _ => .value isQuoted (String.ofList name) none

/-- A sum between two parentheses on both sides, given what follows the first two. -/
def summed? (isQuoted : Bool) (chars : List Char) : Option (Piece × List Char) :=
  match enclosed? 0 chars with
  | some (inside, ')' :: after) => some (.sum isQuoted inside, after)
  | _ => none

/-- What stands after a dollar sign. -/
def afterDollar? (isQuoted : Bool) : List Char → Option (Piece × List Char)
  | '(' :: '(' :: rest =>
    match summed? isQuoted rest with
    | some found => some found
    | none =>
      (enclosed? 0 ('(' :: rest)).map fun (inside, after) => (.output isQuoted inside, after)
  | '(' :: rest => (enclosed? 0 rest).map fun (inside, after) => (.output isQuoted inside, after)
  | '\x7b' :: rest => (upTo? '\x7d' rest).map fun (inside, after) => (braced isQuoted inside, after)
  | c :: rest =>
    if c.isDigit || c ∈ ['#', '@', '*', '?', '$', '!', '-'] then
      some (.value isQuoted c.toString none, rest)
    else if isNameChar c then
      let name := (c :: rest).takeWhile isNameChar
      some (.value isQuoted (String.ofList name) none, (c :: rest).drop name.length)
    else
      some (.text isQuoted ['$'], c :: rest)
  | [] => some (.text isQuoted ['$'], [])

/-- The pieces of a word and what follows it; every step takes a character, counted by `fuel`. -/
def word? (fuel : Nat) (inQuotes : Bool) (chars : List Char) : Option (Word × List Char) :=
  let add (piece : Piece) (found : Option (Word × List Char)) : Option (Word × List Char) :=
    found.map fun (pieces, after) => (piece :: pieces, after)
  match fuel, chars with
  | 0, _ => none
  | _, [] => if inQuotes then none else some ([], [])
  | fuel + 1, c :: rest =>
    if c = '\\' then
      match rest with
      | [] => add (.text true ['\\']) (word? fuel inQuotes [])
      | next :: after =>
        if next = '\n' then word? fuel inQuotes after
        else if inQuotes ∧ next ∉ ['$', backtick, '"', '\\'] then
          add (.text true ['\\']) (word? fuel inQuotes rest)
        else add (.text true [next]) (word? fuel inQuotes after)
    else if c = '"' then
      add (.text true []) (word? fuel (!inQuotes) rest)
    else if c = '$' then do
      let (piece, after) ← afterDollar? inQuotes rest
      add piece (word? fuel inQuotes after)
    else if c = backtick then do
      let (inside, after) ← upTo? backtick rest
      add (.output inQuotes inside) (word? fuel inQuotes after)
    else if c = '\'' ∧ !inQuotes then do
      let (inside, after) ← upTo? '\'' rest
      add (.text true inside) (word? fuel inQuotes after)
    else if !inQuotes && endsWord c then
      some ([], c :: rest)
    else
      add (.text inQuotes [c]) (word? fuel inQuotes rest)

/-- The characters of a piece that is neither quoted nor replaced. -/
def characters? : Piece → Option (List Char)
  | .text false text => some text
  | .text true _ | .value _ _ _ | .output _ _ | .sum _ _ => none

/-- The characters of a word without quotes and replacements. -/
def bare? (word : Word) : Option String :=
  (word.mapM characters?).map fun (texts : List (List Char)) => String.ofList texts.flatten

/-- The signs of two characters and of one, the longer ones first. -/
def signs : List String := ["&&", "||", "\n", ";", "&", "|", "(", ")"]

/-- The signs of redirections, the longer ones first. -/
def redirectionSigns : List String := [">>", ">&", ">|", ">", "<"]

/-- The first of some signs with which a text begins. -/
def sign? (signs : List String) (chars : List Char) : Option String :=
  signs.find? fun sign => sign.toList.isPrefixOf chars

/-- The tokens of a script; every step takes a character, counted by `fuel`. -/
def tokens? (fuel : Nat) (chars : List Char) : Option (List Token) :=
  match fuel, chars with
  | _, [] => some []
  | 0, _ :: _ => none
  | fuel + 1, c :: rest =>
    let signFrom (stream : Option Nat) (chars : List Char) : Option (List Token) :=
      match sign? redirectionSigns chars with
      | some sign => (tokens? fuel (chars.drop sign.length)).map (.redirection stream sign :: ·)
      | none => none
    if c = ' ' ∨ c = '\t' then tokens? fuel rest
    else if c = '#' then tokens? fuel (rest.dropWhile (· ≠ '\n'))
    else if c = '<' ∨ c = '>' then signFrom none chars
    else
      match sign? signs chars with
      | some sign => (tokens? fuel (chars.drop sign.length)).map (.sign sign :: ·)
      | none => do
        let (word, after) ← word? (chars.length + 1) false chars
        match after.head?, (bare? word).bind String.toNat? with
        | some '<', some stream | some '>', some stream => signFrom (some stream) after
        | _, _ => (tokens? fuel after).map (.word word :: ·)

/-! ## Commands -/

/-- The reserved word that a token is, wherever a command may begin. -/
def Token.reserved? : Token → Option String
  | .word pieces => bare? pieces
  | .sign _ | .redirection _ _ => none

/-- The words that end a list of commands. -/
def closing : List String := ["then", "else", "elif", "fi", "do", "done", "\x7d"]

/-- Whether a token ends a list of commands. -/
def Token.closes (token : Token) : Bool :=
  token == .sign ")" || token.reserved?.any closing.contains

/-- What a redirection with a sign does. -/
def kind (sign : String) : RedirectionKind :=
  if sign = ">>" then .append
  else if sign = ">&" then .same
  else if sign = "<" then .source
  else .write

/-- The redirection that a sign, the number before it and the word after it make up. -/
def redirection (stream : Option Nat) (sign : String) (target : Word) : Redirection :=
  ⟨stream.getD (if sign = "<" then 0 else 1), kind sign, target⟩

/-- The redirections at the start of tokens, and what follows them. -/
def redirections : List Token → List Redirection × List Token
  | .redirection stream sign :: .word target :: rest =>
    let (others, after) := redirections rest
    (redirection stream sign target :: others, after)
  | rest => ([], rest)

/-- The words and redirections of a simple command, and what follows them. -/
def parts : List Token → List Word × List Redirection × List Token
  | .word word :: rest =>
    let (words, others, after) := parts rest
    (word :: words, others, after)
  | .redirection stream sign :: .word target :: rest =>
    let (words, others, after) := parts rest
    (words, redirection stream sign target :: others, after)
  | rest => ([], [], rest)

/-- The variable and the value that a word assigns. -/
def assignment? : Word → Option (String × Word)
  | [] => none
  | word =>
    let name := word.takeWhile fun (piece : Piece) =>
      match piece with
      | .text false [c] => c != '='
      | _ => false
    let name := ((bare? name).getD "").toList
    match word.drop name.length with
    | .text false ['='] :: value =>
      if name.isEmpty || name.head?.any Char.isDigit || !name.all isNameChar then none
      else some (String.ofList name, value)
    | _ => none

/-- The assignments before a command, and its words. -/
def assignments : List Word → List (String × Word) × List Word
  | [] => ([], [])
  | word :: rest =>
    match assignment? word with
    | some found =>
      let (others, words) := assignments rest
      (found :: others, words)
    | none => ([], word :: rest)

def dropLines : List Token → List Token
  | .sign "\n" :: rest => dropLines rest
  | rest => rest

/-- What follows a reserved word. -/
def expect? (name : String) : List Token → Option (List Token)
  | token :: rest => if token.reserved? = some name then some rest else none
  | [] => none

/-- What follows a sign or a line's end before `do`, and the `do` itself. -/
def expectDo? (tokens : List Token) : Option (List Token) :=
  match tokens with
  | .sign ";" :: rest => expect? "do" (dropLines rest)
  | rest => expect? "do" (dropLines rest)

mutual

/-- A list of commands up to a token that closes it. -/
def list? (fuel : Nat) (tokens : List Token) : Option (ShellScript × List Token) :=
  match fuel with
  | 0 => none
  | fuel + 1 =>
    match dropLines tokens with
    | [] => some (.skip, [])
    | token :: rest =>
      if token.closes then some (.skip, token :: rest)
      else do
        let (first, after) ← joined? fuel (token :: rest)
        match after with
        | .sign ";" :: more | .sign "\n" :: more | .sign "&" :: more => do
          let (second, last) ← list? fuel more
          return (.sequence first second, last)
        | more => return (first, more)

/-- Commands joined by `&&` and `||`. -/
def joined? (fuel : Nat) (tokens : List Token) : Option (ShellScript × List Token) :=
  match fuel with
  | 0 => none
  | fuel + 1 => do
    let (first, after) ← piped? fuel tokens
    joinedFrom? fuel first after

/-- More commands joined by `&&` and `||`. -/
def joinedFrom? (fuel : Nat) (first : ShellScript) (tokens : List Token) :
    Option (ShellScript × List Token) :=
  match fuel with
  | 0 => none
  | fuel + 1 =>
    match tokens with
    | .sign "&&" :: rest => do
      let (second, after) ← piped? fuel (dropLines rest)
      joinedFrom? fuel (.both first second) after
    | .sign "||" :: rest => do
      let (second, after) ← piped? fuel (dropLines rest)
      joinedFrom? fuel (.either first second) after
    | rest => some (first, rest)

/-- Commands joined by `|`, with an exclamation mark before them or not. -/
def piped? (fuel : Nat) (tokens : List Token) : Option (ShellScript × List Token) :=
  match fuel with
  | 0 => none
  | fuel + 1 =>
    match expect? "!" tokens with
    | some rest => do
      let (body, after) ← piped? fuel rest
      return (.negated body, after)
    | none => do
      let (first, after) ← command? fuel tokens
      match after with
      | .sign "|" :: rest => do
        let (second, last) ← piped? fuel (dropLines rest)
        return (.pipe first second, last)
      | rest => return (first, rest)

def command? (fuel : Nat) (tokens : List Token) : Option (ShellScript × List Token) :=
  match fuel with
  | 0 => none
  | fuel + 1 =>
    match tokens with
    | [] => none
    | .sign "(" :: rest => do
      let (body, after) ← list? fuel rest
      match after with
      | .sign ")" :: more =>
        let (others, last) := redirections more
        return (.group true body others, last)
      | _ => none
    | token :: rest =>
      match token.reserved? with
      | some "\x7b" => do
        let (body, after) ← list? fuel rest
        let (others, last) := redirections (← expect? "\x7d" after)
        return (.group false body others, last)
      | some "if" => do
        let (body, after) ← choice? fuel rest
        let (others, last) := redirections after
        return (.group false body others, last)
      | some "while" => loop? fuel false rest
      | some "until" => loop? fuel true rest
      | some "for" => each? fuel rest
      | _ =>
        let (all, others, after) := parts tokens
        let (given, words) := assignments all
        if token.closes ∨ (all.isEmpty ∧ others.isEmpty) then none
        else some (.simple given words others, after)

/-- A choice, after its first word. -/
def choice? (fuel : Nat) (tokens : List Token) : Option (ShellScript × List Token) :=
  match fuel with
  | 0 => none
  | fuel + 1 => do
    let (condition, after) ← list? fuel tokens
    let (consequence, rest) ← list? fuel (← expect? "then" after)
    match rest with
    | token :: more =>
      if token.reserved? = some "elif" then do
        let (alternative, last) ← choice? fuel more
        return (.choice condition consequence alternative, last)
      else if token.reserved? = some "else" then do
        let (alternative, last) ← list? fuel more
        return (.choice condition consequence alternative, ← expect? "fi" last)
      else
        return (.choice condition consequence .skip, ← expect? "fi" rest)
    | [] => none

/-- A loop with a condition, after its first word. -/
def loop? (fuel : Nat) (untilSuccess : Bool) (tokens : List Token) :
    Option (ShellScript × List Token) :=
  match fuel with
  | 0 => none
  | fuel + 1 => do
    let (condition, after) ← list? fuel tokens
    let (body, rest) ← list? fuel (← expect? "do" after)
    let (others, last) := redirections (← expect? "done" rest)
    return (.group false (.loop untilSuccess condition body) others, last)

/-- A loop over words, after its first word. -/
def each? (fuel : Nat) (tokens : List Token) : Option (ShellScript × List Token) :=
  match fuel, tokens with
  | fuel + 1, token :: rest => do
    let name ← token.reserved?
    let (values, after) := match expect? "in" rest with
      | some more =>
        let (words, _, after) := parts more
        (words, after)
      | none => ([[.value true "@" none]], rest)
    let (body, others) ← list? fuel (← expectDo? after)
    let (redirected, last) := redirections (← expect? "done" others)
    return (.group false (.each name values body) redirected, last)
  | _, _ => none

end

def parse? (text : List Char) : Option ShellScript := do
  let tokens ← tokens? (text.length + 1) text
  let (script, rest) ← list? (8 * (tokens.length + 1)) tokens
  if rest.isEmpty then some script else none

end ShellScript

end Confinement.Host
