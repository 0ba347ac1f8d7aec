import Confinement.Text.Number

/-!
# IPv6 addresses as text

An address is eight groups of sixteen bits.  `Ipv6.parse?` reads the usual texts, with one `::` for
a run of zero groups and an IPv4 address in place of the last two groups; `Ipv6.text` writes the
canonical one, in which `::` stands for the first of the longest runs of at least two zeros.
-/

namespace Confinement.Ipv6

/-- The value of a group: one to four hexadecimal digits. -/
def group? (chars : List Char) : Option Nat :=
  if chars.isEmpty ∨ chars.length > 4 then none else Text.hexFrom 0 chars

/-- The value of a decimal number from 0 to 255 without leading zeros. -/
def octet? (chars : List Char) : Option Nat :=
  match chars with
  | [] => none
  | ['0'] => some 0
  | first :: rest =>
    if first = '0' ∨ rest.length > 2 then none
    else if (first :: rest).all Char.isDigit then
      let value := (first :: rest).foldl (fun value c => value * 10 + (c.toNat - '0'.toNat)) 0
      if value < 256 then some value else none
    else none

/-- The two groups of an IPv4 address. -/
def dotted? (chars : List Char) : Option (List Nat) :=
  match (chars.splitOn '.').map octet? with
  | [some a, some b, some c, some d] => some [a * 256 + b, c * 256 + d]
  | _ => none

/-- The groups of texts between colons; only the last may be an IPv4 address. -/
def groups? : List (List Char) → Option (List Nat)
  | [] => some []
  | [last] =>
    match group? last with
    | some value => some [value]
    | none => dotted? last
  | first :: rest =>
    match group? first, groups? rest with
    | some value, some values => some (value :: values)
    | _, _ => none

/-- The groups of a text without `::`, none for the empty text. -/
def run? (chars : List Char) : Option (List Nat) :=
  if chars.isEmpty then some [] else groups? (chars.splitOn ':')

/-- The groups of a text that must not end in an IPv4 address. -/
def plainRun? (chars : List Char) : Option (List Nat) :=
  if chars.contains '.' then none else run? chars

/-- The texts before and after the first `::`. -/
def splitGap : List Char → Option (List Char × List Char)
  | ':' :: ':' :: rest => some ([], rest)
  | c :: rest => (splitGap rest).map fun (before, after) => (c :: before, after)
  | [] => none

/-- The eight groups that a text spells. -/
def parse? (chars : List Char) : Option (List Nat) :=
  match splitGap chars with
  | none =>
    match run? chars with
    | some groups => if groups.length = 8 then some groups else none
    | none => none
  | some (before, after) =>
    match plainRun? before, run? after with
    | some first, some last =>
      if first.length + last.length ≤ 7 then
        some (first ++ List.replicate (8 - first.length - last.length) 0 ++ last)
      else
        none
    | _, _ => none

/-- The length of the run of zeros at the head of a list. -/
def zeroRun (groups : List Nat) : Nat := (groups.takeWhile (· == 0)).length

/-- The place and length of the first of the longest runs of zeros. -/
def longestRun (index : Nat) : List Nat → Nat × Nat
  | [] => (index, 0)
  | first :: rest =>
    let here := zeroRun (first :: rest)
    let later := longestRun (index + 1) rest
    if here ≥ later.2 ∧ here > 0 then (index, here) else later

def groupText (value : Nat) : String := String.ofList (Nat.toDigits 16 value)

/-- The texts of groups with colons between them. -/
def groupsText (groups : List Nat) : String := String.intercalate ":" (groups.map groupText)

/-- The canonical text of an address. -/
def text (groups : List Nat) : String :=
  let (start, length) := longestRun 0 groups
  if length < 2 then groupsText groups
  else groupsText (groups.take start) ++ "::" ++ groupsText (groups.drop (start + length))

end Confinement.Ipv6
