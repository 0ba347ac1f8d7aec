import Confinement.Command
import Mathlib.Data.List.Sort
import Mathlib.Data.Set.Function

/-!
# The grammar of commands

A list of fields spells one command or is misspelt in one way, and the reader gives that command or
that reason (`parse_iff_spelt`).  `Command.words` is the only spelling of a command, so reading is a
bijection between the lists that are accepted and the commands.

What is known of a word is read off the commands themselves: it is a command word if some command
has it, and it takes as many arguments as those commands have.
-/

namespace Confinement

namespace Command

/-- Only the words of a command are read as that command. -/
theorem eq_words_of_parse
    {fields : List String} {command : Command}
    (parsed : parse fields = .ok command) :
    fields = command.words := by
  rw [parse.eq_def] at parsed
  split at parsed <;> cases parsed <;> rfl

variable {name : String} {arguments : List String}

/-! ## Numbers of arguments -/

/-- Whether a command of the given word has so many arguments. -/
def Takes (name : String) (count : Nat) : Prop :=
  ∃ command : Command, command.word = name ∧ command.arguments.length = count

/-- The numbers of arguments that a word takes, in ascending order; none if no command has it. -/
def counts (name : String) : List Nat :=
  if name = "clear" ∨ name = "display" ∨ name = "install" ∨ name = "uninstall" then [0]
  else if name = "id" ∨ name = "permission" then [1]
  else if name = "log" then [0, 1]
  else if name = "path" then [2]
  else if name = "plug" then [3]
  else []

theorem mem_counts_iff {count : Nat} : count ∈ counts name ↔ Takes name count := by
  constructor
  · intro member
    unfold counts at member
    split_ifs at member with bare one optional two three
    · obtain rfl := List.mem_singleton.1 member
      rcases bare with rfl | rfl | rfl | rfl
      · exact ⟨.clear, rfl, rfl⟩
      · exact ⟨.display, rfl, rfl⟩
      · exact ⟨.install, rfl, rfl⟩
      · exact ⟨.uninstall, rfl, rfl⟩
    · obtain rfl := List.mem_singleton.1 member
      rcases one with rfl | rfl
      · exact ⟨.id "", rfl, rfl⟩
      · exact ⟨.permission "", rfl, rfl⟩
    · subst optional
      rcases List.mem_pair.1 member with rfl | rfl
      · exact ⟨.log none, rfl, rfl⟩
      · exact ⟨.log (some true), rfl, rfl⟩
    · obtain rfl := List.mem_singleton.1 member
      exact ⟨.path "" "", two.symm, rfl⟩
    · obtain rfl := List.mem_singleton.1 member
      exact ⟨.plug "" "" "", three.symm, rfl⟩
    · cases member
  · rintro ⟨command, rfl, rfl⟩
    cases command with
    | log switch => cases switch <;> simp [counts, word, Command.arguments]
    | _ => simp [counts, word, Command.arguments]

theorem pairwise_counts (name : String) : (counts name).Pairwise (· < ·) := by
  unfold counts
  split_ifs <;> decide

/-- Whether a word is the word of a command. -/
def IsWord (name : String) : Prop := ∃ command : Command, command.word = name

theorem isWord_iff : IsWord name ↔ counts name ≠ [] := by
  rw [ne_eq, List.eq_nil_iff_forall_not_mem, not_forall_not]
  constructor
  · rintro ⟨command, same⟩
    exact ⟨_, mem_counts_iff.2 ⟨command, same, rfl⟩⟩
  · rintro ⟨count, member⟩
    obtain ⟨command, same, _⟩ := mem_counts_iff.1 member
    exact ⟨command, same⟩

/-- Whether a text names the numbers of arguments that a word takes, in ascending order. -/
def Tells (text name : String) : Prop :=
  ∃ numbers : List Nat, numbers.Pairwise (· < ·) ∧
    (∀ count, count ∈ numbers ↔ Takes name count) ∧
    text = String.intercalate " or " (numbers.map toString)

theorem tells_iff {text : String} :
    Tells text name ↔ text = String.intercalate " or " ((counts name).map toString) := by
  constructor
  · rintro ⟨numbers, ascending, members, rfl⟩
    have members : ∀ count, count ∈ numbers ↔ count ∈ counts name := fun count =>
      (members count).trans mem_counts_iff.symm
    have same : numbers.Perm (counts name) :=
      (List.perm_ext_iff_of_nodup ascending.nodup (pairwise_counts name).nodup).2 members
    rw [same.eq_of_pairwise (fun _ _ _ _ less more => absurd less (Nat.lt_asymm more)) ascending
      (pairwise_counts name)]
  · rintro rfl
    exact ⟨counts name, pairwise_counts name, fun _ => mem_counts_iff, rfl⟩

/-- The text for a word is told, for command words only. -/
theorem arityOf?_eq_some_iff {text : String} :
    arityOf? name = some text ↔ IsWord name ∧ Tells text name := by
  have table : arityOf? name =
      if counts name = [] then none
      else some (String.intercalate " or " ((counts name).map toString)) := by
    unfold arityOf? counts
    split_ifs <;> first | rfl | contradiction
  rw [table, isWord_iff, tells_iff]
  split_ifs with unknown
  · simp [unknown]
  · simp [unknown, eq_comm]

/-! ## Lists that spell no command -/

/-- The ways in which a list of fields spells no command. -/
inductive Misspelt : List String → CommandError → Prop where
  | nothing : Misspelt [] .empty
  /-- The number of arguments is right, but the argument is not. -/
  | switch {argument : String}
      (notOn : argument ≠ "on")
      (notOff : argument ≠ "off") :
      Misspelt ["log", argument] (.logSwitch argument)
  | arity {name expected : String} {arguments : List String}
      (known : IsWord name)
      (wrong : ¬Takes name arguments.length)
      (told : Tells expected name) :
      Misspelt (name :: arguments) (.arity name expected arguments.length)
  | unknown {name : String} {arguments : List String}
      (unknown : ¬IsWord name) :
      Misspelt (name :: arguments) (.unknown name)

/-- A word with a number of arguments that it does not take is refused for that. -/
theorem parse_of_not_takes
    (wrong : ¬Takes name arguments.length) :
    parse (name :: arguments) = .error (refuse name arguments) := by
  cases parsed : parse (name :: arguments) with
  | ok command =>
      have spelt := eq_words_of_parse parsed
      rw [words, List.cons.injEq] at spelt
      exact absurd ⟨command, spelt.1.symm, congrArg List.length spelt.2.symm⟩ wrong
  | error error =>
      rw [parse.eq_def] at parsed
      split at parsed
      case h_9 given =>
        cases given
        exact absurd ⟨.log (some true), rfl, rfl⟩ wrong
      case h_14 given =>
        cases given
        cases parsed
        rfl
      all_goals contradiction

theorem parse_of_misspelt
    {fields : List String} {error : CommandError}
    (misspelt : Misspelt fields error) :
    parse fields = .error error := by
  cases misspelt with
  | nothing => rfl
  | switch notOn notOff =>
      rw [parse]
      · exact notOn
      · exact notOff
  | arity known wrong told =>
      rw [parse_of_not_takes wrong, refuse, arityOf?_eq_some_iff.2 ⟨known, told⟩]
  | @unknown name arguments unknown =>
      have wrong : ¬Takes name arguments.length := fun ⟨command, same, _⟩ => unknown ⟨command, same⟩
      have silent : arityOf? name = none := by
        rw [Option.eq_none_iff_forall_ne_some]
        exact fun text found => unknown (arityOf?_eq_some_iff.1 found).1
      rw [parse_of_not_takes wrong, refuse, silent]

/-- A word with a number of arguments that it takes spells a command, or a wrong switch. -/
theorem spelt_or_misspelt_of_takes
    (right : Takes name arguments.length) :
    (∃ command : Command, name :: arguments = command.words) ∨
      ∃ error, Misspelt (name :: arguments) error := by
  obtain ⟨command, rfl, same⟩ := right
  by_cases bare : arguments = []
  · have none : command.arguments = [] := by
      rw [← List.length_eq_zero_iff, same, bare]
      rfl
    exact .inl ⟨command, by rw [words, none, bare]⟩
  · have given : arguments.length ≠ 0 := fun zero => bare (List.length_eq_zero_iff.1 zero)
    cases command with
    | clear | display | install | uninstall => exact absurd same.symm given
    | id =>
        obtain ⟨identifier, rfl⟩ := List.length_eq_one_iff.1 same.symm
        exact .inl ⟨.id identifier, rfl⟩
    | permission =>
        obtain ⟨name, rfl⟩ := List.length_eq_one_iff.1 same.symm
        exact .inl ⟨.permission name, rfl⟩
    | path =>
        obtain ⟨location, kind, rfl⟩ := List.length_eq_two.1 same.symm
        exact .inl ⟨.path location kind, rfl⟩
    | plug =>
        obtain ⟨exportDirectory, importId, importDirectory, rfl⟩ := List.length_eq_three.1 same.symm
        exact .inl ⟨.plug exportDirectory importId importDirectory, rfl⟩
    | log switch =>
        cases switch with
        | none => exact absurd same.symm given
        | some =>
            obtain ⟨argument, rfl⟩ := List.length_eq_one_iff.1 same.symm
            by_cases on : argument = "on"
            · exact .inl ⟨.log (some true), congrArg (fun text => ["log", text]) on⟩
            · by_cases off : argument = "off"
              · exact .inl ⟨.log (some false), congrArg (fun text => ["log", text]) off⟩
              · exact .inr ⟨_, .switch on off⟩

/-- Every list of fields spells a command or is misspelt. -/
theorem spelt_or_misspelt (fields : List String) :
    (∃ command : Command, fields = command.words) ∨ ∃ error, Misspelt fields error := by
  cases fields with
  | nil => exact .inr ⟨_, .nothing⟩
  | cons name arguments =>
      by_cases right : Takes name arguments.length
      · exact spelt_or_misspelt_of_takes right
      · by_cases known : IsWord name
        · exact .inr ⟨_, .arity known right (tells_iff.2 rfl)⟩
        · exact .inr ⟨_, .unknown known⟩

/-! ## The grammar -/

/--
The fields that are read as a command are exactly its words, and a list is refused exactly for the
reason for which it is misspelt.  So reading is a bijection between the lists that are accepted and
the commands.
-/
theorem parse_iff_spelt :
    (∀ fields command, parse fields = .ok command ↔ fields = command.words) ∧
    (∀ fields error, parse fields = .error error ↔ Misspelt fields error) ∧
    Set.BijOn parse {fields | ∃ command, parse fields = .ok command} (Set.range Except.ok) := by
  have accepted (fields : List String) (command : Command) :
      parse fields = .ok command ↔ fields = command.words := by
    constructor
    · exact eq_words_of_parse
    · rintro rfl
      exact parse_words command
  refine ⟨accepted, ?_, ?_, ?_, ?_⟩
  · intro fields error
    constructor
    · intro refused
      rcases spelt_or_misspelt fields with ⟨command, spelt⟩ | ⟨reason, misspelt⟩
      · rw [(accepted fields command).2 spelt] at refused
        cases refused
      · rw [parse_of_misspelt misspelt] at refused
        cases refused
        exact misspelt
    · exact parse_of_misspelt
  · rintro fields ⟨command, parsed⟩
    exact ⟨command, parsed.symm⟩
  · rintro left ⟨command, parsed⟩ right _ same
    have also : parse right = .ok command := same.symm.trans parsed
    rw [eq_words_of_parse parsed, eq_words_of_parse also]
  · rintro _ ⟨command, rfl⟩
    exact ⟨command.words, ⟨command, parse_words command⟩, parse_words command⟩

end Command

end Confinement
