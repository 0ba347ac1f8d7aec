import Confinement.Policy.Smack

/-!
# The text of rules

Rules whose parts are words are read back from their text as they are (`readRules_ruleText`).  The
rules of an application are of this kind, and so are all rules that are ever read.
-/

namespace Confinement

open Staging

/-! ## Words -/

namespace Text

/-- Whether a text has no blanks. -/
def Unbroken (text : String) : Prop := ∀ c ∈ text.toList, isBlank c = false

instance (text : String) : Decidable (Unbroken text) :=
  List.decidableBAll (fun c => isBlank c = false) text.toList

/-- Whether a text is a single word. -/
def IsWord (text : String) : Prop := text ≠ "" ∧ Unbroken text

instance (text : String) : Decidable (IsWord text) := inferInstanceAs (Decidable (_ ∧ _))

theorem IsWord.append
    {left right : String}
    (word : IsWord left)
    (unbroken : Unbroken right) :
    IsWord (left ++ right) := by
  constructor
  · intro empty
    have none := congrArg String.toList empty
    rw [String.toList_append] at none
    exact word.1 (String.toList_eq_nil_iff.1 (List.append_eq_nil_iff.1 none).1)
  · intro c member
    rw [String.toList_append] at member
    rcases List.mem_append.1 member with first | second
    · exact word.2 c first
    · exact unbroken c second

theorem wordsFrom_append
    {chars : List Char}
    (unbroken : ∀ c ∈ chars, isBlank c = false)
    (word rest : List Char) :
    wordsFrom word (chars ++ rest) = wordsFrom (chars.reverse ++ word) rest := by
  induction chars generalizing word with
  | nil => rfl
  | cons c others hypothesis =>
      rw [List.cons_append, wordsFrom, unbroken c List.mem_cons_self, if_neg Bool.false_ne_true,
        hypothesis fun d member => unbroken d (List.mem_cons_of_mem c member),
        List.reverse_cons, List.append_assoc]
      rfl

/-- A word before a blank is the first one. -/
theorem wordsFrom_word
    {word : String}
    (isWord : IsWord word)
    (rest : List Char) :
    wordsFrom [] (word.toList ++ ' ' :: rest) = word.toList :: wordsFrom [] rest := by
  have some : word.toList.reverse ≠ [] := by
    rw [Ne, List.reverse_eq_nil_iff, String.toList_eq_nil_iff]
    exact isWord.1
  rw [wordsFrom_append isWord.2, List.append_nil, wordsFrom, if_pos (by decide), if_neg,
    List.reverse_reverse]
  rw [List.isEmpty_iff]
  exact some

theorem wordsFrom_last
    {word : String}
    (isWord : IsWord word) :
    wordsFrom [] word.toList = [word.toList] := by
  have some : word.toList.reverse ≠ [] := by
    rw [Ne, List.reverse_eq_nil_iff, String.toList_eq_nil_iff]
    exact isWord.1
  have only := wordsFrom_append isWord.2 [] []
  rw [List.append_nil, List.append_nil] at only
  rw [only, wordsFrom, if_neg, List.reverse_reverse]
  rw [List.isEmpty_iff]
  exact some

theorem isWord_of_mem_wordsFrom
    {word chars found : List Char}
    (unbroken : ∀ c ∈ word, isBlank c = false)
    (member : found ∈ wordsFrom word chars) :
    IsWord (String.ofList found) := by
  have isWord {some : List Char} (notEmpty : ¬some.isEmpty = true)
      (unbroken : ∀ c ∈ some, isBlank c = false) : IsWord (String.ofList some.reverse) := by
    constructor
    · intro empty
      have none := congrArg String.toList empty
      rw [String.toList_ofList] at none
      exact notEmpty (List.isEmpty_iff.2 (List.reverse_eq_nil_iff.1 none))
    · intro c inside
      rw [String.toList_ofList, List.mem_reverse] at inside
      exact unbroken c inside
  induction chars generalizing word with
  | nil =>
      rw [wordsFrom] at member
      split at member
      · cases member
      · rename_i notEmpty
        rw [List.mem_singleton.1 member]
        exact isWord notEmpty unbroken
  | cons c rest hypothesis =>
      have nothing : ∀ c ∈ ([] : List Char), isBlank c = false := by rintro _ ⟨⟩
      rw [wordsFrom] at member
      split at member
      · split at member
        · exact hypothesis nothing member
        · rename_i notEmpty
          rcases List.mem_cons.1 member with rfl | later
          · exact isWord notEmpty unbroken
          · exact hypothesis nothing later
      · rename_i ordinary
        apply hypothesis _ member
        intro other inside
        rcases List.mem_cons.1 inside with rfl | earlier
        · exact Bool.eq_false_iff.2 ordinary
        · exact unbroken other earlier

theorem isWord_of_mem_words
    {text word : String}
    (member : word ∈ words text) :
    IsWord word := by
  obtain ⟨chars, found, rfl⟩ := List.mem_map.1 member
  have nothing : ∀ c ∈ ([] : List Char), isBlank c = false := by rintro _ ⟨⟩
  exact isWord_of_mem_wordsFrom nothing found

end Text

/-! ## Rules -/

namespace Policy

open Text

/-- Whether the three parts of a rule are words. -/
structure Rule.IsPlain (rule : Rule) : Prop where
  subject : IsWord rule.subject
  object : IsWord rule.object
  access : IsWord rule.access

/-- The line of a rule without its end. -/
def Rule.stem (rule : Rule) : List Char :=
  rule.subject.toList ++ ' ' :: (rule.object.toList ++ ' ' :: rule.access.toList)

namespace Rule.IsPlain

variable {rule : Rule}

theorem ofLine?_stem (plain : rule.IsPlain) : ofLine? (String.ofList rule.stem) = some rule := by
  have three : words (String.ofList rule.stem) = [rule.subject, rule.object, rule.access] := by
    rw [words, String.toList_ofList, stem, wordsFrom_word plain.subject,
      wordsFrom_word plain.object, wordsFrom_last plain.access]
    simp only [List.map_cons, List.map_nil, String.ofList_toList]
  rw [ofLine?, three]

theorem stem_unbroken (plain : rule.IsPlain) : ∀ c ∈ rule.stem, (c == '\n') = false := by
  have apart {c : Char} (ordinary : isBlank c = false) : (c == '\n') = false := by
    rw [beq_eq_false_iff_ne]
    rintro rfl
    exact absurd ordinary (by decide)
  intro c member
  rcases List.mem_append.1 member with first | rest
  · exact apart (plain.subject.2 c first)
  · rcases List.mem_cons.1 rest with rfl | rest
    · decide
    · rcases List.mem_append.1 rest with second | rest
      · exact apart (plain.object.2 c second)
      · rcases List.mem_cons.1 rest with rfl | third
        · decide
        · exact apart (plain.access.2 c third)

end Rule.IsPlain

theorem toList_line (rule : Rule) : (rule.line rule.access).toList = rule.stem ++ ['\n'] := by
  simp [Rule.line, Rule.stem, String.toList_append]

/-- Rules of words are read back from their text. -/
theorem readRules_ruleText
    {rules : List Rule}
    (plain : ∀ rule ∈ rules, rule.IsPlain) :
    readRules (ruleText rules) = rules := by
  induction rules with
  | nil => rfl
  | cons rule rest hypothesis =>
      have first := plain rule List.mem_cons_self
      have others := hypothesis fun other member => plain other (List.mem_cons_of_mem rule member)
      have text : (ruleText (rule :: rest)).toList =
          rule.stem ++ '\n' :: (ruleText rest).toList := by
        rw [ruleText, List.map_cons, String.join_cons, String.toList_append, toList_line,
          List.append_assoc]
        rfl
      rw [readRules, text, List.splitOn,
        List.splitOnP_append_cons_of_forall_mem first.stem_unbroken '\n' rfl, List.filterMap_cons,
        first.ofLine?_stem]
      exact congrArg (rule :: ·) others

/-- What is read is made of words. -/
theorem isPlain_of_mem_readRules
    {text : String} {rule : Rule}
    (member : rule ∈ readRules text) :
    rule.IsPlain := by
  obtain ⟨line, _, found⟩ := List.mem_filterMap.1 member
  rw [Rule.ofLine?] at found
  split at found
  · rename_i subject object access three
    cases found
    have word {word : String} (inside : word ∈ [subject, object, access]) : IsWord word :=
      isWord_of_mem_words (three ▸ inside)
    exact ⟨word (by simp), word (by simp), word (by simp)⟩
  · cases found

/-! ## The rules of an application -/

theorem isBlank_of_isIdChar
    {c : Char}
    (allowed : isIdChar c = true) :
    isBlank c = false := by
  have range : 45 ≤ c.toNat ∧ c.toNat ≤ 122 := by
    delta isIdChar Char.isAlphanum Char.isAlpha Char.isUpper Char.isLower Char.isDigit at allowed
    simp only [Bool.or_eq_true, Bool.and_eq_true, decide_eq_true_eq, beq_iff_eq, ge_iff_le,
      UInt32.le_iff_toNat_le] at allowed
    change ((((65 ≤ c.toNat ∧ c.toNat ≤ 90) ∨ (97 ≤ c.toNat ∧ c.toNat ≤ 122)) ∨
      (48 ≤ c.toNat ∧ c.toNat ≤ 57)) ∨ c = '_') ∨ c = '-' at allowed
    rcases allowed with (((upper | lower) | digit) | rfl) | rfl
    · omega
    · omega
    · omega
    · decide
    · decide
  simp only [isBlank, Bool.or_eq_false_iff, Bool.and_eq_false_iff, decide_eq_false_iff_not,
    beq_eq_false_iff_ne]
  omega

theorem unbroken_of_isValidId
    {id : String}
    (valid : isValidId id = true) :
    Unbroken id := by
  rw [isValidId, Bool.and_eq_true, List.all_eq_true] at valid
  intro c member
  exact isBlank_of_isIdChar (valid.2 c member)

theorem isWord_applicationLabel
    {id : String}
    (valid : isValidId id = true) :
    IsWord (applicationLabel id) := by
  have app : IsWord "App:" := by decide
  exact app.append (unbroken_of_isValidId valid)

theorem isWord_pathLabel
    {id : String}
    (valid : isValidId id = true)
    (kind : Kind) :
    IsWord (pathLabel id kind) := by
  have own := isWord_applicationLabel valid
  cases kind with
  | plain => exact own
  | shared => exact (by decide : IsWord sharedLabel)
  | _ => exact own.append (by decide)

/-- The rules of an application are made of words. -/
theorem isPlain_of_mem_rulesOf
    {id : String} {context : Context} {rule : Rule}
    (valid : isValidId id = true)
    (importers : ∀ plug ∈ context.plugs, isValidId plug.importId = true)
    (member : rule ∈ rulesOf id context) :
    rule.IsPlain := by
  have own := isWord_applicationLabel valid
  have system : IsWord systemLabel := by decide
  have full : IsWord fullAccess := by decide
  have shared : IsWord sharedLabel := by decide
  rw [rulesOf] at member
  rcases List.mem_append.1 member with fixed | plugged
  · rcases List.mem_append.1 fixed with first | kinds
    · simp only [List.mem_cons, List.not_mem_nil, or_false] at first
      rcases first with rfl | rfl | rfl
      · exact ⟨system, own, full⟩
      · exact ⟨own, system, (by decide : IsWord "wx")⟩
      · exact ⟨own, shared, (by decide : IsWord "rx")⟩
    · obtain ⟨kind, _, among⟩ := List.mem_flatMap.1 kinds
      simp only [kindRules, List.mem_cons, List.not_mem_nil, or_false] at among
      rcases among with rfl | rfl
      · exact ⟨own, isWord_pathLabel valid kind, full⟩
      · exact ⟨system, isWord_pathLabel valid kind, full⟩
  · obtain ⟨plug, among, rfl⟩ := List.mem_map.1 plugged
    exact ⟨isWord_applicationLabel (importers plug among), isWord_pathLabel valid .plug, full⟩

end Policy

end Confinement
