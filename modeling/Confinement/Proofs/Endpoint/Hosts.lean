import Confinement.Endpoint.Basic
import Confinement.Proofs.Endpoint.References
import Confinement.Proofs.Text.Percent

/-!
# Hosts and ports

A host that was read once is `Settled`: it consists of printable characters, none of which ends a
path, and does not begin as a path does, whether it was encoded (`settled_encodeControls`) or is an
address in brackets (`settled_bracketed`).  A port that was read is written in digits, and these are
read as the port (`unsigned?_toString`).
-/

namespace Confinement

/-! ## Numbers -/

namespace Text

theorem digitsFrom_eq_ofDigitChars
    {chars : List Char}
    (digits : ∀ c ∈ chars, c.isDigit = true)
    (value : Nat) :
    digitsFrom value chars = some (Nat.ofDigitChars 10 chars value) := by
  induction chars generalizing value with
  | nil => rfl
  | cons c rest hypothesis =>
      rw [digitsFrom, if_pos (digits c List.mem_cons_self),
        hypothesis fun other member => digits other (List.mem_cons_of_mem _ member),
        Nat.ofDigitChars_cons, Nat.mul_comm]

theorem isDigit_of_mem_toDigits {number : Nat} {c : Char} (member : c ∈ Nat.toDigits 10 number) :
    c.isDigit = true :=
  Nat.isDigit_of_mem_toDigits (by decide) (by decide) member

theorem toDigits_ne_nil (number : Nat) : Nat.toDigits 10 number ≠ [] := by
  rw [Nat.toDigits_eq_if (by decide)]
  split
  · exact List.cons_ne_nil _ _
  · exact List.append_ne_nil_of_right_ne_nil _ (List.cons_ne_nil _ _)

/-- A number is read from its digits. -/
theorem unsigned?_toDigits
    {bound number : Nat}
    (small : number < bound) :
    unsigned? bound (String.ofList (Nat.toDigits 10 number)) = some number := by
  have read : digitsFrom 0 (Nat.toDigits 10 number) = some number := by
    rw [digitsFrom_eq_ofDigitChars fun c member => isDigit_of_mem_toDigits member,
      Nat.ofDigitChars_toDigits (by decide) (by decide)]
  have some := toDigits_ne_nil number
  have digits : ∀ c ∈ Nat.toDigits 10 number, c.isDigit = true := fun c => isDigit_of_mem_toDigits
  rw [unsigned?, String.toList_ofList]
  cases chars : Nat.toDigits 10 number with
  | nil => exact absurd chars some
  | cons first rest =>
      rw [chars] at read digits
      have unsigned : dropPlus (first :: rest) = first :: rest := by
        rw [dropPlus.eq_def]
        split
        · rename_i same
          cases same
          exact absurd (digits '+' List.mem_cons_self) (by decide)
        · rfl
      rw [unsigned, digits?]
      · rw [read]
        dsimp only
        rw [if_pos small]
      · exact List.cons_ne_nil _ _

end Text

/-! ## Hosts -/

namespace Reference

open Percent

/-- Whether a host stands in a reference as it was read. -/
structure Settled (host : List Char) : Prop where
  some : host ≠ []
  printable : ∀ c ∈ host, IsPrintable c
  /-- Neither a query nor a fragment begins in the host. -/
  whole : ∀ c ∈ host, endsPath c = false
  /-- The host does not begin as a path does. -/
  relative : host.head? ≠ .some '/'

theorem isBreak_of_isPrintable {c : Char} (printable : IsPrintable c) : isBreak c = false := by
  cases broken : isBreak c with
  | false => rfl
  | true =>
      rw [isBreak, Bool.or_eq_true, Bool.or_eq_true, beq_iff_eq, beq_iff_eq, beq_iff_eq] at broken
      rcases broken with (rfl | rfl) | rfl <;> exact absurd printable (by decide)

theorem endsPath_digit
    {value : UInt8}
    (small : value.toNat < 16) :
    endsPath (digit value) = false := by
  have all : ∀ n < 16, endsPath (digit (UInt8.ofNat n)) = false := by decide
  have found := all value.toNat small
  rwa [UInt8.ofNat_toNat] at found

/-- A host is settled once it is encoded. -/
theorem settled_encodeControls
    {chars : List Char}
    (some : chars ≠ [])
    (whole : ∀ c ∈ chars, endsPath c = false)
    (relative : chars.head? ≠ .some '/') :
    Settled (encodeControls (String.ofList chars)).toList := by
  obtain ⟨first, rest, rfl⟩ := List.exists_cons_of_ne_nil some
  have begins : (encodeControls (String.ofList (first :: rest))).toList.head? = .some first ∨
      (encodeControls (String.ofList (first :: rest))).toList.head? = .some '%' := by
    rw [toList_encodeControls, String.toList_ofList, List.flatMap_cons, List.head?_append]
    rcases head?_written first with same | code
    · exact .inl (by rw [same]; rfl)
    · exact .inr (by rw [code]; rfl)
  refine ⟨?_, fun c => isPrintable_of_mem_encodeControls, ?_, ?_⟩
  · intro nothing
    rw [nothing] at begins
    rcases begins with none | none <;> cases none
  · intro c member
    rw [toList_encodeControls, String.toList_ofList] at member
    obtain ⟨original, inside, among⟩ := List.mem_flatMap.1 member
    rcases mem_written among with ⟨_, rfl⟩ | rfl | ⟨value, small, rfl⟩
    · exact whole c inside
    · rfl
    · exact endsPath_digit small
  · intro slash
    rcases begins with same | code
    · exact relative (same.symm.trans slash)
    · exact absurd (code.symm.trans slash) (by decide)

/-! ### Addresses in brackets -/

/-- The characters of addresses. -/
def addressChars : List Char := "0123456789abcdef:[]".toList

theorem mem_addressChars_of_mem_toDigits
    {value : Nat} {c : Char}
    (member : c ∈ Nat.toDigits 16 value) :
    c ∈ addressChars := by
  have digit : ∀ n < 16, Nat.digitChar n ∈ addressChars := by decide
  induction value using Nat.strongRecOn with
  | ind value hypothesis =>
      rw [Nat.toDigits_eq_if (by decide)] at member
      split at member
      · rename_i small
        rw [List.mem_singleton.1 member]
        exact digit value small
      · rename_i large
        rcases List.mem_append.1 member with upper | last
        · exact hypothesis (value / 16) (by omega) upper
        · rw [List.mem_singleton.1 last]
          exact digit _ (Nat.mod_lt _ (by decide))

theorem mem_addressChars_of_mem_groupsText
    {groups : List Nat} {c : Char}
    (member : c ∈ (Ipv6.groupsText groups).toList) :
    c ∈ addressChars := by
  rw [Ipv6.groupsText] at member
  induction groups with
  | nil => cases member
  | cons value rest hypothesis =>
      have among (member : c ∈ (Ipv6.groupText value).toList) : c ∈ addressChars := by
        rw [Ipv6.groupText, String.toList_ofList] at member
        exact mem_addressChars_of_mem_toDigits member
      cases rest with
      | nil =>
          rw [List.map_cons, List.map_nil, String.intercalate_singleton] at member
          exact among member
      | cons next others =>
          rw [List.map_cons, List.map_cons, String.intercalate_cons_cons, String.toList_append,
            String.toList_append] at member
          rcases List.mem_append.1 member with front | back
          · rcases List.mem_append.1 front with first | colon
            · exact among first
            · rw [List.mem_singleton.1 colon]
              decide
          · exact hypothesis back

theorem mem_addressChars_of_mem_text
    {groups : List Nat} {c : Char}
    (member : c ∈ (Ipv6.text groups).toList) :
    c ∈ addressChars := by
  rw [Ipv6.text] at member
  dsimp only at member
  split at member
  · exact mem_addressChars_of_mem_groupsText member
  · rw [String.toList_append, String.toList_append] at member
    rcases List.mem_append.1 member with front | back
    · rcases List.mem_append.1 front with front | gap
      · exact mem_addressChars_of_mem_groupsText front
      · have colon : c = ':' := by simpa using gap
        rw [colon]
        decide
    · exact mem_addressChars_of_mem_groupsText back

theorem settled_bracketed
    {chars : List Char} {host : String}
    (read : bracketed chars = .ok host) :
    Settled host.toList := by
  rw [bracketed] at read
  split at read
  · split at read
    · rename_i groups _
      cases read
      have chars : ∀ c ∈ ("[" ++ Ipv6.text groups ++ "]").toList, c ∈ addressChars := by
        intro c member
        rw [String.toList_append, String.toList_append] at member
        rcases List.mem_append.1 member with front | last
        · rcases List.mem_append.1 front with first | inner
          · rw [List.mem_singleton.1 first]
            decide
          · exact mem_addressChars_of_mem_text inner
        · rw [List.mem_singleton.1 last]
          decide
      have fine : ∀ c ∈ addressChars, IsPrintable c ∧ endsPath c = false := by
        have all :
            (addressChars.all fun c => decide (IsPrintable c ∧ endsPath c = false)) = true := by
          decide
        intro c member
        exact of_decide_eq_true (List.all_eq_true.1 all c member)
      have begins : ("[" ++ Ipv6.text groups ++ "]").toList.head? = some '[' := by
        rw [String.toList_append, String.toList_append]
        rfl
      refine ⟨?_, fun c member => (fine c (chars c member)).1,
        fun c member => (fine c (chars c member)).2, ?_⟩
      · intro nothing
        rw [nothing] at begins
        cases begins
      · rw [begins]
        decide
    · cases read
  · cases read

/-- A host that was read behind a scheme of its own is settled. -/
theorem settled_opaqueHost
    {chars : List Char} {host : String}
    (inside : ∀ c ∈ chars, endsAuthority .plain c = false)
    (read : opaqueHost chars = .ok host)
    (some : host ≠ "") :
    Settled host.toList := by
  rw [opaqueHost.eq_def] at read
  split at read
  · exact settled_bracketed read
  · split at read
    · cases read
    · cases read
      have first : chars ≠ [] := by
        rintro rfl
        exact some rfl
      have free {c : Char} (member : c ∈ chars) : c ≠ '/' ∧ endsPath c = false := by
        obtain ⟨slash, ending⟩ := Bool.or_eq_false_iff.1 (inside c member)
        exact ⟨beq_eq_false_iff_ne.1 slash, ending⟩
      apply settled_encodeControls first
      · intro c member
        exact (free member).2
      · intro slash
        exact (free (List.mem_of_mem_head? slash)).1 rfl

/-! ### References with a host -/

theorem scheme_of_ofFile
    {scheme : String} {chars : List Char} {reference : Reference}
    (read : ofFile scheme chars = .ok reference) :
    reference.scheme = scheme := by
  unfold ofFile at read
  dsimp only [bind, Except.bind, pure, Except.pure] at read
  split at read
  · split at read
    · split at read
      · cases read
        rfl
      · split at read
        · cases read
          rfl
        · split at read
          · cases read
          · cases read
            rfl
    · cases read
      rfl
  · cases read
    rfl

/-- What is known of a reference whose scheme is neither of the web nor `file`. -/
theorem settled_of_parse
    {text : String} {reference : Reference}
    (read : parse text = .ok reference)
    (plain : SchemeClass.of reference.scheme = .plain) :
    (reference.isOpaque = true →
      (∀ c ∈ reference.path.toList, endsPath c = false) ∧
        reference.path.toList.head? ≠ some '/') ∧
      (∀ host ∈ reference.host, Settled host.toList) ∧
      ∀ port ∈ reference.port, port < 65536 := by
  rw [parse] at read
  split at read
  · cases read
  · rename_i scheme chars split
    split at read
    · rename_i web
      obtain ⟨user, rest, _, read⟩ := ofAuthority_ok read
      obtain ⟨host, port, after, _, _, _, rfl⟩ := ofHost_ok read
      exact absurd (web.symm.trans plain) SchemeClass.noConfusion
    · rename_i file
      rw [scheme_of_ofFile read] at plain
      exact absurd (file.symm.trans plain) SchemeClass.noConfusion
    · split at read
      · obtain ⟨user, rest, _, read⟩ := ofAuthority_ok read
        obtain ⟨host, port, after, located, small, _, rfl⟩ := ofHost_ok read
        refine ⟨fun isOpaque => absurd isOpaque Bool.false_ne_true, ?_, small⟩
        intro other found
        split at found
        · cases found
        · cases found
          exact settled_opaqueHost (fun c => endsAuthority_of_mem_splitHost) located ‹_›
      · cases read
        exact ⟨fun isOpaque => absurd isOpaque Bool.false_ne_true,
          fun _ none => absurd none (Option.not_mem_none _),
          fun _ none => absurd none (Option.not_mem_none _)⟩
      · rename_i relative
        cases read
        refine ⟨fun _ => ⟨?_, ?_⟩, fun _ none => absurd none (Option.not_mem_none _),
          fun _ none => absurd none (Option.not_mem_none _)⟩
        · intro c member
          rw [String.toList_ofList] at member
          have kept := List.mem_takeWhile_imp member
          rwa [Bool.not_eq_true'] at kept
        · rw [String.toList_ofList]
          intro slash
          obtain ⟨rest, taken⟩ := List.head?_eq_some_iff.1 slash
          obtain ⟨others, whole⟩ := List.takeWhile_prefix (fun c => !endsPath c) (l := chars)
          rw [taken] at whole
          exact relative _ whole.symm

end Reference

end Confinement
