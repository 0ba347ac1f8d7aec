import Confinement.Endpoint.Reference
import Mathlib.Data.List.DropRight

/-!
# References with a scheme of their own

What follows the scheme of a reference counts without line breaks and without blanks at its end
(`counted`).  A reference whose scheme is neither of the web nor `file` is read by how what follows
begins: an authority, a path with a root or an opaque path (`parse_of_plain`).
-/

namespace Confinement.Reference

/-! ## What counts -/

theorem isEdge_of_isBreak {c : Char} (broken : isBreak c = true) : isEdge c = true := by
  rw [isBreak, Bool.or_eq_true, Bool.or_eq_true, beq_iff_eq, beq_iff_eq, beq_iff_eq] at broken
  rcases broken with (rfl | rfl) | rfl <;> decide

theorem isEdge_of_isAlpha {c : Char} (letter : c.isAlpha = true) : isEdge c = false := by
  have large : 0x41 ≤ c.toNat := by
    rcases Bool.or_eq_true_iff.1 letter with upper | lower
    · exact UInt32.le_iff_toNat_le.1 (of_decide_eq_true upper).1
    · have least := of_decide_eq_true (Bool.and_eq_true_iff.1 lower).1
      exact Nat.le_trans (by decide) (UInt32.le_iff_toNat_le.1 least)
  rw [isEdge, decide_eq_false_iff_not]
  omega

theorem isBreak_eq_false_of_isEdge {c : Char} (solid : isEdge c = false) : isBreak c = false := by
  cases broken : isBreak c with
  | false => rfl
  | true => exact absurd ((isEdge_of_isBreak broken).symm.trans solid) Bool.noConfusion

theorem isEdge_of_isDigit {c : Char} (digit : c.isDigit = true) : isEdge c = false := by
  rw [Char.isDigit, Bool.and_eq_true, decide_eq_true_iff, decide_eq_true_iff] at digit
  have large : 0x30 ≤ c.toNat := UInt32.le_iff_toNat_le.1 digit.1
  rw [isEdge, decide_eq_false_iff_not]
  omega

theorem endsPath_of_isDigit {c : Char} (digit : c.isDigit = true) : endsPath c = false := by
  cases ends : endsPath c with
  | false => rfl
  | true =>
      rw [endsPath, Bool.or_eq_true, beq_iff_eq, beq_iff_eq] at ends
      rcases ends with rfl | rfl <;> exact absurd digit (by decide)

/-- The characters at the end of a reference that count. -/
def counted (chars : List Char) : List Char :=
  (chars.rdropWhile isEdge).filter fun c => !isBreak c

theorem counted_sublist (chars : List Char) : (counted chars).Sublist chars :=
  List.filter_sublist.trans (List.rdropWhile_prefix isEdge chars).sublist

/-- All characters count that have no line breaks among them and do not end in a blank. -/
theorem counted_eq_self_iff
    {chars : List Char} :
    counted chars = chars ↔
      (∀ c ∈ chars, isBreak c = false) ∧
        ∀ some : chars ≠ [], isEdge (chars.getLast some) = false := by
  constructor
  · intro all
    have inside : chars.Sublist (chars.rdropWhile isEdge) := by
      have part : (counted chars).Sublist (chars.rdropWhile isEdge) := List.filter_sublist
      rwa [all] at part
    have kept : chars.rdropWhile isEdge = chars :=
      (List.rdropWhile_prefix isEdge chars).sublist.antisymm inside
    constructor
    · intro c member
      rw [← all] at member
      exact Bool.not_eq_true' _ ▸ (List.mem_filter.1 member).2
    · intro some
      exact Bool.not_eq_true _ ▸ List.rdropWhile_eq_self_iff.1 kept some
  · rintro ⟨unbroken, last⟩
    have kept : chars.rdropWhile isEdge = chars := by
      rw [List.rdropWhile_eq_self_iff]
      intro some
      rw [last some]
      exact Bool.false_ne_true
    rw [counted, kept, List.filter_eq_self]
    intro c member
    rw [unbroken c member]
    rfl

theorem rdropWhile_append
    {front : List Char}
    (solid : ∀ c ∈ front, isEdge c = false)
    (chars : List Char) :
    (front ++ chars).rdropWhile isEdge = front ++ chars.rdropWhile isEdge := by
  induction chars using List.reverseRecOn with
  | nil =>
      rw [List.append_nil, List.rdropWhile_nil, List.append_nil, List.rdropWhile_eq_self_iff]
      intro some
      rw [solid _ (List.getLast_mem some)]
      exact Bool.false_ne_true
  | append_singleton chars c hypothesis =>
      rw [← List.append_assoc, List.rdropWhile_concat, List.rdropWhile_concat, hypothesis]
      split
      · rfl
      · exact List.append_assoc _ _ _

/-- Of a reference that begins without blanks, all of the beginning counts. -/
theorem significant_append
    {front : List Char}
    (some : front ≠ [])
    (solid : ∀ c ∈ front, isEdge c = false)
    (chars : List Char) :
    significant (String.ofList (front ++ chars)) = front ++ counted chars := by
  have begins : (front ++ chars).dropWhile isEdge = front ++ chars := by
    cases front with
    | nil => exact absurd rfl some
    | cons c rest =>
        rw [List.cons_append, List.dropWhile_cons_of_neg]
        rw [solid c List.mem_cons_self]
        exact Bool.false_ne_true
  have kept : front.filter (fun c => !isBreak c) = front := by
    rw [List.filter_eq_self]
    intro c member
    rw [isBreak_eq_false_of_isEdge (solid c member)]
    rfl
  rw [significant, String.toList_ofList]
  show (((front ++ chars).dropWhile isEdge).rdropWhile isEdge).filter _ = _
  rw [begins, rdropWhile_append solid, List.filter_append, kept]
  rfl

/-! ## The three forms -/

/-- A scheme of letters, and what counts behind it. -/
theorem splitScheme?_append
    {front : List Char}
    (some : front ≠ [])
    (letters : ∀ c ∈ front, c.isAlpha = true)
    (chars : List Char) :
    splitScheme? (front ++ ':' :: chars) =
      .some (String.ofList (front.map Char.toLower), chars) := by
  have within : ∀ c ∈ front, isSchemeChar c = true := by
    intro c member
    rw [isSchemeChar, Char.isAlphanum, letters c member]
    rfl
  have taken : (front ++ ':' :: chars).takeWhile isSchemeChar = front := by
    rw [List.takeWhile_append_of_pos within, List.takeWhile_cons_of_neg (by decide),
      List.append_nil]
  have dropped : (front ++ ':' :: chars).dropWhile isSchemeChar = ':' :: chars := by
    rw [List.dropWhile_append_of_pos within, List.dropWhile_cons_of_neg (by decide)]
  cases front with
  | nil => exact absurd rfl some
  | cons first rest =>
      rw [List.cons_append] at taken dropped ⊢
      rw [splitScheme?, if_pos (letters first List.mem_cons_self), dropped, taken]
      rfl

/-- Of a text that begins with a scheme of letters, what counts behind it is read. -/
theorem splitScheme?_significant
    {front : List Char}
    (some : front ≠ [])
    (letters : ∀ c ∈ front, c.isAlpha = true)
    (chars : List Char) :
    splitScheme? (significant (String.ofList (front ++ ':' :: chars))) =
      .some (String.ofList (front.map Char.toLower), counted chars) := by
  have solid : ∀ c ∈ front ++ [':'], isEdge c = false := by
    intro c member
    rcases List.mem_append.1 member with letter | colon
    · exact isEdge_of_isAlpha (letters c letter)
    · rw [List.mem_singleton.1 colon]
      rfl
  have joined : front ++ ':' :: chars = (front ++ [':']) ++ chars := by simp
  rw [joined, significant_append (by simp) solid, List.append_assoc]
  exact splitScheme?_append some letters _

section Forms

variable {text scheme : String} {chars : List Char}

theorem parse_of_authority
    (split : splitScheme? (significant text) = some (scheme, '/' :: '/' :: chars))
    (plain : SchemeClass.of scheme = .plain) :
    parse text = ofAuthority scheme .plain chars := by
  rw [parse, split]
  simp only [plain]

theorem parse_of_root
    (split : splitScheme? (significant text) = some (scheme, '/' :: chars))
    (plain : SchemeClass.of scheme = .plain)
    (alone : chars.head? ≠ some '/') :
    parse text = .ok ⟨scheme, none, none, false,
      rootedPath .plain (chars.takeWhile fun c => !endsPath c)⟩ := by
  rw [parse, split]
  simp only [plain]
  split
  · rename_i same
    cases same
    exact absurd rfl alone
  · rename_i same
    cases same
    rfl
  · rename_i other
    exact absurd rfl (other chars)

theorem parse_of_relative
    (split : splitScheme? (significant text) = some (scheme, chars))
    (plain : SchemeClass.of scheme = .plain)
    (relative : chars.head? ≠ some '/') :
    parse text = .ok ⟨scheme, none, none, true,
      String.ofList (chars.takeWhile fun c => !endsPath c)⟩ := by
  rw [parse, split]
  simp only [plain]
  split
  · exact absurd rfl relative
  · exact absurd rfl relative
  · rfl

end Forms

/-! ## Authorities -/

theorem splitHost_append (schemeClass : SchemeClass) (inBrackets : Bool) (chars : List Char) :
    (splitHost schemeClass inBrackets chars).1 ++ (splitHost schemeClass inBrackets chars).2 =
      chars := by
  induction chars generalizing inBrackets with
  | nil => rfl
  | cons c rest hypothesis =>
      rw [splitHost]
      split
      · rfl
      · exact congrArg (c :: ·) (hypothesis _)

/-- No character of a host ends the authority. -/
theorem endsAuthority_of_mem_splitHost
    {schemeClass : SchemeClass} {inBrackets : Bool} {chars : List Char} {c : Char}
    (member : c ∈ (splitHost schemeClass inBrackets chars).1) :
    endsAuthority schemeClass c = false := by
  induction chars generalizing inBrackets with
  | nil => cases member
  | cons first rest hypothesis =>
      rw [splitHost] at member
      split at member
      · cases member
      · rename_i within
        rcases List.mem_cons.1 member with rfl | later
        · exact Bool.not_eq_true _ ▸ (not_or.1 within).2
        · exact hypothesis later

/-- A port is a number below 65536, and what follows it is what was not read. -/
theorem portFrom_ok
    {value port : Option Nat} {chars after : List Char}
    (bounded : ∀ number ∈ value, number < 65536)
    (read : portFrom value chars = .ok (port, after)) :
    (∀ number ∈ port, number < 65536) ∧ after.Sublist chars := by
  induction chars generalizing value with
  | nil =>
      rw [portFrom] at read
      cases read
      exact ⟨bounded, List.Sublist.refl _⟩
  | cons c rest hypothesis =>
      rw [portFrom] at read
      dsimp only at read
      split at read
      · split at read
        · cases read
        · rename_i small
          have still : ∀ number ∈ some (value.getD 0 * 10 + (c.toNat - '0'.toNat)),
              number < 65536 := by
            rintro number ⟨⟩
            omega
          obtain ⟨bound, part⟩ := hypothesis still read
          exact ⟨bound, part.cons c⟩
      · split at read
        · cases read
          exact ⟨bounded, List.Sublist.refl _⟩
        · cases read

theorem splitPort_ok
    {port : Option Nat} {chars after : List Char}
    (read : splitPort chars = .ok (port, after)) :
    (∀ number ∈ port, number < 65536) ∧ after.Sublist chars := by
  rw [splitPort.eq_def] at read
  split at read
  · have unread : ∀ number ∈ (none : Option Nat), number < 65536 :=
      fun _ member => absurd member (Option.not_mem_none _)
    obtain ⟨bound, part⟩ := portFrom_ok unread read
    exact ⟨bound, part.cons _⟩
  · cases read
    exact ⟨fun _ member => absurd member (Option.not_mem_none _), List.Sublist.refl _⟩

/-- The parts that are read of an authority: a host, a port and what follows both. -/
theorem ofHost_ok
    {scheme : String} {schemeClass : SchemeClass} {user chars : List Char} {reference : Reference}
    (read : ofHost scheme schemeClass user chars = .ok reference) :
    ∃ host port afterPort,
      (if schemeClass = .plain then opaqueHost (splitHost schemeClass false chars).1
        else webHost (splitHost schemeClass false chars).1) = .ok host ∧
      (∀ number ∈ port, number < 65536) ∧ afterPort.Sublist chars ∧
      reference = ⟨scheme, if host = "" then none else some host, port, false,
        pathAfterAuthority schemeClass afterPort⟩ := by
  rw [ofHost] at read
  dsimp only at read
  split at read
  · cases read
  · split at read
    · cases read
    · rename_i host located
      split at read
      · cases read
      · split at read
        · cases read
        · rename_i port afterPort ported
          split at read
          · cases read
          · obtain ⟨bound, part⟩ := splitPort_ok ported
            have behind : (splitHost schemeClass false chars).2.Sublist chars := by
              have last := List.sublist_append_right (splitHost schemeClass false chars).1
                (splitHost schemeClass false chars).2
              rwa [splitHost_append] at last
            exact ⟨host, port, afterPort, located, bound, part.trans behind,
              (Except.ok.inj read).symm⟩

theorem splitUser_sublist
    {authority user host : List Char}
    (split : splitUser authority = some (user, host)) :
    host.Sublist authority := by
  rw [splitUser] at split
  split at split
  · cases split
    exact (List.rtakeWhile_suffix (fun c => decide (c ≠ '@')) authority).sublist
  · cases split

/-- An authority is read from its host on, and the host is a part of it. -/
theorem ofAuthority_ok
    {scheme : String} {schemeClass : SchemeClass} {chars : List Char} {reference : Reference}
    (read : ofAuthority scheme schemeClass chars = .ok reference) :
    ∃ user rest, rest.Sublist chars ∧ ofHost scheme schemeClass user rest = .ok reference := by
  have whole := List.prefix_iff_eq_append.1
    (List.takeWhile_prefix (fun c => !endsAuthority schemeClass c) (l := chars))
  have inside {user host : List Char}
      (split : splitUser (chars.takeWhile fun c => !endsAuthority schemeClass c) =
        some (user, host)) :
      (host ++ chars.drop (chars.takeWhile fun c => !endsAuthority schemeClass c).length).Sublist
        chars := by
    have part := (splitUser_sublist split).append_right
      (chars.drop (chars.takeWhile fun c => !endsAuthority schemeClass c).length)
    rwa [whole] at part
  rw [ofAuthority] at read
  split at read
  · exact ⟨[], chars, List.Sublist.refl _, read⟩
  · rename_i split
    split at read
    · cases read
    · exact ⟨[], _, inside split, read⟩
  · rename_i split
    exact ⟨_, _, inside split, read⟩

end Confinement.Reference
