import Confinement.Wire.Decoder

/-!
# Scanning wire forms

A scan answers as soon as the bytes that decide it are there, and bytes that come later never
change its answer.  On the wire form of a record it finds that record, whatever stands behind it:
the look-ahead of an escape never leaves the field, because an escape at the end of a field is
itself escaped.

One record does not come back as it was: a single empty field is written as a bare terminator, and
so is the record without fields.
-/

namespace Confinement.Wire

/-- A record as its receiver sees it: the record of one empty field arrives without fields. -/
def Record.asReceived : Record → Record
  | [[]] => []
  | record => record

/-- Only the record of one empty field is received as another. -/
theorem Record.asReceived_eq_self
    {record : Record}
    (full : record ≠ [[]]) :
    record.asReceived = record := by
  unfold Record.asReceived
  split
  · exact absurd rfl full
  · rfl

/-- Closing a record is receiving it. -/
theorem closeRecord_eq_asReceived (fields : List Bytes) (field : Bytes) :
    closeRecord fields field = Record.asReceived (fields.reverse ++ [field.reverse]) := by
  unfold closeRecord
  cases fields with
  | nil =>
      cases field with
      | nil => rfl
      | cons byte rest =>
          rw [Record.asReceived_eq_self (by simp)]
          simp
  | cons first others =>
      rw [Record.asReceived_eq_self (by simp [List.append_eq_cons_iff])]
      simp

/-! ## One step of a scan -/

/-- A byte with a meaning on the wire is one of the three. -/
theorem isSpecial_iff {byte : UInt8} :
    isSpecial byte = true ↔ byte = separator ∨ byte = terminator ∨ byte = escapeByte := by
  simp [isSpecial, or_assoc]

section Steps

variable (fields : List Bytes) (field : Bytes) (before : Nat) (rest : Bytes)

theorem scanFrom_pair {next : UInt8} (special : isSpecial next = true) :
    scanFrom fields field before (escapeByte :: next :: rest) =
      scanFrom fields (next :: field) (before + 2) rest := by
  rw [scanFrom.eq_def]
  simp [special]

theorem scanFrom_lone {next : UInt8} (ordinary : isSpecial next = false) :
    scanFrom fields field before (escapeByte :: next :: rest) =
      scanFrom fields (escapeByte :: field) (before + 1) (next :: rest) := by
  rw [scanFrom.eq_def]
  simp [ordinary]

theorem scanFrom_separator (room : fields.length + 1 < fieldLimit) :
    scanFrom fields field before (separator :: rest) =
      scanFrom (field.reverse :: fields) [] (before + 1) rest := by
  have notEscape : separator ≠ escapeByte := by decide
  rw [scanFrom.eq_def]
  simp [notEscape, Nat.not_le_of_lt room]

theorem scanFrom_separator_overfull (full : fieldLimit ≤ fields.length + 1) :
    scanFrom fields field before (separator :: rest) = .overfull := by
  have notEscape : separator ≠ escapeByte := by decide
  rw [scanFrom.eq_def]
  simp [notEscape, full]

theorem scanFrom_terminator :
    scanFrom fields field before (terminator :: rest) =
      .complete (closeRecord fields field) (before + 1) := by
  have notEscape : terminator ≠ escapeByte := by decide
  have notSeparator : terminator ≠ separator := by decide
  rw [scanFrom.eq_def]
  simp [notEscape, notSeparator]

theorem scanFrom_ordinary {byte : UInt8} (ordinary : isSpecial byte = false) :
    scanFrom fields field before (byte :: rest) =
      scanFrom fields (byte :: field) (before + 1) rest := by
  have plain : ¬(byte = separator ∨ byte = terminator ∨ byte = escapeByte) := by
    rw [← isSpecial_iff, ordinary]
    decide
  have notEscape : byte ≠ escapeByte := fun equal => plain (Or.inr (Or.inr equal))
  have notSeparator : byte ≠ separator := fun equal => plain (Or.inl equal)
  have notTerminator : byte ≠ terminator := fun equal => plain (Or.inr (Or.inl equal))
  rw [scanFrom.eq_def]
  simp [notEscape, notSeparator, notTerminator]

end Steps

/-! ## Bytes that come later -/

/-- What a scan has decided stays decided when more bytes have arrived. -/
theorem scanFrom_append
    {fields : List Bytes} {field : Bytes} {before : Nat} {data : Bytes} {answer : Scan}
    (decided : scanFrom fields field before data = answer)
    (known : answer ≠ .incomplete)
    (more : Bytes) :
    scanFrom fields field before (data ++ more) = answer := by
  fun_induction scanFrom fields field before data with
  | case1 => exact absurd decided.symm known
  | case2 => exact absurd decided.symm known
  | case3 fields field before next tail special hypothesis =>
      rw [List.cons_append, List.cons_append, scanFrom_pair _ _ _ _ special]
      exact hypothesis decided
  | case4 fields field before next tail ordinary hypothesis =>
      rw [List.cons_append, List.cons_append,
        scanFrom_lone _ _ _ _ (by simpa using ordinary)]
      exact hypothesis decided
  | case5 fields field before rest full notEscape =>
      rw [List.cons_append, scanFrom_separator_overfull _ _ _ _ full]
      exact decided
  | case6 fields field before rest room notEscape hypothesis =>
      rw [List.cons_append, scanFrom_separator _ _ _ _ (by omega)]
      exact hypothesis decided
  | case7 fields field before rest notEscape notSeparator =>
      rw [List.cons_append, scanFrom_terminator]
      exact decided
  | case8 fields field before byte rest notEscape notSeparator notTerminator hypothesis =>
      have ordinary : isSpecial byte = false := by
        rw [Bool.eq_false_iff, ne_eq, isSpecial_iff]
        rintro (isSeparator | isTerminator | isEscape)
        · exact notSeparator isSeparator
        · exact notTerminator isTerminator
        · exact notEscape isEscape
      rw [List.cons_append, scanFrom_ordinary _ _ _ _ ordinary]
      exact hypothesis decided

/-- The same for a scan from the head. -/
theorem scan_append
    {data : Bytes} {answer : Scan}
    (decided : scan data = answer)
    (known : answer ≠ .incomplete)
    (more : Bytes) :
    scan (data ++ more) = answer :=
  scanFrom_append decided known more

/-! ## Wire forms -/

theorem escape_cons_of_needsEscape
    {byte : UInt8} {rest : Bytes}
    (needed : needsEscape byte rest.head? = true) :
    escape (byte :: rest) = escapeByte :: byte :: escape rest := by
  simp [escape, needed]

theorem escape_cons_of_not_needsEscape
    {byte : UInt8} {rest : Bytes}
    (plain : needsEscape byte rest.head? = false) :
    escape (byte :: rest) = byte :: escape rest := by
  simp [escape, plain]

/-- Only bytes with a meaning on the wire are escaped. -/
theorem isSpecial_of_needsEscape
    {byte : UInt8} {next : Option UInt8}
    (needed : needsEscape byte next = true) :
    isSpecial byte = true := by
  unfold needsEscape at needed
  split at needed
  · rename_i equal
    subst equal
    decide
  · exact needed

/-- A byte that is not escaped is ordinary, or an escape before an ordinary byte of its field. -/
theorem ordinary_of_not_needsEscape
    {byte : UInt8} {next : Option UInt8}
    (plain : needsEscape byte next = false) :
    isSpecial byte = false ∨
      byte = escapeByte ∧ ∃ other, next = some other ∧ isSpecial other = false := by
  unfold needsEscape at plain
  split at plain
  · rename_i equal
    cases next with
    | none => cases plain
    | some other => exact Or.inr ⟨equal, other, rfl, plain⟩
  · exact Or.inl plain

theorem needsEscape_of_ordinary
    {byte : UInt8} (next : Option UInt8)
    (ordinary : isSpecial byte = false) :
    needsEscape byte next = false := by
  rw [Bool.eq_false_iff]
  intro needed
  rw [isSpecial_of_needsEscape needed] at ordinary
  cases ordinary

/-- A scan takes in a whole field, whatever follows. -/
theorem scanFrom_escape
    (field rest : Bytes) (fields : List Bytes) (read : Bytes) (before : Nat) :
    scanFrom fields read before (escape field ++ rest) =
      scanFrom fields (field.reverse ++ read) (before + (escape field).length) rest := by
  induction field generalizing read before with
  | nil => rfl
  | cons byte following hypothesis =>
      cases needed : needsEscape byte following.head? with
      | true =>
          rw [escape_cons_of_needsEscape needed, List.cons_append, List.cons_append,
            scanFrom_pair _ _ _ _ (isSpecial_of_needsEscape needed), hypothesis]
          simp only [List.reverse_cons, List.append_assoc, List.singleton_append,
            List.length_cons]
          congr 1
          omega
      | false =>
          have onward :
              scanFrom fields (byte :: read) (before + 1) (escape following ++ rest) =
                scanFrom fields ((byte :: following).reverse ++ read)
                  (before + (escape (byte :: following)).length) rest := by
            rw [hypothesis, escape_cons_of_not_needsEscape needed]
            simp only [List.reverse_cons, List.append_assoc, List.singleton_append,
              List.length_cons]
            congr 1
            omega
          rw [← onward, escape_cons_of_not_needsEscape needed, List.cons_append]
          rcases ordinary_of_not_needsEscape needed with ordinary | ⟨rfl, other, next, ordinary⟩
          · exact scanFrom_ordinary _ _ _ _ ordinary
          · -- The escape stands for itself: the scan sees the ordinary byte behind it.
            cases following with
            | nil => cases next
            | cons first others =>
                cases next
                rw [escape_cons_of_not_needsEscape (needsEscape_of_ordinary _ ordinary),
                  List.cons_append]
                exact scanFrom_lone _ _ _ _ ordinary

/-- A scan reads the remaining fields of a record and closes it. -/
theorem scanFrom_body
    {record : Record} (full : record ≠ [])
    {fields : List Bytes} (room : fields.length + record.length ≤ fieldLimit)
    (before : Nat) (rest : Bytes) :
    scanFrom fields [] before (record.body ++ terminator :: rest) =
      .complete (Record.asReceived (fields.reverse ++ record))
        (before + record.body.length + 1) := by
  induction record generalizing fields before with
  | nil => exact absurd rfl full
  | cons field following hypothesis =>
      cases following with
      | nil =>
          rw [Record.body, scanFrom_escape, scanFrom_terminator,
            closeRecord_eq_asReceived]
          simp
      | cons next others =>
          simp only [List.length_cons] at room
          rw [Record.body, List.append_assoc, List.cons_append, scanFrom_escape,
            scanFrom_separator _ _ _ _ (by omega),
            hypothesis (by simp) (by simp only [List.length_cons]; omega)]
          · simp only [List.append_nil, List.reverse_reverse, List.reverse_cons,
              List.append_assoc, List.singleton_append, List.length_append, List.length_cons]
            congr 1
            omega
          · simp

/-- At the head of a stream, the wire form of a record is read back whole, whatever follows. -/
theorem scan_wire
    {record : Record}
    (fits : record.length ≤ fieldLimit)
    (rest : Bytes) :
    scan (record.wire ++ rest) = .complete record.asReceived record.wire.length := by
  unfold scan Record.wire
  rw [List.append_assoc, List.singleton_append]
  cases record with
  | nil =>
      rw [Record.body, List.nil_append, scanFrom_terminator]
      rfl
  | cons field following =>
      rw [scanFrom_body (by simp) (by simpa using fits)]
      simp

end Confinement.Wire
