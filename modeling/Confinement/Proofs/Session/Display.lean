import Confinement.Proofs.Client.Exchange
import Confinement.Proofs.Policy.InMemory
import Confinement.Proofs.Session.Endings
import Confinement.Proofs.Text.Order
import Confinement.Proofs.Wire.NormalForm
import Mathlib.Data.List.TakeWhile

/-!
# What is shown

A session asked to show what is staged sends one row for each staged thing, as often as it has to
make room for the next row.  Only a row that fits into no buffer at all ends the answer early.  A
client that reads the answer to its end therefore comes up with what `Context.description` lists:
all of it and `done`, or what stands before the first row that is too long and the error
`buffer-full`.
-/

namespace Confinement

open Host Policy Staging Wire

variable {World : Type}

/-! ## Reading an answer back -/

/-- Whether bytes are read back as the given records and nothing else, however they arrive. -/
def Wire.Carries (data : Bytes) (records : List Record) : Prop :=
  ∀ (allowEmpty : Bool) (source : Source), source.Unbroken → source.contents = data →
    ∃ last, readAll (Decoder.empty allowEmpty) source = .done records last ∧ last.buffered = 0

/-- Records that arrive are read back from their wire forms as they were sent. -/
theorem Wire.carries_wires
    {records : List Record}
    (sendable : ∀ record ∈ records, record.Sendable) :
    Carries (records.flatMap Record.wire) records := by
  have read (allowEmpty : Bool) :
      readStream allowEmpty (records.flatMap Record.wire) = ⟨records, some []⟩ := by
    induction records with
    | nil => exact readStream_nil allowEmpty
    | cons record rest hypothesis =>
        rw [List.flatMap_cons,
          (sendable record List.mem_cons_self).readStream_wire_append allowEmpty,
          hypothesis fun other member => sendable other (List.mem_cons_of_mem _ member)]
        rfl
  intro allowEmpty source unbroken whole
  have follows := readAll_follows (Decoder.drained_empty allowEmpty) unbroken
  rw [whole] at follows
  apply Reception.Follows.done
  rw [← read allowEmpty]
  exact follows

/-! ## The rows of a context -/

/-- The rows that describe what is staged. -/
def Staging.Context.description (context : Context) : List (List String) :=
  (if context.latched then [["error", "on"]] else []) ++
    (context.id.toList.map fun id => ["id", id]) ++
    (context.paths.map fun entry => ["path", entry.path, entry.kind.word]) ++
    (context.permissions.items.map fun permission => ["permission", permission]) ++
    context.plugs.map fun plug =>
      ["plug", plug.exportDirectory, plug.importId, plug.importDirectory]

theorem Reply.contextRows_eq (context : Context) : contextRows context = context.description := by
  rw [contextRows, Context.items, Context.description]
  simp only [List.map_append, List.map_map, List.append_assoc]
  rfl

/-- No row has more fields than a record may have. -/
theorem Staging.Context.length_of_mem_description
    {context : Context} {row : List String}
    (member : row ∈ context.description) :
    ("string" :: row).length ≤ fieldLimit := by
  have short : row.length ≤ 4 := by
    simp only [description, List.mem_append, List.mem_map] at member
    rcases member with (((switch | ⟨_, _, rfl⟩) | ⟨_, _, rfl⟩) | ⟨_, _, rfl⟩) | ⟨_, _, rfl⟩
    · split at switch
      · rw [List.mem_singleton.1 switch]
        decide
      · cases switch
    all_goals simp
  rw [List.length_cons, fieldLimit]
  omega

/-- The records that describe what is staged. -/
def Staging.Context.shownRecords (context : Context) : List Record :=
  context.description.map fun row => Record.ofTexts ("string" :: row)

/-- A set lists its texts in the order of their bytes. -/
theorem TextSet.ascending_bytes (set : TextSet) :
    (set.items.map Text.bytes).Pairwise (· < ·) :=
  List.Pairwise.map Text.bytes (fun _ _ less => Text.bytes_lt_bytes less) set.ascending

namespace Stance

/-- Rows that all fit are shown to the last. -/
theorem shown_of_fit
    {rows : List (List String)}
    (fit : ∀ row ∈ rows, Fits ("string" :: row)) :
    shown rows = ⟨rows, .done []⟩ := by
  have all : rows.takeWhile (fun row => decide (Fits ("string" :: row))) = rows :=
    List.takeWhile_eq_self_iff.2 fun row member => decide_eq_true (fit row member)
  rw [shown, if_pos fit, all]

/-- The first row that does not fit ends what is shown. -/
theorem shown_of_first
    {before after : List (List String)} {row : List String}
    (fit : ∀ earlier ∈ before, Fits ("string" :: earlier))
    (tooLong : ¬Fits ("string" :: row)) :
    shown (before ++ row :: after) = ⟨before, .refused Refusal.bufferFull.token⟩ := by
  have notAll : ¬∀ other ∈ before ++ row :: after, Fits ("string" :: other) := by
    intro all
    exact tooLong (all row (List.mem_append_right _ List.mem_cons_self))
  rw [shown, if_neg notAll, List.takeWhile_append_of_pos, List.takeWhile_cons_of_neg,
    List.append_nil]
  · rw [decide_eq_true_iff]
    exact tooLong
  · intro earlier member
    exact decide_eq_true (fit earlier member)

/-- An open session that is asked what is staged shows it, and nothing that is staged changes. -/
theorem respond_display
    (environment : Environment World) {stance : Stance World} :
    stance.respond environment (Record.ofTexts Command.display.words) =
      ⟨shown stance.context.description, { stance with phase := stance.phase.settled }⟩ := by
  have further : ¬(stance.phase = .awaitingVersion ∧
      Command.display.words.head? = some Command.magic) := by
    rintro ⟨_, magic⟩
    exact Command.head?_words_ne_magic _ magic
  rw [respond, Record.texts?_ofTexts]
  show stance.told environment Command.display.words = _
  rw [told_of_command environment further, commanded, Command.parse_words]
  show (⟨shown (Reply.contextRows stance.context), _⟩ : Response World) = _
  rw [Reply.contextRows_eq]

end Stance

/-! ## Long rows -/

theorem Wire.length_le_escape (field : Bytes) : field.length ≤ (escape field).length := by
  induction field with
  | nil => exact Nat.le_refl 0
  | cons byte rest hypothesis =>
      rw [escape]
      split <;> simp only [List.length_cons] <;> omega

namespace Wire.Record

/-- The wire form of a record is longer than each of its fields. -/
theorem length_lt_wire
    {field : Bytes} {record : Record}
    (member : field ∈ record) :
    field.length < record.wire.length := by
  induction record with
  | nil => cases member
  | cons first rest hypothesis =>
      rw [length_wire_cons]
      rcases List.mem_cons.1 member with rfl | later
      · have some : 0 < (wire ([] :: rest)).length := by
          rw [wire, List.length_append]
          exact Nat.lt_add_left _ Nat.zero_lt_one
        have bound := length_le_escape field
        omega
      · have shorter : (wire rest).length < (wire ([] :: rest)).length := by
          cases rest with
          | nil => cases later
          | cons next others => simp [wire, body, escape]
        have longer := hypothesis later
        omega

/-- A record with a text of as many characters as a buffer has bytes is too long. -/
theorem bufferLimit_lt_wire
    {text : String} {texts : List String}
    (member : text ∈ texts)
    (long : bufferLimit ≤ text.toList.length) :
    bufferLimit < (ofTexts texts).wire.length := by
  have bytes : text.toList.length ≤ (Text.bytes text).length := by
    rw [Utf8.bytes_eq_flatMap]
    generalize text.toList = characters
    induction characters with
    | nil => exact Nat.le_refl 0
    | cons character rest hypothesis =>
        have some := character.utf8Size_pos
        rw [List.flatMap_cons, List.length_append, String.length_utf8EncodeChar, List.length_cons]
        omega
  exact Nat.lt_of_le_of_lt (Nat.le_trans long bytes) (length_lt_wire (List.mem_map_of_mem member))

end Wire.Record

/-! ## Showing a context -/

namespace Session

variable {turn : Turn World}

/--
A client that takes every reply and asks an open session what is staged is sent records that it
reads back, field by field, as the description of the context and `done`.  If one of them is too
long for any buffer, these are the records before the first such one and the error `buffer-full`.
The context stays as it is, and the session stays open.
-/
theorem display_carries_description
    (environment : Environment World)
    (isOpen : turn.dialogue.phase.isOpen = true)
    (willing : turn.sink.Willing) :
    ∃ next sent,
      answerRecord environment (Record.ofTexts ["display"]) turn = (.ok (), next) ∧
      next.sink.accepted = turn.sink.accepted ++ turn.dialogue.encoder.sealedBytes ++ sent ∧
      next.dialogue.encoder.sealedBytes = [] ∧
      next.dialogue.context = turn.dialogue.context ∧
      next.dialogue.phase.isOpen = true ∧
      (turn.dialogue.context.permissions.items.map Text.bytes).Pairwise (· < ·) ∧
      ((∀ record ∈ turn.dialogue.context.shownRecords, record.wire.length ≤ bufferLimit) →
        Carries sent (turn.dialogue.context.shownRecords ++ [Record.ofTexts ["done"]])) ∧
      ∀ before record after, turn.dialogue.context.shownRecords = before ++ record :: after →
        (∀ earlier ∈ before, earlier.wire.length ≤ bufferLimit) →
        bufferLimit < record.wire.length →
        Carries sent (before ++ [Record.ofTexts ["error", "buffer-full"]]) := by
  obtain ⟨next, answered, _, output, stance, nothing⟩ :=
    answerRecord_gives willing environment (Record.ofTexts Command.display.words)
  rw [Stance.respond_display] at output stance
  refine ⟨next, (Stance.shown turn.dialogue.context.description).wire, answered, ?_, nothing,
    ?_, ?_, turn.dialogue.context.permissions.ascending_bytes, ?_, ?_⟩
  · rw [Turn.output, nothing, List.append_nil] at output
    exact output
  · exact congrArg Stance.context stance
  · have phase : next.dialogue.phase = turn.dialogue.phase.settled := congrArg Stance.phase stance
    rw [phase, SessionPhase.isOpen_settled, isOpen]
  · intro short
    have fit (row : List String) (member : row ∈ turn.dialogue.context.description) :
        Fits ("string" :: row) :=
      ⟨Context.length_of_mem_description member, short _ (List.mem_map_of_mem member)⟩
    rw [Stance.shown_of_fit fit]
    exact carries_wires (Answer.sendable_of_fits fit Reply.fits_done)
  · intro before record after cut short long
    obtain ⟨earlier, rest, rows, rfl, later⟩ := List.map_eq_append_iff.1 cut
    obtain ⟨row, others, rfl, rfl, rfl⟩ := List.map_eq_cons_iff.1 later
    have fit (first : List String) (member : first ∈ earlier) : Fits ("string" :: first) := by
      have among : first ∈ turn.dialogue.context.description := by
        rw [rows]
        exact List.mem_append_left _ member
      exact ⟨Context.length_of_mem_description among, short _ (List.mem_map_of_mem member)⟩
    have tooLong : ¬Fits ("string" :: row) := by
      rintro ⟨_, room⟩
      omega
    rw [rows, Stance.shown_of_first fit tooLong]
    exact carries_wires (Answer.sendable_of_fits fit (Reply.fits_refusal .bufferFull))

/-- Blanks, backslashes and line feeds among what is staged, and two permissions. -/
def blankContext : Context where
  id := some "my-app"
  needsId := true
  paths := [⟨"we ird\\\n", .conf⟩]
  permissions := TextSet.ofList ["net", "dev"]
  plugs := [⟨"out\\", "other", "in \n"⟩]
  latched := true

/-- A path with as many characters as a buffer has bytes. -/
def longPath : String := String.ofList (List.replicate bufferLimit 'd')

/-- The first of two plugs has a row that is longer than any buffer. -/
def longContext : Context :=
  { blankContext with plugs := ⟨longPath, "other", "in"⟩ :: blankContext.plugs }

/-- A new session with a context, and a client that takes its replies in pieces. -/
def showing (context : Context) : Turn Machine where
  dialogue := ⟨.awaitingVersion, Encoder.empty, context⟩
  sink := { script := [.accept 1, .failure .interrupted, .accept 30] }
  shared := { world := { files := FileTree.empty } }

theorem willing_showing (context : Context) : (showing context).sink.Willing := by
  have all : ∀ outcome ∈ [WriteOutcome.accept 1, .failure .interrupted, .accept 30],
      outcome.Willing := by decide
  exact all

/-- The bytes that such a client is sent when it asks what is staged. -/
def told (context : Context) : Bytes :=
  (answerRecord inMemory (Record.ofTexts ["display"]) (showing context)).2.sink.accepted

/-- Rows come back with their blanks and line feeds; a row that is too long ends what is shown. -/
theorem display_carries_description_with_blanks :
    Carries (told blankContext)
      ([["string", "error", "on"], ["string", "id", "my-app"],
        ["string", "path", "we ird\\\n", "conf"], ["string", "permission", "dev"],
        ["string", "permission", "net"], ["string", "plug", "out\\", "other", "in \n"],
        ["done"]].map Record.ofTexts) ∧
    Carries (told longContext)
      ([["string", "error", "on"], ["string", "id", "my-app"],
        ["string", "path", "we ird\\\n", "conf"], ["string", "permission", "dev"],
        ["string", "permission", "net"], ["error", "buffer-full"]].map Record.ofTexts) := by
  constructor
  · obtain ⟨next, sent, answered, accepted, _, _, _, _, whole, _⟩ :=
      @display_carries_description _ (showing blankContext) inMemory rfl (willing_showing _)
    have same : told blankContext = sent := by
      rw [told, answered]
      exact accepted
    rw [same]
    exact whole (by decide)
  · obtain ⟨next, sent, answered, accepted, _, _, _, _, _, partly⟩ :=
      @display_carries_description _ (showing longContext) inMemory rfl (willing_showing _)
    have same : told longContext = sent := by
      rw [told, answered]
      exact accepted
    have member : longPath ∈ ["string", "plug", longPath, "other", "in"] :=
      List.mem_cons_of_mem _ (List.mem_cons_of_mem _ List.mem_cons_self)
    have long : bufferLimit ≤ longPath.toList.length := by
      rw [longPath, String.toList_ofList, List.length_replicate]
    rw [same]
    exact partly (longContext.shownRecords.take 5) _ (longContext.shownRecords.drop 6) rfl
      (by decide) (Record.bufferLimit_lt_wire member long)

end Session

end Confinement
