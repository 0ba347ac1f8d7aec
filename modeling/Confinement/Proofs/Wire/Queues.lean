import Confinement.Proofs.Wire.RingContents
import Mathlib.Data.List.Basic

/-!
# Rings as bounded queues

Whatever is done to a ring, its user sees a list of at most `capacity` bytes, the queue.  A push
appends all of its data or changes nothing, bytes are dropped from either end, and what is written
into free cells and then committed stands behind the others (`queue_under_any_operations`).

Of the row itself a user sees two stretches of cells.  What can be read there is a first part of the
queue, and what can be written there are cells that hold no byte of it (`Shows`).
-/

namespace Confinement.Wire.Ring

variable {capacity : Nat}

/-! ## Cells that are held and cells that are free -/

/-- The cells of the held bytes, from head to tail. -/
def heldCells (ring : Ring capacity) : List Nat :=
  (List.range ring.size).map fun offset => wrap capacity (ring.head + offset)

/-- The cells that can be written in one stretch. -/
def freeCells (ring : Ring capacity) : List Nat :=
  List.range' ring.rewind.tail ring.writable

/-- The free cells from the tail on are followed by the end of the row or by the head. -/
theorem freeRun_cases (ring : Ring capacity) :
    ring.freeRun = 0 ∨
      (ring.tail = ring.head + ring.size ∧ ring.tail + ring.freeRun = capacity) ∨
      (ring.tail + capacity = ring.head + ring.size ∧
        ring.tail + ring.freeRun = ring.head) := by
  have start := ring.head_lt
  have limit := ring.size_le
  unfold freeRun isFull tail wrap
  simp only [beq_iff_eq]
  split
  · exact Or.inl rfl
  · split <;> split <;> omega

theorem lt_of_mem_freeCells
    {ring : Ring capacity} {cell : Nat}
    (free : cell ∈ ring.freeCells) :
    cell < capacity := by
  obtain ⟨_, before⟩ := List.mem_range'_1.1 free
  have start := ring.rewind.head_lt
  rw [writable] at before
  rcases ring.rewind.freeRun_cases with none | ⟨_, ended⟩ | ⟨_, ended⟩ <;> omega

/-- No cell is both held and free. -/
theorem not_mem_heldCells
    {ring : Ring capacity} {cell : Nat}
    (free : cell ∈ ring.freeCells) :
    cell ∉ ring.heldCells := by
  intro held
  obtain ⟨offset, member, rfl⟩ := List.mem_map.1 held
  have inside := List.mem_range.1 member
  obtain ⟨after, before⟩ := List.mem_range'_1.1 free
  have same : ring.rewind = ring := by
    rw [rewind, if_neg (Nat.ne_of_gt (Nat.zero_lt_of_lt inside))]
  rw [writable, same] at before
  rw [same] at after
  have limit := ring.size_le
  unfold wrap at before after
  rcases ring.freeRun_cases with none | ⟨tail, ended⟩ | ⟨tail, ended⟩
  · omega
  · split at after <;> split at before <;> omega
  · split at after <;> split at before <;> omega

theorem getElem?_setCell_ne
    (ring : Ring capacity) {position cell : Nat} (byte : UInt8)
    (apart : cell ≠ position) :
    (ring.setCell position byte).cells[cell]? = ring.cells[cell]? :=
  Vector.getElem?_setIfInBounds_ne apart.symm

/-- Bytes written in one stretch change the cells of the stretch only. -/
theorem getElem?_setCells_of_outside
    {ring : Ring capacity} {position cell : Nat} {data : Bytes}
    (inside : position + data.length ≤ capacity)
    (outside : cell < position ∨ position + data.length ≤ cell) :
    (ring.setCells position data).cells[cell]? = ring.cells[cell]? := by
  induction data generalizing ring position with
  | nil => rfl
  | cons byte rest hypothesis =>
      rw [List.length_cons] at inside outside
      have first := getElem?_setCell_ne ring byte (show cell ≠ position by omega)
      rw [setCells, ← first]
      cases rest with
      | nil => rfl
      | cons next others =>
          rw [List.length_cons] at inside outside
          have onward : wrap capacity (position + 1) = position + 1 :=
            if_neg (by omega)
          rw [onward]
          exact hypothesis (by rw [List.length_cons]; omega) (by rw [List.length_cons]; omega)

/-- Writing in one stretch leaves every cell as it is that is not free. -/
theorem getElem?_place_of_not_mem
    (ring : Ring capacity) (data : Bytes) {cell : Nat}
    (taken : cell ∉ ring.freeCells) :
    (ring.place data).cells[cell]? = ring.cells[cell]? := by
  have length := List.length_take_le ring.rewind.freeRun data
  have same : ring.rewind.cells = ring.cells := by
    rw [rewind]
    split <;> rfl
  have start := ring.rewind.head_lt
  have outside : cell < ring.rewind.tail ∨
      ring.rewind.tail + (data.take ring.rewind.freeRun).length ≤ cell := by
    rw [freeCells, List.mem_range'_1, writable] at taken
    omega
  rw [place, ← same]
  by_cases nothing : data.take ring.rewind.freeRun = []
  · rw [nothing]
    rfl
  · have some := List.length_pos_iff.2 nothing
    apply getElem?_setCells_of_outside
    · rcases ring.rewind.freeRun_cases with none | ⟨_, ended⟩ | ⟨_, ended⟩ <;> omega
    · exact outside

/-- What is written but not committed is no part of the contents. -/
theorem toList_place (ring : Ring capacity) (data : Bytes) :
    (ring.place data).toList = ring.toList := by
  have none : 0 ≤ min data.length ring.writable := Nat.zero_le _
  have written := toList_commit_place ring none
  rwa [commit_zero, List.take_zero, List.append_nil] at written

/-! ## What a user sees -/

/-- Whether all that a user can see of a ring is what there is to see of a queue. -/
structure Shows (ring : Ring capacity) (queue : Bytes) : Prop where
  bounded : queue.length ≤ capacity
  size : ring.size = queue.length
  available : ring.available = capacity - queue.length
  isEmpty_iff : ring.isEmpty = true ↔ queue = []
  isFull_iff : ring.isFull = true ↔ queue.length = capacity
  get? : ∀ offset, ring.get? offset = queue[offset]?
  toList : ring.toList = queue
  /-- The bytes that going from offset to offset comes by. -/
  visited : (List.range ring.size).filterMap ring.get? = queue
  readable : ring.readable <+: queue
  readable_ne_nil : queue ≠ [] → ring.readable ≠ []
  writable_pos : queue.length < capacity → 0 < ring.writable
  /-- The cells that can be written are in the row, and hold nothing of the queue. -/
  free : ∀ cell ∈ ring.freeCells, cell < capacity ∧ cell ∉ ring.heldCells
  /-- Writing changes no other cells, and leaves the queue as it is until bytes are committed. -/
  place : ∀ data, (ring.place data).toList = queue ∧
    ∀ cell, cell ∉ ring.freeCells → (ring.place data).cells[cell]? = ring.cells[cell]?

theorem visited_eq (ring : Ring capacity) :
    (List.range ring.size).filterMap ring.get? = ring.toList := by
  apply List.filterMap_eq_map_iff_forall_eq_some.2
  intro offset member
  rw [get?, if_pos (List.mem_range.1 member)]

theorem readable_ne_nil
    {ring : Ring capacity}
    (some : ring.toList ≠ []) :
    ring.readable ≠ [] := by
  have held := List.length_pos_iff.2 some
  rw [length_toList] at held
  have limit := ring.size_le
  have start := ring.head_lt
  rw [readable_eq_take]
  intro nothing
  rcases List.take_eq_nil_iff.1 nothing with zero | empty
  · omega
  · exact some empty

/-- A ring shows its contents. -/
theorem shows_toList (ring : Ring capacity) : ring.Shows ring.toList where
  bounded := by
    rw [length_toList]
    exact ring.size_le
  size := (length_toList ring).symm
  available := by rw [length_toList, available]
  isEmpty_iff := by rw [isEmpty, beq_iff_eq, ← length_toList, List.length_eq_zero_iff]
  isFull_iff := by rw [isFull, beq_iff_eq, length_toList]
  get? offset := (getElem?_toList ring offset).symm
  toList := rfl
  visited := visited_eq ring
  readable := by
    rw [readable_eq_take]
    exact List.take_prefix _ _
  readable_ne_nil := readable_ne_nil
  writable_pos room := by
    apply Nat.pos_of_ne_zero
    intro none
    have full := (writable_eq_zero_iff ring).1 none
    rw [length_toList] at room
    omega
  free _ member := ⟨lt_of_mem_freeCells member, not_mem_heldCells member⟩
  place data := by
    exact ⟨toList_place ring data, fun _ taken => getElem?_place_of_not_mem ring data taken⟩

/-! ## Operations -/

/-- Something that is done to a ring. -/
inductive Operation where
  | push (data : Bytes)
  | discard (count : Nat)
  | truncate (limit : Nat)
  | clear
  /-- Bytes are written in one stretch, as far as they fit, and the first ones are committed. -/
  | write (data : Bytes) (committed : Nat)

/-- Whether no more bytes are committed than were written. -/
def Operation.Allowed (ring : Ring capacity) : Operation → Prop
  | .write data committed => committed ≤ min data.length ring.writable
  | .push _ | .discard _ | .truncate _ | .clear => True

instance (ring : Ring capacity) : (operation : Operation) → Decidable (operation.Allowed ring)
  | .write data committed =>
    inferInstanceAs (Decidable (committed ≤ min data.length ring.writable))
  | .push _ | .discard _ | .truncate _ | .clear => isTrue trivial

/-- Does an operation; whether it was possible, and the ring afterwards. -/
def perform (ring : Ring capacity) : Operation → Bool × Ring capacity
  | .push data =>
    match ring.push? data with
    | some next => (true, next)
    | none => (false, ring)
  | .discard count => (true, ring.discard count)
  | .truncate limit => (true, ring.truncate limit)
  | .clear => (true, ring.clear)
  | .write data committed => (true, (ring.place data).commit committed)

/-- What an operation does to a queue of at most `capacity` bytes. -/
def Operation.onQueue (capacity : Nat) (queue : Bytes) : Operation → Bool × Bytes
  | .push data =>
    if queue.length + data.length ≤ capacity then (true, queue ++ data) else (false, queue)
  | .discard count => (true, queue.drop count)
  | .truncate limit => (true, queue.take limit)
  | .clear => (true, [])
  | .write data committed => (true, queue ++ data.take committed)

/-- An operation does to the contents what it does to a queue. -/
theorem perform_onQueue
    {ring : Ring capacity} {operation : Operation}
    (allowed : operation.Allowed ring) :
    (ring.perform operation).1 = (operation.onQueue capacity ring.toList).1 ∧
      (ring.perform operation).2.toList = (operation.onQueue capacity ring.toList).2 := by
  cases operation with
  | push data =>
      rw [perform, Operation.onQueue, length_toList]
      rcases push?_cases ring data with ⟨fits, next, pushed, grown⟩ | ⟨long, failed⟩
      · rw [pushed, if_pos fits]
        exact ⟨rfl, grown.toList⟩
      · rw [failed, if_neg (Nat.not_le_of_lt long)]
        exact ⟨rfl, rfl⟩
  | discard count => exact ⟨rfl, toList_discard ring count⟩
  | truncate limit => exact ⟨rfl, toList_truncate ring limit⟩
  | clear => exact ⟨rfl, toList_clear ring⟩
  | write data committed => exact ⟨rfl, toList_commit_place ring allowed⟩

/-! ## Any number of operations -/

/-- Does operations in order; which of them were possible, and the ring afterwards. -/
def performAll (ring : Ring capacity) : List Operation → List Bool × Ring capacity
  | [] => ([], ring)
  | operation :: rest =>
    let (possible, next) := ring.perform operation
    let (others, last) := next.performAll rest
    (possible :: others, last)

/-- Whether none of the operations commits more bytes than it wrote. -/
def AllowsAll (ring : Ring capacity) : List Operation → Prop
  | [] => True
  | operation :: rest => operation.Allowed ring ∧ (ring.perform operation).2.AllowsAll rest

instance decidableAllowsAll :
    (ring : Ring capacity) → (operations : List Operation) → Decidable (ring.AllowsAll operations)
  | _, [] => isTrue trivial
  | ring, operation :: rest =>
    have := decidableAllowsAll (ring.perform operation).2 rest
    inferInstanceAs (Decidable (_ ∧ _))

/-- What operations do to a queue, in order. -/
def Operation.allOnQueue (capacity : Nat) (queue : Bytes) : List Operation → List Bool × Bytes
  | [] => ([], queue)
  | operation :: rest =>
    let (possible, next) := operation.onQueue capacity queue
    let (others, last) := allOnQueue capacity next rest
    (possible :: others, last)

theorem performAll_allOnQueue
    {ring : Ring capacity} {operations : List Operation}
    (allowed : ring.AllowsAll operations) :
    (ring.performAll operations).1 = (Operation.allOnQueue capacity ring.toList operations).1 ∧
      (ring.performAll operations).2.toList =
        (Operation.allOnQueue capacity ring.toList operations).2 := by
  induction operations generalizing ring with
  | nil => exact ⟨rfl, rfl⟩
  | cons operation rest hypothesis =>
      obtain ⟨first, others⟩ := allowed
      obtain ⟨possible, contents⟩ := perform_onQueue first
      have onward := hypothesis others
      rw [contents] at onward
      refine ⟨?_, onward.2⟩
      exact congr (congrArg List.cons possible) onward.1

/--
Any operations on an empty ring are possible just where they are on an empty queue of at most
`capacity` bytes, and what the ring then shows is what they made of the queue.
-/
theorem queue_under_any_operations
    {operations : List Operation}
    (allowed : (empty : Ring capacity).AllowsAll operations) :
    ((empty : Ring capacity).performAll operations).1 =
        (Operation.allOnQueue capacity [] operations).1 ∧
      ((empty : Ring capacity).performAll operations).2.Shows
        (Operation.allOnQueue capacity [] operations).2 := by
  obtain ⟨possible, contents⟩ := performAll_allOnQueue allowed
  refine ⟨possible, ?_⟩
  rw [toList_empty] at contents
  rw [← contents]
  exact shows_toList _

/-- A run around the end of a row of four cells, with a push that does not fit. -/
theorem queue_around_the_row :
    let operations : List Operation :=
      [.push [1, 2, 3], .discard 2, .push [4, 5], .push [6, 7], .write [6, 7] 1, .truncate 3]
    (empty : Ring 4).AllowsAll operations ∧
      ((empty : Ring 4).performAll operations).1 = [true, true, true, false, true, true] ∧
      ((empty : Ring 4).performAll operations).2.Shows [3, 4, 5] := by
  intro operations
  have allowed : (empty : Ring 4).AllowsAll operations := by decide
  exact ⟨allowed, queue_under_any_operations allowed⟩

end Confinement.Wire.Ring
