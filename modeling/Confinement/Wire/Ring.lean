import Confinement.Text.Utf8

/-!
# Byte rings

A `Ring capacity` is a first-in first-out store of at most `capacity` bytes in a fixed row of
cells.  Bytes are taken in at the tail and given out at the head; both run around the row.

`Ring.toList` is the content from head to tail.  The operations are explained by what they do to
it: `push?` appends, `discard` drops from the head, `truncate` from the tail.  Two of them show the
row itself: `readable` is the content up to the end of the row, and `writable` is the number of free
cells that follow the tail without a break.
-/

namespace Confinement.Wire

/-- A bounded row of cells with a run of held bytes that may go around its end. -/
structure Ring (capacity : Nat) where
  cells : Vector UInt8 capacity
  /-- The cell of the first held byte. -/
  head : Nat
  size : Nat
  head_lt : head < capacity ∨ head = 0
  size_le : size ≤ capacity

namespace Ring

variable {capacity : Nat}

/-- The ring that holds nothing. -/
def empty : Ring capacity :=
  ⟨Vector.replicate capacity 0, 0, 0, Or.inr rfl, Nat.zero_le _⟩

/-- A position counted on from the end of the row to its beginning. -/
def wrap (capacity position : Nat) : Nat :=
  if position ≥ capacity then position - capacity else position

/-- Wrapping keeps positions of one turn inside the row. -/
theorem wrap_lt {position : Nat}
    (inside : position < capacity + capacity) : wrap capacity position < capacity := by
  unfold wrap
  split <;> omega

/-- The number of bytes that still fit. -/
def available (ring : Ring capacity) : Nat := capacity - ring.size

/-- Whether nothing is held. -/
def isEmpty (ring : Ring capacity) : Bool := ring.size == 0

/-- Whether nothing more fits. -/
def isFull (ring : Ring capacity) : Bool := ring.size == capacity

/-- The cell after the last held byte. -/
def tail (ring : Ring capacity) : Nat := wrap capacity (ring.head + ring.size)

/-- The cell of the byte `offset` places after the head. -/
def cell (ring : Ring capacity) (offset : Nat) : UInt8 :=
  ring.cells.toArray.getD (wrap capacity (ring.head + offset)) 0

/-- The byte `offset` places after the head, if it is held. -/
def get? (ring : Ring capacity) (offset : Nat) : Option UInt8 :=
  if offset < ring.size then some (ring.cell offset) else none

/-- The held bytes from head to tail. -/
def toList (ring : Ring capacity) : Bytes := (List.range ring.size).map ring.cell

@[simp]
theorem length_toList (ring : Ring capacity) : ring.toList.length = ring.size := by
  simp [toList]

theorem getElem?_toList (ring : Ring capacity) (offset : Nat) :
    ring.toList[offset]? = ring.get? offset := by
  unfold toList get?
  split
  · rename_i held; simp [held]
  · rename_i beyond; simp [Nat.le_of_not_lt beyond]

@[simp]
theorem toList_empty : (empty : Ring capacity).toList = [] := rfl

def setCell (ring : Ring capacity) (position : Nat) (byte : UInt8) : Ring capacity :=
  { ring with cells := ring.cells.setIfInBounds position byte }

/-- Writes bytes into the cells from `position` on, around the row. -/
def setCells (ring : Ring capacity) (position : Nat) : Bytes → Ring capacity
  | [] => ring
  | byte :: rest => setCells (ring.setCell position byte) (wrap capacity (position + 1)) rest

@[simp]
theorem head_setCells (ring : Ring capacity) (position : Nat) (data : Bytes) :
    (ring.setCells position data).head = ring.head := by
  induction data generalizing ring position with
  | nil => rfl
  | cons byte rest hypothesis => rw [setCells, hypothesis]; rfl

@[simp]
theorem size_setCells (ring : Ring capacity) (position : Nat) (data : Bytes) :
    (ring.setCells position data).size = ring.size := by
  induction data generalizing ring position with
  | nil => rfl
  | cons byte rest hypothesis => rw [setCells, hypothesis]; rfl

/-- Counts `count` cells after the tail as held, as far as there are any. -/
def commit (ring : Ring capacity) (count : Nat) : Ring capacity :=
  { ring with
    size := min (ring.size + count) capacity
    size_le := Nat.min_le_right _ _ }

/-- Appends bytes at the tail, or nothing when they do not all fit. -/
def push? (ring : Ring capacity) (data : Bytes) : Option (Ring capacity) :=
  if data.length ≤ ring.available then
    some ((ring.setCells ring.tail data).commit data.length)
  else
    none

/-- Appends a byte where one is wanted. -/
def pushIf? (ring : Ring capacity) (wanted : Bool) (byte : UInt8) : Option (Ring capacity) :=
  if wanted then ring.push? [byte] else some ring

/-- Drops up to `count` bytes from the head; a ring left empty starts over at the first cell. -/
def discard (ring : Ring capacity) (count : Nat) : Ring capacity :=
  let dropped := min count ring.size
  if left : ring.size - dropped = 0 then
    { ring with
      head := 0
      size := 0
      head_lt := Or.inr rfl
      size_le := Nat.zero_le _ }
  else
    { ring with
      head := wrap capacity (ring.head + dropped)
      size := ring.size - dropped
      head_lt := by
        have := ring.head_lt
        have := ring.size_le
        exact Or.inl (wrap_lt (by omega))
      size_le := Nat.le_trans (Nat.sub_le _ _) ring.size_le }

/-- Drops bytes from the tail until at most `limit` remain. -/
def truncate (ring : Ring capacity) (limit : Nat) : Ring capacity :=
  { ring with
    size := min ring.size limit
    size_le := Nat.le_trans (Nat.min_le_left _ _) ring.size_le }

/-- Drops every byte. -/
def clear (ring : Ring capacity) : Ring capacity :=
  { ring with
    head := 0
    size := 0
    head_lt := Or.inr rfl
    size_le := Nat.zero_le _ }

/-- The held bytes from the head up to the end of the row. -/
def readable (ring : Ring capacity) : Bytes :=
  (ring.cells.toArray.extract ring.head (min (ring.head + ring.size) capacity)).toList

/-- An empty ring starts over at the first cell; any other stays as it is. -/
def rewind (ring : Ring capacity) : Ring capacity :=
  if ring.size = 0 then { ring with head := 0, head_lt := Or.inr rfl } else ring

/-- The number of free cells from the tail on, without a break. -/
def freeRun (ring : Ring capacity) : Nat :=
  if ring.isFull then 0
  else (if ring.tail ≥ ring.head then capacity else ring.head) - ring.tail

/-- The number of bytes that can be written in one stretch. -/
def writable (ring : Ring capacity) : Nat := ring.rewind.freeRun

/-- Writes as many bytes as fit in one stretch after the tail, without holding them yet. -/
def place (ring : Ring capacity) (data : Bytes) : Ring capacity :=
  let start := ring.rewind
  start.setCells start.tail (data.take start.freeRun)

/-- Takes in as many bytes as fit in one stretch. -/
def fill (ring : Ring capacity) (data : Bytes) : Ring capacity :=
  (ring.place data).commit (min data.length ring.writable)

@[simp]
theorem size_discard (ring : Ring capacity) (count : Nat) :
    (ring.discard count).size = ring.size - count := by
  simp only [discard]
  split <;> simp <;> omega

@[simp]
theorem size_truncate (ring : Ring capacity) (limit : Nat) :
    (ring.truncate limit).size = min ring.size limit := rfl

@[simp]
theorem size_clear (ring : Ring capacity) : ring.clear.size = 0 := rfl

@[simp]
theorem size_rewind (ring : Ring capacity) : ring.rewind.size = ring.size := by
  unfold rewind
  split <;> rfl

theorem size_fill_le (ring : Ring capacity) (data : Bytes) :
    (ring.fill data).size ≤ ring.size + data.length := by
  simp only [fill, place, commit, size_setCells, size_rewind]
  omega

/-- A push takes in all of its data. -/
theorem size_push? {ring next : Ring capacity} {data : Bytes}
    (pushed : ring.push? data = some next) : next.size = ring.size + data.length := by
  unfold push? available at pushed
  split at pushed
  · rename_i fits
    have bounded := ring.size_le
    cases pushed
    simp only [commit, size_setCells]
    omega
  · cases pushed

theorem size_le_of_pushIf?
    {ring next : Ring capacity} {wanted : Bool} {byte : UInt8}
    (pushed : ring.pushIf? wanted byte = some next) :
    ring.size ≤ next.size := by
  unfold pushIf? at pushed
  split at pushed
  · have grown := size_push? pushed
    omega
  · cases pushed
    exact Nat.le_refl _

end Ring

end Confinement.Wire
