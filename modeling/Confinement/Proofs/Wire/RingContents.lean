import Confinement.Wire.Ring

/-!
# What ring operations do to the contents

`Ring.toList` forgets where in the row the held bytes stand.  Each operation of a ring is a list
operation on it: pushing and filling append, discarding drops from the front, truncating takes from
the front.  Reading and writing without a break see a first part of the contents and a first part
of the data; neither is empty unless the ring is empty or full.

No statement here mentions a cell, so what is built on rings never looks at the row again.
-/

namespace Confinement.Wire.Ring

variable {capacity : Nat}

/-! ## Cells and contents -/

theorem toList_eq_of_cells
    {ring : Ring capacity} {data : Bytes}
    (size : ring.size = data.length)
    (same : ∀ offset (held : offset < data.length), ring.cell offset = data[offset]) :
    ring.toList = data := by
  apply List.ext_getElem
  · simp [size]
  · intro offset left right
    simp only [toList, List.getElem_map, List.getElem_range]
    exact same offset right

theorem getElem_toList
    (ring : Ring capacity) {offset : Nat} (held : offset < ring.toList.length) :
    ring.toList[offset] = ring.cell offset := by
  simp [toList]

/-- The contents depend on the cells, the head and the size only through the held cells. -/
theorem toList_congr
    {left right : Ring capacity}
    (size : left.size = right.size)
    (same : ∀ offset, offset < right.size → left.cell offset = right.cell offset) :
    left.toList = right.toList := by
  apply toList_eq_of_cells
  · simpa using size
  · intro offset held
    rw [getElem_toList]
    exact same offset (by simpa using held)

/-- Inside one turn, the places of two offsets differ. -/
theorem wrap_injective
    {head left right : Nat}
    (leftInside : left < capacity)
    (rightInside : right < capacity)
    (equal : wrap capacity (head + left) = wrap capacity (head + right)) :
    left = right := by
  unfold wrap at equal
  split at equal <;> split at equal <;> omega

/-- Wrapping before a step or after it makes no difference. -/
theorem wrap_wrap_add
    {position step : Nat}
    (inside : position + step < capacity + capacity) :
    wrap capacity (wrap capacity position + step) = wrap capacity (position + step) := by
  unfold wrap
  rcases Nat.lt_or_ge position capacity with before | turned
  · rw [if_neg (Nat.not_le_of_lt before)]
  · rw [if_pos turned, if_neg (by omega), if_pos (by omega)]
    omega

theorem cell_setCell
    (ring : Ring capacity) (position offset : Nat) (byte : UInt8)
    (inside : position < capacity) :
    (ring.setCell position byte).cell offset =
      if wrap capacity (ring.head + offset) = position then byte else ring.cell offset := by
  by_cases here : wrap capacity (ring.head + offset) = position
  · simp [cell, setCell, here, inside]
  · have elsewhere : position ≠ wrap capacity (ring.head + offset) := fun same => here same.symm
    simp [cell, setCell, here, elsewhere, Array.getD_eq_getD_getElem?]

/-! ## Appending -/

@[simp]
theorem cell_commit (ring : Ring capacity) (count offset : Nat) :
    (ring.commit count).cell offset = ring.cell offset := rfl

theorem commit_commit (ring : Ring capacity) (first second : Nat) :
    (ring.commit first).commit second = ring.commit (first + second) := by
  unfold commit
  congr 1
  show min (min (ring.size + first) capacity + second) capacity =
    min (ring.size + (first + second)) capacity
  omega

@[simp]
theorem commit_zero (ring : Ring capacity) : ring.commit 0 = ring := by
  obtain ⟨cells, head, size, head_lt, size_le⟩ := ring
  unfold commit
  congr 1
  exact Nat.min_eq_left size_le

theorem setCells_commit
    (ring : Ring capacity) (position count : Nat) (data : Bytes) :
    (ring.commit count).setCells position data = (ring.setCells position data).commit count := by
  induction data generalizing ring position with
  | nil => rfl
  | cons byte rest hypothesis => exact hypothesis (ring.setCell position byte) _

/-- One byte written at the tail and counted as held stands after the others. -/
theorem toList_put
    (ring : Ring capacity) (byte : UInt8)
    (room : ring.size < capacity) :
    ((ring.setCell ring.tail byte).commit 1).toList = ring.toList ++ [byte] := by
  have start : ring.head < capacity := by
    have := ring.head_lt
    omega
  apply toList_eq_of_cells
  · show min (ring.size + 1) capacity = (ring.toList ++ [byte]).length
    simp only [List.length_append, length_toList, List.length_singleton]
    omega
  · intro offset held
    have bound : offset < ring.size + 1 := by simpa using held
    have inside : ring.tail < capacity := wrap_lt (by omega)
    rw [cell_commit, cell_setCell _ _ _ _ inside]
    rcases Nat.lt_or_ge offset ring.size with old | new
    · have apart : wrap capacity (ring.head + offset) ≠ ring.tail := by
        intro equal
        have := wrap_injective (by omega) room equal
        omega
      rw [if_neg apart, List.getElem_append_left (by simpa using old), getElem_toList]
    · have last : offset = ring.size := by omega
      subst last
      have here : wrap capacity (ring.head + ring.size) = ring.tail := rfl
      rw [if_pos here, List.getElem_append_right (by simp)]
      simp

/-- Bytes written from the tail on and counted as held stand after the others, in order. -/
theorem toList_putAll
    (ring : Ring capacity) (data : Bytes)
    (room : ring.size + data.length ≤ capacity) :
    ((ring.setCells ring.tail data).commit data.length).toList = ring.toList ++ data := by
  induction data generalizing ring with
  | nil =>
      rw [List.append_nil]
      apply toList_congr
      · show min (ring.size + 0) capacity = ring.size
        have := ring.size_le
        omega
      · intro offset held
        rfl
  | cons byte rest hypothesis =>
      simp only [List.length_cons] at room
      have put := toList_put ring byte (by omega)
      have follows : wrap capacity (ring.tail + 1) =
          ((ring.setCell ring.tail byte).commit 1).tail := by
        show wrap capacity (wrap capacity (ring.head + ring.size) + 1) =
          wrap capacity (ring.head + min (ring.size + 1) capacity)
        have start := ring.head_lt
        rw [wrap_wrap_add (by omega), Nat.min_eq_left (by omega), Nat.add_assoc]
      have rearranged : (ring.setCells ring.tail (byte :: rest)).commit (byte :: rest).length =
          ((((ring.setCell ring.tail byte).commit 1).setCells
            ((ring.setCell ring.tail byte).commit 1).tail rest).commit rest.length) := by
        rw [setCells_commit, commit_commit, ← follows, Nat.add_comm 1]
        rfl
      have grown : ((ring.setCell ring.tail byte).commit 1).size = ring.size + 1 := by
        show min (ring.size + 1) capacity = ring.size + 1
        omega
      rw [rearranged, hypothesis _ (by omega), put, List.append_assoc]
      rfl

/-- A push that succeeds appends its data. -/
theorem toList_push?
    {ring next : Ring capacity} {data : Bytes}
    (pushed : ring.push? data = some next) :
    next.toList = ring.toList ++ data := by
  unfold push? available at pushed
  split at pushed
  · rename_i fits
    cases pushed
    have bounded := ring.size_le
    exact toList_putAll ring data (by omega)
  · cases pushed

/-- A push fails exactly when its data do not fit. -/
theorem push?_eq_none_iff {ring : Ring capacity} {data : Bytes} :
    ring.push? data = none ↔ capacity < ring.size + data.length := by
  have bounded := ring.size_le
  unfold push? available
  split
  · rename_i fits
    simp only [reduceCtorEq, false_iff]
    omega
  · rename_i tooLong
    simp only [true_iff]
    omega

/-- Data that fit are pushed. -/
theorem exists_push?
    {ring : Ring capacity} {data : Bytes}
    (fits : ring.size + data.length ≤ capacity) :
    ∃ next, ring.push? data = some next := by
  cases result : ring.push? data with
  | none =>
      have := push?_eq_none_iff.mp result
      omega
  | some next => exact ⟨next, rfl⟩

/-- A ring that took in data at its tail and stayed where it was in the row. -/
structure Grown (ring : Ring capacity) (data : Bytes) (next : Ring capacity) : Prop where
  head : next.head = ring.head
  toList : next.toList = ring.toList ++ data

theorem Grown.size
    {ring next : Ring capacity} {data : Bytes}
    (grown : ring.Grown data next) :
    next.size = ring.size + data.length := by
  rw [← length_toList, grown.toList, List.length_append, length_toList]

theorem Grown.refl (ring : Ring capacity) : ring.Grown [] ring :=
  ⟨rfl, (List.append_nil _).symm⟩

theorem Grown.trans
    {ring middle next : Ring capacity} {first second : Bytes}
    (earlier : ring.Grown first middle)
    (later : middle.Grown second next) :
    ring.Grown (first ++ second) next :=
  ⟨later.head.trans earlier.head, by rw [later.toList, earlier.toList, List.append_assoc]⟩

theorem grown_of_push?
    {ring next : Ring capacity} {data : Bytes}
    (pushed : ring.push? data = some next) :
    ring.Grown data next := by
  refine ⟨?_, toList_push? pushed⟩
  unfold push? at pushed
  split at pushed
  · cases pushed
    exact head_setCells ring ring.tail data
  · cases pushed

/-- A push takes in all of its data or does not happen. -/
theorem push?_cases (ring : Ring capacity) (data : Bytes) :
    (ring.size + data.length ≤ capacity ∧
      ∃ next, ring.push? data = some next ∧ ring.Grown data next) ∨
    (capacity < ring.size + data.length ∧ ring.push? data = none) := by
  cases pushed : ring.push? data with
  | none => exact Or.inr ⟨push?_eq_none_iff.mp pushed, rfl⟩
  | some next =>
      have grown := grown_of_push? pushed
      have bounded := next.size_le
      rw [grown.size] at bounded
      exact Or.inl ⟨bounded, next, rfl, grown⟩

theorem pushIf?_cases (ring : Ring capacity) (wanted : Bool) (byte : UInt8) :
    (∃ next, ring.pushIf? wanted byte = some next ∧
      ring.Grown (if wanted then [byte] else []) next) ∨
    (wanted = true ∧ capacity < ring.size + 1 ∧ ring.pushIf? wanted byte = none) := by
  cases wanted with
  | false => exact Or.inl ⟨ring, rfl, Grown.refl ring⟩
  | true =>
      rcases push?_cases ring [byte] with ⟨_, next, pushed, grown⟩ | ⟨full, failed⟩
      · exact Or.inl ⟨next, pushed, grown⟩
      · exact Or.inr ⟨rfl, full, failed⟩

/-! ## Taking away -/

@[simp]
theorem toList_discard (ring : Ring capacity) (count : Nat) :
    (ring.discard count).toList = ring.toList.drop count := by
  apply toList_eq_of_cells
  · simp
  · intro offset held
    have bound : count + offset < ring.size := by
      simp only [List.length_drop, length_toList] at held
      omega
    have start := ring.head_lt
    have limit := ring.size_le
    have dropped : min count ring.size = count := by omega
    have left : ¬ ring.size - count = 0 := by omega
    rw [List.getElem_drop, getElem_toList]
    simp only [cell, discard, dropped, left, ↓reduceDIte]
    rw [wrap_wrap_add (by omega), Nat.add_assoc]

/-- Where bytes are dropped depends on where they begin and on how many there are. -/
theorem head_discard_congr
    {left right : Ring capacity}
    (head : left.head = right.head)
    (size : left.size = right.size)
    (count : Nat) :
    (left.discard count).head = (right.discard count).head := by
  simp only [discard, size]
  split
  · rfl
  · exact congrArg (fun start => wrap capacity (start + min count right.size)) head

@[simp]
theorem toList_truncate (ring : Ring capacity) (limit : Nat) :
    (ring.truncate limit).toList = ring.toList.take limit := by
  apply toList_eq_of_cells
  · simp [Nat.min_comm]
  · intro offset held
    rw [List.getElem_take, getElem_toList]
    rfl

/-- Dropping bytes in two steps is dropping them at once, down to the cell where the rest begins. -/
theorem discard_discard (ring : Ring capacity) (first second : Nat) :
    (ring.discard first).discard second = ring.discard (first + second) := by
  rcases ring with ⟨cells, head, size, start, limit⟩
  rcases Nat.lt_or_ge (first + second) size with some | all
  · have more : size - min first size ≠ 0 := by omega
    have rest : size - min (first + second) size ≠ 0 := by omega
    have last : size - min first size - min second (size - min first size) ≠ 0 := by omega
    simp only [discard, more, rest, last, ↓reduceDIte, mk.injEq, true_and]
    unfold wrap
    constructor
    · split <;> split <;> split <;> omega
    · omega
  · have rest : size - min (first + second) size = 0 := by omega
    by_cases more : size - min first size = 0
    · simp only [discard, more, rest, Nat.zero_sub, ↓reduceDIte]
    · have last : size - min first size - min second (size - min first size) = 0 := by omega
      simp only [discard, more, rest, last, ↓reduceDIte]

@[simp]
theorem toList_clear (ring : Ring capacity) : ring.clear.toList = [] := rfl

/-- To count fewer cells as held is to count them all and to drop the last ones. -/
theorem truncate_commit
    (ring : Ring capacity) {count all : Nat}
    (room : ring.size + all ≤ capacity)
    (part : count ≤ all) :
    (ring.commit all).truncate (ring.size + count) = ring.commit count := by
  unfold truncate commit
  congr 1
  show min (min (ring.size + all) capacity) (ring.size + count) = min (ring.size + count) capacity
  omega

/-- Of bytes written from the tail on, those that are counted as held stand after the others. -/
theorem toList_commit_setCells
    (ring : Ring capacity) {data : Bytes} {count : Nat}
    (room : ring.size + data.length ≤ capacity)
    (part : count ≤ data.length) :
    ((ring.setCells ring.tail data).commit count).toList = ring.toList ++ data.take count := by
  have same := size_setCells ring ring.tail data
  have before : ring.toList.take (ring.size + count) = ring.toList := by
    rw [List.take_of_length_le]
    rw [length_toList]
    exact Nat.le_add_right _ _
  rw [← truncate_commit _ (by rw [same]; exact room) part, toList_truncate,
    toList_putAll ring data room, same, List.take_append, length_toList, Nat.add_sub_cancel_left,
    before]

/-! ## Runs without a break -/

/-- What can be read without a break is a first part of the contents. -/
theorem readable_eq_take (ring : Ring capacity) :
    ring.readable = ring.toList.take (capacity - ring.head) := by
  have start := ring.head_lt
  have limit := ring.size_le
  apply List.ext_getElem
  · simp only [readable, Array.length_toList, Array.size_extract, Vector.size_toArray,
      List.length_take, length_toList]
    omega
  · intro offset left right
    simp only [List.length_take, length_toList] at right
    have unwrapped : ¬ ring.head + offset ≥ capacity := by omega
    have inside : ring.head + offset < capacity := by omega
    rw [List.getElem_take, getElem_toList]
    simp [readable, cell, wrap, unwrapped, inside, Array.getD]

@[simp]
theorem toList_rewind (ring : Ring capacity) : ring.rewind.toList = ring.toList := by
  unfold rewind
  split
  · rename_i nothing
    apply toList_congr
    · rfl
    · intro offset held
      omega
  · rfl

theorem freeRun_le (ring : Ring capacity) : ring.size + ring.freeRun ≤ capacity := by
  have start := ring.head_lt
  have limit := ring.size_le
  unfold freeRun isFull tail wrap
  simp only [beq_iff_eq]
  split
  · omega
  · split <;> split <;> omega

/-- What was written in one stretch stands after the others as far as it is counted as held. -/
theorem toList_commit_place
    (ring : Ring capacity) {data : Bytes} {count : Nat}
    (written : count ≤ min data.length ring.writable) :
    ((ring.place data).commit count).toList = ring.toList ++ data.take count := by
  have room := freeRun_le ring.rewind
  have bound : count ≤ ring.rewind.freeRun := Nat.le_trans written (Nat.min_le_right _ _)
  have length := List.length_take_le ring.rewind.freeRun data
  rw [place, toList_commit_setCells, toList_rewind, List.take_take, Nat.min_eq_left bound]
  · omega
  · rw [List.length_take, Nat.min_comm]
    exact written

/-- A fill appends what fits without a break. -/
theorem toList_fill (ring : Ring capacity) (data : Bytes) :
    (ring.fill data).toList = ring.toList ++ data.take ring.writable := by
  rw [fill, toList_commit_place ring (Nat.le_refl _), Nat.min_comm, ← List.take_eq_take_min]

/-- Nothing can be written exactly when the ring is full. -/
theorem writable_eq_zero_iff (ring : Ring capacity) :
    ring.writable = 0 ↔ ring.size = capacity := by
  have start := ring.head_lt
  have limit := ring.size_le
  unfold writable freeRun isFull tail rewind wrap
  simp only [beq_iff_eq]
  split
  · split
    · simp_all
    · split <;> split <;> simp_all
  · split
    · simp_all
    · split <;> split <;> simp_all <;> omega

end Confinement.Wire.Ring
