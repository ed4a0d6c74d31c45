import Mathlib

/-!
# Blocks of memory

A block is allocated with cells that have no value yet. Writing gives values to cells inside the
block; reading fails outside the block and where nothing was written.
-/

namespace WSocks.Blocks

/-- A block of memory; a cell that was never written has no value. -/
abbrev Block (α : Type) := List (Option α)

section
variable {α : Type}

def allocate (size : Nat) : Block α := List.replicate size none

/-- As much as fits of what was there stays. -/
def resize (m : Block α) (size : Nat) : Block α := m.take size ++ allocate (size - m.length)

def store (m : Block α) (offset : Nat) (values : List α) : Option (Block α) :=
  if offset + values.length ≤ m.length then
    some (m.take offset ++ values.map some ++ m.drop (offset + values.length))
  else none

/-- The values of cells that all have one. -/
def valuesOf : Block α → Option (List α)
  | [] => some []
  | none :: _ => none
  | some a :: rest => (valuesOf rest).map (fun values => a :: values)

def load (m : Block α) (offset length : Nat) : Option (List α) :=
  if offset + length ≤ m.length then valuesOf ((m.drop offset).take length) else none

/-- The values are in the block from the offset on. -/
def Holds (m : Block α) (offset : Nat) (values : List α) : Prop :=
  offset + values.length ≤ m.length ∧ (m.drop offset).take values.length = values.map some

variable {m m' : Block α} {offset other size : Nat} {values more : List α}

@[simp] theorem length_allocate : (allocate size : Block α).length = size := List.length_replicate

@[simp] theorem length_resize : (resize m size).length = size := by
  rw [resize,List.length_append,length_allocate,List.length_take]
  omega

theorem length_store (stored : store m offset values = some m') : m'.length = m.length := by
  rw [store] at stored
  split_ifs at stored with inside
  obtain rfl := Option.some.inj stored
  simp only [List.length_append,List.length_take,List.length_map,List.length_drop]
  omega

theorem exists_store (m : Block α) (offset : Nat) (values : List α) (inside : offset + values.length ≤ m.length) :
    ∃ m', store m offset values = some m' :=
  ⟨_,if_pos inside⟩

@[simp] theorem valuesOf_map (values : List α) : valuesOf (values.map some) = some values := by
  induction values with
  | nil => rfl
  | cons a rest ih => simp [valuesOf,ih]

@[simp] theorem holds_nil : Holds m offset [] ↔ offset ≤ m.length := by
  simp [Holds]

theorem Holds.inside (holds : Holds m offset values) : offset + values.length ≤ m.length := holds.1

/-- What a block holds can be read. -/
theorem Holds.load (holds : Holds m offset values) : load m offset values.length = some values := by
  rw [Blocks.load,if_pos holds.1,holds.2,valuesOf_map]

/-- What was written is there. -/
theorem holds_store (stored : store m offset values = some m') : Holds m' offset values := by
  have length := length_store stored
  rw [store] at stored
  split_ifs at stored with inside
  obtain rfl := Option.some.inj stored
  have front : (m.take offset).length = offset := List.length_take_of_le (by omega)
  refine ⟨by omega,?_⟩
  rw [List.append_assoc,List.drop_left' front,← List.length_map (f := some),List.take_left]

theorem holds_append : Holds m offset (values ++ more) ↔ Holds m offset values ∧ Holds m (offset + values.length) more := by
  simp only [Holds,List.length_append,List.map_append,List.take_add,List.drop_drop]
  constructor
  · rintro ⟨inside,same⟩
    have length : ((m.drop offset).take values.length).length = (values.map some).length := by
      simp only [List.length_take,List.length_drop,List.length_map]
      omega
    obtain ⟨first,second⟩ := List.append_inj same length
    exact ⟨⟨by omega,first⟩,by omega,second⟩
  · rintro ⟨⟨-,first⟩,inside,second⟩
    exact ⟨by omega,by rw [first,second]⟩

/-- What is written elsewhere changes nothing here. -/
theorem Holds.store (holds : Holds m offset values) (stored : store m other more = some m')
    (apart : offset + values.length ≤ other ∨ other + more.length ≤ offset) : Holds m' offset values := by
  have length := length_store stored
  refine ⟨by rw [length]; exact holds.1,?_⟩
  rw [← holds.2]
  have inside := holds.1
  rw [Blocks.store] at stored
  split_ifs at stored with within
  obtain rfl := Option.some.inj stored
  apply List.ext_getElem?
  intro i
  rw [List.getElem?_take,List.getElem?_take]
  split_ifs with less
  · rw [List.getElem?_drop,List.getElem?_drop]
    rcases apart with before | behind
    · rw [List.append_assoc,List.getElem?_append_left (by rw [List.length_take]; omega),List.getElem?_take,if_pos (by omega)]
    · have front : (m.take other ++ more.map some).length = other + more.length := by
        simp only [List.length_append,List.length_take,List.length_map]
        omega
      rw [List.getElem?_append_right (by omega),front,List.getElem?_drop]
      congr 1
      omega
  · rfl

/-- A part of what a block holds. -/
theorem Holds.part {before after : List α} (holds : Holds m offset (before ++ values ++ after)) :
    Holds m (offset + before.length) values := (holds_append.mp (holds_append.mp holds).1).2

theorem Holds.resize (holds : Holds m offset values) (fits : offset + values.length ≤ size) :
    Holds (resize m size) offset values := by
  refine ⟨by rw [length_resize]; exact fits,?_⟩
  rw [← holds.2]
  have inside := holds.1
  apply List.ext_getElem?
  intro i
  rw [List.getElem?_take,List.getElem?_take]
  split_ifs with less
  · rw [List.getElem?_drop,List.getElem?_drop,Blocks.resize,
      List.getElem?_append_left (by rw [List.length_take]; omega),List.getElem?_take,if_pos (by omega)]
  · rfl

end

end WSocks.Blocks
