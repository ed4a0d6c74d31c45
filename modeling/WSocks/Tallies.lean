import Mathlib

/-!
# Tables with reference counts

A table keeps one value and a count for each key, while values with these keys
come and go. It keeps the value that came first; the table is right about every
value that has not gone as long as values with one key are equal.
-/

namespace WSocks.Tallies
variable {K V : Type} (key : V → K)

/-! ### Bags without conflicts -/

/-- Values with the same key are equal. -/
def Uniform (bag : List V) : Prop := ∀ v ∈ bag, ∀ w ∈ bag, key v = key w → v = w

section
variable {key} {bag : List V} {v : V}

theorem uniform_nil : Uniform key [] := by
  intro v member
  simp at member

theorem Uniform.append (uniform : Uniform key bag) (alike : ∀ w ∈ bag, key w = key v → w = v) :
    Uniform key (bag ++ [v]) := by
  intro x inside y inside' same
  simp only [List.mem_append,List.mem_singleton] at inside inside'
  rcases inside with inside | rfl
  · rcases inside' with inside' | rfl
    · exact uniform x inside y inside' same
    · exact alike x inside same
  · rcases inside' with inside' | rfl
    · exact (alike y inside' same.symm).symm
    · rfl

theorem Uniform.erase [DecidableEq V] (uniform : Uniform key bag) : Uniform key (bag.erase v) := by
  intro x inside y inside'
  exact uniform x (List.mem_of_mem_erase inside) y (List.mem_of_mem_erase inside')

end

/-! ### The table -/

variable [DecidableEq K]

/-- Counts one more value; the value that is kept stays. -/
def add (table : K → Option (V × Nat)) (v : V) : K → Option (V × Nat) :=
  Function.update table (key v) (match table (key v) with
    | some (kept,n) => some (kept,n + 1)
    | none => some (v,1))

/-- Counts one value less; an entry without values is dropped. -/
def release (table : K → Option (V × Nat)) (k : K) : K → Option (V × Nat) :=
  Function.update table k (match table k with
    | some (kept,n + 2) => some (kept,n + 1)
    | _ => none)

/-- How many values have a key. -/
def count (bag : List V) (k : K) : Nat := bag.countP (fun v => key v = k)

/-- The table for some values, in the order in which they came. -/
def tally (bag : List V) (k : K) : Option (V × Nat) :=
  (bag.find? (fun v => key v = k)).map (fun v => (v,count key bag k))

variable {key} {bag : List V} {v : V} {k : K}

theorem tally_nil : tally key [] = fun _ => none := rfl

theorem tally_eq_none : tally key bag k = none ↔ ∀ v ∈ bag, key v ≠ k := by
  simp [tally]

theorem tally_append : tally key (bag ++ [v]) = add key (tally key bag) v := by
  funext k
  by_cases same : k = key v
  · subst same
    rw [add,Function.update_self]
    unfold tally count
    rw [List.find?_append,List.countP_append]
    rcases found : bag.find? (fun w => key w = key v) with _ | first
    · have absent : bag.countP (fun w => key w = key v) = 0 := by
        rw [List.countP_eq_zero]
        simpa using found
      simp [absent]
    · simp
  · rw [add,Function.update_of_ne same]
    have other : ¬ key v = k := fun equal => same equal.symm
    simp [tally,count,List.find?_append,other]

theorem count_pos (member : v ∈ bag) : 0 < count key bag (key v) := by
  apply List.countP_pos_iff.mpr
  exact ⟨v,member,by simp⟩

/-- In a uniform bag every value is the one that is kept for its key. -/
theorem tally_eq_some (uniform : Uniform key bag) (member : v ∈ bag) :
    tally key bag (key v) = some (v,count key bag (key v)) := by
  rcases found : bag.find? (fun w => key w = key v) with _ | first
  · have absent := List.find?_eq_none.mp found v member
    simp at absent
  · have same : key first = key v := by simpa using List.find?_some found
    have equal : first = v := uniform first (List.mem_of_find?_eq_some found) v member same
    simp [tally,found,equal]

/-- A value that comes later does not replace the one that is kept. -/
theorem tally_append_kept (uniform : Uniform key bag) (member : v ∈ bag) (w : V) :
    ∃ n, tally key (bag ++ [w]) (key v) = some (v,n) := by
  have kept := tally_eq_some uniform member
  rw [tally_append,add]
  by_cases same : key w = key v
  · rw [same,Function.update_self,kept]
    exact ⟨_,rfl⟩
  · rw [Function.update_of_ne (fun equal => same equal.symm)]
    exact ⟨_,kept⟩

section
variable [DecidableEq V]

theorem count_erase (member : v ∈ bag) (k : K) :
    count key bag k = count key (bag.erase v) k + if key v = k then 1 else 0 := by
  unfold count
  rw [(List.perm_cons_erase member).countP_eq,List.countP_cons]
  simp

private theorem tally_erase_self (uniform : Uniform key bag) (member : v ∈ bag) :
    tally key (bag.erase v) (key v) = match tally key bag (key v) with
      | some (kept,n + 2) => some (kept,n + 1)
      | _ => none := by
  have counted : count key bag (key v) = _ := count_erase member (key v)
  rw [if_pos rfl] at counted
  rw [tally_eq_some uniform member,counted]
  rcases more : count key (bag.erase v) (key v) with _ | n
  · apply tally_eq_none.mpr
    intro w inside equal
    have one : 0 < count key (bag.erase v) (key w) := count_pos inside
    rw [equal,more] at one
    exact absurd one (lt_irrefl 0)
  · have left : 0 < count key (bag.erase v) (key v) := by omega
    obtain ⟨w,inside,equal⟩ := List.countP_pos_iff.mp left
    obtain rfl : w = v := uniform w (List.mem_of_mem_erase inside) v member (by simpa using equal)
    rw [tally_eq_some uniform.erase inside,more]

private theorem tally_erase_other (uniform : Uniform key bag) (member : v ∈ bag) (other : key v ≠ k) :
    tally key (bag.erase v) k = tally key bag k := by
  have counted : count key bag k = _ := count_erase member k
  rw [if_neg other,add_zero] at counted
  by_cases present : ∃ w ∈ bag, key w = k
  · obtain ⟨w,inside,rfl⟩ := present
    have still : w ∈ bag.erase v := (List.mem_erase_of_ne (by rintro rfl; exact other rfl)).mpr inside
    rw [tally_eq_some uniform.erase still,tally_eq_some uniform inside,counted]
  · push Not at present
    rw [tally_eq_none.mpr present]
    exact tally_eq_none.mpr (fun w inside => present w (List.mem_of_mem_erase inside))

/-- When a value of a uniform bag goes, its key is released. -/
theorem tally_erase (uniform : Uniform key bag) (member : v ∈ bag) :
    tally key (bag.erase v) = release (tally key bag) (key v) := by
  funext k
  by_cases same : k = key v
  · subst same
    rw [release,Function.update_self]
    exact tally_erase_self uniform member
  · rw [release,Function.update_of_ne same]
    exact tally_erase_other uniform member (fun equal => same equal.symm)

end

end WSocks.Tallies
