import Mathlib

/-!
# Rings of items

A ring holds items of different widths in one piece each, first in, first out. Where the rest of
the ring has no room for one more item, the items go on at its beginning, and what is left of
the ring behind the last one stays unused until all before it has been taken.
-/

namespace WSocks.Rings

/-- Of `size` cells the items take `used` from `start` on; they go on at the first cell behind
    `wrap`. -/
structure Ring where
  size : Nat
  wrap : Nat
  start : Nat
  used : Nat
deriving DecidableEq

namespace Ring

def empty (size : Nat) : Ring := ⟨size,size,0,0⟩

/-- Where the next item goes. -/
def finish (r : Ring) : Nat := if r.wrap ≤ r.start + r.used then r.start + r.used - r.wrap else r.start + r.used

/-- How many cells are free there. -/
def free (r : Ring) : Nat := (if r.wrap ≤ r.start + r.used then r.start else r.size) - r.finish

/-- An item comes in, and the next one goes to the beginning where `room` cells are not left. -/
def push (room width : Nat) (r : Ring) : Ring :=
  if r.start + (r.used + width) ≤ r.wrap ∧ r.size < r.finish + width + room then
    {r with used := r.used + width,wrap := r.finish + width}
  else {r with used := r.used + width}

/-- The first item leaves. -/
def pop (width : Nat) (r : Ring) : Ring :=
  if r.start + width = r.wrap then ⟨r.size,r.size,0,r.used - width⟩
  else {r with start := r.start + width,used := r.used - width}

end Ring

section
variable {α : Type} {width : α → Nat} {place place' : Nat → α → Prop} {limit room : Nat}

/-- The items lie one behind the other from one cell to another, and none begins behind the limit. -/
inductive Laid (width : α → Nat) (place : Nat → α → Prop) (limit : Nat) : Nat → List α → Nat → Prop
  | nil {i : Nat} : Laid width place limit i [] i
  | cons {i j : Nat} {a : α} {items : List α} (early : i ≤ limit) (here : place i a)
      (rest : Laid width place limit (i + width a) items j) : Laid width place limit i (a :: items) j

variable {i j : Nat} {a : α} {items front back : List α}

theorem Laid.finish (laid : Laid width place limit i items j) : j = i + (items.map width).sum := by
  induction laid with
  | nil => rfl
  | cons _ _ _ ih =>
    rw [List.map_cons,List.sum_cons,ih]
    omega

theorem Laid.le (laid : Laid width place limit i items j) : i ≤ j := by
  rw [laid.finish]
  omega

theorem laid_cons : Laid width place limit i (a :: items) j ↔
    i ≤ limit ∧ place i a ∧ Laid width place limit (i + width a) items j := by
  constructor
  · intro laid
    cases laid with
    | cons early here rest => exact ⟨early,here,rest⟩
  · rintro ⟨early,here,rest⟩
    exact .cons early here rest

theorem laid_nil : Laid width place limit i [] j ↔ j = i := by
  constructor
  · intro laid
    exact laid.finish
  · rintro rfl
    exact .nil

theorem Laid.snoc (laid : Laid width place limit i items j) (early : j ≤ limit) (here : place j a) :
    Laid width place limit i (items ++ [a]) (j + width a) := by
  induction laid with
  | nil => exact .cons early here .nil
  | cons early' here' _ ih => exact .cons early' here' (ih early here)

/-- Each item lies between the ends, so what else changes does not matter. -/
theorem Laid.mono (laid : Laid width place limit i items j)
    (same : ∀ k a, i ≤ k → k + width a ≤ j → place k a → place' k a) : Laid width place' limit i items j := by
  induction laid with
  | nil => exact .nil
  | cons early here rest ih =>
    exact .cons early (same _ _ le_rfl rest.le here) (ih (fun k a behind before => same k a (by omega) before))

theorem Laid.many (laid : Laid width place limit i items j) (fits : ∀ a ∈ items, width a ≤ room) :
    j ≤ i + room * items.length := by
  have few := List.sum_le_card_nsmul (items.map width) room (by simpa using fits)
  rw [List.length_map,smul_eq_mul] at few
  rw [laid.finish,Nat.mul_comm room]
  omega

/-! ### What a ring holds -/

/-- The ring holds the items, for items that take `room` cells at most. -/
inductive Holds (width : α → Nat) (place : Nat → α → Prop) (room : Nat) : Ring → List α → Prop
  | flat {r : Ring} {items : List α} (whole : r.wrap = r.size)
      (laid : Laid width place (r.size - room) r.start items (r.start + r.used))
      (ahead : r.start + r.used + room ≤ r.size) : Holds width place room r items
  | wrapped {r : Ring} {front back : List α} (some : front ≠ [])
      (laid : Laid width place (r.size - room) r.start front r.wrap)
      (again : Laid width place (r.size - room) 0 back (r.start + r.used - r.wrap))
      (small : room ≤ r.size) (inside : r.wrap ≤ r.size) (full : r.size < r.wrap + room) (over' : r.wrap ≤ r.start + r.used)
      (apart : r.used ≤ r.wrap) : Holds width place room r (front ++ back)

variable {r : Ring}

/-- The next item can be as large as any. -/
theorem Holds.ahead (positive : 0 < room) (holds : Holds width place room r items) : r.finish + room ≤ r.size := by
  cases holds with
  | flat whole laid ahead =>
    rw [Ring.finish,if_neg (by omega)]
    exact ahead
  | @wrapped front back some laid again small inside full over' apart =>
    cases front with
    | nil => exact absurd rfl some
    | cons a front =>
      obtain ⟨early,-,-⟩ := laid_cons.mp laid
      rw [Ring.finish,if_pos over']
      omega

/-- The first item is where it should be, in one piece. -/
theorem Holds.first (positive : 0 < room) (holds : Holds width place room r (a :: items)) :
    place r.start a ∧ r.start + width a ≤ r.wrap ∧ width a ≤ r.used := by
  generalize whole' : a :: items = all at holds
  cases holds with
  | flat whole laid ahead =>
    subst whole'
    obtain ⟨early,here,rest⟩ := laid_cons.mp laid
    have := rest.le
    exact ⟨here,by omega,by omega⟩
  | @wrapped front back some laid again small inside full over' apart =>
    cases front with
    | nil => exact absurd rfl some
    | cons b front =>
      obtain ⟨rfl,rfl⟩ := List.cons.inj whole'
      obtain ⟨early,here,rest⟩ := laid_cons.mp laid
      have := rest.le
      exact ⟨here,by omega,by omega⟩

theorem Holds.sound (positive : 0 < room) (holds : Holds width place room r items) :
    r.start < r.wrap ∧ r.wrap ≤ r.size ∧ r.used ≤ r.wrap ∧ (r.wrap = r.size ∨ r.wrap ≤ r.start + r.used) := by
  cases holds with
  | flat whole laid ahead => omega
  | @wrapped front back some laid again small inside full over' apart =>
    cases front with
    | nil => exact absurd rfl some
    | cons a front =>
      obtain ⟨early,-,-⟩ := laid_cons.mp laid
      omega

theorem Holds.used_eq (widths : ∀ a, 0 < width a) (holds : Holds width place room r items) :
    r.used = 0 ↔ items = [] := by
  cases holds with
  | flat whole laid ahead =>
    cases items with
    | nil =>
      have := laid_nil.mp laid
      simp
      omega
    | cons a items =>
      obtain ⟨-,-,rest⟩ := laid_cons.mp laid
      have := widths a
      have := rest.le
      simp
      omega
  | @wrapped front back some laid again small inside full over' apart =>
    cases front with
    | nil => exact absurd rfl some
    | cons a front =>
      obtain ⟨-,-,rest⟩ := laid_cons.mp laid
      have := widths a
      have := rest.le
      simp
      omega

theorem holds_empty {size : Nat} (fits : room ≤ size) : Holds width place room (.empty size) [] :=
  .flat rfl .nil (by simpa [Ring.empty] using fits)

/-- An item that was written where the next one goes is held behind the others. -/
theorem Holds.push (positive : 0 < room) (some' : 0 < width a) (holds : Holds width place room r items)
    (here : place r.finish a) (fits : width a ≤ r.free) :
    Holds width place room (r.push room (width a)) (items ++ [a]) := by
  have early := holds.ahead positive
  cases holds with
  | flat whole laid ahead =>
    have finish : r.finish = r.start + r.used := by rw [Ring.finish,if_neg (by omega)]
    rw [Ring.free,if_neg (by omega),finish] at fits
    rw [finish] at here early
    have longer := laid.snoc (by omega) here
    rw [Ring.push,finish]
    split_ifs with ends
    · have all : Holds width place room {r with used := r.used + width a,wrap := r.start + r.used + width a}
          ((_ ++ [a]) ++ []) :=
        .wrapped (by simp) longer (by dsimp only; rw [← Nat.add_assoc,Nat.sub_self]; exact .nil) (by dsimp only; omega)
          (by dsimp only; omega)
          (by dsimp only; omega) (by dsimp only; omega) (by dsimp only; omega)
      rwa [List.append_nil] at all
    · exact .flat whole (by rw [← Nat.add_assoc]; exact longer) (by dsimp only; omega)
  | wrapped some laid again small inside full over' apart =>
    have finish : r.finish = r.start + r.used - r.wrap := by rw [Ring.finish,if_pos over']
    rw [Ring.free,if_pos over',finish] at fits
    rw [finish] at here early
    rw [Ring.push,if_neg (by omega),List.append_assoc]
    have longer := again.snoc (by omega) here
    refine .wrapped some laid ?_ small inside full (by dsimp only; omega) (by dsimp only; omega)
    rwa [show r.start + (r.used + width a) - r.wrap = r.start + r.used - r.wrap + width a by omega]

/-- Without its first item the ring holds the others. -/
theorem Holds.pop (positive : 0 < room) (widths : ∀ a, 0 < width a) (holds : Holds width place room r (a :: items)) :
    Holds width place room (r.pop (width a)) items := by
  have early := holds.ahead positive
  generalize whole' : a :: items = all at holds
  cases holds with
  | flat whole laid ahead =>
    subst whole'
    obtain ⟨-,-,rest⟩ := laid_cons.mp laid
    have := rest.le
    rw [Ring.pop,if_neg (by omega)]
    refine .flat whole ?_ (by dsimp only; omega)
    rwa [show r.start + width a + (r.used - width a) = r.start + r.used by omega]
  | @wrapped front back some laid again small inside full over' apart =>
    rw [Ring.finish,if_pos over'] at early
    cases front with
    | nil => exact absurd rfl some
    | cons b front =>
      obtain ⟨rfl,rfl⟩ := List.cons.inj whole'
      obtain ⟨-,-,rest⟩ := laid_cons.mp laid
      have := rest.le
      cases front with
      | nil =>
        have ends := laid_nil.mp rest
        rw [Ring.pop,if_pos ends.symm]
        refine .flat rfl ?_ (by dsimp only; omega)
        rwa [show 0 + (r.used - width a) = r.start + r.used - r.wrap by omega]
      | cons b front =>
        obtain ⟨-,-,rest'⟩ := laid_cons.mp rest
        have := widths b
        have := rest'.le
        rw [Ring.pop,if_neg (by omega)]
        refine .wrapped (by simp) rest ?_ small inside full (by dsimp only; omega) (by dsimp only; omega)
        rwa [show r.start + width a + (r.used - width a) - r.wrap = r.start + r.used - r.wrap by omega]

/-- Items that leave do not move the place of the next one, and there is no less room. -/
theorem Holds.finish_pop (positive : 0 < room) (holds : Holds width place room r (a :: items)) :
    (r.pop (width a)).finish = r.finish ∧ r.free ≤ (r.pop (width a)).free := by
  have early := holds.ahead positive
  obtain ⟨-,piece,some'⟩ := holds.first positive
  obtain ⟨less,inside,-,over'⟩ := holds.sound positive
  by_cases wraps : r.wrap ≤ r.start + r.used
  · rw [Ring.finish,if_pos wraps] at early
    by_cases ends : r.start + width a = r.wrap
    · have flat : ¬ r.size ≤ 0 + (r.used - width a) := by omega
      simp only [Ring.pop,ends,Ring.free,Ring.finish,wraps,flat,if_true,if_false]
      omega
    · have still : r.wrap ≤ r.start + width a + (r.used - width a) := by omega
      simp only [Ring.pop,ends,Ring.free,Ring.finish,wraps,still,if_true,if_false]
      omega
  · have ends : r.start + width a ≠ r.wrap := by omega
    have flat : ¬ r.wrap ≤ r.start + width a + (r.used - width a) := by omega
    simp only [Ring.pop,ends,Ring.free,Ring.finish,wraps,flat,if_false]
    omega

theorem Holds.free_pop (positive : 0 < room) (holds : Holds width place room r (a :: items))
    (flat : ¬ r.wrap ≤ r.start + r.used) : (r.pop (width a)).free = r.free := by
  obtain ⟨-,piece,some'⟩ := holds.first positive
  have ends : r.start + width a ≠ r.wrap := by omega
  have flat' : ¬ r.wrap ≤ r.start + width a + (r.used - width a) := by omega
  simp only [Ring.pop,ends,Ring.free,Ring.finish,flat,flat',if_false]
  omega

/-- What changes where the next item goes changes no item. -/
theorem Holds.mono (positive : 0 < room) (holds : Holds width place room r items)
    (same : ∀ k a, k + width a ≤ r.size → k + width a ≤ r.finish ∨ r.finish + r.free ≤ k → place k a → place' k a) :
    Holds width place' room r items := by
  have early := holds.ahead positive
  cases holds with
  | flat whole laid ahead =>
    refine .flat whole (laid.mono (fun k a behind before => same k a (by omega) ?_)) ahead
    rw [Ring.finish,if_neg (by omega)]
    exact .inl before
  | wrapped some laid again small inside full over' apart =>
    have finish : r.finish = r.start + r.used - r.wrap := by rw [Ring.finish,if_pos over']
    refine .wrapped some (laid.mono (fun k a behind before => same k a (by omega) (.inr ?_)))
      (again.mono (fun k a behind before => same k a (by omega) (.inl ?_))) small inside full over' apart
    · rw [Ring.free,if_pos over',finish]
      omega
    · rwa [finish]

/-- A ring with the room for one item more than there are always takes another one. -/
theorem Holds.few {count : Nat} (positive : 0 < room) (holds : Holds width place room r items)
    (fits : ∀ a ∈ items, width a ≤ room) (few : items.length < count) (enough : room * (count + 1) ≤ r.size) :
    room ≤ r.free := by
  cases holds with
  | flat whole laid ahead =>
    rw [Ring.free,Ring.finish,if_neg (by omega),if_neg (by omega)]
    omega
  | @wrapped front back some laid again small inside full over' apart =>
    have first := laid.many (fun a member => fits a (List.mem_append_left back member))
    have second := again.many (fun a member => fits a (List.mem_append_right front member))
    rw [List.length_append] at few
    have total : room * (front.length + back.length) ≤ room * (count - 1) := Nat.mul_le_mul_left room (by omega)
    have more : room * (count + 1) = room * (count - 1) + room + room := by
      obtain ⟨n,rfl⟩ : ∃ n, count = n + 1 := ⟨count - 1,by omega⟩
      rw [Nat.add_sub_cancel]
      ring
    rw [Nat.mul_add] at total
    rw [Ring.free,Ring.finish,if_pos over',if_pos over']
    omega

end

end WSocks.Rings
