import WSocks.Endian

/-!
# One's complement sums

Numbers below a base are added with an end-around carry: what does not fit is added
again at the lower end. Such a sum depends on the ordinary sum alone, whose residue it
is modulo one less than the base, and it is zero for a zero sum only. The checksum of
a string of bytes is the complement of the sum of its 16-bit numbers.
-/

namespace WSocks.OnesComplement
open WSocks.Endian

section
variable (base : Nat)

/-- Addition with an end-around carry. -/
def add (a b : Nat) : Nat := (a + b) % base + (a + b) / base

def sum (xs : List Nat) : Nat := xs.foldl (add base) 0

/-- What an ordinary sum becomes when all carries are added again. -/
def residue (t : Nat) : Nat := if t = 0 then 0 else (t - 1) % (base - 1) + 1

variable {base} {a b t : Nat}

@[simp] theorem residue_eq_zero : residue base t = 0 ↔ t = 0 := by
  unfold residue
  split_ifs <;> simp_all

theorem residue_lt (two : 2 ≤ base) (t : Nat) : residue base t < base := by
  have small := Nat.mod_lt (t - 1) (show 0 < base - 1 by omega)
  unfold residue
  split_ifs <;> omega

theorem residue_of_lt (two : 2 ≤ base) (small : t < base) : residue base t = t := by
  unfold residue
  split_ifs with zero
  · exact zero.symm
  · rw [Nat.mod_eq_of_lt (by omega)]
    omega

/-- Multiples of one less than the base do not matter, unless all is zero. -/
theorem residue_add_mul (positive : 0 < t) (k : Nat) : residue base (t + (base - 1) * k) = residue base t := by
  have split : t + (base - 1) * k - 1 = t - 1 + (base - 1) * k := by omega
  have positive' : t + (base - 1) * k ≠ 0 := by omega
  rw [residue,residue,if_neg positive',if_neg positive.ne',split,Nat.add_mul_mod_self_left]

/-- Adding the carries again does not change the residue. -/
theorem residue_carry (two : 2 ≤ base) (t : Nat) : residue base (t % base + t / base) = residue base t := by
  rcases Nat.eq_zero_or_pos t with rfl | positive
  · simp
  have whole : t % base + t / base + (base - 1) * (t / base) = t := by
    have division := Nat.mod_add_div t base
    have larger : base * (t / base) = (base - 1) * (t / base) + t / base := by
      rw [← Nat.succ_mul,Nat.succ_eq_add_one,Nat.sub_add_cancel (by omega)]
    omega
  have some_left : 0 < t % base + t / base := by
    by_contra none
    have zero : t / base = 0 := (Nat.add_eq_zero_iff.mp (Nat.eq_zero_of_not_pos none)).2
    rw [zero,Nat.mul_zero] at whole
    omega
  rw [← residue_add_mul some_left (t / base),whole]

theorem residue_add (a b : Nat) : residue base (residue base a + b) = residue base (a + b) := by
  rcases Nat.eq_zero_or_pos a with rfl | positive
  · simp [residue]
  have whole : residue base a + (base - 1) * ((a - 1) / (base - 1)) = a := by
    have division := Nat.mod_add_div (a - 1) (base - 1)
    rw [residue,if_neg positive.ne']
    omega
  have some_left : 0 < residue base a := Nat.pos_of_ne_zero (by simpa using positive.ne')
  rw [← residue_add_mul (by omega) ((a - 1) / (base - 1))]
  congr 1
  omega

theorem add_eq (two : 2 ≤ base) (small : a < base) (small' : b < base) : add base a b = residue base (a + b) := by
  have bounded : add base a b < base := by
    have carry : (a + b) / base ≤ 1 := by
      rw [← Nat.lt_succ_iff,Nat.div_lt_iff_lt_mul (by omega)]
      omega
    have division := Nat.mod_add_div (a + b) base
    have low := Nat.mod_lt (a + b) (show 0 < base by omega)
    unfold add
    rcases Nat.le_one_iff_eq_zero_or_eq_one.mp carry with zero | one
    · omega
    · rw [one] at division ⊢
      omega
  rw [← residue_carry two (a + b),← residue_of_lt two bounded]
  rfl

/-- A one's complement sum is the residue of the ordinary sum. -/
theorem sum_eq (two : 2 ≤ base) {xs : List Nat} (small : ∀ x ∈ xs, x < base) : sum base xs = residue base xs.sum := by
  have from_any : ∀ (xs : List Nat) (start : Nat), (∀ x ∈ xs, x < base) →
      xs.foldl (add base) (residue base start) = residue base (start + xs.sum) := by
    intro xs
    induction xs with
    | nil => simp
    | cons x rest ih =>
      intro start small
      have first := small x List.mem_cons_self
      rw [List.foldl_cons,add_eq two (residue_lt two start) first,residue_add,
        ih (start + x) (fun y member => small y (List.mem_cons_of_mem _ member)),List.sum_cons,Nat.add_assoc]
  have zero : residue base 0 = 0 := rfl
  rw [sum,← zero,from_any xs 0 small,Nat.zero_add]

end

/-! ### Bytes -/

/-- The 16-bit numbers in a string of bytes; a last single byte is followed by a zero. -/
def words : List UInt8 → List Nat
  | high :: low :: rest => beValue [high,low] :: words rest
  | [high] => [beValue [high,0]]
  | [] => []

/-- The complement of the one's complement sum of a string of bytes. -/
def checksum (bytes : List UInt8) : UInt16 := ~~~ UInt16.ofNat (sum 65536 (words bytes))

theorem words_lt (bytes : List UInt8) : ∀ x ∈ words bytes, x < 65536 := by
  fun_induction words bytes with
  | case1 high low rest ih =>
    intro x member
    rcases List.mem_cons.mp member with rfl | inside
    · simpa using beValue_lt [high,low]
    · exact ih x inside
  | case2 high =>
    intro x member
    rw [List.mem_singleton.mp member]
    simpa using beValue_lt [high,0]
  | case3 => simp

/-- An even number of bytes can be split off. -/
theorem words_append {front : List UInt8} (even : front.length % 2 = 0) (back : List UInt8) :
    words (front ++ back) = words front ++ words back := by
  fun_induction words front with
  | case1 high low rest ih =>
    rw [List.length_cons,List.length_cons] at even
    rw [List.cons_append,List.cons_append,words,ih (by omega)]
    rfl
  | case2 high => simp at even
  | case3 => rfl

theorem checksum_eq (bytes : List UInt8) : checksum bytes = ~~~ UInt16.ofNat (residue 65536 (words bytes).sum) := by
  rw [checksum,sum_eq (by omega) (words_lt bytes)]

/-- Only a zero sum has a checksum of all ones. -/
theorem checksum_ne {bytes : List UInt8} (positive : 0 < (words bytes).sum) : checksum bytes ≠ 0xFFFF := by
  intro ones
  have small := residue_lt (show 2 ≤ 65536 by omega) (words bytes).sum
  have zero := congrArg UInt16.toNat ones
  rw [checksum_eq,UInt16.toNat_not,UInt16.toNat_ofNat',Nat.mod_eq_of_lt (by omega)] at zero
  have none : residue 65536 (words bytes).sum = 0 := by
    have size : UInt16.size = 65536 := rfl
    have ones : UInt16.toNat 0xFFFF = 65535 := rfl
    omega
  exact positive.ne' (residue_eq_zero.mp none)

end WSocks.OnesComplement
