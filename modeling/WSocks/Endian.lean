import Mathlib

/-!
# Byte orders

Numbers of a fixed width as bytes, least significant byte first (`leBytes`) or
last (`beBytes`), and the number that a string of bytes stands for.
-/

namespace WSocks.Endian

/-- The `width` low bytes of a number, least significant first. -/
def leBytes : Nat → Nat → List UInt8
  | 0,_ => []
  | width + 1,n => UInt8.ofNat n :: leBytes width (n / 256)

/-- The number with the given bytes, least significant first. -/
def leValue : List UInt8 → Nat
  | [] => 0
  | b :: rest => b.toNat + 256 * leValue rest

/-- The `width` low bytes of a number, most significant first. -/
def beBytes (width n : Nat) : List UInt8 := (leBytes width n).reverse
/-- The number with the given bytes, most significant first. -/
def beValue (bytes : List UInt8) : Nat := leValue bytes.reverse

@[simp] theorem leBytes_length (width n : Nat) : (leBytes width n).length = width := by
  induction width generalizing n with
  | zero => rfl
  | succ width ih => simp [leBytes,ih]
@[simp] theorem beBytes_length (width n : Nat) : (beBytes width n).length = width := by simp [beBytes]

/-- Reading back what was written loses only what does not fit the width. -/
theorem leValue_leBytes (width n : Nat) : leValue (leBytes width n) = n % 256 ^ width := by
  induction width generalizing n with
  | zero => simp [leBytes,leValue,Nat.mod_one]
  | succ width ih =>
    have low : (UInt8.ofNat n).toNat = n % 256 := by simp
    rw [leBytes,leValue,ih,low,pow_succ,Nat.mul_comm (256 ^ width) 256,Nat.mod_mul]
theorem beValue_beBytes (width n : Nat) : beValue (beBytes width n) = n % 256 ^ width := by
  simp [beValue,beBytes,leValue_leBytes]

theorem leValue_lt (bytes : List UInt8) : leValue bytes < 256 ^ bytes.length := by
  induction bytes with
  | nil => simp [leValue]
  | cons b rest ih =>
    have small := b.toNat_lt
    rw [leValue,List.length_cons,pow_succ]
    omega
theorem beValue_lt (bytes : List UInt8) : beValue bytes < 256 ^ bytes.length := by
  simpa [beValue] using leValue_lt bytes.reverse

/-- Bytes are determined by their number and how many they are. -/
theorem leBytes_leValue (bytes : List UInt8) : leBytes bytes.length (leValue bytes) = bytes := by
  induction bytes with
  | nil => rfl
  | cons b rest ih =>
    have small := b.toNat_lt
    have head : UInt8.ofNat (b.toNat + 256 * leValue rest) = b := by
      apply UInt8.toNat_inj.mp
      rw [UInt8.toNat_ofNat']
      omega
    have tail : (b.toNat + 256 * leValue rest) / 256 = leValue rest := by omega
    rw [leValue,List.length_cons,leBytes,head,tail,ih]
theorem beBytes_beValue (bytes : List UInt8) : beBytes bytes.length (beValue bytes) = bytes := by
  have reversed := leBytes_leValue bytes.reverse
  rw [List.length_reverse] at reversed
  rw [beBytes,beValue,reversed,List.reverse_reverse]

/-- Two bytes with the most significant first. -/
theorem beValue_pair (high low : UInt8) : beValue [high,low] = 256 * high.toNat + low.toNat := by
  simp [beValue,leValue]
  omega

end WSocks.Endian
