import Mathlib

set_option autoImplicit false

namespace GotechDesk.LittleEndian

-- Fixed-width fields, least significant byte first; what does not fit is cut off.
def put : Nat → Nat → List UInt8
  | 0, _ => []
  | width + 1, n => UInt8.ofNat n :: put width (n / 256)

def get : List UInt8 → Nat
  | [] => 0
  | byte :: rest => byte.toNat + 256 * get rest

theorem put_length (width n : Nat) : (put width n).length = width := by
  induction width generalizing n with
  | zero => rfl
  | succ width ih => simp [put, ih]

theorem get_put (width n : Nat) : get (put width n) = n % 256 ^ width := by
  induction width generalizing n with
  | zero => simp [put, get, Nat.mod_one]
  | succ width ih =>
      have low : (UInt8.ofNat n).toNat = n % 256 := by simp
      rw [put, get, ih, low, Nat.pow_succ, Nat.mul_comm (256 ^ width) 256, Nat.mod_mul]

theorem get_put_small (width n : Nat) (small : n < 256 ^ width) : get (put width n) = n := by
  rw [get_put, Nat.mod_eq_of_lt small]

theorem get_small (bytes : List UInt8) : get bytes < 256 ^ bytes.length := by
  induction bytes with
  | nil => exact Nat.one_pos
  | cons byte rest ih =>
      have low := byte.toNat_lt
      rw [get, List.length_cons, Nat.pow_succ]
      omega

theorem get_take_small (width : Nat) (bytes : List UInt8) : get (bytes.take width) < 256 ^ width :=
  (get_small _).trans_le (Nat.pow_le_pow_right (by decide) (List.length_take_le _ _))

-- One field read off the front, and what follows it.
theorem take_put (width n : Nat) (rest : List UInt8) : (put width n ++ rest).take width = put width n :=
  List.take_left' (put_length width n)

theorem drop_put (width n : Nat) (rest : List UInt8) : (put width n ++ rest).drop width = rest :=
  List.drop_left' (put_length width n)

end GotechDesk.LittleEndian
