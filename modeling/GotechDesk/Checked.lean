import Mathlib

set_option autoImplicit false

namespace GotechDesk.Checked

-- The values of a fixed-width integer type, from the least to the greatest.
structure Width where
  low : Int
  high : Int

def i32 : Width := ⟨-2147483648, 2147483647⟩
def i64 : Width := ⟨-9223372036854775808, 9223372036854775807⟩

def Width.Holds (width : Width) (value : Int) : Prop := width.low ≤ value ∧ value ≤ width.high

instance (width : Width) (value : Int) : Decidable (width.Holds value) :=
  inferInstanceAs (Decidable (width.low ≤ value ∧ value ≤ width.high))

-- The result of a sum, a difference or a product: `none` is the panic of an overflow.
def Width.check (width : Width) (value : Int) : Option Int := if width.Holds value then some value else none

def Width.saturate (width : Width) (value : Int) : Int := max width.low (min value width.high)

-- `1 << exp`, which panics on an exponent the type has no bit for.
def Width.shiftOne (bits : Nat) (exp : Int) : Option Int :=
  if 0 ≤ exp ∧ exp < bits then some (BitVec.twoPow bits exp.toNat).toInt else none

-- The same for an unsigned type of so many bits.
def unsigned (bits value : Nat) : Option Nat := if value < 2 ^ bits then some value else none

def unsignedSub (left right : Nat) : Option Nat := if right ≤ left then some (left - right) else none

def unsignedShl (bits value exp : Nat) : Option Nat := if exp < bits then some (value * 2 ^ exp % 2 ^ bits) else none

theorem unsigned_fits (bits value : Nat) (fits : value < 2 ^ bits) : unsigned bits value = some value := if_pos fits

theorem unsigned_some (bits value result : Nat) (taken : unsigned bits value = some result) : value < 2 ^ bits ∧ result = value := by
  obtain ⟨fits, same⟩ := Option.ite_some_none_eq_some.mp taken
  exact ⟨fits, same.symm⟩

theorem check_holds (width : Width) (value : Int) (holds : width.Holds value) : width.check value = some value := if_pos holds

end GotechDesk.Checked
