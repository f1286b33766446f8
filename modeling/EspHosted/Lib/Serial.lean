import Mathlib.Algebra.Group.Int.Defs
import Mathlib.Algebra.Group.Nat.Defs

/-!
Serial numbers: an unbounded count of which 32 bits are kept, and the signed distance of
two such numbers.
-/

set_option autoImplicit false

namespace Serial

def serial (n : Int) : UInt32 := UInt32.ofBitVec (BitVec.ofInt 32 n)

/-- `(s32)(a - b)` -/
def delta (a b : UInt32) : Int := (a-b).toInt32.toInt

theorem serial_add (a b : Int) : serial (a+b) = serial a+serial b := by
  apply UInt32.toBitVec_inj.mp
  simp [serial,BitVec.ofInt_add]

theorem serial_sub (a b : Int) : serial (a-b) = serial a-serial b := by
  have h := serial_add (a-b) b
  rw [Int.sub_add_cancel] at h
  rw [h,UInt32.add_sub_cancel]

theorem serial_succ (a : Int) : serial (a+1) = serial a+1 := serial_add a 1

theorem serial_natCast (n : Nat) : serial n = UInt32.ofNat n := by
  rw [serial,BitVec.ofInt_natCast]
  rfl

theorem serial_toNat (n : Int) : ((serial n).toNat : Int) = n%2^32 := by
  simp [serial,BitVec.toNat_ofInt]
  omega

theorem delta_serial (a b : Int) : delta (serial a) (serial b) = (a-b).bmod (2^32) := by
  rw [delta,← serial_sub]
  simp [serial,Int32.toInt]

/-- Numbers that are less than half the range apart are told apart and ordered. -/
theorem delta_eq {a b : Int} (h1 : -2^31 ≤ a-b) (h2 : a-b < 2^31) : delta (serial a) (serial b) = a-b := by
  rw [delta_serial,Int.bmod_eq_of_le]
  · simpa using h1
  · simpa using h2

end Serial
