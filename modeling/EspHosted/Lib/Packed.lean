import Mathlib.Algebra.Group.Nat.Defs
import Mathlib.Data.List.Basic

/-!
Packed records: members one behind the other, numbers little endian, perhaps a body of any length
behind the last member. A reader takes a member at a fixed offset.
-/

set_option autoImplicit false

namespace Packed

abbrev Octets := List UInt8

/-- A member of a fixed width. -/
structure Block (n : Nat) where
  bytes : Octets
  width : bytes.length = n

instance (n : Nat) : DecidableEq (Block n) := fun a b =>
  decidable_of_iff (a.bytes = b.bytes) (by cases a; cases b; simp)

attribute [simp] Block.width

def leBytes : Nat → Nat → Octets
  | 0, _ => []
  | n+1, v => UInt8.ofNat v :: leBytes n (v/256)

def leValue : Octets → Nat
  | [] => 0
  | b :: bs => b.toNat+256*leValue bs

@[simp] theorem leBytes_length (n v : Nat) : (leBytes n v).length = n := by
  induction n generalizing v with
  | zero => rfl
  | succ n ih => simp [leBytes,ih]

/-- A number comes back when it fits. -/
theorem leValue_leBytes {n v : Nat} (h : v < 256^n) : leValue (leBytes n v) = v := by
  induction n generalizing v with
  | zero => simp at h; simp [leBytes,leValue,h]
  | succ n ih =>
    have hd : v/256 < 256^n := by
      rw [Nat.pow_succ,Nat.mul_comm] at h
      exact Nat.div_lt_of_lt_mul h
    simp only [leBytes,leValue,ih hd,UInt8.toNat_ofNat']
    omega

theorem leValue_lt (b : Octets) : leValue b < 256^b.length := by
  induction b with
  | nil => decide
  | cons x b ih =>
    have hx := x.toNat_lt
    simp only [leValue,List.length_cons,Nat.pow_succ]
    omega

def field (off width : Nat) (b : Octets) : Octets := (b.drop off).take width

theorem field_length {off width : Nat} {b : Octets} (h : off+width ≤ b.length) : (field off width b).length = width := by
  simp only [field,List.length_take,List.length_drop]
  omega

/-- A member in front of what is skipped. -/
theorem field_left {a : Octets} (t : Octets) {off width : Nat} (h : off+width ≤ a.length) :
    field off width (a ++ t) = field off width a := by
  have hd : width-(a.length-off) = 0 := by omega
  simp [field,List.drop_append_of_le_length (show off ≤ a.length by omega),List.take_append,hd]

theorem field_right (a t : Octets) {off : Nat} (width : Nat) (h : a.length ≤ off) :
    field off width (a ++ t) = field (off-a.length) width t := by
  simp [field,List.drop_append,List.drop_eq_nil_of_le h]

theorem field_all (b : Octets) : field 0 b.length b = b := by simp [field]

/-- The bytes of a record with the members `ms`. -/
def record (ms : List Octets) : Octets := ms.flatten

def offsetOf (ms : List Octets) (i : Nat) : Nat := (record (ms.take i)).length

theorem record_split (ms : List Octets) (i : Nat) (h : i < ms.length) :
    record ms = record (ms.take i) ++ ms[i] ++ record (ms.drop (i+1)) := by
  induction ms generalizing i with
  | nil => simp at h
  | cons m ms ih =>
    cases i with
    | zero => simp [record]
    | succ i =>
      have hi := ih i (by simpa using h)
      simp only [record] at hi
      simp [record,hi]

/-- Each member is read back at its offset, whatever the others hold and whatever follows. -/
theorem field_record (ms : List Octets) (body : Octets) (i : Nat) (h : i < ms.length) :
    field (offsetOf ms i) ms[i].length (record ms ++ body) = ms[i] := by
  have hs : record ms ++ body = record (ms.take i) ++ (ms[i] ++ (record (ms.drop (i+1)) ++ body)) := by
    rw [record_split ms i h,List.append_assoc,List.append_assoc]
  rw [hs,offsetOf,field_right _ _ _ (Nat.le_refl _),Nat.sub_self,field_left _ (by simp),field_all]

/-- And the body behind them. -/
theorem field_body (ms : List Octets) (body : Octets) :
    field (record ms).length body.length (record ms ++ body) = body := by
  rw [field_right _ _ _ (Nat.le_refl _),Nat.sub_self,field_all]

/-- `field_record` for a reader that spells out offset and width. -/
theorem read_member {ms : List Octets} {off width : Nat} (i : Nat) (body : Octets) (m : Octets)
    (hm : ms[i]? = some m) (ho : off = offsetOf ms i) (hw : width = m.length) :
    field off width (record ms ++ body) = m := by
  obtain ⟨h,rfl⟩ := List.getElem?_eq_some_iff.mp hm
  rw [ho,hw,field_record ms body i h]

/-- A reader that does not look past the record it expects sees what was cut off as well. -/
theorem field_take {off width n : Nat} (b : Octets) (h : off+width ≤ n) :
    field off width (b.take n) = field off width b := by
  simp [field,List.drop_take,List.take_take,Nat.min_eq_left (show width ≤ n-off by omega)]

end Packed
