import EspHosted.Lib.Packed

/-!
Headers whose fields are announced by a bit mask: bit `i` says whether field `i` is there. The
fields follow in the order of their bits, each at its natural alignment from the start of the header.
-/

set_option autoImplicit false

namespace Bitmapped
open Packed

structure Kind where
  align : Nat
  size : Nat
  deriving DecidableEq, Repr

/-- The bytes from `off` to the next multiple of `align`. -/
def pad (align off : Nat) : Nat := (align-off%align)%align

/-- A field of the table, with its value when it is present. -/
structure Slot where
  kind : Kind
  value : Option (Block kind.size)

def Slot.bytes (s : Slot) : Option Octets := s.value.map Block.bytes

/-- Fields are counted from bit 0 on, in the order of the table. -/
def mask : List Slot → Nat
  | [] => 0
  | s :: ss => s.value.isSome.toNat+2*mask ss

def encode (off : Nat) : List Slot → Octets
  | [] => []
  | s :: ss =>
    match s.bytes with
    | none => encode off ss
    | some v => List.replicate (pad s.kind.align off) 0 ++ v ++ encode (off+pad s.kind.align off+s.kind.size) ss

def decode (off present : Nat) : List Kind → Octets → Option (List (Option Octets))
  | [], _ => some []
  | k :: ks, b =>
    if present%2 = 0 then (decode off (present/2) ks b).map (none :: ·)
    else
      let room := b.drop (pad k.align off)
      if room.length < k.size then none
      else (decode (off+pad k.align off+k.size) (present/2) ks (room.drop k.size)).map (some (room.take k.size) :: ·)

theorem encode_none {s : Slot} (ss : List Slot) (off : Nat) (h : s.value = none) : encode off (s :: ss) = encode off ss := by
  simp [encode,Slot.bytes,h]

theorem encode_some {s : Slot} {v : Block s.kind.size} (ss : List Slot) (off : Nat) (h : s.value = some v) :
    encode off (s :: ss) =
      List.replicate (pad s.kind.align off) 0 ++ v.bytes ++ encode (off+pad s.kind.align off+s.kind.size) ss := by
  simp [encode,Slot.bytes,h]

/-- Any reader of the same table finds every field that was written, and what lies behind is not looked at. -/
theorem decode_encode (ss : List Slot) (off : Nat) (tail : Octets) :
    decode off (mask ss) (ss.map Slot.kind) (encode off ss ++ tail) = some (ss.map Slot.bytes) := by
  induction ss generalizing off with
  | nil => rfl
  | cons s ss ih =>
    cases hv : s.value with
    | none =>
      have hm : mask (s :: ss) = 2*mask ss := by simp [mask,hv]
      have h0 : 2*mask ss%2 = 0 := by omega
      have hh : 2*mask ss/2 = mask ss := by omega
      simp only [List.map_cons,decode,encode_none ss off hv,hm,h0,hh,if_true,ih off]
      simp [Slot.bytes,hv]
    | some v =>
      have hm : mask (s :: ss) = 1+2*mask ss := by simp [mask,hv]
      have h1 : ¬(1+2*mask ss)%2 = 0 := by omega
      have hh : (1+2*mask ss)/2 = mask ss := by omega
      have hroom : (encode off (s :: ss) ++ tail).drop (pad s.kind.align off) =
          v.bytes ++ (encode (off+pad s.kind.align off+s.kind.size) ss ++ tail) := by
        rw [encode_some ss off hv]
        simp
      have hlen : ¬(v.bytes ++ (encode (off+pad s.kind.align off+s.kind.size) ss ++ tail)).length < s.kind.size := by
        simp
      have hdrop : (v.bytes ++ (encode (off+pad s.kind.align off+s.kind.size) ss ++ tail)).drop s.kind.size =
          encode (off+pad s.kind.align off+s.kind.size) ss ++ tail := List.drop_left' v.width
      have htake : (v.bytes ++ (encode (off+pad s.kind.align off+s.kind.size) ss ++ tail)).take s.kind.size =
          v.bytes := List.take_left' v.width
      simp only [List.map_cons,decode,hm,h1,hh,if_false,hroom,hlen,hdrop,htake,ih]
      simp [Slot.bytes,hv]

end Bitmapped
