import Mathlib.Data.List.Basic
import EspHosted.Lib.Word

/-!
A word that is stored whole and read byte by byte, the low byte first. `f n` is the word
after `n` stores, so a read is a list of store counts, one for each byte.
-/

set_option autoImplicit false

namespace Torn
open Word

/-- The bytes read so far, each after a count from `lo` to `hi`. -/
def Snap (f : Nat → UInt32) (lo hi : Nat) (got : List UInt8) : Prop :=
  ∃ cs : List Nat, cs.Pairwise (· ≤ ·) ∧ (∀ c ∈ cs, lo ≤ c ∧ c ≤ hi) ∧ got = cs.mapIdx fun i c => byte (f c) i

variable {f : Nat → UInt32} {lo hi hi' : Nat} {got : List UInt8}

theorem snap_nil : Snap f lo hi [] := ⟨[],List.Pairwise.nil,by simp,rfl⟩

theorem Snap.mono (h : Snap f lo hi got) (hh : hi ≤ hi') : Snap f lo hi' got := by
  obtain ⟨cs,hp,hb,hg⟩ := h
  exact ⟨cs,hp,fun c hc => ⟨(hb c hc).1,Nat.le_trans (hb c hc).2 hh⟩,hg⟩

/-- The next byte is of the word as it is now. -/
theorem Snap.snoc (h : Snap f lo hi got) (hh : lo ≤ hi) :
    Snap f lo hi (got ++ [byte (f hi) got.length]) := by
  obtain ⟨cs,hp,hb,rfl⟩ := h
  refine ⟨cs ++ [hi],?_,?_,?_⟩
  · rw [List.pairwise_append]
    refine ⟨hp,List.pairwise_singleton _ _,fun c hc d hd => ?_⟩
    rw [List.mem_singleton.mp hd]
    exact (hb c hc).2
  · intro c hc
    rcases List.mem_append.mp hc with hc | hc
    · exact hb c hc
    · rw [List.mem_singleton.mp hc]
      exact ⟨hh,Nat.le_refl hi⟩
  · rw [List.mapIdx_append]
    simp

theorem Snap.word {b0 b1 b2 b3 : UInt8} (h : Snap f lo hi [b0,b1,b2,b3]) :
    ∃ c0 c1 c2 c3, lo ≤ c0 ∧ c0 ≤ c1 ∧ c1 ≤ c2 ∧ c2 ≤ c3 ∧ c3 ≤ hi ∧
      b0 = byte (f c0) 0 ∧ b1 = byte (f c1) 1 ∧ b2 = byte (f c2) 2 ∧ b3 = byte (f c3) 3 := by
  obtain ⟨cs,hp,hb,hg⟩ := h
  have hl := congrArg List.length hg
  simp only [List.length_cons,List.length_nil,List.length_mapIdx] at hl
  obtain _ | ⟨c0,_ | ⟨c1,_ | ⟨c2,_ | ⟨c3,_ | ⟨c4,cs⟩⟩⟩⟩⟩ := cs
  all_goals simp at hl
  simp only [List.mapIdx_cons,List.mapIdx_nil,List.cons.injEq,and_true] at hg
  simp only [List.pairwise_cons,List.mem_cons] at hp
  exact ⟨c0,c1,c2,c3,(hb c0 (by simp)).1,hp.1 c1 (by simp),hp.2.1 c2 (by simp),hp.2.2.1 c3 (by simp),
    (hb c3 (by simp)).2,hg.1,hg.2.1,hg.2.2.1,hg.2.2.2⟩

/-! A counter whose word is the count itself. -/

def counter (n : Nat) : UInt32 := UInt32.ofNat n

theorem byte_counter {n i : Nat} (hi : i < 4) : (byte (counter n) i).toNat = n%2^32/256^i%256 := by
  rw [byte_toNat _ hi,counter,UInt32.toNat_ofNat']

/-- A torn read of a counter that moves by less than 256 has gained a power of 256. -/
theorem torn_counter {c0 c1 c2 c3 : Nat} (h1 : c0 ≤ c1) (h2 : c1 ≤ c2) (h3 : c2 ≤ c3) (hw : c3 < c0+256) :
    ∃ d ∈ [0,256,65536,16777216],
      Word.word (byte (counter c0) 0) (byte (counter c1) 1) (byte (counter c2) 2) (byte (counter c3) 3) =
        counter (c0+d) := by
  have hb {n i : Nat} (hi : i < 4) : (byte (counter n) i).toNat = n/256^i%256 := by
    rw [byte_counter hi]
    obtain rfl | rfl | rfl | rfl : i = 0 ∨ i = 1 ∨ i = 2 ∨ i = 3 := by omega
    all_goals omega
  have hv (d : Nat) (h : c0%256+c1/256%256*2^8+c2/65536%256*2^16+c3/16777216%256*2^24 = (c0+d)%2^32) :
      Word.word (byte (counter c0) 0) (byte (counter c1) 1) (byte (counter c2) 2) (byte (counter c3) 3) =
        counter (c0+d) := by
    apply UInt32.toNat_inj.mp
    rw [word_toNat,hb (by decide),hb (by decide),hb (by decide),hb (by decide),counter,UInt32.toNat_ofNat',← h]
    simp
  -- the carry out of the low byte happens at most once; where the read meets it decides `d`
  by_cases e1 : c1/256 = c0/256
  · by_cases e2 : c2/256 = c0/256
    · by_cases e3 : c3/256 = c0/256
      · exact ⟨0,by decide,hv 0 (by omega)⟩
      · by_cases h : c3/16777216 = c0/16777216
        · exact ⟨0,by decide,hv 0 (by omega)⟩
        · exact ⟨16777216,by decide,hv 16777216 (by omega)⟩
    · by_cases h : c2/65536 = c0/65536
      · exact ⟨0,by decide,hv 0 (by omega)⟩
      · exact ⟨65536,by decide,hv 65536 (by omega)⟩
  · exact ⟨256,by decide,hv 256 (by omega)⟩

end Torn
