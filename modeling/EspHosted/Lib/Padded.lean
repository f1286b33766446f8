import Mathlib.Data.List.Basic

/-! Blocks of a list that are filled up to a multiple of a word. -/

set_option autoImplicit false

namespace Padded

variable {α : Type}

def alignUp (w n : Nat) : Nat := (n+(w-1))/w*w

theorem le_alignUp {w : Nat} (hw : 0 < w) (n : Nat) : n ≤ alignUp w n := by
  have h := Nat.div_add_mod (n+(w-1)) w
  have hm := Nat.mod_lt (n+(w-1)) hw
  rw [Nat.mul_comm] at h
  unfold alignUp
  omega

theorem dvd_alignUp (w n : Nat) : w ∣ alignUp w n := Nat.dvd_mul_left _ _

theorem alignUp_le {w : Nat} (hw : 0 < w) {n m : Nat} (h : n ≤ m) (hm : w ∣ m) : alignUp w n ≤ m := by
  obtain ⟨k,rfl⟩ := hm
  rw [alignUp,Nat.mul_comm w k]
  refine Nat.mul_le_mul_right w (Nat.lt_succ_iff.mp ((Nat.div_lt_iff_lt_mul hw).mpr ?_))
  rw [Nat.succ_mul,Nat.mul_comm k w]
  omega

theorem alignUp_lt_add {w : Nat} (hw : 0 < w) (n : Nat) : alignUp w n < n+w := by
  have h := Nat.div_mul_le_self (n+(w-1)) w
  unfold alignUp
  omega

/-- `b` and its fill. -/
def pad (w : Nat) (z : α) (b : List α) : List α := b ++ List.replicate (alignUp w b.length-b.length) z

theorem length_pad {w : Nat} (hw : 0 < w) (z : α) (b : List α) : (pad w z b).length = alignUp w b.length := by
  have h := le_alignUp hw b.length
  rw [pad,List.length_append,List.length_replicate]
  omega

theorem drop_pad {w : Nat} (hw : 0 < w) (z : α) (b rest : List α) :
    (pad w z b ++ rest).drop (alignUp w b.length) = rest := by
  rw [← length_pad hw z,List.drop_left]

theorem fill_pad (w : Nat) (z : α) (b rest : List α) :
    ((pad w z b ++ rest).drop b.length).take (alignUp w b.length-b.length) =
      List.replicate (alignUp w b.length-b.length) z := by
  rw [pad,List.append_assoc,List.drop_left]
  have hl : (List.replicate (alignUp w b.length-b.length) z).length = alignUp w b.length-b.length :=
    List.length_replicate
  nth_rewrite 1 [← hl]
  exact List.take_left

theorem pad_of_split {w : Nat} (hw : 0 < w) {z : α} {data : List α} {n : Nat}
    (hn : alignUp w n ≤ data.length)
    (hz : ∀ x ∈ (data.drop n).take (alignUp w n-n), x = z) :
    data = pad w z (data.take n) ++ data.drop (alignUp w n) := by
  have hle := le_alignUp hw n
  have hlen : (data.take n).length = n := by
    rw [List.length_take]
    omega
  have hfill : (data.drop n).take (alignUp w n-n) = List.replicate (alignUp w n-n) z := by
    rw [List.eq_replicate_iff]
    refine ⟨?_,hz⟩
    rw [List.length_take,List.length_drop]
    omega
  have hrest : (data.drop n).drop (alignUp w n-n) = data.drop (alignUp w n) := by
    rw [List.drop_drop]
    congr 1
    omega
  rw [pad,hlen,← hfill,← hrest,List.append_assoc,List.take_append_drop,List.take_append_drop]

/-- Blocks one after the other; the last one may do without its fill. -/
def packed (w : Nat) (z : α) (padLast : Bool) : List (List α) → List α
  | [] => []
  | [b] => if padLast then pad w z b else b
  | b :: b' :: bs => pad w z b ++ packed w z padLast (b' :: bs)

theorem packed_true (w : Nat) (z : α) (bs : List (List α)) :
    packed w z true bs = (bs.map (pad w z)).flatten := by
  induction bs with
  | nil => rfl
  | cons b bs ih =>
    cases bs with
    | nil => simp [packed]
    | cons b' bs =>
      rw [packed,ih]
      rfl

/-- The first block stands at the front, whether it is the last one or not. -/
theorem packed_cons (w : Nat) (z : α) (padLast : Bool) (b : List α) (bs : List (List α)) :
    ∃ t, packed w z padLast (b :: bs) = b ++ t := by
  cases bs with
  | nil =>
    cases padLast with
    | false => exact ⟨[],by simp [packed]⟩
    | true => exact ⟨List.replicate (alignUp w b.length-b.length) z,by simp [packed,pad]⟩
  | cons b' bs =>
    exact ⟨List.replicate (alignUp w b.length-b.length) z ++ packed w z padLast (b' :: bs),by simp [packed,pad]⟩

theorem drop_packed {w : Nat} (hw : 0 < w) (z : α) (padLast : Bool) (b : List α) (bs : List (List α)) :
    (packed w z padLast (b :: bs)).drop (alignUp w b.length) = packed w z padLast bs := by
  have hle := le_alignUp hw b.length
  cases bs with
  | nil =>
    cases padLast with
    | false => simp [packed,hle]
    | true => simp [packed,length_pad hw]
  | cons b' bs => exact drop_pad hw z b _

theorem length_flatten_pad_le {w m : Nat} (hw : 0 < w) (hm : w ∣ m) (z : α) (bs : List (List α))
    (h : ∀ b ∈ bs, b.length ≤ m) : ((bs.map (pad w z)).flatten).length ≤ bs.length*m := by
  induction bs with
  | nil => simp
  | cons b bs ih =>
    have hb : (pad w z b).length ≤ m := by
      rw [length_pad hw]
      exact alignUp_le hw (h b (by simp)) hm
    have hr := ih (fun b' hb' => h b' (by simp [hb']))
    rw [List.map_cons,List.flatten_cons,List.length_append,List.length_cons,Nat.succ_mul]
    omega

end Padded
