import Mathlib.Data.Finset.Card
import Mathlib.Data.Int.Interval

/-!
A receiver of numbered packets with a window: it waits for `next`, keeps what arrives up to
`width-1` ahead of it, and gives up on the numbers that a larger one pushes out.
-/

set_option autoImplicit false

namespace Window

/-- The least number from `m` on that is not in `S`, by at most `k` steps. -/
def gapFrom (S : Finset Int) : Nat → Int → Int
  | 0,m => m
  | k+1,m => if m ∈ S then gapFrom S k (m+1) else m

def firstGap (S : Finset Int) (m : Int) : Int := gapFrom S S.card m

theorem gapFrom_ge (S : Finset Int) (k : Nat) : ∀ m, m ≤ gapFrom S k m := by
  induction k with
  | zero => intro m; exact Int.le_refl m
  | succ k ih =>
    intro m
    rw [gapFrom]
    split
    · exact Int.le_trans (by omega) (ih (m+1))
    · exact Int.le_refl m

theorem gapFrom_mem (S : Finset Int) (k : Nat) : ∀ m x, m ≤ x → x < gapFrom S k m → x ∈ S := by
  induction k with
  | zero => intro m x h1 h2; rw [gapFrom] at h2; omega
  | succ k ih =>
    intro m x h1 h2
    rw [gapFrom] at h2
    split at h2
    · next hm =>
      by_cases hx : x = m
      · exact hx ▸ hm
      · exact ih (m+1) x (by omega) h2
    · omega

theorem gapFrom_stop (S : Finset Int) (k : Nat) : ∀ m, gapFrom S k m ∈ S → gapFrom S k m = m+k := by
  induction k with
  | zero => intro m _; simp [gapFrom]
  | succ k ih =>
    intro m h
    rw [gapFrom] at h ⊢
    split at h
    · next hm =>
      rw [if_pos hm,ih (m+1) h]
      omega
    · next hm => exact absurd h hm

theorem firstGap_ge (S : Finset Int) (m : Int) : m ≤ firstGap S m := gapFrom_ge S S.card m

theorem firstGap_mem {S : Finset Int} {m x : Int} (h1 : m ≤ x) (h2 : x < firstGap S m) : x ∈ S :=
  gapFrom_mem S S.card m x h1 h2

/-- A set with no gap would have too many members. -/
theorem firstGap_not_mem (S : Finset Int) (m : Int) : firstGap S m ∉ S := by
  intro h
  have he := gapFrom_stop S S.card m h
  have hsub : Finset.Icc m (m+S.card) ⊆ S := by
    intro x hx
    rw [Finset.mem_Icc] at hx
    by_cases hlt : x < firstGap S m
    · exact firstGap_mem hx.1 hlt
    · have hx2 : x = firstGap S m := by unfold firstGap at hlt ⊢; omega
      exact hx2 ▸ h
  have hc := Finset.card_le_card hsub
  rw [Int.card_Icc] at hc
  omega

theorem firstGap_unique {S : Finset Int} {m x : Int} (h1 : m ≤ x) (h2 : x ∉ S)
    (h3 : ∀ y, m ≤ y → y < x → y ∈ S) : firstGap S m = x := by
  have hg := firstGap_ge S m
  have hn := firstGap_not_mem S m
  rcases Int.lt_trichotomy (firstGap S m) x with h | h | h
  · exact absurd (h3 _ hg h) hn
  · exact h
  · exact absurd (firstGap_mem h1 h) h2

/-! The receiver. -/

structure Receiver where
  next : Int := 0
  /-- What arrived while it could still be told apart. -/
  got : Finset Int := ∅
  dups : Nat := 0
  deriving DecidableEq

def Receiver.arrive (width : Int) (r : Receiver) (n : Int) : Receiver :=
  if n < r.next ∨ n ∈ r.got then {r with dups := r.dups+1}
  else {r with next := firstGap (insert n r.got) (max r.next (n+1-width)), got := insert n r.got}

def Receiver.run (width : Int) (r : Receiver) (ns : List Int) : Receiver := ns.foldl (Receiver.arrive width) r

/-- The numbers from `a` on, below `b`. -/
def upto (a b : Int) : Finset Int := (Finset.range (b-a).toNat).image fun (i : Nat) => a+(i : Int)

@[simp] theorem mem_upto {a b m : Int} : m ∈ upto a b ↔ a ≤ m ∧ m < b := by
  simp only [upto,Finset.mem_image,Finset.mem_range]
  constructor
  · rintro ⟨i,hi,rfl⟩
    omega
  · intro h
    exact ⟨(m-a).toNat,by omega,by omega⟩

theorem card_upto (a b : Int) : (upto a b).card = (b-a).toNat := by
  rw [upto,Finset.card_image_of_injective,Finset.card_range]
  intro i j h
  exact Int.natCast_inj.mp (Int.add_left_cancel h)

/-- The numbers that were passed over and never came in time. -/
def Receiver.missing (r : Receiver) : Finset Int := upto 0 r.next \ r.got

structure Receiver.Ok (width : Int) (r : Receiver) : Prop where
  open_ : r.next ∉ r.got
  near : ∀ n ∈ r.got, n < r.next+width
  nonneg : 0 ≤ r.next

theorem Receiver.ok_start (width : Int) : Receiver.Ok width {} :=
  ⟨by simp,by simp,Int.le_refl 0⟩

variable {width : Int} {r : Receiver} {n : Int}

theorem Receiver.arrive_old (h : n < r.next ∨ n ∈ r.got) : r.arrive width n = {r with dups := r.dups+1} :=
  if_pos h

theorem Receiver.arrive_new (h : ¬(n < r.next ∨ n ∈ r.got)) :
    r.arrive width n =
      {r with next := firstGap (insert n r.got) (max r.next (n+1-width)), got := insert n r.got} :=
  if_neg h

theorem Receiver.next_le_arrive : r.next ≤ (r.arrive width n).next := by
  by_cases h : n < r.next ∨ n ∈ r.got
  · rw [Receiver.arrive_old h]
  · rw [Receiver.arrive_new h]
    exact Int.le_trans (Int.le_max_left _ _) (firstGap_ge _ _)

theorem Receiver.Ok.arrive (ok : r.Ok width) (n : Int) : (r.arrive width n).Ok width := by
  by_cases h : n < r.next ∨ n ∈ r.got
  · rw [Receiver.arrive_old h]
    exact ⟨ok.open_,ok.near,ok.nonneg⟩
  · have hle := @Receiver.next_le_arrive width r n
    have hnn := ok.nonneg
    have hg := firstGap_ge (insert n r.got) (max r.next (n+1-width))
    rw [Receiver.arrive_new h] at hle ⊢
    refine ⟨firstGap_not_mem _ _,?_,Int.le_trans hnn hle⟩
    intro m hm
    rcases Finset.mem_insert.mp hm with rfl | hm
    · simp only
      omega
    · have := ok.near m hm
      simp only at hle ⊢
      omega

/-- Each arrival is counted once. -/
theorem Receiver.card_arrive :
    (r.arrive width n).got.card+(r.arrive width n).dups = r.got.card+r.dups+1 := by
  by_cases h : n < r.next ∨ n ∈ r.got
  · rw [Receiver.arrive_old h]
    exact (Nat.add_assoc _ _ _).symm
  · rw [Receiver.arrive_new h]
    have hn : n ∉ r.got := fun hm => h (.inr hm)
    simp only [Finset.card_insert_of_notMem hn]
    omega

theorem Receiver.card_run (ns : List Int) : ∀ r : Receiver,
    (r.run width ns).got.card+(r.run width ns).dups = r.got.card+r.dups+ns.length := by
  induction ns with
  | nil => intro r; rfl
  | cons n ns ih =>
    intro r
    have h := ih (r.arrive width n)
    rw [Receiver.card_arrive] at h
    rw [List.length_cons]
    exact h.trans (by omega)

theorem Receiver.next_le_run (ns : List Int) : ∀ r : Receiver, r.next ≤ (r.run width ns).next := by
  induction ns with
  | nil => intro r; exact Int.le_refl _
  | cons n ns ih => intro r; exact Int.le_trans Receiver.next_le_arrive (ih (r.arrive width n))

theorem Receiver.mem_arrive {m : Int} (h : r.next ≤ m) :
    m ∈ (r.arrive width n).got ↔ m ∈ r.got ∨ m = n := by
  by_cases hn : n < r.next ∨ n ∈ r.got
  · rw [Receiver.arrive_old hn]
    refine ⟨Or.inl,?_⟩
    rintro (hm | rfl)
    · exact hm
    · exact hn.resolve_left (by omega)
  · rw [Receiver.arrive_new hn,Finset.mem_insert,or_comm]

/-- From `next` on, what was got is what has arrived. -/
theorem Receiver.mem_run (ns : List Int) : ∀ (r : Receiver) {m : Int}, (r.run width ns).next ≤ m →
    (m ∈ (r.run width ns).got ↔ m ∈ r.got ∨ m ∈ ns) := by
  induction ns with
  | nil => intro r m _; simp [Receiver.run]
  | cons n ns ih =>
    intro r m h
    have hr : r.run width (n :: ns) = (r.arrive width n).run width ns := rfl
    have hle : r.next ≤ m :=
      Int.le_trans Receiver.next_le_arrive (Int.le_trans (Receiver.next_le_run ns (r.arrive width n)) h)
    rw [hr] at h ⊢
    rw [ih (r.arrive width n) h,Receiver.mem_arrive hle,List.mem_cons,or_assoc]

theorem Receiver.Ok.near_arrive (ok : r.Ok width) (hw : 0 < width) : n < (r.arrive width n).next+width := by
  by_cases h : n < r.next ∨ n ∈ r.got
  · rw [Receiver.arrive_old h]
    rcases h with h | h
    · exact Int.lt_trans h (by simp only; omega)
    · exact ok.near n h
  · have hg := firstGap_ge (insert n r.got) (max r.next (n+1-width))
    rw [Receiver.arrive_new h]
    simp only
    omega

/-- Nothing that has arrived is further ahead than the window. -/
theorem Receiver.Ok.near_run (hw : 0 < width) (ns : List Int) : ∀ {r : Receiver}, r.Ok width →
    ∀ n ∈ ns, n < (r.run width ns).next+width := by
  induction ns with
  | nil => intro r _ n h; cases h
  | cons k ns ih =>
    intro r ok n h
    rcases List.mem_cons.mp h with rfl | h
    · have hle := @Receiver.next_le_run width ns (r.arrive width n)
      have hn := @Receiver.Ok.near_arrive width r n ok hw
      exact Int.lt_of_lt_of_le hn (Int.add_le_add_right hle width)
    · exact ih (ok.arrive k) n h

theorem Receiver.given_up (ns : List Int) : ∀ (r : Receiver) (before : List Int),
    (∀ m ∈ r.missing, ∃ n ∈ before, m+width ≤ n) →
    ∀ m ∈ (r.run width ns).missing, ∃ n ∈ before ++ ns, m+width ≤ n := by
  induction ns with
  | nil => intro r before h; simpa [Receiver.run] using h
  | cons n ns ih =>
    intro r before h
    have hn : ∀ m ∈ (r.arrive width n).missing, ∃ k ∈ before ++ [n], m+width ≤ k := by
      intro m hm
      by_cases ho : n < r.next ∨ n ∈ r.got
      · rw [Receiver.arrive_old ho] at hm
        obtain ⟨k,hk,hle⟩ := h m hm
        exact ⟨k,List.mem_append_left _ hk,hle⟩
      · rw [Receiver.arrive_new ho] at hm
        simp only [Receiver.missing,Finset.mem_sdiff,mem_upto] at hm
        by_cases hlt : m < r.next
        · have hmiss : m ∈ r.missing := by
            simp only [Receiver.missing,Finset.mem_sdiff,mem_upto]
            exact ⟨⟨hm.1.1,hlt⟩,fun hg => hm.2 (Finset.mem_insert_of_mem hg)⟩
          obtain ⟨k,hk,hle⟩ := h m hmiss
          exact ⟨k,List.mem_append_left _ hk,hle⟩
        · refine ⟨n,by simp,?_⟩
          by_cases hle : m+width ≤ n
          · exact hle
          · exact absurd (firstGap_mem (by omega) hm.1.2) hm.2
    have h := ih (r.arrive width n) (before ++ [n]) hn
    rwa [List.append_assoc] at h

/-- A number is given up only for one that is a whole window ahead of it. -/
theorem Receiver.missing_run (ns : List Int) {m : Int} (h : m ∈ (Receiver.run width {} ns).missing) :
    ∃ n ∈ ns, m+width ≤ n := by
  have h0 := @Receiver.given_up width ns {} [] (by simp [Receiver.missing,upto]) m h
  rwa [List.nil_append] at h0

end Window
