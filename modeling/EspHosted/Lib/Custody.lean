import Mathlib.Data.Fintype.Card
import Mathlib.Data.List.Nodup

/-!
Items of a fixed kind spread over places, each of which keeps a list. Every item is in
one place, and there once; items only move.
-/

set_option autoImplicit false

section
variable {P X : Type} [DecidableEq P] [DecidableEq X]

def Custody (bag : P → List X) : Prop :=
  ∃ loc : X → P, ∀ p x, (bag p).count x = if loc x = p then 1 else 0

namespace Custody
variable {bag bag' : P → List X} {p q : P} {x : X}

theorem loc_eq_of_mem {loc : X → P} (hloc : ∀ p x, (bag p).count x = if loc x = p then 1 else 0)
    (hx : x ∈ bag p) : loc x = p := by
  have hcount : 0 < (bag p).count x := List.count_pos_iff.mpr hx
  rw [hloc] at hcount
  split at hcount
  · assumption
  · omega

theorem nodup (h : Custody bag) (p : P) : (bag p).Nodup := by
  obtain ⟨loc,hloc⟩ := h
  rw [List.nodup_iff_count]
  intro x
  rw [hloc p x]
  split <;> omega

theorem existsUnique (h : Custody bag) (x : X) : ∃! p, x ∈ bag p := by
  obtain ⟨loc,hloc⟩ := h
  have hx : 0 < (bag (loc x)).count x := by
    rw [hloc,if_pos rfl]
    omega
  exact ⟨loc x,List.count_pos_iff.mp hx,fun p hp => (loc_eq_of_mem hloc hp).symm⟩

theorem eq_of_mem (h : Custody bag) (hp : x ∈ bag p) (hq : x ∈ bag q) : p = q :=
  (h.existsUnique x).unique hp hq

/-- One item goes from `p` to `q`; the order inside a place does not matter. -/
theorem move (h : Custody bag) (hpq : p ≠ q) (hfrom : (bag p).Perm (x :: bag' p))
    (hto : (bag' q).Perm (x :: bag q)) (hrest : ∀ r, r ≠ p → r ≠ q → bag' r = bag r) :
    Custody bag' := by
  obtain ⟨loc,hloc⟩ := h
  have hat : loc x = p := loc_eq_of_mem hloc (hfrom.symm.subset List.mem_cons_self)
  refine ⟨Function.update loc x q,fun r y => ?_⟩
  have hp := hfrom.count_eq y
  have hq := hto.count_eq y
  have hr := hloc r y
  rw [List.count_cons,hloc] at hp hq
  by_cases hxy : x = y
  · subst hxy
    rw [Function.update_self]
    simp only [hat,beq_self_eq_true,if_true,if_neg hpq] at hp hq hr
    by_cases hrp : r = p
    · subst hrp
      rw [if_neg hpq.symm]
      omega
    by_cases hrq : r = q
    · subst hrq
      rw [if_pos rfl]
      omega
    rw [hrest r hrp hrq,hr,if_neg (Ne.symm hrp),if_neg (Ne.symm hrq)]
  · rw [Function.update_of_ne (Ne.symm hxy)]
    simp only [beq_iff_eq,if_neg hxy] at hp hq
    by_cases hrp : r = p
    · subst hrp
      omega
    by_cases hrq : r = q
    · subst hrq
      omega
    rw [hrest r hrp hrq,hr]

/-- A place an item is missing from has room for it. -/
theorem length_lt_card [Fintype X] (h : Custody bag) (hx : x ∉ bag p) :
    (bag p).length < Fintype.card X :=
  (List.nodup_cons.mpr ⟨hx,h.nodup p⟩).length_le_card

end Custody
end
