import Mathlib.Data.List.Basic
import Mathlib.Data.List.Nodup

/-!
A ledger of reports about numbered things. Numbers are handed out in order; a view
`f` says which number, if any, a report is about.
-/

set_option autoImplicit false

structure Ledger (ρ : Type) where
  nextId : Nat := 0
  log : List ρ := []
  deriving DecidableEq, Repr

namespace Ledger

variable {ρ : Type} {f : ρ → Option Nat} {g : Ledger ρ} {r : ρ} {id : Nat}

def issue (g : Ledger ρ) : Ledger ρ := {g with nextId := g.nextId+1}

def report (g : Ledger ρ) (r : ρ) : Ledger ρ := {g with log := r :: g.log}

/-- `id` has been handed out and nothing has been reported about it. -/
def Fresh (f : ρ → Option Nat) (g : Ledger ρ) (id : Nat) : Prop :=
  id < g.nextId ∧ id ∉ g.log.filterMap f

/-- Nothing is reported twice, and only numbers that were handed out are. -/
def Once (f : ρ → Option Nat) (g : Ledger ρ) : Prop :=
  (g.log.filterMap f).Nodup ∧ ∀ id ∈ g.log.filterMap f, id < g.nextId

theorem once_empty (f : ρ → Option Nat) : Once f {} := ⟨List.nodup_nil,fun _ h => nomatch h⟩

theorem Fresh.issue (h : Fresh f g id) : Fresh f g.issue id := ⟨Nat.lt_succ_of_lt h.1,h.2⟩

theorem Fresh.report (h : Fresh f g id) (hr : f r ≠ some id) : Fresh f (g.report r) id := by
  refine ⟨h.1,?_⟩
  have hlog := h.2
  simp only [List.mem_filterMap,not_exists,not_and] at hlog ⊢
  intro x hx
  rcases List.mem_cons.1 hx with rfl | hx
  · exact hr
  · exact hlog x hx

theorem Once.issue (h : Once f g) : Once f g.issue :=
  ⟨h.1,fun id hid => Nat.lt_succ_of_lt (h.2 id hid)⟩

theorem Once.fresh (h : Once f g) : Fresh f g.issue g.nextId :=
  ⟨Nat.lt_succ_self _,fun hid => Nat.lt_irrefl _ (h.2 _ hid)⟩

theorem Once.report (h : Once f g) (hr : ∀ id, f r = some id → Fresh f g id) :
    Once f (g.report r) := by
  cases hf : f r with
  | none => simpa [Once,Ledger.report,hf] using h
  | some id =>
    obtain ⟨hlt,hlog⟩ := hr id hf
    constructor
    · simpa [Ledger.report,hf] using ⟨by simpa using hlog,h.1⟩
    · intro x hx
      simp only [Ledger.report,List.filterMap_cons,hf,List.mem_cons] at hx
      rcases hx with rfl | hx
      · exact hlt
      · exact h.2 x hx

end Ledger
