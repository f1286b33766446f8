import Mathlib.Logic.Basic

/-!
Programs that act on their surroundings. An action has an answer, which the rest of the program
depends on; what an action demands and does is a predicate transformer over a state.
-/

set_option autoImplicit false

inductive Prog (A : Type) (B : A → Type) (α : Type) where
  | ret (x : α)
  | act (a : A) (k : B a → Prog A B α)

namespace Prog

variable {A : Type} {B : A → Type} {α β σ : Type}

def bind : Prog A B α → (α → Prog A B β) → Prog A B β
  | .ret x, f => f x
  | .act a k, f => .act a fun b => (k b).bind f

instance : Monad (Prog A B) where
  pure := .ret
  bind := bind

def perform (a : A) : Prog A B (B a) := .act a .ret

/-- What an action needs in a state, for `Q` to hold of its answer and of the state after it. -/
abbrev Spec (A : Type) (B : A → Type) (σ : Type) := (a : A) → σ → (B a → σ → Prop) → Prop

def Spec.Mono (S : Spec A B σ) : Prop :=
  ∀ (a : A) (s : σ) (Q Q' : B a → σ → Prop), (∀ b t, Q b t → Q' b t) → S a s Q → S a s Q'

def wp (S : Spec A B σ) : Prog A B α → σ → (α → σ → Prop) → Prop
  | .ret x, s, Q => Q x s
  | .act a k, s, Q => S a s fun b t => (k b).wp S t Q

variable {S : Spec A B σ} {Q Q' : α → σ → Prop} {s : σ}

@[simp] theorem wp_pure (x : α) : wp S (pure x : Prog A B α) s Q ↔ Q x s := Iff.rfl

@[simp] theorem wp_perform (a : A) {R : B a → σ → Prop} : wp S (perform a) s R ↔ S a s R := Iff.rfl

@[simp] theorem wp_bind (p : Prog A B α) (f : α → Prog A B β) {R : β → σ → Prop} :
    wp S (p >>= f) s R ↔ wp S p s fun x t => wp S (f x) t R := by
  change wp S (p.bind f) s R ↔ _
  induction p generalizing s with
  | ret x => exact Iff.rfl
  | act a k ih => simp only [bind,wp,ih]

@[simp] theorem wp_ite (c : Prop) [Decidable c] (p q : Prog A B α) :
    wp S (if c then p else q) s Q ↔ (c → wp S p s Q) ∧ (¬c → wp S q s Q) := by
  by_cases h : c <;> simp [h]

theorem wp_mono (hS : S.Mono) (hQ : ∀ x t, Q x t → Q' x t) {p : Prog A B α} (h : wp S p s Q) : wp S p s Q' := by
  induction p generalizing s with
  | ret x => exact hQ x s h
  | act a k ih => exact hS a s _ _ (fun b t ht => ih b ht) h

/-- Where an action demands less, a program does. -/
theorem wp_of_le {S' : Spec A B σ} (hS' : S'.Mono) (hle : ∀ (a : A) (s : σ) (R : B a → σ → Prop), S a s R → S' a s R)
    {p : Prog A B α} (h : wp S p s Q) : wp S' p s Q := by
  induction p generalizing s with
  | ret x => exact h
  | act a k ih => exact hS' a s _ _ (fun b t ht => ih b ht) (hle a s _ h)

/-- `p` leaves the state `s` as it is, whatever it returns. -/
def Quiet (S : Spec A B σ) (s : σ) (p : Prog A B α) : Prop := wp S p s fun _ t => t = s

theorem Quiet.bind {p : Prog A B α} {f : α → Prog A B β} {R : β → σ → Prop} (hS : S.Mono) (h : Quiet S s p)
    (hf : ∀ x, wp S (f x) s R) : wp S (p >>= f) s R := by
  refine (wp_bind p f).mpr (wp_mono hS (fun x t ht => ?_) h)
  rw [ht]
  exact hf x

end Prog
