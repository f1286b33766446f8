import Mathlib.Data.List.Induction
import EspHosted.Lib.Run

/-!
A pool of threads over a shared state. One thread at a time takes one step; a thread
stays in the pool after its last one.
-/

set_option autoImplicit false

namespace Pool
open Run

structure State (σ τ : Type) where
  shared : σ
  threads : List τ := []

inductive Act (τ ε : Type) where
  | spawn (t : τ)
  | run (i : Nat) (e : ε)
  deriving DecidableEq, Repr

section
variable {σ τ ε : Type}

/-- `entry` says which threads may join a pool. -/
def step (entry : List τ → τ → Bool) (next : σ → τ → ε → Option (σ × τ)) (s : State σ τ) :
    Act τ ε → Option (State σ τ)
  | .spawn t => if entry s.threads t then some {s with threads := s.threads ++ [t]} else none
  | .run i e =>
    match s.threads[i]? with
    | none => none
    | some t => (next s.shared t e).map (fun r => ⟨r.1,s.threads.set i r.2⟩)

/-- None of the actions is a step of thread `i`. -/
def Without (i : Nat) (as : List (Act τ ε)) : Prop := ∀ e, .run i e ∉ as

variable {entry : List τ → τ → Bool} {next : σ → τ → ε → Option (σ × τ)} {s s' : State σ τ}

theorem step_spawn {t : τ} (h : step entry next s (.spawn t) = some s') :
    entry s.threads t = true ∧ s' = {s with threads := s.threads ++ [t]} := by
  simp only [step] at h
  split at h
  · next he => exact ⟨he,(Option.some.inj h).symm⟩
  · cases h

theorem step_run {i : Nat} {e : ε} (h : step entry next s (.run i e) = some s') :
    ∃ t t' sh, s.threads[i]? = some t ∧ next s.shared t e = some (sh,t') ∧
      s' = ⟨sh,s.threads.set i t'⟩ := by
  simp only [step] at h
  split at h
  · cases h
  · next t ht =>
    obtain ⟨⟨sh,t'⟩,hn,hs⟩ := Option.map_eq_some_iff.mp h
    exact ⟨t,t',sh,ht,hn,hs.symm⟩

/-- A thread that is not where a thread can start has come there by a last step. -/
theorem exec_last_run {s₀ : State σ τ} {as : List (Act τ ε)} {i : Nat} {t : τ}
    (hnew : s₀.threads = []) (hentry : ∀ l, entry l t = false)
    (hrun : exec (step entry next) s₀ as = some s) (ht : s.threads[i]? = some t) :
    ∃ bs e cs u t₀ sh, as = bs ++ .run i e :: cs ∧ Without i cs ∧
      exec (step entry next) s₀ bs = some u ∧ u.threads[i]? = some t₀ ∧
      next u.shared t₀ e = some (sh,t) := by
  induction as using List.reverseRecOn generalizing s with
  | nil =>
    simp only [exec,Option.some.injEq] at hrun
    rw [← hrun,hnew] at ht
    cases ht
  | append_singleton as a ih =>
    obtain ⟨m,hm,ha⟩ := exec_concat hrun
    -- a step of another thread is passed over
    have hskip : (∀ e, a ≠ .run i e) → m.threads[i]? = some t →
        ∃ bs e cs u t₀ sh, as ++ [a] = bs ++ .run i e :: cs ∧ Without i cs ∧
          exec (step entry next) s₀ bs = some u ∧ u.threads[i]? = some t₀ ∧
          next u.shared t₀ e = some (sh,t) := by
      intro hne hmt
      obtain ⟨bs,e,cs,u,t₀,sh,rfl,hcs,hrest⟩ := ih hm hmt
      refine ⟨bs,e,cs ++ [a],u,t₀,sh,by simp,?_,hrest⟩
      intro e' he'
      rcases List.mem_append.mp he' with he' | he'
      · exact hcs e' he'
      · exact hne e' (List.mem_singleton.mp he').symm
    cases a with
    | spawn t' =>
      obtain ⟨he,rfl⟩ := step_spawn ha
      refine hskip (fun e he => by cases he) ?_
      by_cases hi : i < m.threads.length
      · rwa [List.getElem?_append_left hi] at ht
      · rw [List.getElem?_append_right (by omega)] at ht
        obtain ⟨-,rfl⟩ : i-m.threads.length = 0 ∧ t' = t := by
          simpa [List.getElem?_singleton] using ht
        rw [hentry] at he
        cases he
    | run j e =>
      obtain ⟨t₀,t',sh,htj,hn,rfl⟩ := step_run ha
      by_cases hij : j = i
      · subst hij
        have hlt : j < m.threads.length := (List.getElem?_eq_some_iff.mp htj).1
        rw [List.getElem?_set_self hlt,Option.some.injEq] at ht
        subst ht
        exact ⟨as,e,[],m,t₀,sh,rfl,by simp [Without],hm,htj,hn⟩
      · rw [List.getElem?_set_ne hij] at ht
        refine hskip (fun e' he => ?_) ht
        cases he
        exact hij rfl

end

section
variable {τ : Type} {w : τ → Int} {l : List τ} {i j : Nat} {t u : τ}

/-- What the threads of a pool weigh together. -/
def total (w : τ → Int) : List τ → Int
  | [] => 0
  | t :: l => w t+total w l

theorem total_spawn (l : List τ) (t : τ) : total w (l ++ [t]) = total w l+w t := by
  induction l with
  | nil => simp [total]
  | cons a l ih =>
    simp only [List.cons_append,total,ih]
    omega

theorem total_set (h : l[i]? = some t) (t' : τ) : total w (l.set i t') = total w l-w t+w t' := by
  induction l generalizing i with
  | nil => simp at h
  | cons a l ih =>
    cases i with
    | zero =>
      simp only [List.getElem?_cons_zero,Option.some.injEq] at h
      simp only [List.set_cons_zero,total,h]
      omega
    | succ i =>
      simp only [List.getElem?_cons_succ] at h
      simp only [List.set_cons_succ,total,ih h]
      omega

theorem total_nonneg (hw : ∀ t, 0 ≤ w t) (l : List τ) : 0 ≤ total w l := by
  induction l with
  | nil => simp [total]
  | cons a l ih =>
    have ha := hw a
    simp only [total]
    omega

theorem le_total (hw : ∀ t, 0 ≤ w t) (h : l[i]? = some t) : w t ≤ total w l := by
  induction l generalizing i with
  | nil => simp at h
  | cons a l ih =>
    have ha := hw a
    have hl := total_nonneg hw l
    simp only [total]
    cases i with
    | zero =>
      simp only [List.getElem?_cons_zero,Option.some.injEq] at h
      rw [h]
      omega
    | succ i =>
      have ht := ih (by simpa using h)
      omega

theorem exists_of_total_pos (h : 0 < total w l) : ∃ (i : Nat) (t : τ), l[i]? = some t ∧ 0 < w t := by
  induction l with
  | nil => simp [total] at h
  | cons a l ih =>
    by_cases ha : 0 < w a
    · exact ⟨0,a,rfl,ha⟩
    · have hl : 0 < total w l := by
        simp only [total] at h
        omega
      obtain ⟨i,t,hi,ht⟩ := ih hl
      exact ⟨i+1,t,by simpa using hi,ht⟩

theorem total_neg (l : List τ) : total (fun t => -w t) l = -total w l := by
  induction l with
  | nil => rfl
  | cons a l ih =>
    simp only [total,ih]
    omega

theorem total_eq_zero (h : ∀ t ∈ l, w t = 0) : total w l = 0 := by
  induction l with
  | nil => rfl
  | cons a l ih =>
    have hl := ih (fun t ht => h t (List.mem_cons_of_mem a ht))
    simp only [total,hl,h a List.mem_cons_self,Int.add_zero]

/-- Where the pool weighs at most one, one thread has the weight. -/
theorem eq_of_total_le_one (hw : ∀ t, 0 ≤ w t) (hl : total w l ≤ 1) (hi : l[i]? = some t) (hj : l[j]? = some u)
    (ht : 0 < w t) (hu : 0 < w u) : i = j := by
  induction l generalizing i j with
  | nil => simp at hi
  | cons a l ih =>
    have ha := hw a
    simp only [total] at hl
    cases i with
    | zero =>
      cases j with
      | zero => rfl
      | succ j =>
        simp only [List.getElem?_cons_zero,List.getElem?_cons_succ,Option.some.injEq] at hi hj
        have hle := le_total hw hj
        rw [hi] at hl
        omega
    | succ i =>
      cases j with
      | zero =>
        simp only [List.getElem?_cons_zero,List.getElem?_cons_succ,Option.some.injEq] at hi hj
        have hle := le_total hw hi
        rw [hj] at hl
        omega
      | succ j =>
        simp only [List.getElem?_cons_succ] at hi hj
        rw [ih (by omega) hi hj]

end

end Pool
