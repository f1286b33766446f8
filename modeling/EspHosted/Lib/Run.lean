import Mathlib.Logic.Basic

/-! Runs of a partial step function and invariants along them. -/

set_option autoImplicit false

namespace Run

variable {σ α : Type}

/-- `none` as soon as an action is not enabled. -/
def exec (step : σ → α → Option σ) : σ → List α → Option σ
  | s, [] => some s
  | s, a :: as => (step s a).bind (fun s' => exec step s' as)

/-- Every action of the run meets `ok` in the state it is taken from. -/
def Along (step : σ → α → Option σ) (ok : σ → α → Prop) : σ → List α → Prop
  | _, [] => True
  | s, a :: as => ok s a ∧
    match step s a with
    | none => True
    | some s' => Along step ok s' as

instance decidableAlong (step : σ → α → Option σ) (ok : σ → α → Prop)
    [∀ s a, Decidable (ok s a)] : ∀ s as, Decidable (Along step ok s as)
  | _, [] => isTrue trivial
  | s, a :: as => by
    unfold Along
    exact
      match step s a with
      | none => inferInstanceAs (Decidable (ok s a ∧ True))
      | some s' =>
        have := decidableAlong step ok s' as
        inferInstanceAs (Decidable (ok s a ∧ Along step ok s' as))

variable {step : σ → α → Option σ} {ok : σ → α → Prop} {I : σ → Prop}

theorem exec_cons {s t : σ} {a : α} {as : List α} (h : exec step s (a :: as) = some t) :
    ∃ s', step s a = some s' ∧ exec step s' as = some t := by
  cases hs : step s a with
  | none => simp [exec,hs] at h
  | some s' => exact ⟨s',rfl,by simpa [exec,hs] using h⟩

theorem exec_concat {s t : σ} {a : α} {as : List α} (h : exec step s (as ++ [a]) = some t) :
    ∃ m, exec step s as = some m ∧ step m a = some t := by
  induction as generalizing s with
  | nil =>
    obtain ⟨m,hm,ht⟩ := exec_cons h
    simp only [exec,Option.some.injEq] at ht
    exact ⟨s,rfl,by rw [hm,ht]⟩
  | cons b as ih =>
    obtain ⟨s',hb,hrest⟩ := exec_cons h
    obtain ⟨m,hm,ha⟩ := ih hrest
    exact ⟨m,by simpa [exec,hb] using hm,ha⟩

/-- Actions that meet `ok` in every state meet it along a run. -/
theorem Along.of_forall {as : List α} (h : ∀ s, ∀ a ∈ as, ok s a) (s : σ) : Along step ok s as := by
  induction as generalizing s with
  | nil => trivial
  | cons a as ih =>
    refine ⟨h s a (by simp),?_⟩
    split
    · trivial
    · exact ih (fun s b hb => h s b (by simp [hb])) _

theorem exec_invariant_along (hstep : ∀ s a s', I s → ok s a → step s a = some s' → I s')
    {s t : σ} {as : List α} (hok : Along step ok s as) (hs : I s) (h : exec step s as = some t) :
    I t := by
  induction as generalizing s with
  | nil =>
    simp only [exec,Option.some.injEq] at h
    rwa [← h]
  | cons a as ih =>
    obtain ⟨s',ha,hr⟩ := exec_cons h
    have htail := hok.2
    rw [ha] at htail
    exact ih htail (hstep s a s' hs hok.1 ha) hr

theorem exec_invariant (hstep : ∀ s a s', I s → step s a = some s' → I s') {s t : σ} {as : List α}
    (hs : I s) (h : exec step s as = some t) : I t := by
  induction as generalizing s with
  | nil =>
    simp only [exec,Option.some.injEq] at h
    rwa [← h]
  | cons a as ih =>
    obtain ⟨s',ha,hr⟩ := exec_cons h
    exact ih (hstep s a s' hs ha) hr

/-- `t` is the state after some first actions of `as`. -/
def Reached (step : σ → α → Option σ) : σ → List α → σ → Prop
  | s, [], t => t = s
  | s, a :: as, t => t = s ∨ ∃ s', step s a = some s' ∧ Reached step s' as t

theorem reached_invariant (hstep : ∀ s a s', I s → step s a = some s' → I s') {s t : σ} {as : List α}
    (hs : I s) (h : Reached step s as t) : I t := by
  induction as generalizing s with
  | nil => rwa [h]
  | cons a as ih =>
    rcases h with rfl | ⟨s',ha,hr⟩
    · exact hs
    · exact ih (hstep s a s' hs ha) hr

/-- Where a step keeps `I` exactly if it meets `ok`, a run stays in `I` exactly if all its actions do. -/
theorem along_iff_reached (hstep : ∀ s a s', I s → step s a = some s' → (I s' ↔ ok s a))
    (hnone : ∀ s a, step s a = none → ok s a) {s : σ} (hs : I s) (as : List α) :
    (∀ t, Reached step s as t → I t) ↔ Along step ok s as := by
  induction as generalizing s with
  | nil =>
    refine ⟨fun _ => trivial,fun _ t ht => ?_⟩
    rw [ht]
    exact hs
  | cons a as ih =>
    cases ha : step s a with
    | none =>
      refine ⟨fun _ => ⟨hnone s a ha,by rw [ha]; trivial⟩,fun _ t ht => ?_⟩
      rcases ht with rfl | ⟨s',he,-⟩
      · exact hs
      · rw [ha] at he
        cases he
    | some s' =>
      constructor
      · intro h
        have hs' : I s' := by
          refine h s' (.inr ⟨s',ha,?_⟩)
          cases as with
          | nil => rfl
          | cons b bs => exact .inl rfl
        refine ⟨(hstep s a s' hs ha).mp hs',?_⟩
        rw [ha]
        exact (ih hs').mp (fun t ht => h t (.inr ⟨s',ha,ht⟩))
      · rintro ⟨hok,htail⟩ t ht
        rw [ha] at htail
        rcases ht with rfl | ⟨s'',he,hr⟩
        · exact hs
        · rw [ha] at he
          cases he
          exact (ih ((hstep s a s' hs ha).mpr hok)).mpr htail t hr

end Run
