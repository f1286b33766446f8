import Mathlib.Data.List.Basic

/-!
Incremental decoding of a symbol stream that arrives in arbitrary pieces.
A decoder looks at what it has buffered and either waits or takes one step.
-/

set_option autoImplicit false

namespace Framing

/-- `next` waits (`none`) or consumes from the front of the buffer. A step taken
on a buffer is taken unchanged when more symbols follow, so waiting is the only
decision that later input can revise. -/
structure Decoder (μ β ω : Type) where
  next : μ → List β → Option (μ × List β × List ω)
  weight : μ → Nat
  stable : ∀ {m m' : μ} {buf rest : List β} {out : List ω} (t : List β),
    next m buf = some (m',rest,out) → next m (buf ++ t) = some (m',rest ++ t,out)
  shrinks : ∀ {m m' : μ} {buf rest : List β} {out : List ω},
    next m buf = some (m',rest,out) → 2*rest.length+weight m' < 2*buf.length+weight m

variable {μ β ω : Type}

def Decoder.size (d : Decoder μ β ω) (m : μ) (buf : List β) : Nat := 2*buf.length+d.weight m

def Decoder.drain (d : Decoder μ β ω) : Nat → μ → List β → μ × List β × List ω
  | 0, m, buf => (m,buf,[])
  | fuel+1, m, buf =>
    match d.next m buf with
    | none => (m,buf,[])
    | some (m',rest,out) =>
      let r := d.drain fuel m' rest
      (r.1,r.2.1,out ++ r.2.2)

variable (d : Decoder μ β ω)

/-- Step until the decoder waits. -/
def Decoder.run (m : μ) (buf : List β) : μ × List β × List ω := d.drain (d.size m buf) m buf

theorem Decoder.drain_fuel (f g : Nat) (m : μ) (buf : List β)
    (hf : d.size m buf ≤ f) (hg : d.size m buf ≤ g) : d.drain f m buf = d.drain g m buf := by
  induction f generalizing g m buf with
  | zero =>
    cases g with
    | zero => rfl
    | succ g =>
      cases h : d.next m buf with
      | none => simp [drain,h]
      | some r =>
        have hs := d.shrinks h
        simp only [size] at hf
        omega
  | succ f ih =>
    cases g with
    | zero =>
      cases h : d.next m buf with
      | none => simp [drain,h]
      | some r =>
        have hs := d.shrinks h
        simp only [size] at hg
        omega
    | succ g =>
      cases h : d.next m buf with
      | none => simp [drain,h]
      | some r =>
        obtain ⟨m',rest,out⟩ := r
        have hs := d.shrinks h
        have he : d.drain f m' rest = d.drain g m' rest :=
          ih g m' rest (by simp only [size] at *; omega) (by simp only [size] at *; omega)
        simp [drain,h,he]

theorem Decoder.run_wait {m : μ} {buf : List β} (h : d.next m buf = none) :
    d.run m buf = (m,buf,[]) := by
  unfold run
  cases d.size m buf with
  | zero => rfl
  | succ n => simp [drain,h]

theorem Decoder.run_step {m m' : μ} {buf rest : List β} {out : List ω}
    (h : d.next m buf = some (m',rest,out)) :
    d.run m buf = ((d.run m' rest).1,(d.run m' rest).2.1,out ++ (d.run m' rest).2.2) := by
  have hs := d.shrinks h
  obtain ⟨n,hn⟩ : ∃ n, d.size m buf = n+1 := ⟨d.size m buf-1,by simp only [size]; omega⟩
  have he : d.drain n m' rest = d.run m' rest :=
    d.drain_fuel n _ m' rest (by simp only [size] at *; omega) (Nat.le_refl _)
  rw [run,hn,drain,h]
  simp only [he]

/-- The rule for proofs about whole buffers: follow the steps until the decoder waits. -/
theorem Decoder.run_induct {P : μ → List β → Prop}
    (wait : ∀ m buf, d.next m buf = none → P m buf)
    (step : ∀ m buf m' rest out, d.next m buf = some (m',rest,out) → P m' rest → P m buf)
    (m : μ) (buf : List β) : P m buf := by
  induction hn : d.size m buf using Nat.strongRecOn generalizing m buf with
  | ind n ih =>
    cases h : d.next m buf with
    | none => exact wait m buf h
    | some r =>
      obtain ⟨m',rest,out⟩ := r
      have hs := d.shrinks h
      exact step m buf m' rest out h
        (ih (d.size m' rest) (by simp only [size] at *; omega) m' rest rfl)

/-- What is left over is something the decoder waits on. -/
theorem Decoder.next_run (m : μ) (buf : List β) :
    d.next (d.run m buf).1 (d.run m buf).2.1 = none := by
  induction m, buf using d.run_induct with
  | wait m buf h => rw [d.run_wait h]; exact h
  | step m buf m' rest out h ih => rw [d.run_step h]; exact ih

/-- Input that arrives after the decoder has stopped is decoded as if it had
been there from the start. -/
theorem Decoder.run_append (m : μ) (a b : List β) :
    d.run m (a ++ b) =
      ((d.run (d.run m a).1 ((d.run m a).2.1 ++ b)).1,
       (d.run (d.run m a).1 ((d.run m a).2.1 ++ b)).2.1,
       (d.run m a).2.2 ++ (d.run (d.run m a).1 ((d.run m a).2.1 ++ b)).2.2) := by
  induction m, a using d.run_induct with
  | wait m a h => simp [d.run_wait h]
  | step m a m' rest out h ih =>
    rw [d.run_step h,d.run_step (d.stable b h),ih]
    simp

end Framing
