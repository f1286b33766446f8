import Mathlib.Data.List.Basic

/-!
A message shifted over a bus in phases. A frame is what is clocked while the peer stays
selected; a phase may end its frame. The peer answers each clock from all it has seen.
-/

set_option autoImplicit false

namespace Shift

variable {α β : Type}

structure Phase (α : Type) where
  clocks : List α
  ends : Bool := false

/-- The frames that are over, and the one that is open. -/
structure Bus (α : Type) where
  frames : List (List α)
  current : List α := []

abbrev Peer (α β : Type) := List (List α) → List α → β

/-- The peer's answers to the next clocks. -/
def sample (peer : Peer α β) (b : Bus α) : List α → List β
  | [] => []
  | c :: cs => peer b.frames b.current :: sample peer {b with current := b.current ++ [c]} cs

def Bus.shift (b : Bus α) (p : Phase α) : Bus α :=
  if p.ends then {frames := b.frames ++ [b.current ++ p.clocks]} else {b with current := b.current ++ p.clocks}

def Bus.run (b : Bus α) (ps : List (Phase α)) : Bus α := ps.foldl Bus.shift b

/-- The peer is deselected after the last phase. -/
def Bus.close (b : Bus α) : List (List α) := b.frames ++ [b.current]

def samples (peer : Peer α β) (b : Bus α) : List (Phase α) → List (List β)
  | [] => []
  | p :: ps => sample peer b p.clocks :: samples peer (b.shift p) ps

@[simp] theorem sample_length (peer : Peer α β) (b : Bus α) (cs : List α) :
    (sample peer b cs).length = cs.length := by
  induction cs generalizing b with
  | nil => rfl
  | cons c cs ih => simp [sample,ih]

theorem sample_append (peer : Peer α β) (b : Bus α) (cs ds : List α) :
    sample peer b (cs ++ ds) = sample peer b cs ++ sample peer {b with current := b.current ++ cs} ds := by
  induction cs generalizing b with
  | nil => simp [sample]
  | cons c cs ih => simp [sample,ih]

@[simp] theorem run_nil (b : Bus α) : b.run [] = b := rfl

@[simp] theorem run_cons (b : Bus α) (p : Phase α) (ps : List (Phase α)) : b.run (p :: ps) = (b.shift p).run ps := rfl

theorem run_append (b : Bus α) (ps qs : List (Phase α)) : b.run (ps ++ qs) = (b.run ps).run qs := by
  simp [Bus.run]

@[simp] theorem samples_length (peer : Peer α β) (b : Bus α) (ps : List (Phase α)) :
    (samples peer b ps).length = ps.length := by
  induction ps generalizing b with
  | nil => rfl
  | cons p ps ih => simp [samples,ih]

theorem samples_append (peer : Peer α β) (b : Bus α) (ps qs : List (Phase α)) :
    samples peer b (ps ++ qs) = samples peer b ps ++ samples peer (b.run ps) qs := by
  induction ps generalizing b with
  | nil => rfl
  | cons p ps ih => simp [samples,ih]

/-- Phases that keep the peer selected are one phase. -/
theorem run_open (b : Bus α) (ps : List (Phase α)) (h : ∀ p ∈ ps, p.ends = false) :
    b.run ps = {b with current := b.current ++ (ps.map Phase.clocks).flatten} := by
  induction ps generalizing b with
  | nil => simp
  | cons p ps ih =>
    rw [run_cons,ih _ fun q hq => h q (List.mem_cons_of_mem p hq)]
    simp [Bus.shift,h p List.mem_cons_self]

end Shift
