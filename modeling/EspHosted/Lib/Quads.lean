import EspHosted.Lib.Word

/-!
Bytes taken four at a time, as the words of a machine of either byte order (`le`), and as a
port that moves whole words with the most significant byte first sends and fills them.
-/

set_option autoImplicit false

namespace Word

def quads (f : UInt8 → UInt8 → UInt8 → UInt8 → List UInt8) : List UInt8 → List UInt8
  | b0 :: b1 :: b2 :: b3 :: rest => f b0 b1 b2 b3 ++ quads f rest
  | _ => []

def load (le : Bool) (b0 b1 b2 b3 : UInt8) : UInt32 := if le then word b0 b1 b2 b3 else word b3 b2 b1 b0

def store (le : Bool) (w : UInt32) : List UInt8 :=
  if le then [byte w 0,byte w 1,byte w 2,byte w 3] else [byte w 3,byte w 2,byte w 1,byte w 0]

/-- The bytes on the wire of the words in memory. -/
def shiftOut (le : Bool) : List UInt8 → List UInt8 :=
  quads fun b0 b1 b2 b3 => let w := load le b0 b1 b2 b3; [byte w 3,byte w 2,byte w 1,byte w 0]

/-- The words in memory of the bytes on the wire. -/
def shiftIn (le : Bool) : List UInt8 → List UInt8 := quads fun b0 b1 b2 b3 => store le (word b3 b2 b1 b0)

theorem bytes_word (b0 b1 b2 b3 : UInt8) :
    byte (word b0 b1 b2 b3) 0 = b0 ∧ byte (word b0 b1 b2 b3) 1 = b1 ∧
      byte (word b0 b1 b2 b3) 2 = b2 ∧ byte (word b0 b1 b2 b3) 3 = b3 := by
  obtain ⟨h0,h1,h2,h3⟩ := word_eq_iff.mp (rfl : word b0 b1 b2 b3 = _)
  exact ⟨h0.symm,h1.symm,h2.symm,h3.symm⟩

variable {f g : UInt8 → UInt8 → UInt8 → UInt8 → List UInt8}

theorem quad_induction {p : List UInt8 → Prop} (nil : p [])
    (cons : ∀ b0 b1 b2 b3 rest, p rest → p (b0 :: b1 :: b2 :: b3 :: rest)) (bs : List UInt8)
    (h : bs.length%4 = 0) : p bs := by
  induction bs using quads.induct with
  | case1 b0 b1 b2 b3 rest ih =>
    simp only [List.length_cons] at h
    exact cons b0 b1 b2 b3 rest (ih (by omega))
  | case2 bs hs =>
    rcases bs with _ | ⟨a,_ | ⟨b,_ | ⟨c,_ | ⟨d,rest⟩⟩⟩⟩
    · exact nil
    · simp at h
    · simp at h
    · simp at h
    · exact absurd rfl (hs a b c d rest)

/-- A map of quads that undoes another one quad by quad undoes it on whole buffers. -/
theorem quads_quads (hg : ∀ b0 b1 b2 b3 rest, quads g (f b0 b1 b2 b3 ++ rest) = b0 :: b1 :: b2 :: b3 :: quads g rest)
    (bs : List UInt8) (h : bs.length%4 = 0) : quads g (quads f bs) = bs := by
  refine @quad_induction (fun bs => quads g (quads f bs) = bs) rfl (fun b0 b1 b2 b3 rest ih => ?_) bs h
  rw [quads,hg,ih]

/-- What goes out is what came in. -/
theorem shiftOut_shiftIn (le : Bool) (bs : List UInt8) (h : bs.length%4 = 0) :
    shiftOut le (shiftIn le bs) = bs := by
  refine quads_quads (fun b0 b1 b2 b3 rest => ?_) bs h
  obtain ⟨h0,h1,h2,h3⟩ := bytes_word b3 b2 b1 b0
  cases le <;> simp [store,quads,load,h0,h1,h2,h3]

end Word
