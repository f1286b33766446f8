import EspHosted.Wire
import EspHosted.Lib.Framing

/-!
Receive assembly of the SPI-HD firmware, `main/spi_hd_slave_api.c`: WRDMA segments
are copied into one frame buffer and a frame is delivered when it is complete.
-/

set_option autoImplicit false

namespace EspHosted.SpiHd
open EspHosted Framing

def SPI_HD_FRAME_BUF_SIZE : Nat := 1600

/-- `s_frame_buf` up to `s_frame_len`, `s_frame_expected`, and the frames queued.
`fatal` is `spi_hd_transport_fatal`, which restarts the firmware. -/
structure Assembler where
  buf : Bytes := []
  expected : Nat := 0
  delivered : List Bytes := []
  fatal : Bool := false
  deriving DecidableEq, Repr

/-- The length a header announces, if `spi_hd_update_expected` accepts it. -/
def headerExpected (b : Bytes) : Option Nat :=
  if hdrLen b = 0 ∨ espOffsetValid (hdrOffset b) = false then none
  else if SPI_HD_FRAME_BUF_SIZE < hdrOffset b+hdrLen b ∨ hdrOffset b+hdrLen b < headerSize then none
  else some (hdrOffset b+hdrLen b)

def spiHdUpdateExpected (a : Assembler) : Option Assembler :=
  if a.expected ≠ 0 then some a
  else if a.buf.length < headerSize then some a
  else
    match headerExpected a.buf with
    | none => none
    | some n => some {a with expected := n}

/-- `checksumOk` is the `CONFIG_ESP_SPI_HD_CHECKSUM` test, constant when it is off. -/
def spiHdValidateCompleteFrame (checksumOk : Bytes → Bool) (frame : Bytes) : Bool :=
  decide (headerSize ≤ frame.length) && decide (hdrIfType frame < ESP_MAX_IF) &&
    decide (hdrLen frame ≠ 0) && espOffsetValid (hdrOffset frame) &&
    decide (hdrOffset frame+hdrLen frame = frame.length) && checksumOk frame

def consumeLoop (checksumOk : Bytes → Bool) : Nat → Assembler → Bytes → Assembler
  | _, a, [] => a
  | 0, a, _ :: _ => a
  | fuel+1, a, b :: data =>
    let target := if a.expected ≠ 0 then a.expected else headerSize
    let count := min (target-a.buf.length) (b :: data).length
    let left := (b :: data).drop count
    match spiHdUpdateExpected {a with buf := a.buf ++ (b :: data).take count} with
    | none => {a with buf := [], expected := 0, fatal := true}
    | some a =>
      if a.expected = 0 ∨ a.buf.length < a.expected then consumeLoop checksumOk fuel a left
      else if spiHdValidateCompleteFrame checksumOk a.buf = false then
        {a with buf := [], expected := 0, fatal := true}
      else
        consumeLoop checksumOk fuel
          {a with buf := [], expected := 0, delivered := a.delivered ++ [a.buf]} left

/-- A segment that arrives after `spi_hd_transport_fatal` is not looked at. -/
def spiHdConsumeSegment (checksumOk : Bytes → Bool) (a : Assembler) (data : Bytes) : Assembler :=
  if a.fatal then a else consumeLoop checksumOk (data.length+1) a data

/-- The same as a decoder of the byte stream; mode `true` is fatal. -/
def assembleNext (checksumOk : Bytes → Bool) :
    Bool → Bytes → Option (Bool × Bytes × List Bytes)
  | true, _ => none
  | false, buf =>
    if buf.length < headerSize then none
    else
      match headerExpected buf with
      | none => some (true,buf,[])
      | some n =>
        if buf.length < n then none
        else if spiHdValidateCompleteFrame checksumOk (buf.take n) then
          some (false,buf.drop n,[buf.take n])
        else some (true,buf,[])

theorem headerExpected_append {b : Bytes} (t : Bytes) (h : headerSize ≤ b.length) :
    headerExpected (b ++ t) = headerExpected b := by
  simp only [headerExpected,hdrLen_append t h,hdrOffset_append t h]

theorem headerExpected_bounds {b : Bytes} {n : Nat} (h : headerExpected b = some n) :
    headerSize < n ∧ n ≤ SPI_HD_FRAME_BUF_SIZE := by
  simp only [headerExpected] at h
  split at h
  · cases h
  · rename_i hv
    rw [espOffsetValid_eq_false] at hv
    split at h
    · cases h
    · cases h
      omega

theorem assembleNext_stable {ck : Bytes → Bool} {m m' : Bool} {buf rest : Bytes} {out : List Bytes}
    (t : Bytes) (h : assembleNext ck m buf = some (m',rest,out)) :
    assembleNext ck m (buf ++ t) = some (m',rest ++ t,out) := by
  cases m with
  | true => simp [assembleNext] at h
  | false =>
    simp only [assembleNext] at h ⊢
    split at h
    · cases h
    · rename_i hl
      rw [List.length_append,if_neg (by omega),headerExpected_append t (by omega)]
      split at h
      · cases h
        rfl
      · split at h
        · cases h
        · rename_i hb
          rw [if_neg (by omega),List.take_append_of_le_length (by omega),
            List.drop_append_of_le_length (by omega)]
          split at h
          · rename_i hv
            cases h
            rw [if_pos hv]
          · rename_i hv
            cases h
            rw [if_neg hv]

theorem assembleNext_shrinks {ck : Bytes → Bool} {m m' : Bool} {buf rest : Bytes}
    {out : List Bytes} (h : assembleNext ck m buf = some (m',rest,out)) :
    2*rest.length+(!m').toNat < 2*buf.length+(!m).toNat := by
  cases m with
  | true => simp [assembleNext] at h
  | false =>
    simp only [assembleNext] at h
    split at h
    · cases h
    · split at h
      · cases h
        simp
      · rename_i n hn
        have hb := headerExpected_bounds hn
        split at h
        · cases h
        · split at h
          · cases h
            simp only [List.length_drop,Bool.not_false,Bool.toNat_true]
            omega
          · cases h
            simp

def assembleDecoder (ck : Bytes → Bool) : Decoder Bool UInt8 Bytes where
  next := assembleNext ck
  weight := fun m => (!m).toNat
  stable := assembleNext_stable
  shrinks := assembleNext_shrinks

theorem assemble_of_none {ck : Bytes → Bool} {m : Bool} {buf : Bytes}
    (h : assembleNext ck m buf = none) : (assembleDecoder ck).run m buf = (m,buf,[]) :=
  (assembleDecoder ck).run_wait h

theorem assemble_of_some {ck : Bytes → Bool} {m : Bool} {buf : Bytes}
    {s : Bool × Bytes × List Bytes} (h : assembleNext ck m buf = some s) :
    (assembleDecoder ck).run m buf =
      (((assembleDecoder ck).run s.1 s.2.1).1,((assembleDecoder ck).run s.1 s.2.1).2.1,
        s.2.2 ++ ((assembleDecoder ck).run s.1 s.2.1).2.2) :=
  (assembleDecoder ck).run_step h

theorem assemble_fatal (ck : Bytes → Bool) (buf : Bytes) :
    (assembleDecoder ck).run true buf = (true,buf,[]) := assemble_of_none rfl

/-- The target of the next copy follows from what has been collected. -/
def expectedOf (buf : Bytes) : Nat :=
  if buf.length < headerSize then 0 else (headerExpected buf).getD 0

/-- Between two segments: less than a whole frame is held. -/
structure Assembler.Partial (a : Assembler) : Prop where
  running : a.fatal = false
  expected : a.expected = expectedOf a.buf
  short : a.buf.length < headerSize ∨ a.buf.length < a.expected

def Assembler.after (a : Assembler) (buf : Bytes) (out : List Bytes) : Assembler :=
  {buf := buf, expected := expectedOf buf, delivered := a.delivered ++ out, fatal := false}

theorem Assembler.Partial.eq_after {a : Assembler} (h : a.Partial) : a.after a.buf [] = a := by
  cases a
  simp only [after,List.append_nil,Assembler.mk.injEq,true_and]
  exact ⟨h.expected.symm,h.running.symm⟩

theorem expectedOf_eq {buf : Bytes} {n : Nat} (hl : headerSize ≤ buf.length)
    (h : headerExpected buf = some n) : expectedOf buf = n := by
  rw [expectedOf,if_neg (by omega),h]
  rfl

theorem Assembler.Partial.header {a : Assembler} (h : a.Partial) (hl : headerSize ≤ a.buf.length) :
    headerExpected a.buf = some a.expected ∧ a.buf.length < a.expected := by
  have hs : a.buf.length < a.expected := by
    have := h.short
    omega
  refine ⟨?_,hs⟩
  have he := h.expected
  rw [expectedOf,if_neg (by omega)] at he
  cases hx : headerExpected a.buf with
  | none => simp only [hx,Option.getD_none] at he; omega
  | some n => simp only [hx,Option.getD_some] at he; rw [he]

theorem Assembler.Partial.waits {a : Assembler} (h : a.Partial) (ck : Bytes → Bool) :
    assembleNext ck false a.buf = none := by
  by_cases hl : a.buf.length < headerSize
  · simp [assembleNext,hl]
  · obtain ⟨hx,hs⟩ := h.header (by omega)
    simp [assembleNext,hx,hs]

theorem Assembler.Partial.grow {a : Assembler} (h : a.Partial) (buf : Bytes)
    (hs : buf.length < headerSize ∨ buf.length < expectedOf buf) :
    Assembler.Partial {a with buf := buf, expected := expectedOf buf} :=
  ⟨h.running,rfl,hs⟩

theorem copy_header {ck : Bytes → Bool} {a : Assembler} (ha : a.Partial)
    (hl : a.buf.length < headerSize) (data : Bytes)
    (hr : ((assembleDecoder ck).run false (a.buf ++ data)).1 = false) :
    let buf := a.buf ++ data.take (min (headerSize-a.buf.length) data.length)
    spiHdUpdateExpected {a with buf := buf} = some {a with buf := buf, expected := expectedOf buf} ∧
      (buf.length < headerSize ∨ buf.length < expectedOf buf) := by
  intro buf
  have he : a.expected = 0 := by rw [ha.expected,expectedOf,if_pos hl]
  have hlen : buf.length = a.buf.length+min (headerSize-a.buf.length) data.length := by
    simp only [buf,List.length_append,List.length_take]
    omega
  by_cases hb : buf.length < headerSize
  · refine ⟨?_,.inl hb⟩
    simp only [spiHdUpdateExpected,he,ne_eq,not_true,if_false,hb,if_true,expectedOf]
  · have hfull : a.buf ++ data = buf ++ data.drop (min (headerSize-a.buf.length) data.length) := by
      simp only [buf,List.append_assoc,List.take_append_drop]
    have hx : headerExpected (a.buf ++ data) = headerExpected buf := by
      rw [hfull]
      exact headerExpected_append _ (by omega)
    cases hn : headerExpected buf with
    | none =>
      have hnext : assembleNext ck false (a.buf ++ data) = some (true,a.buf ++ data,[]) := by
        have : ¬(a.buf ++ data).length < headerSize := by
          rw [hfull,List.length_append]
          omega
        simp only [assembleNext,if_neg this,hx,hn]
      rw [assemble_of_some hnext,assemble_fatal] at hr
      cases hr
    | some n =>
      have hbound := headerExpected_bounds hn
      rw [expectedOf_eq (by omega) hn]
      refine ⟨?_,.inr (by omega)⟩
      simp only [spiHdUpdateExpected,he,ne_eq,not_true,if_false,hb,hn]

theorem consumeLoop_of_pos (ck : Bytes → Bool) (fuel : Nat) (a : Assembler) {d : Bytes}
    (hd : 0 < d.length) :
    consumeLoop ck (fuel+1) a d =
      (let target := if a.expected ≠ 0 then a.expected else headerSize
       let count := min (target-a.buf.length) d.length
       match spiHdUpdateExpected {a with buf := a.buf ++ d.take count} with
       | none => {a with buf := [], expected := 0, fatal := true}
       | some a =>
         if a.expected = 0 ∨ a.buf.length < a.expected then consumeLoop ck fuel a (d.drop count)
         else if spiHdValidateCompleteFrame ck a.buf = false then
           {a with buf := [], expected := 0, fatal := true}
         else
           consumeLoop ck fuel
             {a with buf := [], expected := 0, delivered := a.delivered ++ [a.buf]}
             (d.drop count)) := by
  cases d with
  | nil => simp at hd
  | cons b data => rfl

/-- While the decoder does not fail, the firmware's copying loop computes its run. -/
theorem consumeLoop_eq (ck : Bytes → Bool) (fuel : Nat) (a : Assembler) (data : Bytes)
    (hf : data.length < fuel) (ha : a.Partial)
    (hr : ((assembleDecoder ck).run false (a.buf ++ data)).1 = false) :
    consumeLoop ck fuel a data =
      a.after ((assembleDecoder ck).run false (a.buf ++ data)).2.1
        ((assembleDecoder ck).run false (a.buf ++ data)).2.2 := by
  induction fuel generalizing a data with
  | zero => omega
  | succ fuel ih =>
    by_cases hpos : 0 < data.length
    case neg =>
      have hnil : data = [] := List.length_eq_zero_iff.mp (by omega)
      subst hnil
      rw [List.append_nil,assemble_of_none (ha.waits ck),ha.eq_after]
      simp [consumeLoop]
    case pos =>
      rename' data => d
      -- the loop after one copy that leaves the frame incomplete
      have hgo : ∀ count, 0 < count →
          (a.buf ++ d.take count).length < headerSize ∨
            (a.buf ++ d.take count).length < expectedOf (a.buf ++ d.take count) →
          consumeLoop ck fuel
              {a with buf := a.buf ++ d.take count, expected := expectedOf (a.buf ++ d.take count)}
              (d.drop count) =
            a.after ((assembleDecoder ck).run false (a.buf ++ d)).2.1
              ((assembleDecoder ck).run false (a.buf ++ d)).2.2 := by
        intro count hc hs
        have hsplit : (a.buf ++ d.take count) ++ d.drop count = a.buf ++ d := by
          rw [List.append_assoc,List.take_append_drop]
        have := ih {a with buf := a.buf ++ d.take count, expected := expectedOf (a.buf ++ d.take count)}
          (d.drop count) (by simp only [List.length_drop]; omega) (ha.grow _ hs)
          (by simpa only [hsplit] using hr)
        simp only [hsplit] at this
        exact this
      by_cases hl : a.buf.length < headerSize
      · have he : a.expected = 0 := by rw [ha.expected,expectedOf,if_pos hl]
        obtain ⟨hu,hs⟩ := copy_header ha hl d hr
        rw [consumeLoop_of_pos ck fuel a hpos]
        simp only [he,ne_eq,not_true,if_false]
        simp only [he] at hu
        rw [hu]
        simp only
        rw [if_pos (by
          rcases hs with hs | hs
          · exact .inl (by rw [expectedOf,if_pos hs])
          · exact .inr hs)]
        simpa only [he] using hgo _ (by omega) hs
      · obtain ⟨hx,hs⟩ := ha.header (by omega)
        have hx0 : a.expected ≠ 0 := by omega
        rw [consumeLoop_of_pos ck fuel a hpos]
        simp only [ne_eq,hx0,not_false_eq_true,if_true,spiHdUpdateExpected,false_or]
        by_cases hfull : a.buf.length+d.length < a.expected
        · have hcount : min (a.expected-a.buf.length) d.length = d.length := by omega
          rw [hcount,if_pos (by simp; omega)]
          have hexp : expectedOf (a.buf ++ d.take d.length) = a.expected :=
            expectedOf_eq (by simp; omega) (by rw [headerExpected_append _ (by omega)]; exact hx)
          have := hgo d.length hpos (.inr (by rw [hexp]; simp; omega))
          rw [hexp] at this
          exact this
        · have hcount : min (a.expected-a.buf.length) d.length = a.expected-a.buf.length := by omega
          have htake : a.buf ++ d.take (a.expected-a.buf.length) = (a.buf ++ d).take a.expected := by
            rw [List.take_append,List.take_of_length_le (show a.buf.length ≤ a.expected by omega)]
          have hdrop : d.drop (a.expected-a.buf.length) = (a.buf ++ d).drop a.expected := by
            rw [List.drop_append,List.drop_eq_nil_of_le (show a.buf.length ≤ a.expected by omega),
              List.nil_append]
          have hlen : ((a.buf ++ d).take a.expected).length = a.expected := by
            simp only [List.length_take,List.length_append]
            omega
          rw [hcount,htake,hdrop,hlen,if_neg (by omega)]
          have hx' : headerExpected (a.buf ++ d) = some a.expected := by
            rw [headerExpected_append d (by omega)]
            exact hx
          have hnl : ¬(a.buf ++ d).length < headerSize := by
            rw [List.length_append]
            omega
          have hnf : ¬(a.buf ++ d).length < a.expected := by
            rw [List.length_append]
            omega
          by_cases hv : spiHdValidateCompleteFrame ck ((a.buf ++ d).take a.expected) = true
          · have hnext : assembleNext ck false (a.buf ++ d) =
                some (false,(a.buf ++ d).drop a.expected,[(a.buf ++ d).take a.expected]) := by
              simp only [assembleNext,if_neg hnl,hx',if_neg hnf,hv,if_true]
            rw [if_neg (by simp [hv])]
            rw [assemble_of_some hnext] at hr ⊢
            have hempty : Assembler.Partial
                {a with buf := [], expected := 0
                        delivered := a.delivered ++ [(a.buf ++ d).take a.expected]} :=
              ⟨ha.running,rfl,.inl (by simp [headerSize])⟩
            have := ih _ ((a.buf ++ d).drop a.expected)
              (by simp only [List.length_drop,List.length_append]; omega) hempty hr
            rw [this]
            simp [Assembler.after]
          · have hnext : assembleNext ck false (a.buf ++ d) = some (true,a.buf ++ d,[]) := by
              simp only [assembleNext,if_neg hnl,hx',if_neg hnf,if_neg hv]
            rw [assemble_of_some hnext,assemble_fatal] at hr
            cases hr

end EspHosted.SpiHd
