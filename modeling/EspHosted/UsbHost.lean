import EspHosted.Wire
import EspHosted.Lib.Framing

/-!
Receive path of the host USB driver, `host/usb/esp_usb.c`: the byte stream of the
bulk IN endpoint is reassembled into frames, whatever the transfer boundaries.
-/

set_option autoImplicit false

namespace EspHosted.Usb
open EspHosted Framing

/-- `ESP_USB_MAX_XFER` of the host driver; the reassembly buffer holds two. -/
def rxMaxXfer : Nat := 16384
def rxStreamCap : Nat := rxMaxXfer*2

/-- Receive part of `struct esp_usb_context`. `streamLoss` and `queued` are the
locals of `esp_usb_ingest_stream`, kept as what any call has raised so far;
`allocs` counts the calls of `alloc_skb`. -/
structure UsbRx where
  rxStream : Bytes := []
  rxPadExpected : Bool := false
  bulkInMps : Nat
  rxQueue : List Bytes := []
  streamLoss : Bool := false
  queued : Bool := false
  allocs : Nat := 0
  deriving DecidableEq, Repr

def espUsbValidHeader (b : Bytes) : Option Nat :=
  if ESP_MAX_IF ≤ hdrIfType b then none
  else espHostWireSpanValid (hdrLen b) (hdrOffset b) rxMaxXfer

def espUsbQueueFrameLocked (alloc : Nat → Bool) (c : UsbRx) (data : Bytes) : UsbRx :=
  if alloc c.allocs then
    {c with rxQueue := c.rxQueue ++ [data], queued := true, allocs := c.allocs+1}
  else {c with streamLoss := true, allocs := c.allocs+1}

def padExpected (mps frameLen : Nat) : Bool :=
  decide (mps ≠ 0) && decide (frameLen < rxMaxXfer) && decide (frameLen%mps = 0)

def stripPad (c : UsbRx) : UsbRx :=
  match c.rxPadExpected, c.rxStream with
  | true, b :: rest =>
    {c with rxStream := if b = 0 then rest else b :: rest, rxPadExpected := false}
  | _, _ => c

/-- One pass of the `for (;;)` loop after the pad check; `false` is `break`. -/
def parseFrame (alloc : Nat → Bool) (c : UsbRx) : UsbRx × Bool :=
  if c.rxStream.length < headerSize then (c,false)
  else
    match espUsbValidHeader c.rxStream with
    | none => ({c with streamLoss := true, rxStream := c.rxStream.drop 1},true)
    | some frameLen =>
      if c.rxStream.length < frameLen then (c,false)
      else
        let q := espUsbQueueFrameLocked alloc c (c.rxStream.take frameLen)
        ({q with rxPadExpected := padExpected c.bulkInMps frameLen,
                 rxStream := c.rxStream.drop frameLen},true)

def parseLoop (alloc : Nat → Bool) : Nat → UsbRx → UsbRx
  | 0, c => c
  | fuel+1, c =>
    match parseFrame alloc (stripPad c) with
    | (c',false) => c'
    | (c',true) => parseLoop alloc fuel c'

/-- Every pass that continues shortens the stream, so the fuel is enough. -/
def espUsbParseStreamLocked (alloc : Nat → Bool) (c : UsbRx) : UsbRx :=
  parseLoop alloc (c.rxStream.length+1) c

def ingestLoop (alloc : Nat → Bool) : Nat → UsbRx → Bytes → UsbRx
  | 0, c, _ => c
  | _+1, c, [] => c
  | fuel+1, c, b :: data =>
    let c := if c.rxStream.length = rxStreamCap then {c with rxStream := [], streamLoss := true}
      else c
    let copy := min (b :: data).length (rxStreamCap-c.rxStream.length)
    let c := espUsbParseStreamLocked alloc
      {c with rxStream := c.rxStream ++ (b :: data).take copy}
    ingestLoop alloc fuel c ((b :: data).drop copy)

def espUsbIngestStream (alloc : Nat → Bool) (c : UsbRx) (data : Bytes) : UsbRx :=
  ingestLoop alloc data.length c data

/-- What one step of the receiver does to the stream. -/
inductive RxEvent where
  | frame (data : Bytes)
  | slid
  deriving DecidableEq, Repr

def streamNext (mps : Nat) : Bool → Bytes → Option (Bool × Bytes × List RxEvent)
  | true, [] => none
  | true, b :: rest => some (false,if b = 0 then rest else b :: rest,[])
  | false, buf =>
    if buf.length < headerSize then none
    else
      match espUsbValidHeader buf with
      | none => some (false,buf.drop 1,[.slid])
      | some n =>
        if buf.length < n then none
        else some (padExpected mps n,buf.drop n,[.frame (buf.take n)])

theorem espUsbValidHeader_append {b : Bytes} (t : Bytes) (h : headerSize ≤ b.length) :
    espUsbValidHeader (b ++ t) = espUsbValidHeader b := by
  simp only [espUsbValidHeader,hdrIfType_append t h,hdrLen_append t h,hdrOffset_append t h]

theorem espUsbValidHeader_bounds {b : Bytes} {n : Nat} (h : espUsbValidHeader b = some n) :
    headerSize < n ∧ n ≤ rxMaxXfer := by
  simp only [espUsbValidHeader] at h
  split at h
  · cases h
  · obtain ⟨hp,ho,_,rfl,hn⟩ := espHostWireSpanValid_eq_some.mp h
    omega

theorem streamNext_stable {mps : Nat} {m m' : Bool} {buf rest : Bytes} {out : List RxEvent}
    (t : Bytes) (h : streamNext mps m buf = some (m',rest,out)) :
    streamNext mps m (buf ++ t) = some (m',rest ++ t,out) := by
  cases m with
  | true =>
    cases buf with
    | nil => simp [streamNext] at h
    | cons b buf =>
      simp only [streamNext] at h
      cases h
      simp only [streamNext,List.cons_append]
      split <;> rfl
  | false =>
    simp only [streamNext] at h ⊢
    split at h
    · cases h
    · rename_i hl
      rw [List.length_append,if_neg (by omega),espUsbValidHeader_append t (by omega)]
      split at h
      · cases h
        simp only [List.drop_append_of_le_length (show 1 ≤ buf.length by
          simp only [headerSize] at hl; omega)]
      · rename_i n hn
        split at h
        · cases h
        · rename_i hb
          cases h
          rw [if_neg (by omega),List.drop_append_of_le_length (by omega),
            List.take_append_of_le_length (by omega)]

theorem streamNext_shrinks {mps : Nat} {m m' : Bool} {buf rest : Bytes} {out : List RxEvent}
    (h : streamNext mps m buf = some (m',rest,out)) :
    2*rest.length+m'.toNat < 2*buf.length+m.toNat := by
  cases m with
  | true =>
    cases buf with
    | nil => simp [streamNext] at h
    | cons b buf =>
      simp only [streamNext] at h
      cases h
      split <;>
        simp only [List.length_cons,Bool.toNat_true,Bool.toNat_false] <;> omega
  | false =>
    simp only [streamNext] at h
    split at h
    · cases h
    · rename_i hl
      simp only [headerSize] at hl
      split at h
      · cases h
        simp only [List.length_drop,Bool.toNat_false]
        omega
      · rename_i n hn
        have hb := espUsbValidHeader_bounds hn
        simp only [headerSize] at hb
        split at h
        · cases h
        · cases h
          have hp := Bool.toNat_le (padExpected mps n)
          simp only [List.length_drop]
          omega

def streamDecoder (mps : Nat) : Decoder Bool UInt8 RxEvent where
  next := streamNext mps
  weight := Bool.toNat
  stable := streamNext_stable
  shrinks := streamNext_shrinks

theorem run_of_none {mps : Nat} {m : Bool} {buf : Bytes} (h : streamNext mps m buf = none) :
    (streamDecoder mps).run m buf = (m,buf,[]) :=
  (streamDecoder mps).run_wait h

theorem run_of_some {mps : Nat} {m : Bool} {buf : Bytes} {s : Bool × Bytes × List RxEvent}
    (h : streamNext mps m buf = some s) :
    (streamDecoder mps).run m buf =
      (((streamDecoder mps).run s.1 s.2.1).1,((streamDecoder mps).run s.1 s.2.1).2.1,
        s.2.2 ++ ((streamDecoder mps).run s.1 s.2.1).2.2) :=
  (streamDecoder mps).run_step h

def UsbRx.record (alloc : Nat → Bool) (c : UsbRx) : RxEvent → UsbRx
  | .frame data => espUsbQueueFrameLocked alloc c data
  | .slid => {c with streamLoss := true}

def UsbRx.place (c : UsbRx) (pad : Bool) (stream : Bytes) : UsbRx :=
  {c with rxPadExpected := pad, rxStream := stream}

/-- The driver's context after the decoder has gone through `s` from context `c`. -/
def UsbRx.sync (alloc : Nat → Bool) (c : UsbRx) (s : Bool × Bytes × List RxEvent) : UsbRx :=
  (s.2.2.foldl (UsbRx.record alloc) c).place s.1 s.2.1

@[simp] theorem UsbRx.place_place (c : UsbRx) (p q : Bool) (a b : Bytes) :
    (c.place p a).place q b = c.place q b := rfl

theorem UsbRx.record_place (alloc : Nat → Bool) (c : UsbRx) (p : Bool) (a : Bytes) (e : RxEvent) :
    UsbRx.record alloc (c.place p a) e = (UsbRx.record alloc c e).place p a := by
  cases e with
  | frame data => by_cases h : alloc c.allocs = true <;> simp [record,espUsbQueueFrameLocked,place,h]
  | slid => rfl

theorem UsbRx.foldl_record_place (alloc : Nat → Bool) (evs : List RxEvent) (c : UsbRx) (p : Bool)
    (a : Bytes) :
    evs.foldl (UsbRx.record alloc) (c.place p a) =
      (evs.foldl (UsbRx.record alloc) c).place p a := by
  induction evs generalizing c with
  | nil => rfl
  | cons e evs ih => rw [List.foldl_cons,record_place,ih,List.foldl_cons]

theorem UsbRx.record_mps (alloc : Nat → Bool) (c : UsbRx) (e : RxEvent) :
    (UsbRx.record alloc c e).bulkInMps = c.bulkInMps := by
  cases e with
  | frame data =>
    simp only [record,espUsbQueueFrameLocked]
    split <;> rfl
  | slid => rfl

theorem UsbRx.foldl_record_mps (alloc : Nat → Bool) (evs : List RxEvent) (c : UsbRx) :
    (evs.foldl (UsbRx.record alloc) c).bulkInMps = c.bulkInMps := by
  induction evs generalizing c with
  | nil => rfl
  | cons e evs ih => rw [List.foldl_cons,ih,record_mps]

@[simp] theorem UsbRx.sync_mps (alloc : Nat → Bool) (c : UsbRx) (s : Bool × Bytes × List RxEvent) :
    (c.sync alloc s).bulkInMps = c.bulkInMps := UsbRx.foldl_record_mps alloc s.2.2 c

@[simp] theorem UsbRx.sync_place (alloc : Nat → Bool) (c : UsbRx) (p : Bool) (a : Bytes)
    (s : Bool × Bytes × List RxEvent) : (c.place p a).sync alloc s = c.sync alloc s := by
  simp [sync,foldl_record_place]

theorem parseFrame_eq (alloc : Nat → Bool) (c : UsbRx) (hp : c.rxPadExpected = false) :
    parseFrame alloc c =
      match streamNext c.bulkInMps false c.rxStream with
      | none => (c,false)
      | some s => (c.sync alloc s,true) := by
  simp only [parseFrame,streamNext]
  split
  · rfl
  · split
    · simp [UsbRx.sync,UsbRx.place,UsbRx.record,hp]
    · split
      · rfl
      · simp only [UsbRx.sync,UsbRx.place,UsbRx.record,List.foldl_cons,List.foldl_nil]

theorem UsbRx.sync_sync (alloc : Nat → Bool) (c : UsbRx) (s t : Bool × Bytes × List RxEvent) :
    (c.sync alloc s).sync alloc t = c.sync alloc (t.1,t.2.1,s.2.2 ++ t.2.2) := by
  simp [sync,foldl_record_place]

theorem stripPad_eq_place (c : UsbRx) :
    stripPad c = c.place (stripPad c).rxPadExpected (stripPad c).rxStream := by
  unfold stripPad
  split <;> rfl

theorem stripPad_settled (c : UsbRx) :
    (stripPad c).rxPadExpected = false ∨ (stripPad c).rxStream = [] := by
  unfold stripPad
  split
  · exact .inl rfl
  · rename_i hn
    by_cases hp : c.rxPadExpected = true
    · cases hs : c.rxStream with
      | nil => exact .inr rfl
      | cons b rest => exact (hn b rest hp hs).elim
    · exact .inl (by simpa using hp)

theorem stripPad_length (c : UsbRx) : (stripPad c).rxStream.length ≤ c.rxStream.length := by
  unfold stripPad
  split
  · rename_i b rest _ hs
    rw [hs]
    split <;> simp
  · exact Nat.le_refl _

theorem run_stripPad (mps : Nat) (c : UsbRx) :
    (streamDecoder mps).run (stripPad c).rxPadExpected (stripPad c).rxStream =
      (streamDecoder mps).run c.rxPadExpected c.rxStream := by
  unfold stripPad
  split
  · rename_i b rest hp hs
    have hn : streamNext mps true (b :: rest) =
        some (false,if b = 0 then rest else b :: rest,[]) := rfl
    rw [hp,hs,run_of_some hn]
    rfl
  · rfl

theorem parseLoop_eq (alloc : Nat → Bool) (fuel : Nat) (c : UsbRx)
    (hf : c.rxStream.length < fuel) :
    parseLoop alloc fuel c =
      c.sync alloc ((streamDecoder c.bulkInMps).run c.rxPadExpected c.rxStream) := by
  induction fuel generalizing c with
  | zero => omega
  | succ fuel ih =>
    have hsync : ∀ s, c.sync alloc s = (stripPad c).sync alloc s := by
      intro s
      rw [stripPad_eq_place c,UsbRx.sync_place]
    have hmps : c.bulkInMps = (stripPad c).bulkInMps := by
      rw [stripPad_eq_place c]
      rfl
    have hlen : (stripPad c).rxStream.length < fuel+1 := by
      have hl := stripPad_length c
      omega
    have hset := stripPad_settled c
    rw [parseLoop,hsync,← run_stripPad,hmps]
    generalize stripPad c = c' at hlen hset ⊢
    have hself : c' = c'.sync alloc (c'.rxPadExpected,c'.rxStream,[]) := rfl
    rcases hset with hp | hs
    · rw [hp] at hself
      rw [parseFrame_eq alloc c' hp,hp]
      cases hn : streamNext c'.bulkInMps false c'.rxStream with
      | none =>
        rw [run_of_none hn]
        exact hself
      | some s =>
        obtain ⟨m',rest,out⟩ := s
        have hl := streamNext_shrinks hn
        simp only [Bool.toNat_false] at hl
        rw [run_of_some hn]
        change parseLoop alloc fuel (c'.sync alloc (m',rest,out)) = _
        rw [ih _ (show rest.length < fuel by omega),UsbRx.sync_sync,UsbRx.sync_mps]
        rfl
    · have hb : parseFrame alloc c' = (c',false) := by
        simp [parseFrame,hs,headerSize]
      have hn : streamNext c'.bulkInMps c'.rxPadExpected c'.rxStream = none := by
        rw [hs]
        cases c'.rxPadExpected <;> rfl
      rw [hb,run_of_none hn]
      exact hself

theorem espUsbParseStreamLocked_eq (alloc : Nat → Bool) (c : UsbRx) :
    espUsbParseStreamLocked alloc c =
      c.sync alloc ((streamDecoder c.bulkInMps).run c.rxPadExpected c.rxStream) :=
  parseLoop_eq alloc _ c (Nat.lt_succ_self _)

theorem streamNext_none_length {mps : Nat} {m : Bool} {buf : Bytes}
    (h : streamNext mps m buf = none) : buf.length < rxMaxXfer := by
  cases m with
  | true =>
    cases buf with
    | nil => decide
    | cons b buf => simp [streamNext] at h
  | false =>
    simp only [streamNext] at h
    split at h
    · rename_i hl
      simp only [headerSize,rxMaxXfer] at *
      omega
    · split at h
      · cases h
      · rename_i n hn
        have hb := espUsbValidHeader_bounds hn
        split at h
        · omega
        · cases h

/-- The context of a driver that has nothing left to parse. -/
def UsbRx.Idle (c : UsbRx) : Prop :=
  streamNext c.bulkInMps c.rxPadExpected c.rxStream = none

theorem UsbRx.Idle.length_lt {c : UsbRx} (h : c.Idle) : c.rxStream.length < rxMaxXfer :=
  streamNext_none_length h

theorem UsbRx.idle_sync_run (alloc : Nat → Bool) (c : UsbRx) (m : Bool) (buf : Bytes) :
    (c.sync alloc ((streamDecoder c.bulkInMps).run m buf)).Idle := by
  rw [Idle,sync_mps]
  exact (streamDecoder c.bulkInMps).next_run m buf

theorem ingestLoop_eq (alloc : Nat → Bool) (fuel : Nat) (c : UsbRx) (data : Bytes)
    (hf : data.length ≤ fuel) (hc : c.Idle) :
    ingestLoop alloc fuel c data =
      c.sync alloc ((streamDecoder c.bulkInMps).run c.rxPadExpected (c.rxStream ++ data)) := by
  induction fuel generalizing c data with
  | zero =>
    have hd : data = [] := List.length_eq_zero_iff.mp (by omega)
    subst hd
    rw [List.append_nil,run_of_none hc]
    rfl
  | succ fuel ih =>
    cases data with
    | nil =>
      rw [List.append_nil,run_of_none hc]
      rfl
    | cons b data =>
      have hl := hc.length_lt
      simp only [ingestLoop]
      rw [if_neg (by simp only [rxStreamCap]; omega),espUsbParseStreamLocked_eq]
      generalize hn : min (b :: data).length (rxStreamCap-c.rxStream.length) = n
      have hpos : 1 ≤ n := by
        simp only [rxStreamCap,List.length_cons] at hn
        omega
      change ingestLoop alloc fuel ((c.place c.rxPadExpected (c.rxStream ++ (b :: data).take n)).sync
        alloc ((streamDecoder c.bulkInMps).run c.rxPadExpected (c.rxStream ++ (b :: data).take n)))
        ((b :: data).drop n) = _
      rw [UsbRx.sync_place,ih _ _ (by simp only [List.length_drop,List.length_cons] at *; omega)
        (UsbRx.idle_sync_run alloc _ _ _),UsbRx.sync_sync,UsbRx.sync_mps]
      have hsplit : c.rxStream ++ b :: data =
          (c.rxStream ++ (b :: data).take n) ++ (b :: data).drop n := by
        rw [List.append_assoc,List.take_append_drop]
      rw [hsplit,(streamDecoder c.bulkInMps).run_append c.rxPadExpected
        (c.rxStream ++ (b :: data).take n)]
      rfl

theorem espUsbIngestStream_eq (alloc : Nat → Bool) (c : UsbRx) (data : Bytes) (hc : c.Idle) :
    espUsbIngestStream alloc c data =
      c.sync alloc ((streamDecoder c.bulkInMps).run c.rxPadExpected (c.rxStream ++ data)) :=
  ingestLoop_eq alloc _ c data (Nat.le_refl _) hc

theorem foldl_espUsbIngestStream (alloc : Nat → Bool) (chunks : List Bytes) (c : UsbRx)
    (hc : c.Idle) :
    chunks.foldl (espUsbIngestStream alloc) c =
      c.sync alloc
        ((streamDecoder c.bulkInMps).run c.rxPadExpected (c.rxStream ++ chunks.flatten)) := by
  induction chunks generalizing c with
  | nil =>
    rw [List.flatten_nil,List.append_nil,run_of_none hc]
    rfl
  | cons x chunks ih =>
    rw [List.foldl_cons,espUsbIngestStream_eq alloc c x hc,ih _ (UsbRx.idle_sync_run alloc _ _ _),
      UsbRx.sync_sync,UsbRx.sync_mps,List.flatten_cons,← List.append_assoc,
      (streamDecoder c.bulkInMps).run_append c.rxPadExpected (c.rxStream ++ x)]
    rfl

end EspHosted.Usb
