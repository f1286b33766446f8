import EspHosted.UsbHost

/-!
Both USB receivers against the boundaries of the transfers: `esp_usb_ingest_stream` of
`host/usb/esp_usb.c`, `usb_ingest` and `usb_parse_stream` of `main/usb/esp_usb_device.c`.
-/

set_option autoImplicit false

namespace EspHosted.Usb
open EspHosted Framing

/-! The receiver of the firmware. -/

/-- `ESP_USB_RX_STREAM_CAP` -/
def fwStreamCap : Nat := rxMaxXfer*2

/-- `sends` counts the calls of `usb_queue_frame`, `restart` is a call of
`esp_hosted_rcp_fatal_restart`. -/
structure UsbFwRx where
  rxStream : Bytes := []
  rxQueue : List Bytes := []
  sends : Nat := 0
  restart : Bool := false
  deriving DecidableEq, Repr

/-- `accept i` is the outcome of the `i`-th `usb_queue_frame`, `required` is
`esp_hosted_rcp_fail_closed_required`. -/
structure FwEnv where
  accept : Nat → Bool
  required : Bool

def usbHeaderValid (b : Bytes) : Option Nat :=
  if ESP_MAX_IF ≤ hdrIfType b then none
  else if hdrLen b = 0 ∨ espOffsetValid (hdrOffset b) = false then none
  else if hdrOffset b+hdrLen b ≤ rxMaxXfer then some (hdrOffset b+hdrLen b)
  else none

def usbQueueFrame (e : FwEnv) (c : UsbFwRx) (frame : Bytes) : UsbFwRx × Bool :=
  if e.accept c.sends then ({c with rxQueue := c.rxQueue ++ [frame], sends := c.sends+1},true)
  else ({c with sends := c.sends+1},false)

/-- `usb_stateful_rcp_loss` where it returns true, and what its callers do then. -/
def UsbFwRx.lose (c : UsbFwRx) : UsbFwRx := {c with rxStream := [], restart := true}

/-- `false` is `ESP_FAIL`. -/
def usbParseLoop (e : FwEnv) : Nat → UsbFwRx → UsbFwRx × Bool
  | 0, c => (c,true)
  | fuel+1, c =>
    if c.rxStream.length < headerSize then (c,true)
    else
      match usbHeaderValid c.rxStream with
      | none =>
        if e.required then (c.lose,false) else usbParseLoop e fuel {c with rxStream := c.rxStream.drop 1}
      | some frameLen =>
        if c.rxStream.length < frameLen then (c,true)
        else
          match usbQueueFrame e c (c.rxStream.take frameLen) with
          | (c,true) => usbParseLoop e fuel {c with rxStream := c.rxStream.drop frameLen}
          | (c,false) =>
            if hdrIfType c.rxStream = ESP_RCP_IF ∧ e.required then (c.lose,false)
            else usbParseLoop e fuel {c with rxStream := c.rxStream.drop frameLen}

/-- Every pass that continues shortens the stream. -/
def usbParseStream (e : FwEnv) (c : UsbFwRx) : UsbFwRx × Bool := usbParseLoop e (c.rxStream.length+1) c

def usbIngestLoop (e : FwEnv) : Nat → UsbFwRx → Bytes → UsbFwRx × Bool
  | 0, c, _ => (c,true)
  | _+1, c, [] => (c,true)
  | fuel+1, c, b :: data =>
    if c.rxStream.length = fwStreamCap ∧ e.required then (c.lose,false)
    else
      let c := if c.rxStream.length = fwStreamCap then {c with rxStream := []} else c
      let copy := min (b :: data).length (fwStreamCap-c.rxStream.length)
      match usbParseStream e {c with rxStream := c.rxStream ++ (b :: data).take copy} with
      | (c,true) => usbIngestLoop e fuel c ((b :: data).drop copy)
      | (c,false) => (c,false)

def usbIngest (e : FwEnv) (c : UsbFwRx) (data : Bytes) : UsbFwRx × Bool := usbIngestLoop e data.length c data

/-- Transfers one after another, up to the first that fails: with it the restart is on its way. -/
def usbIngestAll (e : FwEnv) : UsbFwRx → List Bytes → UsbFwRx × Bool
  | c, [] => (c,true)
  | c, x :: xs =>
    match usbIngest e c x with
    | (c,true) => usbIngestAll e c xs
    | (c,false) => (c,false)

/-! Against the decoder of the host, for an endpoint without padding. -/

theorem usbHeaderValid_eq (b : Bytes) : usbHeaderValid b = espUsbValidHeader b := by
  simp only [usbHeaderValid,espUsbValidHeader]
  split
  · rfl
  · cases hs : espHostWireSpanValid (hdrLen b) (hdrOffset b) rxMaxXfer with
    | none =>
      split
      · rfl
      · rename_i hv
        split
        · rename_i hle
          rw [espHostWireSpanValid,if_neg hv,if_neg (by omega)] at hs
          cases hs
        · rfl
    | some n =>
      obtain ⟨hp,hlo,hhi,rfl,hn⟩ := espHostWireSpanValid_eq_some.mp hs
      have hv : ¬(hdrLen b = 0 ∨ espOffsetValid (hdrOffset b) = false) := by
        rw [espOffsetValid_eq_false]
        omega
      rw [if_neg hv,if_pos hn]

theorem padExpected_zero (n : Nat) : padExpected 0 n = false := by simp [padExpected]

/-- What the receiver does with the events of the decoder. -/
def fwRecord (e : FwEnv) : UsbFwRx → List RxEvent → UsbFwRx × Bool
  | c, [] => (c,true)
  | c, .slid :: evs => if e.required then (c.lose,false) else fwRecord e c evs
  | c, .frame f :: evs =>
    match usbQueueFrame e c f with
    | (c,true) => fwRecord e c evs
    | (c,false) => if hdrIfType f = ESP_RCP_IF ∧ e.required then (c.lose,false) else fwRecord e c evs

/-- The context after the decoder has come to `s`. -/
def fwSync (e : FwEnv) (c : UsbFwRx) (s : Bool × Bytes × List RxEvent) : UsbFwRx × Bool :=
  match fwRecord e c s.2.2 with
  | (c,true) => ({c with rxStream := s.2.1},true)
  | (c,false) => (c,false)

theorem fwRecord_append (e : FwEnv) (c : UsbFwRx) (a b : List RxEvent) :
    fwRecord e c (a ++ b) =
      match fwRecord e c a with
      | (c,true) => fwRecord e c b
      | (c,false) => (c,false) := by
  induction a generalizing c with
  | nil => rfl
  | cons ev a ih =>
    cases ev with
    | slid =>
      simp only [List.cons_append,fwRecord]
      split
      · rfl
      · exact ih c
    | frame f =>
      simp only [List.cons_append,fwRecord]
      cases hq : usbQueueFrame e c f with
      | mk c' ok =>
        cases ok with
        | true => exact ih c'
        | false =>
          simp only
          split
          · rfl
          · exact ih c'

theorem usbQueueFrame_stream (e : FwEnv) (c : UsbFwRx) (x f : Bytes) :
    usbQueueFrame e {c with rxStream := x} f =
      ({(usbQueueFrame e c f).1 with rxStream := x},(usbQueueFrame e c f).2) ∧
    (usbQueueFrame e c f).1.rxStream = c.rxStream := by
  simp only [usbQueueFrame]
  split <;> exact ⟨rfl,rfl⟩

/-- Only the counters and the queue go into the record. -/
theorem fwRecord_stream (e : FwEnv) (c : UsbFwRx) (x : Bytes) (evs : List RxEvent) :
    (fwRecord e {c with rxStream := x} evs).2 = (fwRecord e c evs).2 ∧
    ((fwRecord e c evs).2 = false → fwRecord e {c with rxStream := x} evs = fwRecord e c evs) ∧
    ∀ y, {(fwRecord e {c with rxStream := x} evs).1 with rxStream := y} =
      {(fwRecord e c evs).1 with rxStream := y} := by
  induction evs generalizing c with
  | nil =>
    refine ⟨rfl,?_,fun y => rfl⟩
    intro h
    cases h
  | cons ev evs ih =>
    cases ev with
    | slid =>
      simp only [fwRecord]
      split
      · exact ⟨rfl,fun _ => rfl,fun y => rfl⟩
      · exact ih c
    | frame f =>
      simp only [fwRecord]
      rw [(usbQueueFrame_stream e c x f).1]
      cases hq : usbQueueFrame e c f with
      | mk c' ok =>
        cases ok with
        | true => exact ih c'
        | false =>
          simp only
          split
          · exact ⟨rfl,fun _ => rfl,fun y => rfl⟩
          · exact ih c'

theorem fwSync_stream (e : FwEnv) (c : UsbFwRx) (x : Bytes) (s : Bool × Bytes × List RxEvent) :
    fwSync e {c with rxStream := x} s = fwSync e c s := by
  obtain ⟨h1,h2,h3⟩ := fwRecord_stream e c x s.2.2
  simp only [fwSync]
  cases hr : fwRecord e c s.2.2 with
  | mk c' ok =>
    cases hx : fwRecord e {c with rxStream := x} s.2.2 with
    | mk d ok' =>
      rw [hr,hx] at h1 h2 h3
      simp only at h1
      subst h1
      cases ok' with
      | true =>
        simp only
        rw [h3 s.2.1]
      | false =>
        simp only
        exact h2 rfl

theorem fwSync_append (e : FwEnv) (c : UsbFwRx) (m m' : Bool) (rest rest' : Bytes) (a b : List RxEvent) :
    fwSync e c (m',rest',a ++ b) =
      match fwSync e c (m,rest,a) with
      | (c,true) => fwSync e c (m',rest',b)
      | (c,false) => (c,false) := by
  simp only [fwSync,fwRecord_append]
  cases fwRecord e c a with
  | mk c' ok =>
    cases ok with
    | true => exact (fwSync_stream e c' rest (m',rest',b)).symm
    | false => rfl

theorem streamNext_mode {buf rest : Bytes} {m : Bool} {out : List RxEvent}
    (h : streamNext 0 false buf = some (m,rest,out)) : m = false := by
  simp only [streamNext] at h
  split at h
  · cases h
  · split at h
    · cases h
      rfl
    · split at h
      · cases h
      · cases h
        exact padExpected_zero _

theorem run_mode (m : Bool) (buf : Bytes) (hm : m = false) : ((streamDecoder 0).run m buf).1 = false := by
  induction m, buf using (streamDecoder 0).run_induct with
  | wait m buf h =>
    rw [(streamDecoder 0).run_wait h]
    exact hm
  | step m buf m' rest out h ih =>
    subst hm
    rw [(streamDecoder 0).run_step h]
    exact ih (streamNext_mode h)

theorem hdrIfType_take {b : Bytes} {n : Nat} (hn : headerSize ≤ n) (hb : n ≤ b.length) :
    hdrIfType (b.take n) = hdrIfType b := by
  have h := hdrIfType_append (b.drop n) (b := b.take n) (by rw [List.length_take]; omega)
  rwa [List.take_append_drop,eq_comm] at h

theorem usbParseLoop_eq (e : FwEnv) (fuel : Nat) (c : UsbFwRx) (hf : c.rxStream.length < fuel) :
    usbParseLoop e fuel c = fwSync e c ((streamDecoder 0).run false c.rxStream) := by
  induction fuel generalizing c with
  | zero => omega
  | succ fuel ih =>
    rw [usbParseLoop,usbHeaderValid_eq]
    by_cases hl : c.rxStream.length < headerSize
    · have hn : streamNext 0 false c.rxStream = none := by simp [streamNext,hl]
      rw [if_pos hl,run_of_none hn]
      rfl
    rw [if_neg hl]
    cases hv : espUsbValidHeader c.rxStream with
    | none =>
      have hn : streamNext 0 false c.rxStream = some (false,c.rxStream.drop 1,[.slid]) := by
        simp [streamNext,hl,hv]
      have hlt := streamNext_shrinks hn
      simp only [Bool.toNat_false] at hlt
      rw [run_of_some hn,fwSync_append e c false _ (c.rxStream.drop 1) _ [.slid]]
      simp only [fwSync,fwRecord]
      by_cases hr : e.required = true
      · simp [hr]
      · simp only [if_neg hr]
        exact ih _ (by simp only; omega)
    | some n =>
      simp only
      obtain ⟨hb,-⟩ := espUsbValidHeader_bounds hv
      by_cases hw : c.rxStream.length < n
      · have hn : streamNext 0 false c.rxStream = none := by simp [streamNext,hl,hv,hw]
        rw [if_pos hw,run_of_none hn]
        rfl
      have hn : streamNext 0 false c.rxStream = some (false,c.rxStream.drop n,[.frame (c.rxStream.take n)]) := by
        simp [streamNext,hl,hv,hw,padExpected_zero]
      have hlt := streamNext_shrinks hn
      simp only [Bool.toNat_false] at hlt
      have hty := hdrIfType_take (Nat.le_of_lt hb) (Nat.le_of_not_lt hw)
      rw [if_neg hw,run_of_some hn,fwSync_append e c false _ (c.rxStream.drop n) _ [.frame (c.rxStream.take n)]]
      have hst := (usbQueueFrame_stream e c c.rxStream (c.rxStream.take n)).2
      simp only [fwSync,fwRecord,hty]
      cases hq : usbQueueFrame e c (c.rxStream.take n) with
      | mk c' ok =>
        rw [hq] at hst
        simp only at hst
        cases ok with
        | true =>
          simp only [hst]
          exact ih _ (by simp only; omega)
        | false =>
          simp only [hst]
          by_cases hr : hdrIfType c.rxStream = ESP_RCP_IF ∧ e.required = true
          · simp [hr]
          · simp only [if_neg hr]
            exact ih _ (by simp only; omega)

theorem usbParseStream_eq (e : FwEnv) (c : UsbFwRx) :
    usbParseStream e c = fwSync e c ((streamDecoder 0).run false c.rxStream) :=
  usbParseLoop_eq e _ c (Nat.lt_succ_self _)

/-! Transfers. -/

def UsbFwRx.Idle (c : UsbFwRx) : Prop := streamNext 0 false c.rxStream = none

theorem fwSync_idle {e : FwEnv} {c c' : UsbFwRx} {buf : Bytes}
    (h : fwSync e c ((streamDecoder 0).run false buf) = (c',true)) : c'.Idle := by
  have hn := (streamDecoder 0).next_run false buf
  rw [run_mode false buf rfl] at hn
  simp only [fwSync] at h
  split at h
  · cases h
    exact hn
  · cases h

theorem run_zero_append (a b : Bytes) : (streamDecoder 0).run false (a ++ b) =
    (((streamDecoder 0).run false (((streamDecoder 0).run false a).2.1 ++ b)).1,
     ((streamDecoder 0).run false (((streamDecoder 0).run false a).2.1 ++ b)).2.1,
     ((streamDecoder 0).run false a).2.2 ++ ((streamDecoder 0).run false (((streamDecoder 0).run false a).2.1 ++ b)).2.2) := by
  have h := (streamDecoder 0).run_append false a b
  rwa [run_mode false a rfl] at h

/-- Data that follow are taken up where the receiver stands, unless a loss was fatal. -/
theorem fwSync_run_append (e : FwEnv) (c : UsbFwRx) (a b : Bytes) :
    fwSync e c ((streamDecoder 0).run false (a ++ b)) =
      match fwSync e c ((streamDecoder 0).run false a) with
      | (c,true) => fwSync e c ((streamDecoder 0).run false (c.rxStream ++ b))
      | (c,false) => (c,false) := by
  rw [run_zero_append,fwSync_append e c ((streamDecoder 0).run false a).1 _ ((streamDecoder 0).run false a).2.1]
  change (match fwSync e c ((streamDecoder 0).run false a) with
    | (c,true) => _
    | (c,false) => (c,false)) = _
  cases hs : fwSync e c ((streamDecoder 0).run false a) with
  | mk c' ok =>
    cases ok with
    | false => rfl
    | true =>
      have hst : c'.rxStream = ((streamDecoder 0).run false a).2.1 := by
        simp only [fwSync] at hs
        split at hs
        · cases hs
          rfl
        · cases hs
      simp only [hst]

theorem usbIngestLoop_eq (e : FwEnv) (fuel : Nat) (c : UsbFwRx) (data : Bytes) (hf : data.length ≤ fuel)
    (hc : c.Idle) :
    usbIngestLoop e fuel c data = fwSync e c ((streamDecoder 0).run false (c.rxStream ++ data)) := by
  induction fuel generalizing c data with
  | zero =>
    have hd : data = [] := List.length_eq_zero_iff.mp (by omega)
    subst hd
    rw [List.append_nil,run_of_none hc]
    rfl
  | succ fuel ih =>
    cases data with
    | nil =>
      rw [List.append_nil,run_of_none hc]
      rfl
    | cons b data =>
      have hl : c.rxStream.length < rxMaxXfer := streamNext_none_length hc
      have hfull : ¬c.rxStream.length = fwStreamCap := by
        simp only [fwStreamCap]
        omega
      simp only [usbIngestLoop]
      rw [if_neg (fun h => hfull h.1),if_neg hfull]
      generalize hn : min (b :: data).length (fwStreamCap-c.rxStream.length) = n
      have hpos : 1 ≤ n := by
        simp only [fwStreamCap,List.length_cons] at hn
        omega
      have hsplit : c.rxStream ++ b :: data = (c.rxStream ++ (b :: data).take n) ++ (b :: data).drop n := by
        rw [List.append_assoc,List.take_append_drop]
      rw [usbParseStream_eq,fwSync_stream,hsplit,fwSync_run_append e c (c.rxStream ++ (b :: data).take n)]
      cases hs : fwSync e c ((streamDecoder 0).run false (c.rxStream ++ (b :: data).take n)) with
      | mk c' ok =>
        cases ok with
        | false => rfl
        | true =>
          simp only
          rw [ih c' _ (by simp only [List.length_drop,List.length_cons] at *; omega) (fwSync_idle hs)]

theorem usbIngest_eq (e : FwEnv) (c : UsbFwRx) (data : Bytes) (hc : c.Idle) :
    usbIngest e c data = fwSync e c ((streamDecoder 0).run false (c.rxStream ++ data)) :=
  usbIngestLoop_eq e _ c data (Nat.le_refl _) hc

theorem usbIngestAll_eq (e : FwEnv) (chunks : List Bytes) (c : UsbFwRx) (hc : c.Idle) :
    usbIngestAll e c chunks = fwSync e c ((streamDecoder 0).run false (c.rxStream ++ chunks.flatten)) := by
  induction chunks generalizing c with
  | nil =>
    rw [List.flatten_nil,List.append_nil,run_of_none hc]
    rfl
  | cons x chunks ih =>
    rw [usbIngestAll,usbIngest_eq e c x hc,List.flatten_cons,← List.append_assoc,
      fwSync_run_append e c (c.rxStream ++ x)]
    cases hs : fwSync e c ((streamDecoder 0).run false (c.rxStream ++ x)) with
    | mk c' ok =>
      cases ok with
      | false => rfl
      | true => exact ih c' (fwSync_idle hs)

/-! The full buffer and the ends of the loops. -/

/-- A head of the copy loop finds the buffer full. -/
def hostFull (alloc : Nat → Bool) : Nat → UsbRx → Bytes → Bool
  | 0, _, _ => false
  | _+1, _, [] => false
  | fuel+1, c, b :: data =>
    let copy := min (b :: data).length (rxStreamCap-c.rxStream.length)
    decide (c.rxStream.length = rxStreamCap) ||
      hostFull alloc fuel (espUsbParseStreamLocked alloc {c with rxStream := c.rxStream ++ (b :: data).take copy})
        ((b :: data).drop copy)

def fwFull (e : FwEnv) : Nat → UsbFwRx → Bytes → Bool
  | 0, _, _ => false
  | _+1, _, [] => false
  | fuel+1, c, b :: data =>
    let copy := min (b :: data).length (fwStreamCap-c.rxStream.length)
    decide (c.rxStream.length = fwStreamCap) ||
      match usbParseStream e {c with rxStream := c.rxStream ++ (b :: data).take copy} with
      | (c,true) => fwFull e fuel c ((b :: data).drop copy)
      | (_,false) => false

/-- After a parse less than one maximal frame is left, whatever the buffer held. -/
theorem espUsbParseStreamLocked_residue (alloc : Nat → Bool) (c : UsbRx) :
    (espUsbParseStreamLocked alloc c).rxStream.length < rxMaxXfer := by
  rw [espUsbParseStreamLocked_eq]
  exact (UsbRx.idle_sync_run alloc c c.rxPadExpected c.rxStream).length_lt

theorem fwRecord_lost {e : FwEnv} {evs : List RxEvent} {c c' : UsbFwRx} (h : fwRecord e c evs = (c',false)) :
    c'.rxStream = [] := by
  induction evs generalizing c with
  | nil => cases h
  | cons ev evs ih =>
    cases ev with
    | slid =>
      simp only [fwRecord] at h
      split at h
      · cases h
        rfl
      · exact ih h
    | frame f =>
      simp only [fwRecord] at h
      split at h
      · exact ih h
      · split at h
        · cases h
          rfl
        · exact ih h

theorem fwSync_residue (e : FwEnv) (c : UsbFwRx) (buf : Bytes) :
    (fwSync e c ((streamDecoder 0).run false buf)).1.rxStream.length < rxMaxXfer := by
  cases hs : fwSync e c ((streamDecoder 0).run false buf) with
  | mk c' ok =>
    cases ok with
    | true => exact streamNext_none_length (fwSync_idle hs)
    | false =>
      simp only [fwSync] at hs
      split at hs
      · cases hs
      · rename_i hr
        cases hs
        rw [fwRecord_lost hr]
        decide

theorem usbParseStream_residue (e : FwEnv) (c : UsbFwRx) :
    (usbParseStream e c).1.rxStream.length < rxMaxXfer := by
  rw [usbParseStream_eq]
  exact fwSync_residue e c c.rxStream

theorem hostFull_false (alloc : Nat → Bool) (fuel : Nat) (c : UsbRx) (data : Bytes)
    (hc : c.rxStream.length < rxMaxXfer) : hostFull alloc fuel c data = false := by
  induction fuel generalizing c data with
  | zero => rfl
  | succ fuel ih =>
    cases data with
    | nil => rfl
    | cons b data =>
      simp only [hostFull]
      rw [ih _ _ (espUsbParseStreamLocked_residue alloc _),Bool.or_false,decide_eq_false_iff_not]
      simp only [rxStreamCap]
      omega

theorem fwFull_false (e : FwEnv) (fuel : Nat) (c : UsbFwRx) (data : Bytes) (hc : c.rxStream.length < rxMaxXfer) :
    fwFull e fuel c data = false := by
  induction fuel generalizing c data with
  | zero => rfl
  | succ fuel ih =>
    cases data with
    | nil => rfl
    | cons b data =>
      simp only [fwFull]
      rw [decide_eq_false (by simp only [fwStreamCap]; omega),Bool.false_or]
      generalize hp : usbParseStream e _ = r
      have hres := usbParseStream_residue e
        {c with rxStream := c.rxStream ++ (b :: data).take (min (b :: data).length (fwStreamCap-c.rxStream.length))}
      rw [hp] at hres
      obtain ⟨c',ok⟩ := r
      cases ok with
      | true => exact ih c' _ hres
      | false => rfl

theorem fwRecord_ok {e : FwEnv} (hr : e.required = false) (evs : List RxEvent) (c : UsbFwRx) :
    (fwRecord e c evs).2 = true := by
  induction evs generalizing c with
  | nil => rfl
  | cons ev evs ih =>
    cases ev with
    | slid => simpa [fwRecord,hr] using ih c
    | frame f =>
      simp only [fwRecord]
      split
      · exact ih _
      · simpa [hr] using ih _

/-- While no loss is fatal every transfer is taken. -/
theorem usbIngest_ok {e : FwEnv} (hr : e.required = false) {c : UsbFwRx} (hc : c.Idle) (data : Bytes) :
    (usbIngest e c data).2 = true ∧ (usbIngest e c data).1.Idle := by
  rw [usbIngest_eq e c data hc]
  cases hs : fwSync e c ((streamDecoder 0).run false (c.rxStream ++ data)) with
  | mk c' ok =>
    cases ok with
    | true => exact ⟨rfl,fwSync_idle hs⟩
    | false =>
      simp only [fwSync] at hs
      split at hs
      · cases hs
      · rename_i hf
        have hok := fwRecord_ok hr ((streamDecoder 0).run false (c.rxStream ++ data)).2.2 c
        rw [hf] at hok
        cases hok

theorem usbIngestAll_foldl {e : FwEnv} (hr : e.required = false) (chunks : List Bytes) (c : UsbFwRx) (hc : c.Idle) :
    usbIngestAll e c chunks = (chunks.foldl (fun c x => (usbIngest e c x).1) c,true) := by
  induction chunks generalizing c with
  | nil => rfl
  | cons x chunks ih =>
    obtain ⟨hok,hi⟩ := usbIngest_ok hr hc x
    rw [usbIngestAll,List.foldl_cons]
    cases hx : usbIngest e c x with
    | mk c' ok =>
      rw [hx] at hok hi
      simp only at hok hi
      subst hok
      exact ih c' hi

/-- What the receivers make of a byte stream does not depend on how it is cut. The firmware stops at the transfer in
which a loss is fatal; `earlier` are transfers that came before. -/
structure ChunkingInvariant (mps : Nat) (alloc : Nat → Bool) (e : FwEnv) : Prop where
  host : ∀ xs ys : List Bytes, xs.flatten = ys.flatten →
    xs.foldl (espUsbIngestStream alloc) {bulkInMps := mps} = ys.foldl (espUsbIngestStream alloc) {bulkInMps := mps}
  firmware : ∀ xs ys : List Bytes, xs.flatten = ys.flatten → usbIngestAll e {} xs = usbIngestAll e {} ys
  unfenced : e.required = false → ∀ xs : List Bytes,
    usbIngestAll e {} xs = (xs.foldl (fun c x => (usbIngest e c x).1) {},true)
  neverFull : ∀ (earlier : List Bytes) (x : Bytes),
    hostFull alloc x.length (earlier.foldl (espUsbIngestStream alloc) {bulkInMps := mps}) x = false ∧
    fwFull e x.length (usbIngestAll e {} earlier).1 x = false
  residue : (∀ c, (espUsbParseStreamLocked alloc c).rxStream.length < rxMaxXfer) ∧
    ∀ c, (usbParseStream e c).1.rxStream.length < rxMaxXfer
  parseEnds : (∀ fuel c, c.rxStream.length < fuel → parseLoop alloc fuel c = espUsbParseStreamLocked alloc c) ∧
    ∀ fuel c, c.rxStream.length < fuel → usbParseLoop e fuel c = usbParseStream e c
  ingestEnds : ∀ (earlier : List Bytes) (x : Bytes) (fuel : Nat), x.length ≤ fuel →
    ingestLoop alloc fuel (earlier.foldl (espUsbIngestStream alloc) {bulkInMps := mps}) x =
      espUsbIngestStream alloc (earlier.foldl (espUsbIngestStream alloc) {bulkInMps := mps}) x ∧
    ((usbIngestAll e {} earlier).2 = true →
      usbIngestLoop e fuel (usbIngestAll e {} earlier).1 x = usbIngest e (usbIngestAll e {} earlier).1 x)

theorem fresh_idle (mps : Nat) : ({bulkInMps := mps} : UsbRx).Idle := rfl

theorem fw_fresh_idle : ({} : UsbFwRx).Idle := rfl

theorem foldl_idle (mps : Nat) (alloc : Nat → Bool) (xs : List Bytes) :
    (xs.foldl (espUsbIngestStream alloc) {bulkInMps := mps}).Idle := by
  rw [foldl_espUsbIngestStream alloc xs _ (fresh_idle mps)]
  exact UsbRx.idle_sync_run alloc _ _ _

theorem usbIngestAll_idle {e : FwEnv} {xs : List Bytes} (h : (usbIngestAll e {} xs).2 = true) :
    (usbIngestAll e {} xs).1.Idle := by
  rw [usbIngestAll_eq e xs {} fw_fresh_idle] at h ⊢
  cases hs : fwSync e {} ((streamDecoder 0).run false (([] : Bytes) ++ xs.flatten)) with
  | mk c ok =>
    rw [hs] at h
    simp only at h
    subst h
    exact fwSync_idle hs

theorem usb_chunking_invariant (mps : Nat) (alloc : Nat → Bool) (e : FwEnv) : ChunkingInvariant mps alloc e where
  host xs ys h := by
    rw [foldl_espUsbIngestStream alloc xs _ (fresh_idle mps),foldl_espUsbIngestStream alloc ys _ (fresh_idle mps),h]
  firmware xs ys h := by
    rw [usbIngestAll_eq e xs {} fw_fresh_idle,usbIngestAll_eq e ys {} fw_fresh_idle,h]
  unfenced hr xs := usbIngestAll_foldl hr xs {} fw_fresh_idle
  neverFull earlier x := by
    constructor
    · exact hostFull_false alloc _ _ x (foldl_idle mps alloc earlier).length_lt
    · refine fwFull_false e _ _ x ?_
      rw [usbIngestAll_eq e earlier {} fw_fresh_idle]
      exact fwSync_residue e {} _
  residue := ⟨espUsbParseStreamLocked_residue alloc,usbParseStream_residue e⟩
  parseEnds := by
    constructor
    · intro fuel c hf
      rw [parseLoop_eq alloc fuel c hf,espUsbParseStreamLocked_eq]
    · intro fuel c hf
      rw [usbParseLoop_eq e fuel c hf,usbParseStream_eq]
  ingestEnds earlier x fuel hf := by
    constructor
    · have hi := foldl_idle mps alloc earlier
      rw [ingestLoop_eq alloc fuel _ x hf hi,espUsbIngestStream_eq alloc _ x hi]
    · intro hok
      have hi := usbIngestAll_idle hok
      rw [usbIngestLoop_eq e fuel _ x hf hi,usbIngest_eq e _ x hi]

def garbage : Bytes := List.replicate 12 0xff
def oneFrame : Bytes := [0,0,0,0,2,0,12,0,0,0,0,0,1,2]

/-- With an RCP session the frame is lost when it comes in the transfer of the garbage, and queued when it comes in the
next, before the restart. -/
theorem usbIngest_fenced_cut :
    [garbage ++ oneFrame].flatten = [garbage,oneFrame].flatten ∧
    ([garbage ++ oneFrame].foldl (fun c x => (usbIngest ⟨fun _ => true,true⟩ c x).1) {}).rxQueue = [] ∧
    ([garbage,oneFrame].foldl (fun c x => (usbIngest ⟨fun _ => true,true⟩ c x).1) {}).rxQueue = [oneFrame] := by
  decide +kernel

end EspHosted.Usb
