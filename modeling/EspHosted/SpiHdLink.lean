import EspHosted.SpiHdAssembler
import EspHosted.Recovery
import EspHosted.Lib.Run

/-!
Host side of SPI-HD, `host/spi_hd/esp_spi_hd.c`, against the firmware assembler:
sending a frame in segments, and the resync of a live session. What the bus does
to a segment is an input, and the bytes that reach the firmware are recorded.
-/

set_option autoImplicit false

namespace EspHosted.SpiHd
open EspHosted Framing Recovery Run

def SPI_HD_TX_SEGMENT_DEFAULT : Nat := 32
def SPI_HD_TX_SEGMENT_MIN : Nat := 4
def SPIHD_LIVE_CREDIT_MAX : Int := 32
def SPIHD_STATE_SLAVE_READY : UInt32 := 0xee
def SPIHD_TX_BUF_LEN_MASK : UInt32 := 0xffffff

/-- A frame as the driver queues it: one header and the payload it announces. -/
structure HostedFrame (checksumOk : Bytes → Bool) where
  bytes : Bytes
  header : headerExpected bytes = some bytes.length
  valid : spiHdValidateCompleteFrame checksumOk bytes = true

structure Host where
  txInflight : Bool := false
  rxInflight : Bool := false
  txSegmentCount : UInt32 := 0
  rxCreditLimit : UInt32 := 0
  rxByteCount : UInt32 := 0
  dataPath : Bool := true
  deriving DecidableEq, Repr

/-- `(s32)(a - b)` of two wrapping counters. -/
def s32Delta (a b : UInt32) : Int := (a-b).toInt32.toInt

/-- One turn of the credit loop: the single read, made when
`SPIHD_FAST_CREDIT_ONCE` is set, and the stable one. `none` is a failed read. -/
structure Poll where
  fast : Option UInt32 := none
  stable : Option UInt32 := none
  deriving DecidableEq, Repr

def creditAccepted (h : Host) (status : UInt32) : Bool :=
  0 < s32Delta status h.txSegmentCount && s32Delta status h.txSegmentCount ≤ SPIHD_LIVE_CREDIT_MAX

/-- The polls end when the deadline has passed. -/
def pollTxCredit (h : Host) : List Poll → Option Host
  | [] => none
  | p :: ps =>
    let stable :=
      match p.stable with
      | some status =>
        if creditAccepted h status then some {h with rxCreditLimit := status} else pollTxCredit h ps
      | none => pollTxCredit h ps
    match p.fast with
    | none => stable
    | some status =>
      if creditAccepted h status then some {h with rxCreditLimit := status}
      else if s32Delta status h.txSegmentCount ≤ 0 then pollTxCredit h ps
      else stable

def spihdWaitTxCredit (h : Host) (polls : List Poll) : Option Host :=
  if 0 < s32Delta h.rxCreditLimit h.txSegmentCount then some h else pollTxCredit h polls

/-- What the controller does with one segment. After an error other than the four
that mean the transfer was refused, any prefix may have reached the firmware. -/
inductive Wrdma where
  | ok
  | rejected
  | failed (landed : Nat)
  | endFailed (landed : Nat)
  deriving DecidableEq, Repr

def Wrdma.ambiguous : Wrdma → Bool
  | .ok | .rejected => false
  | .failed _ | .endFailed _ => true

def Wrdma.landed (w : Wrdma) (chunk : Bytes) : Bytes :=
  match w with
  | .ok => chunk
  | .rejected => []
  | .failed n | .endFailed n => chunk.take n

structure Segment where
  polls : List Poll := []
  wrdma : Wrdma := .ok
  deriving DecidableEq, Repr

/-- Driver, firmware, and all bytes of the current firmware incarnation. -/
structure Link where
  host : Host := {}
  adapter : Adapter := {}
  fw : Assembler := {}
  received : Bytes := []
  deriving DecidableEq, Repr

def Link.receive (ck : Bytes → Bool) (l : Link) (data : Bytes) : Link :=
  {l with fw := spiHdConsumeSegment ck l.fw data, received := l.received ++ data}

def spihdWrdmaSegment (ck : Bytes → Bool) (l : Link) (chunk : Bytes) (w : Wrdma) : Link × Bool :=
  let l := {l with host := {l.host with txInflight := true}}
  match w with
  | .rejected => ({l with host := {l.host with txInflight := false}},false)
  | .failed _ | .endFailed _ => (l.receive ck (w.landed chunk),false)
  | .ok => ({l with host := {l.host with txInflight := false}}.receive ck chunk,true)

structure TxConfig where
  txSegment : Nat := SPI_HD_TX_SEGMENT_DEFAULT
  txSegmentMax : Nat := 0
  txBatch : Bool := false
  deriving DecidableEq, Repr

def TxConfig.segment (c : TxConfig) : Nat :=
  min (max c.txSegment SPI_HD_TX_SEGMENT_MIN)
    (if c.txSegmentMax ≠ 0 then c.txSegmentMax else SPI_HD_TX_SEGMENT_DEFAULT)

/-- The loop of `spihd_send_frame`; a segment takes the next entry of the script. -/
def sendLoop (ck : Bytes → Bool) (segment : Nat) :
    Nat → Link → Bytes → List Segment → Link × Bool
  | _, l, [], _ => (l,true)
  | 0, l, _ :: _, _ => (l,false)
  | fuel+1, l, b :: data, script =>
    let ev := script.headD {}
    match spihdWaitTxCredit l.host ev.polls with
    | none => (l,false)
    | some h =>
      match spihdWrdmaSegment ck {l with host := h} ((b :: data).take segment) ev.wrdma with
      | (l,false) => (l,false)
      | (l,true) =>
        sendLoop ck segment fuel
          {l with host := {l.host with txSegmentCount := l.host.txSegmentCount+1}}
          ((b :: data).drop segment) script.tail

def spihdSendFrame (ck : Bytes → Bool) (c : TxConfig) (l : Link) (data : Bytes)
    (script : List Segment) : Link × Bool :=
  if data.length = 0 then (l,false)
  else if (if c.txBatch then SPI_HD_TX_BATCH_MAX else SPI_HD_BUF_SIZE) < data.length then (l,false)
  else sendLoop ck c.segment data.length l data script

def hdrIfNum (b : Bytes) : Nat := (b.getD 0 0).toNat/16
def hdrPacketType (b : Bytes) : UInt8 := b.getD 2 0

/-- `run_id` of the `raw_tp_packet` in the payload. -/
def rawTpRunId (b : Bytes) : Bytes := (b.drop (hdrOffset b+4)).take 4

def spihdTxPairCompatible (a b : Bytes) : Bool :=
  decide (headerSize ≤ a.length ∧ headerSize ≤ b.length ∧ a.length ≤ SPI_HD_BUF_SIZE ∧
    b.length ≤ SPI_HD_BUF_SIZE ∧ a.length%4 = 0 ∧ b.length%4 = 0 ∧
    a.length+b.length ≤ SPI_HD_TX_BATCH_MAX) &&
  espOffsetValid (hdrOffset a) && espOffsetValid (hdrOffset b) &&
  decide (hdrLen a ≠ 0 ∧ hdrLen b ≠ 0 ∧ hdrOffset a+hdrLen a = a.length ∧
    hdrOffset b+hdrLen b = b.length ∧ hdrIfType a = hdrIfType b ∧ hdrIfNum a = hdrIfNum b ∧
    hdrPacketType a = PACKET_TYPE_DATA ∧ hdrPacketType b = PACKET_TYPE_DATA) &&
  decide (hdrIfType a = ESP_STA_IF ∨ hdrIfType a = ESP_AP_IF ∨
    (hdrIfType a = ESP_TEST_IF ∧ 8 ≤ hdrLen a ∧ 8 ≤ hdrLen b ∧ rawTpRunId a = rawTpRunId b))

/-- `queued` is the head of the low-priority queue. -/
def queuedFrames {ck : Bytes → Bool} (c : TxConfig) (first : HostedFrame ck)
    (queued : Option (HostedFrame ck)) : List (HostedFrame ck) :=
  if c.txBatch = false ∨ c.txSegmentMax < SPI_HD_TX_BATCH_MAX ∨ c.txSegment < SPI_HD_TX_BATCH_MAX then
    [first]
  else
    match queued with
    | none => [first]
    | some next => if spihdTxPairCompatible first.bytes next.bytes then [first,next] else [first]

def wire {ck : Bytes → Bool} (frames : List (HostedFrame ck)) : Bytes :=
  (frames.map HostedFrame.bytes).flatten

def spihdSendQueuedFrame {ck : Bytes → Bool} (c : TxConfig) (l : Link) (first : HostedFrame ck)
    (queued : Option (HostedFrame ck)) (script : List Segment) : Link × Bool :=
  spihdSendFrame ck c l (wire (queuedFrames c first queued)) script

/-- Register values of a resync, `none` for a read that failed. -/
structure Regs where
  ready : Option UInt32
  rxCredits : Option UInt32
  txBytes : Option UInt32
  rxLimit : UInt32 := 1600
  deriving DecidableEq, Repr

inductive Resync where
  | readError
  | notReady
  | unclean
  | resumed
  deriving DecidableEq, Repr

def spihdResyncLiveSession (l : Link) (r : Regs) : Link × Resync :=
  match r.ready with
  | none => (l,.readError)
  | some ready =>
    if ready &&& 0xff ≠ SPIHD_STATE_SLAVE_READY then (l,.notReady)
    else if l.host.txInflight ∨ l.host.rxInflight then (l,.unclean)
    else
      match r.rxCredits, r.txBytes with
      | some rxCredits, some txBytes =>
        let creditDelta := s32Delta rxCredits l.host.txSegmentCount
        let pending := ((txBytes &&& SPIHD_TX_BUF_LEN_MASK)-l.host.rxByteCount) &&& SPIHD_TX_BUF_LEN_MASK
        if creditDelta < 0 ∨ SPIHD_LIVE_CREDIT_MAX < creditDelta ∨ r.rxLimit < pending then (l,.unclean)
        else
          ({l with host := {l.host with rxCreditLimit := 0, dataPath := true}
                   adapter := {l.adapter with state := .ready}},.resumed)
      | _, _ => (l,.readError)

def Link.rebase (l : Link) : Link := {l with host := {}}

/-- The slave clears its ready register only when it starts over. -/
def Link.restarted (l : Link) : Link := {l with fw := {}, received := []}

/-- `spihd_recover_transport`, and for a resumed session the end of
`esp_fw_recovery_work`, which clears `ESP_FW_RECOVERY_PENDING`. -/
def spihdRecoverTransport (c : Clock) (now : Nat) (l : Link) (r : Regs) : Link × Resync :=
  if l.adapter.initDone ∧ l.adapter.resetExpected = false then
    match spihdResyncLiveSession l r with
    | (l,.readError) => (l,.readError)
    | (l,.unclean) =>
      ({l with adapter := (espRequestFirmwareRestart c now (espScheduleRecovery l.adapter true)).1},
        .unclean)
    | (l,.resumed) => ({l with adapter := {l.adapter with recoveryPending := false}},.resumed)
    | (l,.notReady) => (l.rebase.restarted,.notReady)
  else (l.rebase,.notReady)

inductive Action (ck : Bytes → Bool) where
  | send (c : TxConfig) (first : HostedFrame ck) (queued : Option (HostedFrame ck))
      (script : List Segment)
  | receive (rxByteCount : UInt32) (rxInflight failed : Bool)
  | request (fwReset : Bool)
  | recover (now : Nat) (r : Regs)
  /-- A new incarnation: the counters are zeroed and its boot event is accepted. -/
  | boot
  | commit
  | abort
  | remove

def Link.failed (l : Link) (ok : Bool) : Link :=
  if ok then l else {l with adapter := espScheduleRecovery l.adapter false}

/-- The worker looks at `state` only between batches and at
`spihd_live_recovery_pending` before every frame, so it may still send below
READY when a firmware reset is due. -/
def step {ck : Bytes → Bool} (c : Clock) (l : Link) : Action ck → Option Link
  | .send cfg first queued script =>
    if l.adapter.state = .ready ∨ l.adapter.resetExpected then
      let r := spihdSendQueuedFrame cfg l first queued script
      some (r.1.failed r.2)
    else none
  | .receive n inflight failed =>
    some ({l with host := {l.host with rxByteCount := n, rxInflight := inflight}}.failed (!failed))
  | .request fwReset => some {l with adapter := espScheduleRecovery l.adapter fwReset}
  | .recover now r =>
    if (espFwRecoveryWork c now l.adapter).2 = .recover then
      some (spihdRecoverTransport c now l r).1
    else none
  | .boot =>
    some {l.rebase.restarted with adapter := {espBeginReconstruction l.adapter with state := .ready}}
  | .commit =>
    if l.adapter.allowReconstruct then
      some {l with adapter := (espCommitReconstruction {l.adapter with initDone := true}).1}
    else none
  | .abort =>
    if l.adapter.allowReconstruct then
      some {l with adapter := {espClearReconstructFlag l.adapter with state := .disabled}}
    else none
  | .remove => some {l with adapter := {l.adapter with shuttingDown := true}}

/-! What the assembler holds, as a function of the bytes it was given. -/

variable {ck : Bytes → Bool}

theorem assemble_frame (f : HostedFrame ck) (rest : Bytes) :
    assembleNext ck false (f.bytes ++ rest) = some (false,rest,[f.bytes]) := by
  have hb := headerExpected_bounds f.header
  have hl : ¬(f.bytes ++ rest).length < headerSize := by
    rw [List.length_append]
    omega
  have hn : ¬(f.bytes ++ rest).length < f.bytes.length := by
    rw [List.length_append]
    omega
  simp only [assembleNext,if_neg hl,headerExpected_append rest (Nat.le_of_lt hb.1),f.header,if_neg hn,
    List.take_left,List.drop_left,f.valid,if_true]

theorem assemble_wire (frames : List (HostedFrame ck)) :
    (assembleDecoder ck).run false (wire frames) = (false,[],frames.map HostedFrame.bytes) := by
  induction frames with
  | nil => exact assemble_of_none (by simp [wire,assembleNext,headerSize])
  | cons f frames ih =>
    have hw : wire (f :: frames) = f.bytes ++ wire frames := by simp [wire]
    rw [hw,assemble_of_some (assemble_frame f (wire frames)),ih]
    rfl

/-- Bytes that more bytes continue to whole frames do not stop the firmware. -/
theorem assemble_running_of_append (a b : Bytes)
    (h : ((assembleDecoder ck).run false (a ++ b)).1 = false) :
    ((assembleDecoder ck).run false a).1 = false := by
  rw [(assembleDecoder ck).run_append] at h
  cases hr : ((assembleDecoder ck).run false a).1 with
  | false => rfl
  | true =>
    rw [hr,assemble_fatal] at h
    cases h

/-- The assembler is where the decoder of the received bytes is. -/
structure Tracks (ck : Bytes → Bool) (fw : Assembler) (received : Bytes) : Prop where
  running : ((assembleDecoder ck).run false received).1 = false
  fw_eq : fw = Assembler.after {} ((assembleDecoder ck).run false received).2.1
    ((assembleDecoder ck).run false received).2.2

theorem Tracks.isPartial {fw : Assembler} {received : Bytes} (h : Tracks ck fw received) :
    fw.Partial := by
  have hw := (assembleDecoder ck).next_run false received
  rw [h.running] at hw
  have hw' : assembleNext ck false ((assembleDecoder ck).run false received).2.1 = none := hw
  rw [h.fw_eq]
  refine ⟨rfl,rfl,?_⟩
  simp only [assembleNext] at hw'
  split at hw'
  · rename_i hl
    exact .inl hl
  · rename_i hl
    split at hw'
    · cases hw'
    · rename_i n hn
      split at hw'
      · rename_i hs
        refine .inr ?_
        simp only [Assembler.after]
        rw [expectedOf_eq (by omega) hn]
        exact hs
      · split at hw' <;> cases hw'

theorem Tracks.consume {fw : Assembler} {received data : Bytes} (h : Tracks ck fw received)
    (hr : ((assembleDecoder ck).run false (received ++ data)).1 = false) :
    Tracks ck (spiHdConsumeSegment ck fw data) (received ++ data) := by
  refine ⟨hr,?_⟩
  have happ := (assembleDecoder ck).run_append false received data
  rw [h.running] at happ
  have hbuf : fw.buf = ((assembleDecoder ck).run false received).2.1 := by rw [h.fw_eq]; rfl
  have hdel : fw.delivered = ((assembleDecoder ck).run false received).2.2 := by rw [h.fw_eq]; rfl
  rw [← hbuf,← hdel] at happ
  have hfatal : ((assembleDecoder ck).run false (fw.buf ++ data)).1 = false := by
    rw [happ] at hr
    exact hr
  rw [spiHdConsumeSegment,if_neg (by simp [h.isPartial.running]),
    consumeLoop_eq ck _ fw data (by omega) h.isPartial hfatal,happ]
  rfl

/-- Everything received so far is a whole number of frames, and they are out. -/
structure AtBoundary (ck : Bytes → Bool) (l : Link) : Prop where
  empty : l.fw.buf = [] ∧ l.fw.expected = 0
  running : l.fw.fatal = false
  whole : ∃ frames : List (HostedFrame ck),
    l.received = wire frames ∧ l.fw.delivered = frames.map HostedFrame.bytes

theorem atBoundary_of_tracks {l : Link} {frames : List (HostedFrame ck)}
    (h : Tracks ck l.fw l.received) (hw : l.received = wire frames) : AtBoundary ck l := by
  have hfw := h.fw_eq
  rw [hw,assemble_wire] at hfw
  rw [Assembler.after,List.nil_append] at hfw
  exact ⟨by rw [hfw]; exact ⟨rfl,rfl⟩,by rw [hfw],frames,hw,by rw [hfw]⟩

theorem AtBoundary.tracks {l : Link} (h : AtBoundary ck l) : Tracks ck l.fw l.received := by
  obtain ⟨frames,hw,hd⟩ := h.whole
  have hr := assemble_wire frames
  refine ⟨by rw [hw,hr],?_⟩
  rw [hw,hr]
  have hb := h.empty
  have hf := h.running
  cases hfw : l.fw
  simp only [hfw] at hb hf hd
  simp only [Assembler.after,hb.1,hb.2,hf,hd,List.nil_append]
  rfl

theorem AtBoundary.next_frame {l : Link} (h : AtBoundary ck l) (f : HostedFrame ck) :
    AtBoundary ck (l.receive ck f.bytes) ∧
      (l.receive ck f.bytes).fw.delivered = l.fw.delivered ++ [f.bytes] := by
  obtain ⟨frames,hw,hd⟩ := h.whole
  have hw' : l.received ++ f.bytes = wire (frames ++ [f]) := by simp [wire,hw]
  have ht : Tracks ck (l.receive ck f.bytes).fw (l.receive ck f.bytes).received :=
    h.tracks.consume (by rw [hw',assemble_wire])
  refine ⟨atBoundary_of_tracks ht hw',?_⟩
  have hfw := ht.fw_eq
  rw [show (l.receive ck f.bytes).received = wire (frames ++ [f]) from hw',assemble_wire] at hfw
  rw [hfw,hd]
  simp [Assembler.after]

/-! Sending. Only the first segment of a send may be refused without harm. -/

/-- Every segment is given a credit and is taken by the controller, up to the
first one whose completion is unknown. -/
def segmentsStart (segment : Nat) : Nat → Host → Bytes → List Segment → Bool
  | _, _, [], _ => true
  | 0, _, _ :: _, _ => true
  | fuel+1, h, b :: data, script =>
    match spihdWaitTxCredit h (script.headD {}).polls, (script.headD {}).wrdma with
    | none, _ => false
    | some _, .rejected => false
    | some _, .failed _ => true
    | some _, .endFailed _ => true
    | some h, .ok =>
      segmentsStart segment fuel {h with txInflight := false, txSegmentCount := h.txSegmentCount+1}
        ((b :: data).drop segment) script.tail

def laterSegmentsStart (c : TxConfig) (h : Host) (data : Bytes) (script : List Segment) : Bool :=
  match spihdWaitTxCredit h (script.headD {}).polls, (script.headD {}).wrdma with
  | some h, .ok =>
    segmentsStart c.segment (data.length-1)
      {h with txInflight := false, txSegmentCount := h.txSegmentCount+1}
      (data.drop c.segment) script.tail
  | _, _ => true

theorem TxConfig.segment_pos (c : TxConfig) : 0 < c.segment := by
  simp only [segment,SPI_HD_TX_SEGMENT_MIN,SPI_HD_TX_SEGMENT_DEFAULT]
  split <;> omega

theorem head_mem_of_ambiguous {script : List Segment} {w : Wrdma}
    (h : (script.headD {}).wrdma = w) (ha : w.ambiguous = true) :
    ∃ ev ∈ script, ev.wrdma.ambiguous = true := by
  cases script with
  | nil => rw [← h] at ha; cases ha
  | cons ev script => exact ⟨ev,by simp,by rw [← ha,← h]; rfl⟩

/-- How a send that began with `l` can end. -/
inductive Sent (ck : Bytes → Bool) (l : Link) (data : Bytes) (script : List Segment) :
    Link × Bool → Prop where
  | done {l' : Link} (hi : l'.host.txInflight = false) (ht : Tracks ck l'.fw l'.received)
      (hr : l'.received = l.received ++ data) (ha : l'.adapter = l.adapter) : Sent ck l data script (l',true)
  | torn {l' : Link} (hi : l'.host.txInflight = true)
      (he : ∃ ev ∈ script, ev.wrdma.ambiguous = true) (ha : l'.adapter = l.adapter) :
      Sent ck l data script (l',false)

def Link.accepted (ck : Bytes → Bool) (l : Link) (h : Host) (chunk : Bytes) : Link :=
  {l with host := {h with txInflight := false, txSegmentCount := h.txSegmentCount+1}}.receive ck chunk

theorem sendLoop_accepted {segment fuel : Nat} {l : Link} {h : Host} {b : UInt8} {data : Bytes}
    {script : List Segment} (hc : spihdWaitTxCredit l.host (script.headD {}).polls = some h)
    (hw : (script.headD {}).wrdma = .ok) :
    sendLoop ck segment (fuel+1) l (b :: data) script =
      sendLoop ck segment fuel (l.accepted ck h ((b :: data).take segment))
        ((b :: data).drop segment) script.tail := by
  rw [sendLoop]
  simp only [hc,hw]
  rfl

theorem Tracks.accepted {l : Link} {data : Bytes} (ht : Tracks ck l.fw l.received)
    (hr : ((assembleDecoder ck).run false (l.received ++ data)).1 = false) (h : Host) (n : Nat) :
    Tracks ck (l.accepted ck h (data.take n)).fw (l.accepted ck h (data.take n)).received ∧
    ((assembleDecoder ck).run false
      ((l.accepted ck h (data.take n)).received ++ data.drop n)).1 = false := by
  have hr' : ((assembleDecoder ck).run false ((l.received ++ data.take n) ++ data.drop n)).1 = false := by
    rw [List.append_assoc,List.take_append_drop]
    exact hr
  exact ⟨ht.consume (assemble_running_of_append _ _ hr'),hr'⟩

theorem Sent.of_accepted {l : Link} {h : Host} {n : Nat} {data : Bytes} {script : List Segment}
    {r : Link × Bool} (hs : Sent ck (l.accepted ck h (data.take n)) (data.drop n) script.tail r) :
    Sent ck l data script r := by
  cases hs with
  | done hi ht hr ha =>
    refine .done hi ht ?_ ha
    rw [hr]
    simp [Link.accepted,Link.receive,List.append_assoc,List.take_append_drop]
  | torn hi he ha =>
    obtain ⟨ev,hev,hamb⟩ := he
    exact .torn hi ⟨ev,List.mem_of_mem_tail hev,hamb⟩ ha

theorem sendLoop_sent {segment : Nat} (hseg : 0 < segment) (fuel : Nat) (l : Link) (data : Bytes)
    (script : List Segment) (hf : data.length ≤ fuel) (hi : l.host.txInflight = false)
    (ht : Tracks ck l.fw l.received)
    (hr : ((assembleDecoder ck).run false (l.received ++ data)).1 = false)
    (hs : segmentsStart segment fuel l.host data script = true) :
    Sent ck l data script (sendLoop ck segment fuel l data script) := by
  induction fuel generalizing l data script with
  | zero =>
    have hd : data = [] := List.length_eq_zero_iff.mp (by omega)
    subst hd
    exact .done hi ht (by simp) rfl
  | succ fuel ih =>
    cases data with
    | nil => exact .done hi ht (by simp) rfl
    | cons b data =>
      rw [segmentsStart] at hs
      cases hc : spihdWaitTxCredit l.host (script.headD {}).polls with
      | none =>
        simp only [hc] at hs
        cases hs
      | some h =>
        cases hw : (script.headD {}).wrdma with
        | rejected =>
          simp only [hc,hw] at hs
          cases hs
        | failed n =>
          rw [sendLoop]
          simp only [hc,hw]
          exact .torn rfl (head_mem_of_ambiguous hw rfl) rfl
        | endFailed n =>
          rw [sendLoop]
          simp only [hc,hw]
          exact .torn rfl (head_mem_of_ambiguous hw rfl) rfl
        | ok =>
          simp only [hc,hw] at hs
          obtain ⟨ht',hr'⟩ := ht.accepted hr h segment
          rw [sendLoop_accepted hc hw]
          exact .of_accepted (ih _ _ _
            (by simp only [List.length_drop,List.length_cons] at *; omega) rfl ht' hr' hs)

/-- After a send of whole frames the driver knows whether the firmware is on a boundary. -/
structure Settled (ck : Bytes → Bool) (l : Link) (script : List Segment) (r : Link × Bool) : Prop where
  adapter : r.1.adapter = l.adapter
  done : r.2 = true → r.1.host.txInflight = false
  boundary : r.1.host.txInflight = false → AtBoundary ck r.1
  torn : r.1.host.txInflight = true → ∃ ev ∈ script, ev.wrdma.ambiguous = true

theorem Settled.unsent {l l' : Link} {script : List Segment} (hb : AtBoundary ck l)
    (hi : l'.host.txInflight = false) (ha : l'.adapter = l.adapter) (hfw : l'.fw = l.fw)
    (hr : l'.received = l.received) : Settled ck l script (l',false) where
  adapter := ha
  done := fun h => nomatch h
  boundary := fun _ => ⟨by rw [hfw]; exact hb.empty,by rw [hfw]; exact hb.running,by
    rw [hfw,hr]; exact hb.whole⟩
  torn := fun h => by rw [hi] at h; cases h

theorem Settled.of_sent {l : Link} {old : List (HostedFrame ck)} (frames : List (HostedFrame ck))
    {script : List Segment} {r : Link × Bool} (hold : l.received = wire old) (h : Sent ck l (wire frames) script r) :
    Settled ck l script r := by
  cases h with
  | done hi ht hr ha =>
    refine ⟨ha,fun _ => hi,fun _ => ?_,fun h => by rw [hi] at h; cases h⟩
    refine atBoundary_of_tracks ht (show _ = wire (old ++ frames) from ?_)
    rw [hr,hold]
    simp [wire]
  | torn hi he ha =>
    exact ⟨ha,fun h => (nomatch h),fun h => (by rw [hi] at h; cases h),fun _ => he⟩

theorem spihdSendFrame_settled (c : TxConfig) (l : Link) (frames : List (HostedFrame ck))
    (script : List Segment) (hi : l.host.txInflight = false) (hb : AtBoundary ck l)
    (hs : laterSegmentsStart c l.host (wire frames) script = true) :
    Settled ck l script (spihdSendFrame ck c l (wire frames) script) := by
  have hun : Settled ck l script (l,false) := .unsent hb hi rfl rfl rfl
  rw [spihdSendFrame]
  generalize (if c.txBatch then SPI_HD_TX_BATCH_MAX else SPI_HD_BUF_SIZE) = limit
  split
  · exact hun
  split
  · exact hun
  rename_i hpos _
  obtain ⟨old,hold,-⟩ := hb.whole
  have hr : ((assembleDecoder ck).run false (l.received ++ wire frames)).1 = false := by
    have : l.received ++ wire frames = wire (old ++ frames) := by simp [wire,hold]
    rw [this,assemble_wire]
  cases hd : wire frames with
  | nil => simp [hd] at hpos
  | cons b data =>
    rw [laterSegmentsStart,hd] at hs
    rw [hd] at hr
    cases hc : spihdWaitTxCredit l.host (script.headD {}).polls with
    | none =>
      rw [List.length_cons,sendLoop]
      simp only [hc]
      exact hun
    | some h =>
      cases hw : (script.headD {}).wrdma with
      | rejected =>
        rw [List.length_cons,sendLoop]
        simp only [hc,hw]
        exact Settled.unsent hb rfl rfl rfl rfl
      | failed n =>
        rw [List.length_cons,sendLoop]
        simp only [hc,hw]
        exact .of_sent frames hold (.torn rfl (head_mem_of_ambiguous hw rfl) rfl)
      | endFailed n =>
        rw [List.length_cons,sendLoop]
        simp only [hc,hw]
        exact .of_sent frames hold (.torn rfl (head_mem_of_ambiguous hw rfl) rfl)
      | ok =>
        simp only [hc,hw] at hs
        obtain ⟨ht',hr'⟩ := hb.tracks.accepted hr h c.segment
        have hseg := c.segment_pos
        rw [List.length_cons,sendLoop_accepted hc hw]
        have hsent : Sent ck l (b :: data) script _ := .of_accepted (sendLoop_sent hseg _ _ _ _
          (by simp only [List.length_drop,List.length_cons]; omega) rfl ht' hr' hs)
        exact .of_sent frames hold (by rw [hd]; exact hsent)

/-! Runs. A session is live until a firmware reset is due or the driver goes away. -/

def Link.live (l : Link) : Prop :=
  l.adapter.shuttingDown = false ∧
    (l.adapter.allowReconstruct = true ∨ l.adapter.initDone = true ∧ l.adapter.resetExpected = false)

structure Inv (ck : Bytes → Bool) (l : Link) : Prop where
  boundary : l.live → l.host.txInflight = false → AtBoundary ck l
  /-- Reconstruction keeps READY through an error, every other owner gives it up. -/
  sending : l.live → l.adapter.allowReconstruct = true ∨ l.adapter.state = .ready →
    l.host.txInflight = false

/-- No later segment of a send is refused, and while `ESP_ALLOW_RECONSTRUCT` keeps
READY no transfer ends with an unknown completion. -/
def Untorn (l : Link) : Action ck → Prop
  | .send c first queued script =>
    laterSegmentsStart c l.host (wire (queuedFrames c first queued)) script = true ∧
      (l.adapter.allowReconstruct = true → ∀ ev ∈ script, ev.wrdma.ambiguous = false)
  | _ => True

instance (l : Link) (a : Action ck) : Decidable (Untorn l a) := by
  cases a <;> unfold Untorn <;> infer_instance

theorem espScheduleRecovery_flags (a : Adapter) (fwReset : Bool) :
    (espScheduleRecovery a fwReset).allowReconstruct = a.allowReconstruct ∧
    (espScheduleRecovery a fwReset).initDone = a.initDone ∧
    (espScheduleRecovery a fwReset).shuttingDown = a.shuttingDown := by
  simp only [espScheduleRecovery,espRecoveryDropTx]
  split_ifs <;> simp

theorem espScheduleRecovery_resetExpected (a : Adapter) (fwReset : Bool)
    (h : a.shuttingDown = false) :
    (espScheduleRecovery a fwReset).resetExpected = (a.resetExpected || fwReset) := by
  simp only [espScheduleRecovery,espRecoveryDropTx,h]
  split_ifs <;> simp_all

theorem espScheduleRecovery_state (a : Adapter) (fwReset : Bool) (h : a.shuttingDown = false)
    (hr : a.allowReconstruct = false) : (espScheduleRecovery a fwReset).state ≠ .ready := by
  simp only [espScheduleRecovery,espRecoveryDropTx,h,hr]
  split_ifs <;> simp_all

theorem espScheduleRecovery_ready (a : Adapter) (fwReset : Bool)
    (h : (espScheduleRecovery a fwReset).state = .ready) : a.state = .ready := by
  simp only [espScheduleRecovery,espRecoveryDropTx] at h
  split_ifs at h <;> simp_all

theorem live_of_schedule {l : Link} {fwReset : Bool}
    (h : Link.live {l with adapter := espScheduleRecovery l.adapter fwReset}) : l.live := by
  obtain ⟨hr,hi,hs⟩ := espScheduleRecovery_flags l.adapter fwReset
  obtain ⟨hdown,h⟩ := h
  simp only [hs] at hdown
  refine ⟨hdown,?_⟩
  simp only [hr,hi,espScheduleRecovery_resetExpected _ _ hdown,Bool.or_eq_false_iff] at h
  rcases h with h | ⟨hi,h,-⟩
  · exact .inl h
  · exact .inr ⟨hi,h⟩

theorem Inv.schedule {l : Link} (h : Inv ck l) (fwReset : Bool) :
    Inv ck {l with adapter := espScheduleRecovery l.adapter fwReset} := by
  refine ⟨fun hl hi => ?_,fun hl hs => ?_⟩
  · have := h.boundary (live_of_schedule hl) hi
    exact ⟨this.empty,this.running,this.whole⟩
  · refine h.sending (live_of_schedule hl) ?_
    rcases hs with hs | hs
    · exact .inl ((espScheduleRecovery_flags _ _).1 ▸ hs)
    · exact .inr (espScheduleRecovery_ready _ _ hs)

theorem Inv.receive {l : Link} (h : Inv ck l) (n : UInt32) (inflight : Bool) :
    Inv ck {l with host := {l.host with rxByteCount := n, rxInflight := inflight}} :=
  ⟨fun hl hi => ⟨(h.boundary hl hi).empty,(h.boundary hl hi).running,(h.boundary hl hi).whole⟩,
    fun hl hs => h.sending hl hs⟩

theorem Inv.failed {l : Link} (h : Inv ck l) (ok : Bool) : Inv ck (l.failed ok) := by
  cases ok with
  | true => exact h
  | false => exact h.schedule false

theorem Inv.of_not_live {l : Link} (h : ¬l.live) : Inv ck l :=
  ⟨fun hl => absurd hl h,fun hl => absurd hl h⟩

theorem Inv.of_boundary {l : Link} (hi : l.host.txInflight = false) (hb : AtBoundary ck l) :
    Inv ck l := ⟨fun _ _ => hb,fun _ _ => hi⟩

theorem atBoundary_restarted (l : Link) : AtBoundary ck l.rebase.restarted :=
  ⟨⟨rfl,rfl⟩,rfl,[],rfl,rfl⟩

/-- Only the adapter differs. -/
theorem AtBoundary.setAdapter {l : Link} (h : AtBoundary ck l) (a : Adapter) :
    AtBoundary ck {l with adapter := a} := ⟨h.empty,h.running,h.whole⟩

theorem sendLoop_adapter (segment fuel : Nat) (l : Link) (data : Bytes) (script : List Segment) :
    (sendLoop ck segment fuel l data script).1.adapter = l.adapter := by
  induction fuel generalizing l data script with
  | zero => cases data <;> rfl
  | succ fuel ih =>
    cases data with
    | nil => rfl
    | cons b data =>
      cases hc : spihdWaitTxCredit l.host (script.headD {}).polls with
      | none => simp only [sendLoop,hc]
      | some h =>
        cases hw : (script.headD {}).wrdma with
        | ok => rw [sendLoop_accepted hc hw,ih]; rfl
        | rejected => simp only [sendLoop,hc,hw]; rfl
        | failed n => simp only [sendLoop,hc,hw]; rfl
        | endFailed n => simp only [sendLoop,hc,hw]; rfl

theorem spihdSendFrame_adapter (c : TxConfig) (l : Link) (data : Bytes) (script : List Segment) :
    (spihdSendFrame ck c l data script).1.adapter = l.adapter := by
  rw [spihdSendFrame]
  generalize (if c.txBatch then SPI_HD_TX_BATCH_MAX else SPI_HD_BUF_SIZE) = limit
  split
  · rfl
  split
  · rfl
  exact sendLoop_adapter _ _ _ _ _

theorem Inv.send {l : Link} (h : Inv ck l) (c : TxConfig) (first : HostedFrame ck)
    (queued : Option (HostedFrame ck)) (script : List Segment)
    (hen : l.adapter.state = .ready ∨ l.adapter.resetExpected = true)
    (hok : Untorn l (.send c first queued script)) :
    Inv ck ((spihdSendQueuedFrame c l first queued script).1.failed
      (spihdSendQueuedFrame c l first queued script).2) := by
  have hadp : (spihdSendFrame ck c l (wire (queuedFrames c first queued)) script).1.adapter = l.adapter :=
    spihdSendFrame_adapter c l _ script
  by_cases hl : l.live
  case neg =>
    refine Inv.failed (.of_not_live ?_) _
    simp only [Link.live] at hl
    simp only [Link.live,spihdSendQueuedFrame,hadp]
    exact hl
  case pos =>
    have hs : l.adapter.allowReconstruct = true ∨ l.adapter.state = .ready := by
      rcases hen with hen | hen
      · exact .inr hen
      · refine .inl (hl.2.resolve_right fun hx => ?_)
        rw [hen] at hx
        exact absurd hx.2 (by simp)
    have hi := h.sending hl hs
    have hset := spihdSendFrame_settled c l (queuedFrames c first queued) script hi
      (h.boundary hl hi) hok.1
    rw [spihdSendQueuedFrame]
    generalize spihdSendFrame ck c l (wire (queuedFrames c first queued)) script = r at hset hadp
    obtain ⟨l',ok⟩ := r
    cases hx : l'.host.txInflight with
    | false => exact (Inv.of_boundary hx (hset.boundary hx)).failed ok
    | true =>
      -- an unknown completion: not in reconstruction, so the state drops below READY
      obtain ⟨ev,hev,hamb⟩ := hset.torn hx
      have hrec : l.adapter.allowReconstruct = false := by
        cases hr : l.adapter.allowReconstruct with
        | false => rfl
        | true => rw [hok.2 hr ev hev] at hamb; cases hamb
      have hf : ok = false := by
        cases ok with
        | false => rfl
        | true => rw [hset.done rfl] at hx; cases hx
      subst hf
      have hadp' : l'.adapter = l.adapter := hadp
      have hst := espScheduleRecovery_state l.adapter false hl.1 hrec
      have hfl := (espScheduleRecovery_flags l.adapter false).1
      refine ⟨fun _ hi => ?_,fun _ hs => ?_⟩
      · change l'.host.txInflight = false at hi
        rw [hi] at hx
        cases hx
      · change (espScheduleRecovery l'.adapter false).allowReconstruct = true ∨
          (espScheduleRecovery l'.adapter false).state = .ready at hs
        rw [hadp',hfl,hrec] at hs
        exact absurd (hs.resolve_left (by simp)) hst

theorem espFwRecoveryWork_recover {c : Clock} {now : Nat} {a : Adapter}
    (h : (espFwRecoveryWork c now a).2 = .recover) :
    a.shuttingDown = false ∧ a.allowReconstruct = false := by
  simp only [espFwRecoveryWork] at h
  split_ifs at h with h1 h2 h3 h4 h5 h6
  exact ⟨by simpa using (not_or.mp h1).1,by simpa using h5⟩

theorem espRequestFirmwareRestart_flags (c : Clock) (now : Nat) (a : Adapter) :
    (espRequestFirmwareRestart c now a).1.allowReconstruct = a.allowReconstruct ∧
    (espRequestFirmwareRestart c now a).1.resetExpected = a.resetExpected ∧
    (espRequestFirmwareRestart c now a).1.shuttingDown = a.shuttingDown := by
  simp only [espRequestFirmwareRestart]
  split_ifs <;> simp

/-- The resync resumes only with nothing in flight. -/
theorem spihdResyncLiveSession_resumed {l l' : Link} {r : Regs}
    (h : spihdResyncLiveSession l r = (l',.resumed)) :
    (l.host.txInflight = false ∧ l.host.rxInflight = false) ∧
      l' = {l with host := {l.host with rxCreditLimit := 0, dataPath := true}
                   adapter := {l.adapter with state := .ready}} := by
  simp only [spihdResyncLiveSession] at h
  split at h
  · cases h
  · split at h
    · cases h
    split at h
    · cases h
    rename_i hfly
    split at h
    · split at h
      · cases h
      · exact ⟨by simpa using hfly,(Prod.mk.inj h).1.symm⟩
    · cases h

theorem spihdResyncLiveSession_same {l l' : Link} {r : Regs} {res : Resync}
    (h : spihdResyncLiveSession l r = (l',res)) (hres : res ≠ .resumed) : l' = l := by
  simp only [spihdResyncLiveSession] at h
  split at h
  · exact (Prod.mk.inj h).1.symm
  · split_ifs at h
    · exact (Prod.mk.inj h).1.symm
    · exact (Prod.mk.inj h).1.symm
    · split at h
      · split_ifs at h
        · exact (Prod.mk.inj h).1.symm
        · exact absurd (Prod.mk.inj h).2.symm hres
      · exact (Prod.mk.inj h).1.symm

theorem not_live_of_reset {c : Clock} {now : Nat} {l : Link} (hrec : l.adapter.allowReconstruct = false) :
    ¬Link.live {l with adapter := (espRequestFirmwareRestart c now (espScheduleRecovery l.adapter true)).1} := by
  rintro ⟨hdown,hl⟩
  obtain ⟨h1,h2,h3⟩ := espRequestFirmwareRestart_flags c now (espScheduleRecovery l.adapter true)
  obtain ⟨h4,-,h5⟩ := espScheduleRecovery_flags l.adapter true
  simp only [h3,h5] at hdown
  simp only [h1,h2,h4,espScheduleRecovery_resetExpected _ _ hdown,hrec] at hl
  simp at hl

theorem Inv.recover {c : Clock} {now : Nat} {l : Link} (h : Inv ck l) (r : Regs)
    (hw : (espFwRecoveryWork c now l.adapter).2 = .recover) :
    Inv ck (spihdRecoverTransport c now l r).1 := by
  have hrec := (espFwRecoveryWork_recover hw).2
  rw [spihdRecoverTransport]
  by_cases hx : l.adapter.initDone = true ∧ l.adapter.resetExpected = false
  case neg =>
    rw [if_neg hx]
    refine .of_not_live fun hl => hx ?_
    exact hl.2.resolve_left (by rw [show l.rebase.adapter = l.adapter from rfl,hrec]; simp)
  case pos =>
    rw [if_pos hx]
    cases hres : spihdResyncLiveSession l r with
    | mk l' res =>
      cases res with
      | readError =>
        rw [spihdResyncLiveSession_same hres (by decide)]
        exact h
      | notReady => exact .of_boundary rfl (atBoundary_restarted l')
      | unclean =>
        obtain rfl := spihdResyncLiveSession_same hres (by decide)
        exact .of_not_live (not_live_of_reset hrec)
      | resumed =>
        obtain ⟨⟨hi,-⟩,rfl⟩ := spihdResyncLiveSession_resumed hres
        refine ⟨fun hl _ => ?_,fun _ _ => hi⟩
        have hb := h.boundary ⟨hl.1,.inr hx⟩ hi
        exact ⟨hb.empty,hb.running,hb.whole⟩

theorem step_inv {c : Clock} (l : Link) (a : Action ck) (l' : Link) (h : Inv ck l) (hok : Untorn l a)
    (hs : step c l a = some l') : Inv ck l' := by
  cases a with
  | send cfg first queued script =>
    simp only [step] at hs
    split at hs
    · rename_i hen
      cases hs
      exact h.send cfg first queued script hen hok
    · cases hs
  | receive n inflight failed =>
    cases hs
    exact (h.receive n inflight).failed _
  | request fwReset =>
    cases hs
    exact h.schedule fwReset
  | recover now r =>
    simp only [step] at hs
    split at hs
    · rename_i hw
      cases hs
      exact h.recover r hw
    · cases hs
  | boot =>
    cases hs
    exact .of_boundary rfl ((atBoundary_restarted l).setAdapter _)
  | commit =>
    simp only [step] at hs
    split at hs
    · rename_i hr
      cases hs
      by_cases hd : l.adapter.shuttingDown = false
      · have hi := h.sending ⟨hd,.inl hr⟩ (.inl hr)
        exact .of_boundary hi ((h.boundary ⟨hd,.inl hr⟩ hi).setAdapter _)
      · refine .of_not_live fun hl => hd ?_
        have := hl.1
        simp only [espCommitReconstruction] at this
        split at this <;> exact this
    · cases hs
  | abort =>
    simp only [step] at hs
    split at hs
    · rename_i hr
      cases hs
      by_cases hd : l.adapter.shuttingDown = false
      · have hi := h.sending ⟨hd,.inl hr⟩ (.inl hr)
        exact .of_boundary hi ((h.boundary ⟨hd,.inl hr⟩ hi).setAdapter _)
      · exact .of_not_live fun hl => hd hl.1
    · cases hs
  | remove =>
    cases hs
    exact .of_not_live fun hl => nomatch hl.1

theorem inv_initial : Inv ck {} := .of_not_live fun hl => by
  have := hl.2
  simp at this

theorem spihdRecoverTransport_resumed {c : Clock} {now : Nat} {l l' : Link} {r : Regs}
    (h : spihdRecoverTransport c now l r = (l',.resumed)) :
    (l.adapter.initDone = true ∧ l.adapter.resetExpected = false) ∧
      (l.host.txInflight = false ∧ l.host.rxInflight = false) ∧
      l'.fw = l.fw ∧ l'.received = l.received := by
  rw [spihdRecoverTransport] at h
  split at h
  · rename_i hx
    refine ⟨hx,?_⟩
    cases hres : spihdResyncLiveSession l r with
    | mk m res =>
      rw [hres] at h
      cases res with
      | readError => cases h
      | notReady => cases h
      | unclean => cases h
      | resumed =>
        obtain ⟨hi,rfl⟩ := spihdResyncLiveSession_resumed hres
        cases h
        exact ⟨hi,rfl,rfl⟩
  · cases h

/-- A resync that resumes the session finds the firmware on a frame boundary. -/
theorem live_resync_on_boundary (ck : Bytes → Bool) (c : Clock) (acts : List (Action ck)) (l l' : Link)
    (hrun : exec (step c) {} acts = some l) (hok : Along (step c) Untorn {} acts)
    (now : Nat) (r : Regs) (hw : (espFwRecoveryWork c now l.adapter).2 = .recover)
    (hret : spihdRecoverTransport c now l r = (l',.resumed)) :
    AtBoundary ck l' ∧ ∀ f : HostedFrame ck,
      (l'.receive ck f.bytes).fw.delivered = l'.fw.delivered ++ [f.bytes] := by
  have hinv : Inv ck l := exec_invariant_along step_inv hok inv_initial hrun
  obtain ⟨hlive,⟨hi,-⟩,hfw,hrecv⟩ := spihdRecoverTransport_resumed hret
  have hb := hinv.boundary ⟨(espFwRecoveryWork_recover hw).1,.inr hlive⟩ hi
  have hb' : AtBoundary ck l' :=
    ⟨by rw [hfw]; exact hb.empty,by rw [hfw]; exact hb.running,by rw [hfw,hrecv]; exact hb.whole⟩
  exact ⟨hb',fun f => (hb'.next_frame f).2⟩

/-- A data frame of 40 bytes, two segments at the default size. -/
def sampleFrame : HostedFrame (fun _ => true) where
  bytes := [0,0,0,0,28,0,12,0,0,0,0,0] ++ List.replicate 28 7
  header := by decide
  valid := by decide

def healthy : Regs := ⟨some 0xee,some 9,some 0,1600⟩

/-- Boot, one frame, a frame whose WR_END fails; the resync then demands a reset
instead, and after the next boot a credit timeout before any segment is resumed. -/
def cleanRun : List (Action (fun _ => true)) :=
  [.boot,.commit,
   .send {} sampleFrame none [⟨[⟨none,some 8⟩],.ok⟩,⟨[],.ok⟩],
   .send {} sampleFrame none [⟨[],.ok⟩,⟨[],.endFailed 3⟩],
   .recover 0 healthy,.boot,.commit,
   .send {} sampleFrame none [⟨[⟨none,some 8⟩],.ok⟩],
   .send {} sampleFrame none [⟨[],.rejected⟩]]

theorem live_resync_on_boundary_clean :
    ∃ l ∈ exec (step clock32) {} cleanRun,
      (spihdRecoverTransport clock32 0 l healthy).2 = .resumed ∧
      AtBoundary (fun _ => true) (spihdRecoverTransport clock32 0 l healthy).1 := by
  have h : ∃ l ∈ exec (step clock32) {} cleanRun,
      (espFwRecoveryWork clock32 0 l.adapter).2 = .recover ∧
      (spihdRecoverTransport clock32 0 l healthy).2 = .resumed := by decide +kernel
  obtain ⟨l,hl,hw,hr⟩ := h
  exact ⟨l,hl,hr,(live_resync_on_boundary _ _ _ l _ hl (by decide +kernel) 0 healthy hw
    (Prod.ext rfl hr)).1⟩

/-- The second segment is never given a credit. Nothing is in flight then, so the
session is resumed with the first 32 bytes still in the assembler. -/
def tornRun : List (Action (fun _ => true)) :=
  [.boot,.commit,.send {} sampleFrame none [⟨[⟨none,some 1⟩],.ok⟩]]

theorem live_resync_inside_frame :
    ∃ l ∈ exec (step clock32) {} tornRun,
      (espFwRecoveryWork clock32 0 l.adapter).2 = .recover ∧
      (spihdRecoverTransport clock32 0 l ⟨some 0xee,some 1,some 0,1600⟩).2 = .resumed ∧
      ¬AtBoundary (fun _ => true)
        (spihdRecoverTransport clock32 0 l ⟨some 0xee,some 1,some 0,1600⟩).1 := by
  have h : ∃ l ∈ exec (step clock32) {} tornRun,
      (espFwRecoveryWork clock32 0 l.adapter).2 = .recover ∧
      (spihdRecoverTransport clock32 0 l ⟨some 0xee,some 1,some 0,1600⟩).2 = .resumed ∧
      (spihdRecoverTransport clock32 0 l ⟨some 0xee,some 1,some 0,1600⟩).1.fw.buf.length = 32 := by
    decide +kernel
  obtain ⟨l,hl,hw,hr,hb⟩ := h
  refine ⟨l,hl,hw,hr,fun hx => ?_⟩
  rw [hx.empty.1] at hb
  cases hb

end EspHosted.SpiHd
