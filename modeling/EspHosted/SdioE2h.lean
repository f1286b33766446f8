import EspHosted.Lib.Padded
import EspHosted.Lib.Run
import EspHosted.SdioHost
import EspHosted.SpiHdTx
import EspHosted.UsbDevice

/-!
Low-priority E2H traffic over SDIO: `process_low_prio_tx_packets` and `process_tx_pkt` of
`main/app_main.c` with `sdio_write` and `sdio_write_aggr` of `main/sdio_slave_api.c`, and
`read_packet` of `host/sdio/esp_sdio.c`.
-/

set_option autoImplicit false

namespace EspHosted.Sdio.E2h
open EspHosted Padded Run Usb
open EspHosted.SpiHd (setChecksum sameHeader_setChecksum hdrIfNum hdrPacketType)

def SDIO_TX_LATENCY_BYPASS_SIZE : Nat := 256
def SDIO_SMALL_TX_BOUNCE_SIZE : Nat := 2048

/-- `SDIO_TX_AGGR_SIZE` follows the width of the DMA descriptor of the chip. -/
structure Config where
  txAggrSize : Nat
  checksum : Bool := false
  cksum : Bytes → UInt16
  size : txAggrSize = 15872 ∨ txAggrSize = 3584

structure TxBuf where
  handle : BufHandle
  rawTpRunId : UInt32 := 0

def TxBuf.isTest (b : TxBuf) : Bool := b.handle.ifType.toNat = ESP_TEST_IF

def TxBuf.header (b : TxBuf) (offset : Nat) (flag : UInt8) (seq : UInt32) : PayloadHeader :=
  let hdr : PayloadHeader :=
    {ifType := nibble b.handle.ifType.toNat
     ifNum := nibble b.handle.ifNum.toNat
     packetType := b.handle.pktType
     len := UInt16.ofNat b.handle.payload.length
     offset := UInt16.ofNat offset
     reserved2 := flag}
  if hdr.ifType.val = ESP_TEST_IF then debugRawTpSetSeq hdr seq else hdr

/-- What both encoders put on the wire; the bytes between header and payload are zero. -/
def TxBuf.frame (c : Config) (b : TxBuf) (offset : Nat) (flag : UInt8) (seq : UInt32) : Bytes :=
  let f := (b.header offset flag seq).encode ++ (List.replicate (offset-headerSize) 0 ++ b.handle.payload)
  if c.checksum then setChecksum f (c.cksum f) else f

/-- Why a frame is not sent. -/
inductive Drop where
  | closed
  | invalid
  | inactive
  | refused
  deriving DecidableEq, Repr

inductive Fate where
  | framed (f : Bytes)
  | dropped (d : Drop)
  deriving DecidableEq, Repr

/-- One call of `sdio_slave_transmit`; it returns when the host has read the bytes. -/
structure Transfer where
  bytes : Bytes
  frames : List Bytes
  aggregate : Bool
  sent : Bool
  deriving DecidableEq, Repr

/-- Where the single consumer stands in `process_low_prio_tx_packets`; without an
aggregation buffer a call sends one packet. -/
inductive Pc where
  | idle
  | closed (queued : Nat)
  | single
  | fill (queued : Nat) (aggr : Bytes) (frames : List Bytes) (rawTpFrames : UInt32)
  | flush (aggr : Bytes) (frames : List Bytes)
  deriving DecidableEq, Repr

/-- What the transport finds; `dmaAligned` says that the Wi-Fi buffer is used in place,
`admitted` that `sdio_transmit_admitted` succeeds. -/
structure WriteEnv where
  ifOps : Bool := true
  /-- `handle->state` is ACTIVE and `power_save_on` is not set. -/
  active : Bool := true
  bounce : Bool := true
  alignPadding : Fin 4 := 0
  dmaAligned : Bool := true
  alloc : Bool := true
  admitted : Bool := true
  deriving DecidableEq, Repr

/-- `wakeup` is `power_save_on && wow.magic_pkt` and the answer of `is_wakeup_needed`,
`seq` the value of `debug_raw_tp_tx_seq_get`. -/
structure Turn where
  datapath : Bool := true
  runActive : UInt32 → Bool := fun _ => true
  wakeup : Bool := false
  seq : UInt32 := 0
  write : WriteEnv := {}

/-- An item the consumer has dealt with: what it found then and what became of the item. -/
structure Entry where
  buf : TxBuf
  turn : Turn
  aggregated : Bool
  fate : Fate

/-- `pushed`, `log` and `transfers` are records: what the producers queued, what became of
it in the order it was taken, and what was handed to the SDIO slave. -/
structure LowPrio where
  queue : List TxBuf := []
  deferred : Option TxBuf := none
  pc : Pc := .idle
  pushed : List TxBuf := []
  log : List Entry := []
  transfers : List Transfer := []

def isWifiDataPacket (b : TxBuf) : Bool :=
  b.handle.pktType = PACKET_TYPE_DATA &&
    (b.handle.ifType.toNat = ESP_STA_IF || b.handle.ifType.toNat = ESP_AP_IF)

/-- `wire_offset` of `sdio_write`, `none` where it gives up before the transfer. -/
def wireOffset (e : WriteEnv) (b : TxBuf) : Option Nat :=
  let len := b.handle.payload.length
  if b.handle.ifType.toNat = ESP_RCP_IF then
    if e.bounce = false ∨ ESP_HOSTED_RCP_CHUNK_MAX < len ∨
        SDIO_SMALL_TX_BOUNCE_SIZE < ESP_HOSTED_RCP_TX_HEADROOM+len then none
    else some ESP_HOSTED_RCP_TX_HEADROOM
  else if isWifiDataPacket b ∧ e.dmaAligned then some (headerSize+e.alignPadding.val)
  else if (e.bounce ∧ len+headerSize ≤ SDIO_SMALL_TX_BOUNCE_SIZE) ∨ e.alloc then some headerSize
  else none

def sdioWrite (c : Config) (e : WriteEnv) (b : TxBuf) (seq : UInt32) : Option Transfer :=
  if e.active = false ∨ b.handle.payload = [] then none
  else
    (wireOffset e b).map (fun offset =>
      let f := b.frame c offset b.handle.flag seq
      {bytes := f, frames := [f], aggregate := false, sent := e.admitted})

def LowPrio.record (s : LowPrio) (x : Entry) : LowPrio := {s with log := s.log ++ [x]}

def processTxPkt (c : Config) (e : Turn) (s : LowPrio) (b : TxBuf) : LowPrio :=
  if e.datapath = false then s.record ⟨b,e,false,.dropped .closed⟩
  else if e.write.ifOps = false then s.record ⟨b,e,false,.dropped .refused⟩
  else if b.isTest ∧ e.runActive b.rawTpRunId = false then s.record ⟨b,e,false,.dropped .inactive⟩
  else
    match sdioWrite c e.write b e.seq with
    | none => s.record ⟨b,e,false,.dropped .refused⟩
    | some t => {s.record ⟨b,e,false,.framed t.bytes⟩ with transfers := s.transfers ++ [t]}

/-- The body of the aggregation loop for the item it has taken. -/
def place (c : Config) (e : Turn) (s : LowPrio) (b : TxBuf) (queued : Nat) (aggr : Bytes)
    (frames : List Bytes) (rawTpFrames : UInt32) : LowPrio :=
  let len := b.handle.payload.length
  if b.handle.payload = [] ∨ c.txAggrSize < len+headerSize then
    {s.record ⟨b,e,true,.dropped .invalid⟩ with pc := .fill queued aggr frames rawTpFrames}
  else if b.isTest ∧ e.runActive b.rawTpRunId = false then
    {s.record ⟨b,e,true,.dropped .inactive⟩ with pc := .fill queued aggr frames rawTpFrames}
  else
    let flushAfterPkt := decide (len ≤ SDIO_TX_LATENCY_BYPASS_SIZE)
    if aggr ≠ [] ∧ (flushAfterPkt ∨ c.txAggrSize < aggr.length+alignUp 4 (len+headerSize)) then
      {s with deferred := some b, pc := .flush aggr frames}
    else
      let f := b.frame c headerSize (if e.wakeup then 0xff else b.handle.flag) (e.seq+rawTpFrames)
      {s.record ⟨b,e,true,.framed f⟩ with
        pc :=
          if flushAfterPkt then .flush (aggr ++ pad 4 0 f) (frames ++ [f])
          else .fill queued (aggr ++ pad 4 0 f) (frames ++ [f]) (rawTpFrames+(if b.handle.ifType.toNat%16 = ESP_TEST_IF then 1 else 0))}

/-- `sdio_write_aggr`. -/
def flush (e : Turn) (s : LowPrio) (aggr : Bytes) (frames : List Bytes) : LowPrio :=
  if aggr = [] then {s with pc := .idle}
  else {s with
    pc := .idle
    transfers := s.transfers ++
      [{bytes := aggr, frames := frames, aggregate := true
        sent := e.write.ifOps && e.write.active && e.write.admitted}]}

inductive Action where
  | push (b : TxBuf)
  /-- `send_task` calls the function with the number of queued items it has seen; `datapath`
  is what the function finds on entry. -/
  | call (queued : Nat) (aggrBuf datapath : Bool)
  | turn (e : Turn)

/-- `none` where the consumer is not at that point or blocks on the queue. -/
def lowStep (c : Config) (s : LowPrio) : Action → Option LowPrio
  | .push b => some {s with queue := s.queue ++ [b], pushed := s.pushed ++ [b]}
  | .call queued aggrBuf datapath =>
    if s.pc ≠ .idle then none
    else if queued = 0 ∧ s.deferred.isNone then some s
    else if datapath = false then some {s with pc := .closed queued}
    else if aggrBuf then some {s with pc := .fill queued [] [] 0}
    else some {s with pc := .single}
  | .turn e =>
    match s.pc with
    | .idle => none
    | .closed queued =>
      match s.deferred, queued, s.queue with
      | some b, _, _ => some (processTxPkt c e {s with deferred := none} b)
      | none, 0, _ => some {s with pc := .idle}
      | none, queued+1, b :: rest => some (processTxPkt c e {s with queue := rest, pc := .closed queued} b)
      | none, _+1, [] => none
    | .single =>
      match s.deferred, s.queue with
      | some b, _ => some (processTxPkt c e {s with deferred := none, pc := .idle} b)
      | none, b :: rest => some (processTxPkt c e {s with queue := rest, pc := .idle} b)
      | none, [] => none
    | .fill queued aggr frames rawTpFrames =>
      match s.deferred, s.queue with
      | some b, _ => some (place c e {s with deferred := none} b queued aggr frames rawTpFrames)
      | none, b :: rest => some (place c e {s with queue := rest} b (queued-1) aggr frames rawTpFrames)
      | none, [] => if queued = 0 then some {s with pc := .flush aggr frames} else none
    | .flush aggr frames => some (flush e s aggr frames)

/-! The host. -/

/-- `resetRequested` is set where the driver asks for a firmware reset. -/
structure HostRx where
  rxByteCount : Nat := 0
  rxQ : List Bytes := []
  resetRequested : Bool := false
  rcpFailed : Bool := false
  deriving DecidableEq, Repr

/-- What the bus and the allocator do during one `read_packet`: `raw` is PACKET_LEN,
`stream` what the slave sends, `filler` what a read past it returns, `reads i` the outcome
of the `i`-th CMD53 and `alloc i` of the buffer for the `i`-th frame. -/
structure ReadEnv where
  lenRead : Bool := true
  raw : Nat
  stream : Bytes
  filler : UInt8 := 0
  bounce : Bool := true
  skb : Bool := true
  reads : Nat → Bool := fun _ => true
  alloc : Nat → Bool := fun _ => true

/-- The `do … while (data_left > 0)` loop: the counter, and the bounce buffer unless a
read failed. -/
def readLoop (e : ReadEnv) : Nat → Nat → Nat → Nat → Nat → Bytes → Bytes → Nat × Option Bytes
  | 0, _, _, _, rxByteCount, _, buf => (rxByteCount,some buf)
  | fuel+1, i, dataLeft, payloadLeft, rxByteCount, stream, buf =>
    let numBlocks := payloadLeft/ESP_BLOCK_SIZE
    let lenToRead := if numBlocks ≠ 0 then numBlocks*ESP_BLOCK_SIZE else payloadLeft
    let readLen := if numBlocks ≠ 0 then lenToRead else alignUp 4 lenToRead
    if e.reads i = false then (rxByteCount,none)
    else
      let buf := buf ++ (stream.take lenToRead ++ List.replicate (readLen-lenToRead) e.filler)
      let rxByteCount := (rxByteCount+lenToRead)%ESP_RX_BYTE_MAX
      if dataLeft-readLen = 0 then (rxByteCount,some buf)
      else readLoop e fuel (i+1) (dataLeft-readLen) (payloadLeft-lenToRead) rxByteCount
        (stream.drop lenToRead) buf

/-- The loop over the frames of an aggregate; the list is what stands from
`pos_in_aggr` on. -/
def splitLoop (e : ReadEnv) : Nat → Nat → Bytes → HostRx → HostRx
  | 0, _, _, s => s
  | fuel+1, i, data, s =>
    let len := hdrLen data
    let offset := hdrOffset data
    if data.length < headerSize then s
    else if len = 0 ∧ (data.take headerSize).all (· == 0) then s
    else if len = 0 then {s with rcpFailed := true}
    else if ESP_RX_BUFFER_SIZE < len ∨ espOffsetValid offset = false then {s with rcpFailed := true}
    else if data.length < len+offset then {s with rcpFailed := true}
    else if e.alloc i = false then {s with rcpFailed := true}
    else splitLoop e fuel (i+1) (data.drop (alignUp 4 (len+offset)))
      {s with rxQ := s.rxQ ++ [data.take (len+offset)]}

/-- The part after the transfer; `data` is the aggregate. -/
def splitAggregate (e : ReadEnv) (s : HostRx) (data : Bytes) : HostRx × Option Bytes :=
  let len := hdrLen data
  let offset := hdrOffset data
  if data.length < headerSize then ({s with resetRequested := true},none)
  else if len = 0 then ({s with rcpFailed := true},none)
  else if ESP_RX_BUFFER_SIZE < len ∨ espOffsetValid offset = false then ({s with rcpFailed := true},none)
  else if (espHostWireSpanValid len offset data.length).isNone then ({s with rcpFailed := true},none)
  else if data.length ≤ alignUp 4 (len+offset) then (s,some (data.take (len+offset)))
  else
    let s := splitLoop e data.length 0 data s
    ({s with rxQ := s.rxQ.tail},s.rxQ.head?)

def readPacket (s : HostRx) (e : ReadEnv) : HostRx × Option Bytes :=
  match s.rxQ with
  | skb :: rest => ({s with rxQ := rest},some skb)
  | [] =>
    let len := espSdioRxLenDelta e.raw s.rxByteCount
    let paddedLen := alignUp 4 len
    if e.lenRead = false then (s,none)
    else if ESP_HOST_RX_AGGR_SIZE < len then ({s with resetRequested := true},none)
    else if len = 0 then (s,none)
    else if e.bounce = false then (s,none)
    else if ESP_HOST_RX_AGGR_SIZE < paddedLen then ({s with resetRequested := true},none)
    else if e.skb = false then (s,none)
    else
      match readLoop e paddedLen 0 paddedLen len s.rxByteCount e.stream [] with
      | (rxByteCount,none) => ({s with rxByteCount := rxByteCount, resetRequested := true},none)
      | (rxByteCount,some buf) => splitAggregate e {s with rxByteCount := rxByteCount} (buf.take len)

def collect (s : HostRx) : List ReadEnv → HostRx × List Bytes
  | [] => (s,[])
  | e :: es =>
    let r := readPacket s e
    let q := collect r.1 es
    (q.1,r.2.toList ++ q.2)

/-! Frames. -/

def WireFrame (f : Bytes) : Prop := espHostWireSpanValid (hdrLen f) (hdrOffset f) f.length = some f.length

theorem WireFrame.spec {f : Bytes} (h : WireFrame f) :
    0 < hdrLen f ∧ espOffsetValid (hdrOffset f) = true ∧ hdrLen f+hdrOffset f = f.length ∧
      headerSize < f.length := by
  obtain ⟨hp,hl,hu,he,-⟩ := espHostWireSpanValid_eq_some.mp h
  refine ⟨hp,?_,?_,?_⟩
  · simp [espOffsetValid,hl,hu]
  · omega
  · omega

/-- A frame with header `hdr`, zeros up to its offset and `payload`, apart from the checksum. -/
structure Framed (f : Bytes) (hdr : PayloadHeader) (payload : Bytes) : Prop where
  wire : WireFrame f
  ifType : hdrIfType f = hdr.ifType.val
  len : hdrLen f = payload.length
  offset : hdrOffset f = hdr.offset.toNat
  length : f.length = hdr.offset.toNat+payload.length
  payload : f.drop hdr.offset.toNat = payload

theorem framed_of_sameHeader {f : Bytes} {hdr : PayloadHeader} {payload : Bytes}
    (hs : SpiHd.SameHeader f (hdr.encode ++ (List.replicate (hdr.offset.toNat-headerSize) 0 ++ payload)))
    (hlow : headerSize ≤ hdr.offset.toNat) (hoff : hdr.offset.toNat ≤ ESP_MAX_OFFSET_SIZE)
    (hlen : hdr.len.toNat = payload.length) (hp : payload ≠ []) : Framed f hdr payload := by
  have h1 : hdrLen f = payload.length := by rw [hs.hdrLen_eq,hdrLen_encode,hlen]
  have h2 : hdrOffset f = hdr.offset.toNat := by rw [hs.hdrOffset_eq,hdrOffset_encode]
  have h3 : f.length = hdr.offset.toNat+payload.length := by
    rw [hs.length]
    simp only [List.length_append,PayloadHeader.encode_length,List.length_replicate]
    omega
  have hpos := List.length_pos_iff.mpr hp
  constructor
  · rw [WireFrame,h1,h2,h3,espHostWireSpanValid_eq_some]
    omega
  · rw [hs.hdrIfType_eq,hdrIfType_encode]
  · exact h1
  · exact h2
  · exact h3
  · have hd : f.drop hdr.offset.toNat = (f.drop headerSize).drop (hdr.offset.toNat-headerSize) := by
      rw [List.drop_drop,Nat.add_sub_cancel' hlow]
    rw [hd,hs.payload,List.drop_left' (PayloadHeader.encode_length _),List.drop_left' (by simp)]

/-- The frame a handle is turned into, apart from sequence number, flag and checksum. -/
structure Carries (b : TxBuf) (f : Bytes) : Prop where
  ifType : hdrIfType f = b.handle.ifType.toNat%16
  ifNum : hdrIfNum f = b.handle.ifNum.toNat%16
  packetType : hdrPacketType f = b.handle.pktType
  payload : f.drop (hdrOffset f) = b.handle.payload

section
variable (b : TxBuf) (offset : Nat) (flag : UInt8) (seq : UInt32)

theorem TxBuf.header_fields (hoff : offset ≤ ESP_MAX_OFFSET_SIZE) :
    (b.header offset flag seq).ifType.val = b.handle.ifType.toNat%16 ∧
    (b.header offset flag seq).ifNum.val = b.handle.ifNum.toNat%16 ∧
    (b.header offset flag seq).packetType = b.handle.pktType ∧
    (b.header offset flag seq).len.toNat = b.handle.payload.length ∧
    (b.header offset flag seq).offset.toNat = offset := by
  have hf := b.handle.fits
  simp only [ESP_MAX_OFFSET_SIZE,headerSize,ESP_MAX_ALIGN_PADDING] at hoff
  simp only [header]
  split <;> simp [debugRawTpSetSeq] <;> omega

theorem TxBuf.frame_length (c : Config) (hoff : headerSize ≤ offset) :
    (b.frame c offset flag seq).length = offset+b.handle.payload.length := by
  simp only [frame]
  split
  · rw [(sameHeader_setChecksum _ _).length]
    simp
    omega
  · simp
    omega

theorem TxBuf.sameHeader (c : Config) :
    SpiHd.SameHeader (b.frame c offset flag seq)
      ((b.header offset flag seq).encode ++ (List.replicate (offset-headerSize) 0 ++ b.handle.payload)) := by
  simp only [frame]
  split
  · exact sameHeader_setChecksum _ _
  · exact ⟨rfl,rfl,rfl,⟨rfl,rfl⟩,⟨rfl,rfl⟩,rfl⟩

theorem TxBuf.carries (c : Config) (hlow : headerSize ≤ offset) (hoff : offset ≤ ESP_MAX_OFFSET_SIZE)
    (hp : b.handle.payload ≠ []) :
    WireFrame (b.frame c offset flag seq) ∧ Carries b (b.frame c offset flag seq) := by
  obtain ⟨h1,h2,h3,h4,h5⟩ := b.header_fields offset flag seq hoff
  have hs := b.sameHeader offset flag seq c
  have hf : Framed (b.frame c offset flag seq) (b.header offset flag seq) b.handle.payload := by
    refine framed_of_sameHeader ?_ (by omega) (by omega) h4 hp
    rwa [h5]
  refine ⟨hf.wire,?_,?_,?_,?_⟩
  · rw [hf.ifType,h1]
  · have hn := (b.header offset flag seq).ifNum.isLt
    have ht := (b.header offset flag seq).ifType.isLt
    rw [hdrIfNum,hs.ifType]
    simp only [PayloadHeader.encode,List.cons_append,List.getD_cons_zero,UInt8.toNat_ofNat']
    omega
  · rw [hdrPacketType,hs.packetType]
    exact h3
  · rw [hf.offset,hf.payload]

end

/-! Reading a transfer. -/

theorem alignUp_add_blocks (n m : Nat) : alignUp 4 (n*ESP_BLOCK_SIZE+m) = n*ESP_BLOCK_SIZE+alignUp 4 m := by
  simp only [alignUp,ESP_BLOCK_SIZE]
  omega

/-- Whole blocks first, then the rest: together they bring the transfer. -/
theorem readLoop_ok (e : ReadEnv) (t : Bytes) (rxByteCount : Nat) (hr : ∀ i, e.reads i = true)
    (hs : e.stream.take t.length = t) (hp : t ≠ []) :
    ∃ buf, readLoop e (alignUp 4 t.length) 0 (alignUp 4 t.length) t.length rxByteCount e.stream [] =
        ((rxByteCount+t.length)%ESP_RX_BYTE_MAX,some buf) ∧ buf.take t.length = t := by
  have hpos := List.length_pos_iff.mpr hp
  have hle := le_alignUp (by decide : 0 < 4) t.length
  have hst : t.length ≤ e.stream.length := by
    rw [← hs,List.length_take]
    omega
  obtain ⟨k,hk⟩ : ∃ k, alignUp 4 t.length = k+1 := ⟨alignUp 4 t.length-1,by omega⟩
  have hdiv := Nat.div_add_mod t.length ESP_BLOCK_SIZE
  have hmod := Nat.mod_lt t.length (by decide : 0 < ESP_BLOCK_SIZE)
  generalize hn : t.length/ESP_BLOCK_SIZE = n at hdiv
  generalize hm : t.length%ESP_BLOCK_SIZE = m at hdiv hmod
  rw [Nat.mul_comm] at hdiv
  by_cases h0 : n = 0
  case pos =>
    have hzero : alignUp 4 t.length-alignUp 4 t.length = 0 := by omega
    refine ⟨t ++ List.replicate (alignUp 4 t.length-t.length) e.filler,?_,List.take_left' rfl⟩
    rw [hk,readLoop]
    simp only [hn,h0,ne_eq,not_true_eq_false,if_false,hr,Bool.true_eq_false,hs,List.nil_append]
    rw [← hk,if_pos hzero]
  case neg =>
    have hal := alignUp_add_blocks n m
    rw [hdiv] at hal
    rw [hk,readLoop]
    simp only [hn,ne_eq,h0,not_false_eq_true,if_true,hr,Bool.true_eq_false,if_false,Nat.sub_self,
      List.replicate_zero,List.append_nil,List.nil_append]
    rw [← hk,hal]
    by_cases hm0 : m = 0
    case pos =>
      have hz : n*ESP_BLOCK_SIZE+alignUp 4 m-n*ESP_BLOCK_SIZE = 0 := by
        rw [hm0]
        simp [alignUp]
      have he : n*ESP_BLOCK_SIZE = t.length := by omega
      rw [if_pos hz,he,hs]
      exact ⟨t,rfl,List.take_length⟩
    case neg =>
      have hle' := le_alignUp (by decide : 0 < 4) m
      have hz : ¬n*ESP_BLOCK_SIZE+alignUp 4 m-n*ESP_BLOCK_SIZE = 0 := by omega
      have hk2 : ∃ k', k = k'+1 := ⟨k-1,by simp only [ESP_BLOCK_SIZE] at *; omega⟩
      obtain ⟨k',rfl⟩ := hk2
      have hrest : t.length-n*ESP_BLOCK_SIZE = m := by omega
      have hleft : n*ESP_BLOCK_SIZE+alignUp 4 m-n*ESP_BLOCK_SIZE = alignUp 4 m := by omega
      have hm' : m/ESP_BLOCK_SIZE = 0 := Nat.div_eq_of_lt hmod
      have hcnt : ((rxByteCount+n*ESP_BLOCK_SIZE)%ESP_RX_BYTE_MAX+m)%ESP_RX_BYTE_MAX =
          (rxByteCount+t.length)%ESP_RX_BYTE_MAX := by
        rw [Nat.mod_add_mod]
        congr 1
        omega
      rw [if_neg hz,hrest,hleft,readLoop]
      simp only [hm',ne_eq,not_true_eq_false,if_false,hr,Bool.true_eq_false,Nat.sub_self,if_true,hcnt]
      refine ⟨_,rfl,?_⟩
      have hjoin : e.stream.take (n*ESP_BLOCK_SIZE) ++ (e.stream.drop (n*ESP_BLOCK_SIZE)).take m = t := by
        rw [← List.take_add,hdiv,hs]
      rw [← List.append_assoc,hjoin,List.take_left]

theorem splitLoop_packed (e : ReadEnv) (fuel i : Nat) (padLast : Bool) (frames : List Bytes) (s : HostRx)
    (ha : ∀ i, e.alloc i = true) (h : ∀ f ∈ frames, WireFrame f ∧ f.length ≤ ESP_RX_BUFFER_SIZE)
    (hf : (packed 4 0 padLast frames).length ≤ fuel) :
    splitLoop e fuel i (packed 4 0 padLast frames) s = {s with rxQ := s.rxQ ++ frames} := by
  induction frames generalizing fuel i s with
  | nil =>
    cases fuel with
    | zero => simp [splitLoop]
    | succ fuel => simp [splitLoop,packed,headerSize]
  | cons f fs ih =>
    obtain ⟨hw,hmax⟩ := h f (by simp)
    obtain ⟨hlen,hoff,hsum,hhdr⟩ := hw.spec
    obtain ⟨t,ht⟩ := packed_cons 4 (0 : UInt8) padLast f fs
    have hdrop := drop_packed (by decide : 0 < 4) (0 : UInt8) padLast f fs
    have hle := le_alignUp (by decide : 0 < 4) f.length
    have hlong : f.length ≤ (packed 4 0 padLast (f :: fs)).length := by
      rw [ht,List.length_append]
      omega
    have h1 : hdrLen (packed 4 0 padLast (f :: fs)) = hdrLen f := by rw [ht,hdrLen_append t (Nat.le_of_lt hhdr)]
    have h2 : hdrOffset (packed 4 0 padLast (f :: fs)) = hdrOffset f := by
      rw [ht,hdrOffset_append t (Nat.le_of_lt hhdr)]
    have htake : (packed 4 0 padLast (f :: fs)).take f.length = f := by rw [ht,List.take_left]
    cases fuel with
    | zero => omega
    | succ fuel =>
      have hfuel : (packed 4 0 padLast fs).length ≤ fuel := by
        rw [← hdrop,List.length_drop]
        omega
      rw [splitLoop]
      simp only [h1,h2,hsum,hdrop,htake,hoff,ha]
      rw [if_neg (by omega),if_neg (by omega),if_neg (by omega),if_neg (by simp; omega),if_neg (by omega),
        if_neg (by simp),ih fuel (i+1) _ (fun g hg => h g (by simp [hg])) hfuel]
      simp

/-- A transfer as the slave sends it: frames, all padded or a single one that is not. -/
structure Transfer.Good (t : Transfer) : Prop where
  nonempty : t.frames ≠ []
  bytes : ∃ padLast, t.bytes = packed 4 0 padLast t.frames
  frames : ∀ f ∈ t.frames, WireFrame f

theorem length_le_packed (padLast : Bool) (frames : List Bytes) :
    ∀ f ∈ frames, f.length ≤ (packed 4 (0 : UInt8) padLast frames).length := by
  induction frames with
  | nil => simp
  | cons g gs ih =>
    intro f hf
    obtain ⟨t,ht⟩ := packed_cons 4 (0 : UInt8) padLast g gs
    rcases List.mem_cons.mp hf with rfl | hf
    · rw [ht,List.length_append]
      omega
    · have hl := ih f hf
      rw [← drop_packed (by decide : 0 < 4) (0 : UInt8) padLast g gs,List.length_drop] at hl
      omega

theorem splitAggregate_packed (e : ReadEnv) (s : HostRx) (padLast : Bool) (frames : List Bytes)
    (hq : s.rxQ = []) (hne : frames ≠ []) (ha : ∀ i, e.alloc i = true)
    (h : ∀ f ∈ frames, WireFrame f ∧ f.length ≤ ESP_RX_BUFFER_SIZE) :
    splitAggregate e s (packed 4 0 padLast frames) = ({s with rxQ := frames.tail},frames.head?) := by
  cases frames with
  | nil => exact absurd rfl hne
  | cons f fs =>
    obtain ⟨hw,hmax⟩ := h f (by simp)
    obtain ⟨hlen,hoff,hsum,hhdr⟩ := hw.spec
    obtain ⟨t,ht⟩ := packed_cons 4 (0 : UInt8) padLast f fs
    have hlong : f.length ≤ (packed 4 0 padLast (f :: fs)).length := length_le_packed padLast _ f (by simp)
    have h1 : hdrLen (packed 4 0 padLast (f :: fs)) = hdrLen f := by rw [ht,hdrLen_append t (Nat.le_of_lt hhdr)]
    have h2 : hdrOffset (packed 4 0 padLast (f :: fs)) = hdrOffset f := by
      rw [ht,hdrOffset_append t (Nat.le_of_lt hhdr)]
    have hspan : espHostWireSpanValid (hdrLen f) (hdrOffset f) (packed 4 0 padLast (f :: fs)).length =
        some f.length := by
      obtain ⟨hp,hl,hu,he,-⟩ := espHostWireSpanValid_eq_some.mp hw
      exact espHostWireSpanValid_eq_some.mpr ⟨hp,hl,hu,he,hlong⟩
    have hsplit := splitLoop_packed e _ 0 padLast (f :: fs) s ha h (Nat.le_refl _)
    have hdrop := drop_packed (by decide : 0 < 4) (0 : UInt8) padLast f fs
    simp only [splitAggregate,h1,h2,hsum,hspan,hoff,hsplit,hq,List.nil_append,List.tail_cons,List.head?_cons]
    rw [if_neg (by omega),if_neg (by omega),if_neg (by simp; omega),if_neg (by simp)]
    cases fs with
    | nil =>
      have hshort : (packed 4 (0 : UInt8) padLast [f]).length ≤ alignUp 4 f.length :=
        List.drop_eq_nil_iff.mp hdrop
      rw [if_pos hshort,ht,List.take_left,← hq]
    | cons g gs =>
      obtain ⟨hg,-⟩ := h g (by simp)
      have hgs := length_le_packed padLast (g :: gs) g (by simp)
      have hgl := hg.spec.2.2.2
      rw [← hdrop,List.length_drop] at hgs
      rw [if_neg (by omega)]

/-- The slave has `t` for the host after `published` bytes, and nothing goes wrong. -/
structure Presents (e : ReadEnv) (published : Nat) (t : Bytes) : Prop where
  lenRead : e.lenRead = true
  raw : e.raw = (published+t.length)%ESP_RX_BYTE_MAX
  stream : e.stream.take t.length = t
  bounce : e.bounce = true
  skb : e.skb = true
  reads : ∀ i, e.reads i = true
  alloc : ∀ i, e.alloc i = true

theorem espSdioRxLenDelta_eq (published n : Nat) (h : n < ESP_RX_BYTE_MAX) :
    espSdioRxLenDelta ((published+n)%ESP_RX_BYTE_MAX) (published%ESP_RX_BYTE_MAX) = n := by
  rw [espSdioRxLenDelta]
  split
  · simp only [ESP_RX_BYTE_MAX] at *
    omega
  · simp only [ESP_RX_BYTE_MAX] at *
    omega

theorem readPacket_transfer {e : ReadEnv} {published : Nat} {t : Transfer} {s : HostRx} (hg : t.Good)
    (hmax : t.bytes.length ≤ ESP_HOST_RX_AGGR_SIZE) (hp : Presents e published t.bytes)
    (hq : s.rxQ = []) (hc : s.rxByteCount = published%ESP_RX_BYTE_MAX) :
    readPacket s e = ({s with
      rxByteCount := (published+t.bytes.length)%ESP_RX_BYTE_MAX, rxQ := t.frames.tail},t.frames.head?) := by
  obtain ⟨padLast,hb⟩ := hg.bytes
  have hin : ∀ f ∈ t.frames, f.length ≤ t.bytes.length := by
    rw [hb]
    exact length_le_packed padLast t.frames
  have hfr : ∀ f ∈ t.frames, WireFrame f ∧ f.length ≤ ESP_RX_BUFFER_SIZE := fun f hf =>
    ⟨hg.frames f hf,Nat.le_trans (hin f hf) hmax⟩
  have hpos : 0 < t.bytes.length := by
    obtain ⟨f,hf⟩ := List.exists_mem_of_ne_nil _ hg.nonempty
    have hsz := (hg.frames f hf).spec.2.2.2
    have := hin f hf
    omega
  have hd := espSdioRxLenDelta_eq published t.bytes.length
    (by simp only [ESP_HOST_RX_AGGR_SIZE,ESP_RX_BYTE_MAX] at *; omega)
  have hpad : alignUp 4 t.bytes.length ≤ ESP_HOST_RX_AGGR_SIZE :=
    alignUp_le (by decide) hmax (by decide)
  obtain ⟨buf,hloop,hbuf⟩ := readLoop_ok e t.bytes s.rxByteCount hp.reads hp.stream
    (List.length_pos_iff.mp hpos)
  rw [hc,Nat.mod_add_mod] at hloop
  simp only [readPacket,hq,hp.lenRead,hp.raw,hc,hd,hp.bounce,hp.skb,hloop,hbuf]
  rw [if_neg (by simp),if_neg (by omega),if_neg (by omega),if_neg (by simp),if_neg (by omega),if_neg (by simp),hb]
  exact splitAggregate_packed e _ padLast t.frames rfl hg.nonempty hp.alloc hfr

theorem collect_append (s : HostRx) (es es' : List ReadEnv) :
    collect s (es ++ es') =
      ((collect (collect s es).1 es').1,(collect s es).2 ++ (collect (collect s es).1 es').2) := by
  induction es generalizing s with
  | nil => rfl
  | cons e es ih => simp [collect,ih]

/-- What is queued comes out first, whatever the bus does. -/
theorem collect_queued (s : HostRx) (es : List ReadEnv) (h : es.length = s.rxQ.length) :
    collect s es = ({s with rxQ := []},s.rxQ) := by
  induction es generalizing s with
  | nil =>
    have hq : s.rxQ = [] := List.length_eq_zero_iff.mp h.symm
    simp [collect,← hq]
  | cons e es ih =>
    cases hq : s.rxQ with
    | nil => simp [hq] at h
    | cons f fs =>
      have hl : es.length = fs.length := by simpa [hq] using h
      simp [collect,readPacket,hq,ih {s with rxQ := fs} hl]

/-- The calls for a list of transfers: the first one of a group finds the transfer, the
others bring its remaining frames. -/
inductive Served : Nat → List Transfer → List (List ReadEnv) → Prop where
  | nil (published : Nat) : Served published [] []
  | cons {published : Nat} {t : Transfer} {ts : List Transfer} {e : ReadEnv} {es : List ReadEnv}
      {calls : List (List ReadEnv)} (first : Presents e published t.bytes)
      (others : es.length+1 = t.frames.length) (rest : Served (published+t.bytes.length) ts calls) :
      Served published (t :: ts) ((e :: es) :: calls)

theorem collect_served {published : Nat} {ts : List Transfer} {calls : List (List ReadEnv)} {s : HostRx}
    (h : Served published ts calls) (hg : ∀ t ∈ ts, t.Good ∧ t.bytes.length ≤ ESP_HOST_RX_AGGR_SIZE)
    (hq : s.rxQ = []) (hc : s.rxByteCount = published%ESP_RX_BYTE_MAX) :
    collect s calls.flatten =
      ({s with rxByteCount := (published+(ts.map Transfer.bytes).flatten.length)%ESP_RX_BYTE_MAX},
        (ts.map Transfer.frames).flatten) := by
  induction h generalizing s with
  | nil published => simp [collect,← hc]
  | @cons published t ts e es calls first others rest ih =>
    obtain ⟨hgood,hmax⟩ := hg t (by simp)
    have hread := readPacket_transfer hgood hmax first hq hc
    have hgroup : collect s (e :: es) =
        ({s with rxByteCount := (published+t.bytes.length)%ESP_RX_BYTE_MAX},t.frames) := by
      simp only [collect,hread]
      rw [collect_queued _ es (by simp only [List.length_tail]; omega)]
      have hne := hgood.nonempty
      cases hfr : t.frames with
      | nil => exact absurd hfr hne
      | cons f fs => simp [← hq]
    have hrest := @ih {s with rxByteCount := (published+t.bytes.length)%ESP_RX_BYTE_MAX}
      (fun t ht => hg t (by simp [ht])) hq rfl
    rw [List.flatten_cons,collect_append,hgroup,hrest]
    simp [Nat.add_assoc]

/-! The consumer. -/

def Fate.frames : Fate → List Bytes
  | .framed f => [f]
  | .dropped _ => []

def Pc.aggr : Pc → Bytes
  | .fill _ aggr _ _ => aggr
  | .flush aggr _ => aggr
  | _ => []

def Pc.frames : Pc → List Bytes
  | .fill _ _ frames _ => frames
  | .flush _ frames => frames
  | _ => []

/-- A frame is sent with the fields and the payload of its handle, or the consumer found
the reason to leave it out when it took the frame. -/
def Entry.Justified (c : Config) (x : Entry) : Prop :=
  match x.fate with
  | .framed f => Carries x.buf f
  | .dropped .closed => x.aggregated = false ∧ x.turn.datapath = false
  | .dropped .invalid =>
    x.aggregated = true ∧ (x.buf.handle.payload = [] ∨ c.txAggrSize < x.buf.handle.payload.length+headerSize)
  | .dropped .inactive => x.buf.isTest = true ∧ x.turn.runActive x.buf.rawTpRunId = false
  | .dropped .refused =>
    x.aggregated = false ∧ x.turn.datapath = true ∧
      (x.turn.write.ifOps = false ∨ x.turn.write.active = false ∨ x.buf.handle.payload = [] ∨
        wireOffset x.turn.write x.buf = none)

def Entry.frames (x : Entry) : List Bytes := x.fate.frames

structure Filled (c : Config) (aggr : Bytes) (frames : List Bytes) : Prop where
  bytes : aggr = packed 4 0 true frames
  fits : aggr.length ≤ c.txAggrSize
  wire : ∀ f ∈ frames, WireFrame f

/-- `held` is what the consumer has taken and not yet dealt with. -/
structure Inv (c : Config) (held : List TxBuf) (s : LowPrio) : Prop where
  fifo : s.pushed = s.log.map Entry.buf ++ (held ++ (s.deferred.toList ++ s.queue))
  fates : ∀ x ∈ s.log, x.Justified c
  framed : (s.log.map Entry.frames).flatten = (s.transfers.map Transfer.frames).flatten ++ s.pc.frames
  good : ∀ t ∈ s.transfers, t.Good
  limit : ∀ t ∈ s.transfers, t.aggregate = true → t.bytes.length ≤ c.txAggrSize
  filled : Filled c s.pc.aggr s.pc.frames

theorem wireOffset_bounds {e : WriteEnv} {b : TxBuf} {offset : Nat} (h : wireOffset e b = some offset) :
    headerSize ≤ offset ∧ offset ≤ ESP_MAX_OFFSET_SIZE := by
  have hp := e.alignPadding.isLt
  simp only [wireOffset] at h
  split_ifs at h <;> cases h
  · exact ⟨by decide,by decide⟩
  · simp only [ESP_MAX_OFFSET_SIZE,ESP_MAX_ALIGN_PADDING]
    omega
  · exact ⟨by decide,by decide⟩

theorem Inv.setPc {c : Config} {held : List TxBuf} {s : LowPrio} (h : Inv c held s) {pc : Pc}
    (ha : pc.aggr = s.pc.aggr) (hf : pc.frames = s.pc.frames) : Inv c held {s with pc := pc} := by
  refine ⟨h.fifo,h.fates,?_,h.good,h.limit,?_⟩
  · rw [hf]
    exact h.framed
  · rw [ha,hf]
    exact h.filled

theorem Inv.record {c : Config} {x : Entry} {s : LowPrio} (h : Inv c [x.buf] s) (hj : x.Justified c)
    (hf : x.frames = []) : Inv c [] (s.record x) := by
  refine ⟨?_,fun y hy => ?_,?_,h.good,h.limit,h.filled⟩
  · simp only [LowPrio.record,h.fifo]
    simp
  · rcases List.mem_append.mp hy with hy | hy
    · exact h.fates y hy
    · rw [List.mem_singleton.mp hy]
      exact hj
  · simp only [LowPrio.record,List.map_append,List.flatten_append,h.framed]
    simp [hf]

theorem sdioWrite_eq_none {c : Config} {e : WriteEnv} {b : TxBuf} {seq : UInt32}
    (h : sdioWrite c e b seq = none) : e.active = false ∨ b.handle.payload = [] ∨ wireOffset e b = none := by
  rw [sdioWrite] at h
  split at h
  · rename_i hr
    exact hr.imp_right .inl
  · exact .inr (.inr (Option.map_eq_none_iff.mp h))

theorem Inv.processTxPkt {c : Config} {b : TxBuf} {s : LowPrio} (h : Inv c [b] s) (e : Turn)
    (hpc : s.pc.frames = []) : Inv c [] (processTxPkt c e s b) := by
  rw [E2h.processTxPkt]
  split
  · rename_i hclosed
    exact Inv.record h ⟨rfl,hclosed⟩ rfl
  rename_i hopen
  rw [Bool.not_eq_false] at hopen
  split
  · rename_i hops
    exact Inv.record h ⟨rfl,hopen,.inl hops⟩ rfl
  split
  · rename_i ht
    exact Inv.record h ht rfl
  split
  · rename_i hw
    exact Inv.record h ⟨rfl,hopen,.inr (sdioWrite_eq_none hw)⟩ rfl
  · rename_i t ht
    simp only [sdioWrite] at ht
    split at ht
    · cases ht
    rename_i hne
    obtain ⟨offset,hoff,rfl⟩ := Option.map_eq_some_iff.mp ht
    obtain ⟨hlow,hhigh⟩ := wireOffset_bounds hoff
    obtain ⟨hwire,hcarry⟩ := b.carries offset b.handle.flag e.seq c hlow hhigh (not_or.mp hne).2
    refine ⟨?_,fun x hx => ?_,?_,fun t ht => ?_,fun t ht => ?_,h.filled⟩
    · simp only [LowPrio.record,h.fifo]
      simp
    · rcases List.mem_append.mp hx with hx | hx
      · exact h.fates x hx
      · rw [List.mem_singleton.mp hx]
        exact hcarry
    · have hfr := h.framed
      rw [hpc,List.append_nil] at hfr
      simp only [LowPrio.record,List.map_append,List.flatten_append,hfr,hpc]
      simp [Entry.frames,Fate.frames]
    · rcases List.mem_append.mp ht with ht | ht
      · exact h.good t ht
      · rw [List.mem_singleton.mp ht]
        exact ⟨by simp,⟨false,by simp [packed]⟩,by simpa using hwire⟩
    · rcases List.mem_append.mp ht with ht | ht
      · exact h.limit t ht
      · rw [List.mem_singleton.mp ht]
        intro hx
        cases hx

theorem processTxPkt_log (c : Config) (e : Turn) (s : LowPrio) (b : TxBuf) :
    ∃ fate, (processTxPkt c e s b).log = s.log ++ [⟨b,e,false,fate⟩] ∧ (processTxPkt c e s b).pc = s.pc := by
  rw [processTxPkt]
  split_ifs
  · exact ⟨_,rfl,rfl⟩
  · exact ⟨_,rfl,rfl⟩
  · exact ⟨_,rfl,rfl⟩
  · split
    · exact ⟨_,rfl,rfl⟩
    · exact ⟨_,rfl,rfl⟩

theorem Filled.add {c : Config} {aggr f : Bytes} {frames : List Bytes} (h : Filled c aggr frames)
    (hw : WireFrame f) (hl : aggr.length+alignUp 4 f.length ≤ c.txAggrSize) :
    Filled c (aggr ++ pad 4 0 f) (frames ++ [f]) := by
  refine ⟨?_,?_,fun g hg => ?_⟩
  · rw [h.bytes,packed_true,packed_true]
    simp
  · rw [List.length_append,length_pad (by decide)]
    exact hl
  · rcases List.mem_append.mp hg with hg | hg
    · exact h.wire g hg
    · rw [List.mem_singleton.mp hg]
      exact hw

theorem Inv.place {c : Config} {b : TxBuf} {s : LowPrio} {queued queued' : Nat} {aggr : Bytes}
    {frames : List Bytes} {raw : UInt32} (h : Inv c [b] s) (e : Turn) (hd : s.deferred = none)
    (hpc : s.pc = .fill queued aggr frames raw) :
    Inv c [] (place c e s b queued' aggr frames raw) := by
  have hfill := h.filled
  have hframed := h.framed
  rw [hpc] at hfill hframed
  have hlen := b.frame_length headerSize (if e.wakeup then 0xff else b.handle.flag) (e.seq+raw) c (by decide)
  simp only [E2h.place]
  split
  · rename_i hbad
    have hinv : Inv c [] (s.record ⟨b,e,true,.dropped .invalid⟩) := Inv.record h ⟨rfl,hbad⟩ rfl
    exact hinv.setPc (by simp [LowPrio.record,hpc,Pc.aggr]) (by simp [LowPrio.record,hpc,Pc.frames])
  rename_i hgood
  split
  · rename_i ht
    have hinv : Inv c [] (s.record ⟨b,e,true,.dropped .inactive⟩) := Inv.record h ht rfl
    exact hinv.setPc (by simp [LowPrio.record,hpc,Pc.aggr]) (by simp [LowPrio.record,hpc,Pc.frames])
  rw [not_or] at hgood
  obtain ⟨hwire,hcarry⟩ := b.carries headerSize (if e.wakeup then 0xff else b.handle.flag) (e.seq+raw) c
    (by decide) (by decide) hgood.1
  generalize b.frame c headerSize (if e.wakeup then 0xff else b.handle.flag) (e.seq+raw) = f at *
  split
  · refine ⟨?_,h.fates,hframed,h.good,h.limit,hfill⟩
    rw [h.fifo,hd]
    simp
  · rename_i hroom
    have hadd : Filled c (aggr ++ pad 4 0 f) (frames ++ [f]) := by
      refine Filled.add hfill hwire ?_
      rw [hlen]
      by_cases ha : aggr = []
      · have hup : alignUp 4 (headerSize+b.handle.payload.length) ≤ c.txAggrSize := by
          refine alignUp_le (by decide) (by omega) ?_
          rcases c.size with hc | hc
          · rw [hc]
            decide
          · rw [hc]
            decide
        rw [ha]
        simpa using hup
      · have := hroom
        simp only [ne_eq,ha,not_false_eq_true,true_and,not_or,Nat.not_lt,Nat.add_comm _ headerSize] at this
        exact this.2
    refine ⟨?_,fun x hx => ?_,?_,h.good,h.limit,?_⟩
    · simp only [LowPrio.record,h.fifo]
      simp
    · rcases List.mem_append.mp hx with hx | hx
      · exact h.fates x hx
      · rw [List.mem_singleton.mp hx]
        exact hcarry
    · simp only [LowPrio.record,List.map_append,List.flatten_append,hframed]
      split <;> simp [Entry.frames,Fate.frames,Pc.frames]
    · dsimp only
      split <;> exact hadd

theorem Inv.flush {c : Config} {s : LowPrio} {aggr : Bytes} {frames : List Bytes} (h : Inv c [] s) (e : Turn)
    (hpc : s.pc = .flush aggr frames) : Inv c [] (flush e s aggr frames) := by
  have hfill := h.filled
  have hframed := h.framed
  rw [hpc] at hfill hframed
  have hnone : Filled c [] [] := ⟨rfl,Nat.zero_le _,by simp⟩
  have hne : frames ≠ [] ↔ aggr ≠ [] := by
    cases frames with
    | nil =>
      have : aggr = [] := hfill.bytes
      simp [this]
    | cons f fs =>
      have hl := length_le_packed true (f :: fs) f (by simp)
      have hs := (hfill.wire f (by simp [Pc.frames])).spec.2.2.2
      have hb : aggr = packed 4 0 true (f :: fs) := hfill.bytes
      rw [← hb] at hl
      refine ⟨fun _ ha => ?_,fun _ => by simp⟩
      rw [ha,List.length_nil] at hl
      omega
  rw [E2h.flush]
  split
  · rename_i ha
    have hf : frames = [] := not_not.mp fun hx => hne.mp hx ha
    refine ⟨h.fifo,h.fates,?_,h.good,h.limit,hnone⟩
    simpa [hf,Pc.frames] using hframed
  · rename_i ha
    refine ⟨h.fifo,h.fates,?_,fun t ht => ?_,fun t ht => ?_,hnone⟩
    · simpa [Pc.frames] using hframed
    · rcases List.mem_append.mp ht with ht | ht
      · exact h.good t ht
      · rw [List.mem_singleton.mp ht]
        exact ⟨hne.mpr ha,⟨true,hfill.bytes⟩,hfill.wire⟩
    · rcases List.mem_append.mp ht with ht | ht
      · exact h.limit t ht
      · rw [List.mem_singleton.mp ht]
        exact fun _ => hfill.fits

theorem Inv.takeDeferred {c : Config} {s : LowPrio} {b : TxBuf} (h : Inv c [] s) (hd : s.deferred = some b) :
    Inv c [b] {s with deferred := none} := by
  refine ⟨?_,h.fates,h.framed,h.good,h.limit,h.filled⟩
  rw [h.fifo,hd]
  simp

theorem Inv.takeQueued {c : Config} {s : LowPrio} {b : TxBuf} {rest : List TxBuf} (h : Inv c [] s)
    (hd : s.deferred = none) (hq : s.queue = b :: rest) : Inv c [b] {s with queue := rest} := by
  refine ⟨?_,h.fates,h.framed,h.good,h.limit,h.filled⟩
  rw [h.fifo,hd,hq]
  simp

theorem step_inv {c : Config} (s : LowPrio) (a : Action) (s' : LowPrio) (h : Inv c [] s)
    (hs : lowStep c s a = some s') : Inv c [] s' := by
  cases a with
  | push b =>
    cases hs
    refine ⟨?_,h.fates,h.framed,h.good,h.limit,h.filled⟩
    simp [h.fifo]
  | call queued aggrBuf datapath =>
    simp only [lowStep] at hs
    split at hs
    · cases hs
    rename_i hpc
    have hidle : s.pc = .idle := not_not.mp hpc
    have hfr : s.pc.frames = [] := by rw [hidle]; rfl
    have hag : s.pc.aggr = [] := by rw [hidle]; rfl
    split at hs
    · cases hs
      exact h
    split_ifs at hs <;> cases hs
    · exact h.setPc hag.symm hfr.symm
    · exact h.setPc hag.symm hfr.symm
    · exact h.setPc hag.symm hfr.symm
  | turn e =>
    simp only [lowStep] at hs
    split at hs
    · cases hs
    · rename_i queued hpc
      have hfr : s.pc.frames = [] := by rw [hpc]; rfl
      have hag : s.pc.aggr = [] := by rw [hpc]; rfl
      split at hs
      · rename_i hd
        cases hs
        exact (h.takeDeferred hd).processTxPkt e hfr
      · cases hs
        exact h.setPc hag.symm hfr.symm
      · rename_i queued b rest hd hq
        cases hs
        have hheld : Inv c [b] {s with queue := rest, pc := .closed queued} :=
          (h.takeQueued hd hq).setPc hag.symm hfr.symm
        exact hheld.processTxPkt e rfl
      · cases hs
    · rename_i hpc
      have hfr : s.pc.frames = [] := by rw [hpc]; rfl
      have hag : s.pc.aggr = [] := by rw [hpc]; rfl
      split at hs
      · rename_i _ b hd
        cases hs
        have hheld : Inv c [b] {s with deferred := none, pc := .idle} :=
          (h.takeDeferred hd).setPc hag.symm hfr.symm
        exact hheld.processTxPkt e rfl
      · rename_i b rest hd hq
        cases hs
        have hheld : Inv c [b] {s with queue := rest, pc := .idle} :=
          (h.takeQueued hd hq).setPc hag.symm hfr.symm
        exact hheld.processTxPkt e rfl
      · cases hs
    · rename_i queued aggr frames raw hpc
      split at hs
      · rename_i b _ hd
        cases hs
        exact (h.takeDeferred hd).place e rfl hpc
      · rename_i b rest hd hq
        cases hs
        exact (h.takeQueued hd hq).place e hd hpc
      · split at hs
        · cases hs
          exact h.setPc (by rw [hpc]; rfl) (by rw [hpc]; rfl)
        · cases hs
    · rename_i aggr frames hpc
      cases hs
      exact h.flush e hpc

theorem exec_inv {c : Config} {acts : List Action} {s : LowPrio} (h : exec (lowStep c) {} acts = some s) :
    Inv c [] s :=
  exec_invariant step_inv ⟨rfl,by simp,rfl,by simp,by simp,rfl,Nat.zero_le _,by simp [Pc.frames]⟩ h

/-! The record is tied to what the actions say. -/

def Action.turns : Action → List Turn
  | .turn e => [e]
  | _ => []

/-- The call finds an open datapath and an aggregation buffer. -/
def Action.aggregates : Action → Bool
  | .call _ aggrBuf datapath => aggrBuf && datapath
  | _ => true

theorem place_log (c : Config) (e : Turn) (s : LowPrio) (b : TxBuf) (queued : Nat) (aggr : Bytes)
    (frames : List Bytes) (raw : UInt32) :
    (place c e s b queued aggr frames raw).log = s.log ∨
    ∃ fate, (place c e s b queued aggr frames raw).log = s.log ++ [⟨b,e,true,fate⟩] := by
  simp only [place]
  split
  · exact .inr ⟨_,rfl⟩
  split
  · exact .inr ⟨_,rfl⟩
  split
  · exact .inl rfl
  · exact .inr ⟨_,rfl⟩

theorem step_log {c : Config} {s s' : LowPrio} {a : Action} (hs : lowStep c s a = some s') :
    s'.log = s.log ∨ ∃ b e aggregated fate, a.turns = [e] ∧ s'.log = s.log ++ [⟨b,e,aggregated,fate⟩] := by
  have hpkt : ∀ {e : Turn} {t : LowPrio} {b : TxBuf}, processTxPkt c e t b = s' → t.log = s.log →
      a.turns = [e] → ∃ b e aggregated fate, a.turns = [e] ∧ s'.log = s.log ++ [⟨b,e,aggregated,fate⟩] := by
    intro e t b hr ht ha
    obtain ⟨fate,hl,-⟩ := processTxPkt_log c e t b
    exact ⟨b,e,false,fate,ha,by rw [← hr,hl,ht]⟩
  have hplace : ∀ {e : Turn} {t : LowPrio} {b : TxBuf} {queued : Nat} {aggr : Bytes} {frames : List Bytes}
      {raw : UInt32}, place c e t b queued aggr frames raw = s' → t.log = s.log → a.turns = [e] →
      s'.log = s.log ∨ ∃ b e aggregated fate, a.turns = [e] ∧ s'.log = s.log ++ [⟨b,e,aggregated,fate⟩] := by
    intro e t b queued aggr frames raw hr ht ha
    rcases place_log c e t b queued aggr frames raw with hl | ⟨fate,hl⟩
    · exact .inl (by rw [← hr,hl,ht])
    · exact .inr ⟨b,e,true,fate,ha,by rw [← hr,hl,ht]⟩
  cases a with
  | push b =>
    cases hs
    exact .inl rfl
  | call queued aggrBuf datapath =>
    simp only [lowStep] at hs
    split_ifs at hs <;> cases hs <;> exact .inl rfl
  | turn e =>
    simp only [lowStep] at hs
    split at hs
    · cases hs
    · split at hs
      · exact .inr (hpkt (Option.some.inj hs) rfl rfl)
      · cases hs
        exact .inl rfl
      · exact .inr (hpkt (Option.some.inj hs) rfl rfl)
      · cases hs
    · split at hs
      · exact .inr (hpkt (Option.some.inj hs) rfl rfl)
      · exact .inr (hpkt (Option.some.inj hs) rfl rfl)
      · cases hs
    · split at hs
      · exact hplace (Option.some.inj hs) rfl rfl
      · exact hplace (Option.some.inj hs) rfl rfl
      · split at hs
        · cases hs
          exact .inl rfl
        · cases hs
    · cases hs
      rw [flush]
      split
      · exact .inl rfl
      · exact .inl rfl

theorem exec_turns {c : Config} {acts : List Action} {s s' : LowPrio} (h : exec (lowStep c) s acts = some s') :
    ∃ rest, s'.log = s.log ++ rest ∧ (rest.map Entry.turn).Sublist (acts.map Action.turns).flatten := by
  induction acts generalizing s with
  | nil =>
    cases h
    exact ⟨[],by simp,by simp⟩
  | cons a acts ih =>
    obtain ⟨m,hm,hrest⟩ := exec_cons h
    obtain ⟨rest,hl,hsub⟩ := ih hrest
    rw [List.map_cons,List.flatten_cons]
    rcases step_log hm with hsame | ⟨b,e,aggregated,fate,ha,hadd⟩
    · exact ⟨rest,by rw [hl,hsame],hsub.trans (List.sublist_append_right _ _)⟩
    · refine ⟨⟨b,e,aggregated,fate⟩ :: rest,by rw [hl,hadd]; simp,?_⟩
      rw [ha]
      exact hsub.cons_cons e

def Aggregating (s : LowPrio) : Prop :=
  s.pc ≠ .single ∧ (∀ queued, s.pc ≠ .closed queued) ∧ ∀ x ∈ s.log, x.aggregated = true

theorem place_aggregating {c : Config} {e : Turn} {s : LowPrio} {b : TxBuf} {queued : Nat} {aggr : Bytes}
    {frames : List Bytes} {raw : UInt32} (h : ∀ x ∈ s.log, x.aggregated = true) :
    Aggregating (place c e s b queued aggr frames raw) := by
  refine ⟨?_,fun n => ?_,fun x hx => ?_⟩
  · simp only [place]
    split_ifs <;> simp
  · simp only [place]
    split_ifs <;> simp
  · rcases place_log c e s b queued aggr frames raw with hl | ⟨fate,hl⟩
    · rw [hl] at hx
      exact h x hx
    · rw [hl] at hx
      rcases List.mem_append.mp hx with hx | hx
      · exact h x hx
      · rw [List.mem_singleton.mp hx]

theorem step_aggregating {c : Config} (s : LowPrio) (a : Action) (s' : LowPrio) (h : Aggregating s)
    (ha : a.aggregates = true) (hs : lowStep c s a = some s') : Aggregating s' := by
  obtain ⟨hsingle,hclosed,hlog⟩ := h
  cases a with
  | push b =>
    cases hs
    exact ⟨hsingle,hclosed,hlog⟩
  | call queued aggrBuf datapath =>
    simp only [Action.aggregates,Bool.and_eq_true] at ha
    simp only [lowStep,ha.1,ha.2,Bool.true_eq_false,if_false,if_true] at hs
    split_ifs at hs <;> cases hs
    · exact ⟨hsingle,hclosed,hlog⟩
    · exact ⟨by simp,by simp,hlog⟩
  | turn e =>
    simp only [lowStep] at hs
    split at hs
    · cases hs
    · rename_i hpc
      exact absurd hpc (hclosed _)
    · rename_i hpc
      exact absurd hpc hsingle
    · split at hs
      · cases hs
        exact place_aggregating hlog
      · cases hs
        exact place_aggregating hlog
      · split at hs
        · cases hs
          exact ⟨by simp,by simp,hlog⟩
        · cases hs
    · cases hs
      rw [flush]
      split
      · exact ⟨by simp,by simp,hlog⟩
      · exact ⟨by simp,by simp,hlog⟩

theorem exec_aggregating {c : Config} {acts : List Action} {s : LowPrio}
    (hcalls : ∀ a ∈ acts, a.aggregates = true) (h : exec (lowStep c) {} acts = some s) :
    ∀ x ∈ s.log, x.aggregated = true :=
  (exec_invariant_along step_aggregating (Along.of_forall (fun _ => hcalls) _)
    (I := Aggregating) ⟨by simp,by simp,by simp⟩ h).2.2

def present (published : Nat) (t : Transfer) : ReadEnv :=
  {raw := (published+t.bytes.length)%ESP_RX_BYTE_MAX, stream := t.bytes, filler := 0xff}

def serve (published : Nat) : List Transfer → List (List ReadEnv)
  | [] => []
  | t :: ts =>
    (present published t :: List.replicate (t.frames.length-1) (present published t)) ::
      serve (published+t.bytes.length) ts

theorem served_serve (published : Nat) (ts : List Transfer) (h : ∀ t ∈ ts, t.frames ≠ []) :
    Served published ts (serve published ts) := by
  induction ts generalizing published with
  | nil => exact .nil published
  | cons t ts ih =>
    have hpos := List.length_pos_iff.mpr (h t (by simp))
    refine .cons ⟨rfl,rfl,List.take_length,rfl,rfl,fun _ => rfl,fun _ => rfl⟩ ?_
      (ih _ (fun t ht => h t (by simp [ht])))
    rw [List.length_replicate]
    omega

def wideConfig : Config := {txAggrSize := 15872, checksum := true, cksum := SpiHd.byteSum, size := .inl rfl}

def sample (ifType : UInt8) (n : Fin 2000) : TxBuf :=
  {handle := {ifType := ifType, ifNum := 0, payload := List.replicate n.val 7
              fits := by rw [List.length_replicate]; omega}}

/-- Two frames share an aggregate; the short one after them waits in the deferred slot. -/
def mixedRun : List Action :=
  [.push (sample 0 300),.call 1 true true,.push (sample 1 301),.turn {},.push (sample 0 40),.turn {},.turn {},
   .turn {},.call 0 true true,.turn {},.turn {}]

/-- An empty frame, and a test frame whose run has ended. -/
def droppedRun : List Action :=
  [.push (sample 0 0),.push (sample 4 300),.call 2 true true,.turn {},.turn {runActive := fun _ => false},
   .turn {},.turn {}]

end EspHosted.Sdio.E2h
