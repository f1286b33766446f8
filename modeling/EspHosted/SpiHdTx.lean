import EspHosted.SpiHdLink

/-!
The transmit side of `spihd_work`, `host/spi_hd/esp_spi_hd.c`: three queues, the
sequence number that a raw throughput frame is given when it is sent, and pairs of
frames in one segment.
-/

set_option autoImplicit false

namespace EspHosted.SpiHd
open EspHosted Framing Recovery Run

def SPIHD_TX_MAX_PENDING : Nat := 128

def hdrChecksum (b : Bytes) : Nat := le16ToCpu (b.getD 8 0) (b.getD 9 0)

def setChecksum (b : Bytes) (v : UInt16) : Bytes :=
  (b.set 8 (UInt8.ofNat (v.toNat%256))).set 9 (UInt8.ofNat (v.toNat/256))

/-- The test of `CONFIG_ESP_SPI_HD_CHECKSUM`. `cksum` is `compute_checksum`, of which
nothing is used but that it is a function of the bytes. -/
def frameChecksumOk (enabled : Bool) (cksum : Bytes → UInt16) (frame : Bytes) : Bool :=
  !enabled || (cksum (setChecksum frame 0)).toNat == hdrChecksum frame

def espRawTpSetSeq (b : Bytes) (seq : UInt32) : Bytes :=
  (((b.set 1 (seq &&& 0xff).toUInt8).set 3 ((seq >>> 8) &&& 0xff).toUInt8).set 10
    ((seq >>> 16) &&& 0xff).toUInt8).set 11 ((seq >>> 24) &&& 0xff).toUInt8

/-- What is done to a frame of `ESP_TEST_IF` right before it is sent. -/
def rawTpStamp (enabled : Bool) (cksum : Bytes → UInt16) (b : Bytes) (seq : UInt32) : Bytes :=
  if hdrIfType b = ESP_TEST_IF then
    let b := espRawTpSetSeq b seq
    if enabled then setChecksum (setChecksum b 0) (cksum (setChecksum b 0)) else b
  else b

theorem getD_set_ne (b : Bytes) {i j : Nat} (v : UInt8) (h : i ≠ j) : (b.set i v).getD j 0 = b.getD j 0 := by
  simp [List.getD_eq_getElem?_getD,List.getElem?_set_ne h]

theorem getD_set_eq (b : Bytes) {i : Nat} (v : UInt8) (h : i < b.length) : (b.set i v).getD i 0 = v := by
  simp [List.getD_eq_getElem?_getD,h]

/-- Two frames that a receiver parses the same way. -/
structure SameHeader (a b : Bytes) : Prop where
  length : a.length = b.length
  ifType : a.getD 0 0 = b.getD 0 0
  packetType : a.getD 2 0 = b.getD 2 0
  len : a.getD 4 0 = b.getD 4 0 ∧ a.getD 5 0 = b.getD 5 0
  offset : a.getD 6 0 = b.getD 6 0 ∧ a.getD 7 0 = b.getD 7 0
  payload : a.drop headerSize = b.drop headerSize

theorem sameHeader_espRawTpSetSeq (b : Bytes) (seq : UInt32) : SameHeader (espRawTpSetSeq b seq) b := by
  constructor <;> simp [espRawTpSetSeq,headerSize,List.drop_set]

theorem sameHeader_setChecksum (b : Bytes) (v : UInt16) : SameHeader (setChecksum b v) b := by
  constructor <;> simp [setChecksum,headerSize,List.drop_set]

theorem SameHeader.trans {a b c : Bytes} (h : SameHeader a b) (h' : SameHeader b c) : SameHeader a c :=
  ⟨h.length.trans h'.length,h.ifType.trans h'.ifType,h.packetType.trans h'.packetType,
   ⟨h.len.1.trans h'.len.1,h.len.2.trans h'.len.2⟩,⟨h.offset.1.trans h'.offset.1,h.offset.2.trans h'.offset.2⟩,
   h.payload.trans h'.payload⟩

theorem sameHeader_rawTpStamp (enabled : Bool) (cksum : Bytes → UInt16) (b : Bytes) (seq : UInt32) :
    SameHeader (rawTpStamp enabled cksum b seq) b := by
  have hs := sameHeader_espRawTpSetSeq b seq
  unfold rawTpStamp
  split
  · split
    · exact ((sameHeader_setChecksum _ _).trans (sameHeader_setChecksum _ _)).trans hs
    · exact hs
  · exact ⟨rfl,rfl,rfl,⟨rfl,rfl⟩,⟨rfl,rfl⟩,rfl⟩

section
variable {a b : Bytes} (h : SameHeader a b)
include h

theorem SameHeader.hdrIfType_eq : hdrIfType a = hdrIfType b := by
  simp only [hdrIfType,h.ifType]

theorem SameHeader.hdrLen_eq : hdrLen a = hdrLen b := by
  simp only [hdrLen,h.len.1,h.len.2]

theorem SameHeader.hdrOffset_eq : hdrOffset a = hdrOffset b := by
  simp only [hdrOffset,h.offset.1,h.offset.2]

theorem SameHeader.headerExpected_eq : headerExpected a = headerExpected b := by
  simp only [headerExpected,h.hdrLen_eq,h.hdrOffset_eq]

end

theorem setChecksum_setChecksum (b : Bytes) (v w : UInt16) :
    setChecksum (setChecksum b v) w = setChecksum b w := by
  simp only [setChecksum]
  rw [List.set_comm _ _ (by decide : (9 : Nat) ≠ 8),List.set_set,List.set_set]

theorem hdrChecksum_setChecksum (b : Bytes) (v : UInt16) (h : headerSize ≤ b.length) :
    hdrChecksum (setChecksum b v) = v.toNat := by
  simp only [headerSize] at h
  rw [← le16ToCpu_htole16 v]
  simp only [hdrChecksum,setChecksum]
  rw [getD_set_ne _ _ (by decide : (9 : Nat) ≠ 8),getD_set_eq _ _ (by omega),
    getD_set_eq _ _ (by simp only [List.length_set]; omega)]

theorem frameChecksumOk_rawTpStamp {enabled : Bool} {cksum : Bytes → UInt16} {b : Bytes} (seq : UInt32)
    (hl : headerSize ≤ b.length) (h : frameChecksumOk enabled cksum b = true) :
    frameChecksumOk enabled cksum (rawTpStamp enabled cksum b seq) = true := by
  unfold rawTpStamp
  split
  · cases enabled with
    | false => rfl
    | true =>
      simp only [if_true,frameChecksumOk,setChecksum_setChecksum]
      rw [hdrChecksum_setChecksum _ _ (by rw [(sameHeader_espRawTpSetSeq b seq).length]; exact hl)]
      simp
  · exact h

section
variable {enabled : Bool} {cksum : Bytes → UInt16}

theorem HostedFrame.headerSize_lt {ck : Bytes → Bool} (f : HostedFrame ck) : headerSize < f.bytes.length :=
  (headerExpected_bounds f.header).1

/-- The stamped frame is one the firmware accepts. -/
def HostedFrame.stamp (f : HostedFrame (frameChecksumOk enabled cksum)) (seq : UInt32) :
    HostedFrame (frameChecksumOk enabled cksum) where
  bytes := rawTpStamp enabled cksum f.bytes seq
  header := by
    have hs := sameHeader_rawTpStamp enabled cksum f.bytes seq
    rw [hs.headerExpected_eq,hs.length]
    exact f.header
  valid := by
    have hs := sameHeader_rawTpStamp enabled cksum f.bytes seq
    have hv := f.valid
    simp only [spiHdValidateCompleteFrame,Bool.and_eq_true,decide_eq_true_eq] at hv ⊢
    rw [hs.length,hs.hdrIfType_eq,hs.hdrLen_eq,hs.hdrOffset_eq]
    exact ⟨hv.1,frameChecksumOk_rawTpStamp seq (Nat.le_of_lt f.headerSize_lt) hv.2⟩

end

inductive Prio where
  | high
  | mid
  | low
  deriving DecidableEq, Repr

def framePrio (b : Bytes) : Prio :=
  if hdrIfType b = ESP_INTERNAL_IF then .high
  else if hdrIfType b = ESP_HCI_IF then .mid
  else .low

/-- `spi_hd.tx_q` and `tx_pending`. `accepted` and `transmitted` are records: the frames
that were taken over, in order, and those that were sent, each with what was sent. -/
structure Tx (ck : Bytes → Bool) where
  link : Link := {}
  running : Bool := true
  txQ : Prio → List (HostedFrame ck) := fun _ => []
  txPending : Nat := 0
  accepted : List (HostedFrame ck) := []
  transmitted : List (HostedFrame ck × HostedFrame ck) := []

section
variable {ck : Bytes → Bool}

def setQueue (q : Prio → List (HostedFrame ck)) (p : Prio) (fs : List (HostedFrame ck)) :
    Prio → List (HostedFrame ck) :=
  fun p' => if p' = p then fs else q p'

inductive WriteResult where
  | ok
  | shutdown
  | msgsize
  | busy
  deriving DecidableEq, Repr

def spihdWritePacket (s : Tx ck) (f : HostedFrame ck) : Tx ck × WriteResult :=
  if s.link.host.dataPath = false ∨ s.running = false ∨ s.link.adapter.state ≠ .ready then (s,.shutdown)
  else if SPI_HD_BUF_SIZE < f.bytes.length then (s,.msgsize)
  else if SPIHD_TX_MAX_PENDING ≤ s.txPending then (s,.busy)
  else
    ({s with
      txPending := s.txPending+1
      txQ := setQueue s.txQ (framePrio f.bytes) (s.txQ (framePrio f.bytes) ++ [f])
      accepted := s.accepted ++ [f]},.ok)

/-- `skb_dequeue` of one queue, with the count. -/
def dequeue (s : Tx ck) (p : Prio) : Option (HostedFrame ck × Tx ck) :=
  match s.txQ p with
  | [] => none
  | f :: fs => some (f,{s with txQ := setQueue s.txQ p fs, txPending := s.txPending-1})

def dequeueNext (s : Tx ck) : Option (HostedFrame ck × Tx ck) :=
  ((dequeue s .high).or (dequeue s .mid)).or (dequeue s .low)

/-- The second frame of an aggregate; `batchBuf` is whether `tx_batch_buf` exists. -/
def pairNext (c : TxConfig) (batchBuf : Bool) (s : Tx ck) (first : HostedFrame ck) :
    Option (HostedFrame ck × Tx ck) :=
  if c.txBatch = false ∨ batchBuf = false ∨ c.txSegmentMax < SPI_HD_TX_BATCH_MAX ∨
      c.txSegment < SPI_HD_TX_BATCH_MAX then none
  else
    match dequeue s .low with
    | none => none
    | some (next,s') => if spihdTxPairCompatible first.bytes next.bytes then some (next,s') else none

end

/-- What the worker finds when it sends: the settings, the values of
`esp_raw_tp_tx_seq_get` for a first and a second frame, and the bus. -/
structure TxEnv where
  config : TxConfig := {}
  batchBuf : Bool := true
  seq : UInt32 := 0
  seqNext : UInt32 := 0
  script : List Segment := []
  deriving DecidableEq, Repr

section
variable {enabled : Bool} {cksum : Bytes → UInt16}

/-- The frames of one pass, as they were queued and as they are sent, and the queues
without them. -/
def takeFrames (i : TxEnv) (s : Tx (frameChecksumOk enabled cksum)) :
    Option (List (HostedFrame (frameChecksumOk enabled cksum) × HostedFrame (frameChecksumOk enabled cksum)) ×
      Tx (frameChecksumOk enabled cksum)) :=
  match dequeueNext s with
  | none => none
  | some (first,s) =>
    match pairNext i.config i.batchBuf s (first.stamp i.seq) with
    | none => some ([(first,first.stamp i.seq)],s)
    | some (next,s) => some ([(first,first.stamp i.seq),(next,next.stamp (i.seqNext+1))],s)

/-- One turn of the transmit loop of `spihd_work`. -/
def sendTurn (i : TxEnv) (s : Tx (frameChecksumOk enabled cksum)) :
    Option (Tx (frameChecksumOk enabled cksum)) :=
  if s.running = false then none
  else
    match takeFrames i s with
    | none => none
    | some (frames,s) =>
      let r := spihdSendFrame (frameChecksumOk enabled cksum) i.config s.link (wire (frames.map Prod.snd)) i.script
      some {s with
        link := r.1.failed r.2
        transmitted := if r.2 then s.transmitted ++ frames else s.transmitted}

inductive TxAction (enabled : Bool) (cksum : Bytes → UInt16) where
  | write (f : HostedFrame (frameChecksumOk enabled cksum))
  | send (i : TxEnv)

def txStep (s : Tx (frameChecksumOk enabled cksum)) :
    TxAction enabled cksum → Option (Tx (frameChecksumOk enabled cksum))
  | .write f => some (spihdWritePacket s f).1
  | .send i => sendTurn i s

end

/-! The bus: every credit is given and every segment taken. -/

def segmentsOk (segment : Nat) : Nat → Host → Bytes → List Segment → Bool
  | _, _, [], _ => true
  | 0, _, _ :: _, _ => false
  | fuel+1, h, b :: data, script =>
    match spihdWaitTxCredit h (script.headD {}).polls, (script.headD {}).wrdma with
    | some h, .ok =>
      segmentsOk segment fuel {h with txInflight := false, txSegmentCount := h.txSegmentCount+1}
        ((b :: data).drop segment) script.tail
    | _, _ => false

section
variable {ck : Bytes → Bool}

/-- All of `data` is with the firmware, which has not failed. -/
structure Arrived (ck : Bytes → Bool) (l : Link) (data : Bytes) (l' : Link) : Prop where
  tracks : Tracks ck l'.fw l'.received
  received : l'.received = l.received ++ data
  adapter : l'.adapter = l.adapter

theorem sendLoop_ok {segment : Nat} (hseg : 0 < segment) (fuel : Nat) (l : Link) (data : Bytes)
    (script : List Segment) (hf : data.length ≤ fuel) (ht : Tracks ck l.fw l.received)
    (hr : ((assembleDecoder ck).run false (l.received ++ data)).1 = false)
    (hs : segmentsOk segment fuel l.host data script = true) :
    ∃ l', sendLoop ck segment fuel l data script = (l',true) ∧ Arrived ck l data l' := by
  induction fuel generalizing l data script with
  | zero =>
    have hd : data = [] := List.length_eq_zero_iff.mp (by omega)
    subst hd
    exact ⟨l,rfl,ht,by simp,rfl⟩
  | succ fuel ih =>
    cases data with
    | nil => exact ⟨l,rfl,ht,by simp,rfl⟩
    | cons b data =>
      rw [segmentsOk] at hs
      split at hs
      · rename_i h hc hw
        obtain ⟨ht',hr'⟩ := ht.accepted hr h segment
        rw [sendLoop_accepted hc hw]
        obtain ⟨l',he,ha⟩ := ih _ _ _
          (by simp only [List.length_drop,List.length_cons] at *; omega) ht' hr' hs
        refine ⟨l',he,ha.tracks,?_,ha.adapter⟩
        rw [ha.received]
        simp [Link.accepted,Link.receive,List.append_assoc,List.take_append_drop]
      · cases hs

theorem spihdSendFrame_ok (c : TxConfig) (l : Link) (old frames : List (HostedFrame ck))
    (script : List Segment) (hpos : 0 < (wire frames).length)
    (hlim : (wire frames).length ≤ if c.txBatch then SPI_HD_TX_BATCH_MAX else SPI_HD_BUF_SIZE)
    (ht : Tracks ck l.fw l.received) (hold : l.received = wire old)
    (hs : segmentsOk c.segment (wire frames).length l.host (wire frames) script = true) :
    ∃ l', spihdSendFrame ck c l (wire frames) script = (l',true) ∧ Arrived ck l (wire frames) l' := by
  have hr : ((assembleDecoder ck).run false (l.received ++ wire frames)).1 = false := by
    have : l.received ++ wire frames = wire (old ++ frames) := by simp [wire,hold]
    rw [this,assemble_wire]
  rw [spihdSendFrame,if_neg (by omega),if_neg (by omega)]
  exact sendLoop_ok c.segment_pos _ l _ script (Nat.le_refl _) ht hr hs

/-! The queues. -/

/-- Frames leave the queues at the head. -/
structure Taken (s : Tx ck) (frames : List (HostedFrame ck)) (s' : Tx ck) : Prop where
  txQ : ∀ p, s.txQ p = frames.filter (framePrio ·.bytes = p) ++ s'.txQ p
  link : s'.link = s.link
  accepted : s'.accepted = s.accepted
  transmitted : s'.transmitted = s.transmitted

theorem dequeue_taken {s s' : Tx ck} {p : Prio} {f : HostedFrame ck} (h : dequeue s p = some (f,s'))
    (hp : framePrio f.bytes = p) : Taken s [f] s' := by
  unfold dequeue at h
  split at h
  · cases h
  · rename_i f' fs hq
    cases h
    refine ⟨fun p' => ?_,rfl,rfl,rfl⟩
    by_cases hpp : p' = p
    · subst hpp
      simp [setQueue,hq,hp]
    · simp [setQueue,hpp,hp,Ne.symm hpp]

theorem dequeue_head {s s' : Tx ck} {p : Prio} {f : HostedFrame ck} (h : dequeue s p = some (f,s')) :
    f ∈ s.txQ p := by
  unfold dequeue at h
  split at h
  · cases h
  · rename_i f' fs hq
    cases h
    simp [hq]

theorem Taken.trans {s s' s'' : Tx ck} {fs gs : List (HostedFrame ck)} (h : Taken s fs s')
    (h' : Taken s' gs s'') : Taken s (fs ++ gs) s'' := by
  refine ⟨fun p => ?_,h'.link.trans h.link,h'.accepted.trans h.accepted,h'.transmitted.trans h.transmitted⟩
  rw [h.txQ p,h'.txQ p,List.filter_append,List.append_assoc]

theorem dequeueNext_eq {s s' : Tx ck} {f : HostedFrame ck} (h : dequeueNext s = some (f,s')) :
    ∃ p, dequeue s p = some (f,s') := by
  simp only [dequeueNext,Option.or_eq_some_iff] at h
  rcases h with (h | h) | h
  exacts [⟨_,h⟩,⟨_,h.2⟩,⟨_,h.2⟩]

theorem pairNext_eq {c : TxConfig} {batchBuf : Bool} {s s' : Tx ck} {first next : HostedFrame ck}
    (h : pairNext c batchBuf s first = some (next,s')) :
    dequeue s .low = some (next,s') ∧ c.txBatch = true ∧
      spihdTxPairCompatible first.bytes next.bytes = true := by
  unfold pairNext at h
  split at h
  · cases h
  · rename_i hc
    split at h
    · cases h
    · rename_i hd
      split at h
      · rename_i hp
        cases h
        refine ⟨hd,?_,hp⟩
        cases hb : c.txBatch with
        | true => rfl
        | false => exact absurd (Or.inl hb) hc
      · cases h

theorem spihdTxPairCompatible_length {a b : Bytes} (h : spihdTxPairCompatible a b = true) :
    a.length+b.length ≤ SPI_HD_TX_BATCH_MAX := by
  simp only [spihdTxPairCompatible,Bool.and_eq_true,decide_eq_true_eq] at h
  exact h.1.1.1.1.2.2.2.2.2.2

end

section
variable {enabled : Bool} {cksum : Bytes → UInt16}

@[simp] theorem stamp_length (f : HostedFrame (frameChecksumOk enabled cksum)) (seq : UInt32) :
    (f.stamp seq).bytes.length = f.bytes.length :=
  (sameHeader_rawTpStamp enabled cksum f.bytes seq).length

theorem takeFrames_spec {i : TxEnv} {s s' : Tx (frameChecksumOk enabled cksum)}
    {frames : List (HostedFrame (frameChecksumOk enabled cksum) × HostedFrame (frameChecksumOk enabled cksum))}
    (h : takeFrames i s = some (frames,s')) (hq : ∀ p, ∀ f ∈ s.txQ p, framePrio f.bytes = p) :
    Taken s (frames.map Prod.fst) s' ∧ (∀ x ∈ frames, ∃ seq, x.2 = x.1.stamp seq) ∧
    0 < (wire (frames.map Prod.snd)).length ∧
    (wire (frames.map Prod.snd)).length ≤
      if i.config.txBatch then SPI_HD_TX_BATCH_MAX else SPI_HD_BUF_SIZE := by
  unfold takeFrames at h
  split at h
  · cases h
  · rename_i first s1 hd
    obtain ⟨p,hd⟩ := dequeueNext_eq hd
    have ht := dequeue_taken hd (hq p first (dequeue_head hd))
    have hb := headerExpected_bounds first.header
    simp only [headerSize,SPI_HD_FRAME_BUF_SIZE] at hb
    split at h
    · cases h
      refine ⟨ht,?_,?_,?_⟩
      · simp
      · simp only [wire,List.map_cons,List.map_nil,List.flatten_cons,List.flatten_nil,List.append_nil,
          stamp_length]
        omega
      · simp only [wire,List.map_cons,List.map_nil,List.flatten_cons,List.flatten_nil,List.append_nil,
          stamp_length,SPI_HD_TX_BATCH_MAX,SPI_HD_BUF_SIZE]
        split <;> omega
    · rename_i next s2 hp
      cases h
      obtain ⟨hd2,hbatch,hc⟩ := pairNext_eq hp
      have hlow : next ∈ s1.txQ .low := dequeue_head hd2
      have ht2 := dequeue_taken hd2 (hq .low next (by rw [ht.txQ]; exact List.mem_append_right _ hlow))
      have hl := spihdTxPairCompatible_length hc
      rw [stamp_length] at hl
      refine ⟨ht.trans ht2,?_,?_,?_⟩
      · simp
      · simp only [wire,List.map_cons,List.map_nil,List.flatten_cons,List.length_append,stamp_length]
        omega
      · simpa [wire,hbatch] using hl

def BusOk (s : Tx (frameChecksumOk enabled cksum)) : TxAction enabled cksum → Prop
  | .write _ => True
  | .send i =>
    match takeFrames i s with
    | none => True
    | some (frames,s') =>
      segmentsOk i.config.segment (wire (frames.map Prod.snd)).length s'.link.host
        (wire (frames.map Prod.snd)) i.script = true

instance (s : Tx (frameChecksumOk enabled cksum)) (a : TxAction enabled cksum) : Decidable (BusOk s a) := by
  cases a
  · exact isTrue trivial
  · unfold BusOk
    dsimp only
    split <;> infer_instance

structure RoundTrip (s : Tx (frameChecksumOk enabled cksum)) : Prop where
  received : s.link.received = wire (s.transmitted.map Prod.snd)
  tracks : Tracks (frameChecksumOk enabled cksum) s.link.fw s.link.received
  fifo : ∀ p, s.accepted.filter (framePrio ·.bytes = p) =
    (s.transmitted.map Prod.fst).filter (framePrio ·.bytes = p) ++ s.txQ p
  stamped : ∀ x ∈ s.transmitted, ∃ seq, x.2 = x.1.stamp seq

theorem RoundTrip.prio {s : Tx (frameChecksumOk enabled cksum)} (h : RoundTrip s) (p : Prio)
    (f : HostedFrame (frameChecksumOk enabled cksum)) (hf : f ∈ s.txQ p) : framePrio f.bytes = p := by
  have hm : f ∈ s.accepted.filter (framePrio ·.bytes = p) := by
    rw [h.fifo p]
    exact List.mem_append_right _ hf
  simpa using (List.mem_filter.mp hm).2

theorem RoundTrip.write {s : Tx (frameChecksumOk enabled cksum)} (h : RoundTrip s)
    (f : HostedFrame (frameChecksumOk enabled cksum)) : RoundTrip (spihdWritePacket s f).1 := by
  unfold spihdWritePacket
  split
  · exact h
  split
  · exact h
  split
  · exact h
  · refine ⟨h.received,h.tracks,fun p => ?_,h.stamped⟩
    have hf := h.fifo p
    by_cases hp : framePrio f.bytes = p
    · subst hp
      simp [List.filter_append,hf,setQueue]
    · simp [List.filter_append,hf,setQueue,hp,Ne.symm hp]

theorem RoundTrip.send {s s' : Tx (frameChecksumOk enabled cksum)} (h : RoundTrip s) {i : TxEnv}
    (hok : BusOk s (.send i)) (hs : sendTurn i s = some s') : RoundTrip s' := by
  unfold sendTurn at hs
  split at hs
  · cases hs
  split at hs
  · cases hs
  · rename_i frames s1 ht
    obtain ⟨htaken,hstamp,hpos,hlim⟩ := takeFrames_spec ht h.prio
    simp only [BusOk,ht] at hok
    obtain ⟨l',he,ha⟩ := spihdSendFrame_ok i.config s1.link (s.transmitted.map Prod.snd) _ i.script hpos hlim
      (by rw [htaken.link]; exact h.tracks) (by rw [htaken.link]; exact h.received) hok
    simp only [he] at hs
    cases hs
    refine ⟨?_,ha.tracks,fun p => ?_,fun x hx => ?_⟩
    · simp only [Link.failed,if_true,ha.received,htaken.link,htaken.transmitted,h.received]
      simp [wire]
    · simp only [if_true,htaken.accepted,htaken.transmitted,h.fifo p,htaken.txQ p]
      simp
    · simp only [if_true,htaken.transmitted] at hx
      rcases List.mem_append.mp hx with hx | hx
      · exact h.stamped x hx
      · exact hstamp x hx

theorem step_roundTrip (s : Tx (frameChecksumOk enabled cksum)) (a : TxAction enabled cksum)
    (s' : Tx (frameChecksumOk enabled cksum)) (h : RoundTrip s) (hok : BusOk s a)
    (hs : txStep s a = some s') : RoundTrip s' := by
  cases a with
  | write f =>
    cases hs
    exact h.write f
  | send i => exact h.send hok hs

end

/-! The assembler after whole frames. -/

section
variable {ck : Bytes → Bool}

theorem tracks_wire {fw : Assembler} {frames : List (HostedFrame ck)} (h : Tracks ck fw (wire frames)) :
    fw = {delivered := frames.map HostedFrame.bytes} := by
  have hfw := h.fw_eq
  rw [assemble_wire] at hfw
  rw [hfw]
  rfl

theorem tracks_empty : Tracks ck {} (wire ([] : List (HostedFrame ck))) := by
  have hw := assemble_wire ([] : List (HostedFrame ck))
  refine ⟨by rw [hw],?_⟩
  rw [hw]
  rfl

theorem Tracks.feed {fw : Assembler} {old : List (HostedFrame ck)} (h : Tracks ck fw (wire old))
    (frames : List (HostedFrame ck)) :
    Tracks ck ((frames.map HostedFrame.bytes).foldl (spiHdConsumeSegment ck) fw) (wire (old ++ frames)) := by
  induction frames generalizing fw old with
  | nil => simpa using h
  | cons f frames ih =>
    have hw : wire old ++ f.bytes = wire (old ++ [f]) := by simp [wire]
    have hf : Tracks ck (spiHdConsumeSegment ck fw f.bytes) (wire old ++ f.bytes) :=
      h.consume (by rw [hw,assemble_wire])
    rw [hw] at hf
    have := ih hf
    simpa using this

theorem feed_eq (frames : List (HostedFrame ck)) :
    (frames.map HostedFrame.bytes).foldl (spiHdConsumeSegment ck) {} =
      {delivered := frames.map HostedFrame.bytes} :=
  tracks_wire (tracks_empty.feed frames)

end

theorem map_snd_bytes {ck : Bytes → Bool} (xs : List (HostedFrame ck × HostedFrame ck)) :
    (xs.map Prod.snd).map HostedFrame.bytes = xs.map (·.2.bytes) := by
  rw [List.map_map]
  rfl

def txStart (enabled : Bool) (cksum : Bytes → UInt16) (host : Host) (adapter : Adapter) :
    Tx (frameChecksumOk enabled cksum) :=
  {link := {host := host, adapter := adapter}}

/-- The firmware has received what was sent, frame by frame, and what was sent is what
was accepted, in the order of each queue and up to the stamp. -/
theorem h2e_round_trip (enabled : Bool) (cksum : Bytes → UInt16) (host : Host) (adapter : Adapter)
    (acts : List (TxAction enabled cksum)) (s : Tx (frameChecksumOk enabled cksum))
    (hrun : exec txStep (txStart enabled cksum host adapter) acts = some s)
    (hok : Along txStep BusOk (txStart enabled cksum host adapter) acts) :
    s.link.fw = {delivered := s.transmitted.map (·.2.bytes)} ∧
    (∀ k, ((s.transmitted.take k).map (·.2.bytes)).foldl (spiHdConsumeSegment (frameChecksumOk enabled cksum)) {} =
      {delivered := (s.transmitted.take k).map (·.2.bytes)}) ∧
    (∀ x ∈ s.transmitted, (∃ seq, x.2.bytes = rawTpStamp enabled cksum x.1.bytes seq) ∧
      (hdrIfType x.1.bytes ≠ ESP_TEST_IF → x.2.bytes = x.1.bytes)) ∧
    ∀ p, s.accepted.filter (framePrio ·.bytes = p) =
      (s.transmitted.map Prod.fst).filter (framePrio ·.bytes = p) ++ s.txQ p := by
  have hstart : RoundTrip (txStart enabled cksum host adapter) := ⟨rfl,tracks_empty,fun _ => rfl,nofun⟩
  have h : RoundTrip s := exec_invariant_along step_roundTrip hok hstart hrun
  refine ⟨?_,fun k => ?_,fun x hx => ?_,h.fifo⟩
  · have ht := h.tracks
    rw [h.received] at ht
    rw [← map_snd_bytes]
    exact tracks_wire ht
  · rw [← map_snd_bytes]
    exact feed_eq ((s.transmitted.take k).map Prod.snd)
  · obtain ⟨seq,hseq⟩ := h.stamped x hx
    refine ⟨⟨seq,by rw [hseq]; rfl⟩,fun hne => ?_⟩
    rw [hseq]
    simp [HostedFrame.stamp,rawTpStamp,hne]

def rawFrame (cksum : Bytes → UInt16) : HostedFrame (frameChecksumOk false cksum) where
  bytes := [4,0,0,0,8,0,12,0,0,0,0,0,0,0,0,0,1,0,0,0]
  header := by decide
  valid := by rfl

def staFrame (cksum : Bytes → UInt16) : HostedFrame (frameChecksumOk false cksum) where
  bytes := [0,0,0,0,4,0,12,0,0,0,0,0,1,2,3,4]
  header := by decide
  valid := by rfl

def byteSum (b : Bytes) : UInt16 := b.foldl (fun n x => n+x.toUInt16) 0

/-- A pair in one segment, after one frame of three segments. -/
def pairRun : List (TxAction false byteSum) :=
  let f := staFrame byteSum
  [.write f,.write f,.write f,.send {config := {txSegment := 6}},
   .send {config := {txSegment := 3200, txSegmentMax := 3200, txBatch := true}}]

theorem h2e_round_trip_pair :
    ∃ s ∈ exec txStep (txStart false byteSum {rxCreditLimit := 9} {state := .ready}) pairRun,
      s.link.host.txSegmentCount = 4 ∧ s.transmitted.length = 3 ∧
      s.link.fw = {delivered := s.transmitted.map (·.2.bytes)} := by
  have h : ∃ s ∈ exec txStep (txStart false byteSum {rxCreditLimit := 9} {state := .ready}) pairRun,
      s.link.host.txSegmentCount = 4 ∧ s.transmitted.length = 3 := by decide +kernel
  obtain ⟨s,hs,hn,hl⟩ := h
  have hok : Along txStep BusOk (txStart false byteSum {rxCreditLimit := 9} {state := .ready}) pairRun := by
    decide +kernel
  exact ⟨s,hs,hn,hl,(h2e_round_trip false byteSum _ _ _ s hs hok).1⟩

/-- The frame that is delivered is not the one that was accepted. -/
theorem h2e_stamped :
    Along txStep BusOk (txStart false byteSum {rxCreditLimit := 9} {state := .ready})
      [.write (rawFrame byteSum),.send {seq := 7}] ∧
    ∃ s ∈ exec txStep (txStart false byteSum {rxCreditLimit := 9} {state := .ready})
        [.write (rawFrame byteSum),.send {seq := 7}],
      s.accepted.map (·.bytes) = [(rawFrame byteSum).bytes] ∧ s.txQ .low = [] ∧
      s.link.fw.delivered ≠ [(rawFrame byteSum).bytes] := by
  decide +kernel

end EspHosted.SpiHd
