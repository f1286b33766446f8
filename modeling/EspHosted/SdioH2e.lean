import EspHosted.SdioE2h

/-!
H2E traffic over SDIO: the aggregation loop of `tx_process`, `host/sdio/esp_sdio.c`, and
`process_rx_pkt` of `main/app_main.c`.
-/

set_option autoImplicit false

namespace EspHosted.Sdio.H2e
open EspHosted Padded Run
open EspHosted.SpiHd (Prio hdrPacketType frameChecksumOk rawTpStamp sameHeader_rawTpStamp frameChecksumOk_rawTpStamp byteSum)
open EspHosted.Sdio.E2h (WireFrame)

def ESP_HOST_TX_LATENCY_BYPASS_SIZE : Nat := 256

/-- `tx_aggr_size` is the `RX_BUF_SIZE` that the firmware announces in its boot event,
where the host has checked it. -/
structure Config where
  txAggrSize : Nat
  checksum : Bool := false
  cksum : Bytes → UInt16
  blocks : ESP_BLOCK_SIZE ∣ txAggrSize
  limit : txAggrSize ≤ ESP_TX_AGGR_SIZE_MAX

/-- A queued frame of the kind every caller of `write_packet` builds. -/
structure WellFormed (c : Config) (skb : Bytes) : Prop where
  wire : WireFrame skb
  fits : alignUp 4 skb.length ≤ c.txAggrSize
  checksum : frameChecksumOk c.checksum c.cksum skb = true

instance (c : Config) (skb : Bytes) : Decidable (WellFormed c skb) :=
  have : Decidable (WireFrame skb) :=
    inferInstanceAs (Decidable (espHostWireSpanValid (hdrLen skb) (hdrOffset skb) skb.length = some skb.length))
  decidable_of_iff
    (WireFrame skb ∧ alignUp 4 skb.length ≤ c.txAggrSize ∧ frameChecksumOk c.checksum c.cksum skb = true)
    ⟨fun h => ⟨h.1,h.2.1,h.2.2⟩,fun h => ⟨h.wire,h.fits,h.checksum⟩⟩

/-- `sdio_get_cmd_info`. -/
def sdioGetCmdInfo (skb : Bytes) : Bool :=
  decide (headerSize ≤ skb.length) && decide (hdrPacketType skb = PACKET_TYPE_COMMAND_REQUEST) &&
    decide (hdrOffset skb+commandHeaderSize ≤ skb.length)

/-- A frame as it was queued and as it was copied into the aggregate. -/
structure Copied where
  skb : Bytes
  bytes : Bytes
  deriving DecidableEq, Repr

inductive Pc where
  | idle
  /-- `first` is `raw_tp_first_seq`. -/
  | fill (first : UInt32) (aggr : Bytes) (frames : List Copied) (rawTpFrames : UInt32)
  | built (aggr : Bytes) (frames : List Copied)
  deriving DecidableEq, Repr

/-- `written` records the CMD53 writes, each with the frames that were copied into it. -/
structure Tx where
  q : Prio → List Bytes
  pc : Pc := .idle
  written : List (Bytes × List Copied) := []

/-- `prio` is the queue the loop has chosen from counters it reads without the lock,
`current` is `sdio_cmd_is_current`, `rawTp` that a host-to-ESP raw throughput test runs. -/
structure Turn where
  prio : Prio
  current : Bool := true
  rawTp : Bool := false
  deriving DecidableEq, Repr

def setQueue (q : Prio → List Bytes) (p : Prio) (skbs : List Bytes) : Prio → List Bytes :=
  fun p' => if p' = p then skbs else q p'

def copied (c : Config) (e : Turn) (seq : UInt32) (frame : Bytes) : Bytes :=
  if e.rawTp then rawTpStamp c.checksum c.cksum frame seq else frame

/-- One turn of the inner loop of `tx_process`. -/
def fillTurn (c : Config) (e : Turn) (s : Tx) (first : UInt32) (aggr : Bytes) (frames : List Copied)
    (rawTpFrames : UInt32) : Tx :=
  if c.txAggrSize ≤ aggr.length then {s with pc := .built aggr frames}
  else
    match s.q e.prio with
    | [] => s
    | skb :: rest =>
      let dequeued := {s with q := setQueue s.q e.prio rest}
      let frameLen := hdrOffset skb+hdrLen skb
      let flushAfterPkt := sdioGetCmdInfo skb || decide (hdrIfType skb = ESP_RCP_IF) ||
        (decide (e.prio = .low) && decide (hdrLen skb ≤ ESP_HOST_TX_LATENCY_BYPASS_SIZE))
      if espOffsetValid (hdrOffset skb) = false ∨ hdrLen skb = 0 then dequeued
      else if skb.length < frameLen then dequeued
      else if flushAfterPkt ∧ aggr ≠ [] then {s with pc := .built aggr frames}
      else if c.txAggrSize < aggr.length+alignUp 4 frameLen then {s with pc := .built aggr frames}
      else if sdioGetCmdInfo skb ∧ e.current = false then dequeued
      else
        let f := copied c e (first+rawTpFrames) (skb.take frameLen)
        {dequeued with
          pc :=
            if flushAfterPkt then .built (aggr ++ pad 4 0 f) (frames ++ [⟨skb,f⟩])
            else .fill first (aggr ++ pad 4 0 f) (frames ++ [⟨skb,f⟩])
              (rawTpFrames+(if hdrIfType skb = ESP_TEST_IF ∧ e.rawTp then 1 else 0))}

inductive Action where
  | write (p : Prio) (skb : Bytes)
  | purge
  | begin (first : UInt32)
  | turn (e : Turn)
  /-- All queues are found empty. -/
  | stop
  /-- The CMD53 write, or the aggregate is given up. -/
  | finish (send : Bool)

def txStep (c : Config) (s : Tx) : Action → Option Tx
  | .write p skb => some {s with q := setQueue s.q p (s.q p ++ [skb])}
  | .purge => some {s with q := fun _ => []}
  | .begin first =>
    match s.pc with
    | .idle => some {s with pc := .fill first [] [] 0}
    | _ => none
  | .turn e =>
    match s.pc with
    | .fill first aggr frames rawTpFrames => some (fillTurn c e s first aggr frames rawTpFrames)
    | _ => none
  | .stop =>
    match s.pc with
    | .fill _ aggr frames _ => some {s with pc := .built aggr frames}
    | _ => none
  | .finish send =>
    match s.pc with
    | .built aggr frames =>
      if aggr = [] ∨ send = false then some {s with pc := .idle}
      else some {s with pc := .idle, written := s.written ++ [(pad ESP_BLOCK_SIZE 0 aggr,frames)]}
    | _ => none

/-! The firmware. -/

/-- `sessionStart` and `rxFromHost` are the results of the RCP bridge for a frame,
`enabled` is `CONFIG_ESP_HOSTED_RCP`. -/
structure RcpEnv where
  enabled : Bool := true
  sessionStart : Bytes → Bool := fun _ => true
  rxFromHost : Bytes → Bool := fun _ => true

/-- `false` where `process_rx_pkt` gives up with `esp_hosted_rcp_fatal_restart`. -/
def rcpAccepts (r : RcpEnv) (f : Bytes) : Bool :=
  if r.enabled = false then true
  else if hdrPacketType f = PACKET_TYPE_RCP_SESSION then
    if hdrLen f = rcpSessionMarkerSize then r.sessionStart f else true
  else if hdrPacketType f ≠ PACKET_TYPE_DATA then false
  else r.rxFromHost f

inductive End where
  | bufferEnd
  | padding
  | error
  | rcpFatal
  deriving DecidableEq, Repr

/-- `errors` is `h2e_drop_invalid` and `h2e_drop_checksum`, `touched` the end of what was
read of the buffer. -/
structure Parse where
  frames : List Bytes := []
  errors : Nat := 0
  touched : Nat := 0
  ended : End := .bufferEnd
  deriving DecidableEq, Repr

def Parse.touch (p : Parse) (n : Nat) : Parse := {p with touched := max p.touched n}

def Parse.error (p : Parse) : Parse := {p with errors := p.errors+1, ended := .error}

def parseLoop (c : Config) (r : RcpEnv) (data : Bytes) : Nat → Nat → Parse → Parse
  | 0, _, st => st
  | fuel+1, pos, st =>
    if data.length < pos+headerSize then {st with ended := .bufferEnd}
    else
      let header := data.drop pos
      let st := st.touch (pos+headerSize)
      let payloadLen := hdrLen header
      let frameLen := payloadLen+hdrOffset header
      let f := header.take frameLen
      if payloadLen = 0 then
        if 0 < pos ∧ (header.take headerSize).all (· == 0) then {st with ended := .padding} else st.error
      else if espOffsetValid (hdrOffset header) = false then st.error
      else if c.txAggrSize < frameLen ∨ data.length < pos+frameLen then st.error
      else
        let st := st.touch (pos+frameLen)
        if frameChecksumOk c.checksum c.cksum f = false then st.error
        else
          let st := {st with frames := st.frames ++ [f]}
          if hdrIfType f = ESP_RCP_IF ∧ rcpAccepts r f = false then {st with ended := .rcpFatal}
          else parseLoop c r data fuel (pos+alignUp 4 frameLen) st

def processRxPkt (c : Config) (r : RcpEnv) (data : Bytes) : Parse := parseLoop c r data (data.length+1) 0 {}

/-! Parsing an aggregate. -/

variable {c : Config}

/-- A frame in the aggregate that the firmware has no fault to find with. -/
structure Accepted (c : Config) (f : Bytes) : Prop where
  wire : WireFrame f
  fits : alignUp 4 f.length ≤ c.txAggrSize
  checksum : frameChecksumOk c.checksum c.cksum f = true

def Parse.deliver (p : Parse) (pos : Nat) (f : Bytes) : Parse :=
  let p := (p.touch (pos+headerSize)).touch (pos+f.length)
  {p with frames := p.frames ++ [f]}

theorem parseLoop_frame (r : RcpEnv) {data f rest : Bytes} {pos : Nat} (fuel : Nat) (st : Parse)
    (hd : data.drop pos = f ++ rest) (hf : Accepted c f) :
    parseLoop c r data (fuel+1) pos st =
      if hdrIfType f = ESP_RCP_IF ∧ rcpAccepts r f = false then {st.deliver pos f with ended := .rcpFatal}
      else parseLoop c r data fuel (pos+alignUp 4 f.length) (st.deliver pos f) := by
  obtain ⟨hlen,hoff,hsum,hhdr⟩ := hf.wire.spec
  have hle := le_alignUp (by decide : 0 < 4) f.length
  have hfit := hf.fits
  have h1 : hdrLen (f ++ rest) = hdrLen f := hdrLen_append rest (Nat.le_of_lt hhdr)
  have h2 : hdrOffset (f ++ rest) = hdrOffset f := hdrOffset_append rest (Nat.le_of_lt hhdr)
  have hroom : pos+f.length ≤ data.length := by
    have := congrArg List.length hd
    rw [List.length_drop,List.length_append] at this
    omega
  simp only [parseLoop,hd,h1,h2,hsum,List.take_left,hoff,hf.checksum]
  rw [if_neg (by omega),if_neg (by omega),if_neg (by simp),if_neg (by omega),if_neg (by simp)]
  rfl

/-- Nothing but zeros is left. -/
theorem parseLoop_padding (r : RcpEnv) {data : Bytes} {pos n : Nat} (fuel : Nat) (st : Parse)
    (hd : data.drop pos = List.replicate n 0) (hle : pos ≤ data.length) (hpos : 0 < pos) :
    parseLoop c r data (fuel+1) pos st =
      if n < headerSize then {st with ended := .bufferEnd}
      else {st.touch (pos+headerSize) with ended := .padding} := by
  have hn : data.length = pos+n := by
    have := congrArg List.length hd
    rw [List.length_drop,List.length_replicate] at this
    omega
  have hz : ∀ k, (List.replicate n (0 : UInt8)).getD k 0 = 0 := by
    intro k
    rw [List.getD_eq_getElem?_getD,List.getElem?_replicate]
    split <;> rfl
  have hlen : hdrLen (List.replicate n 0) = 0 := by
    simp only [hdrLen,hz]
    rfl
  have hall : ((List.replicate n (0 : UInt8)).take headerSize).all (· == 0) = true := by
    rw [List.take_replicate]
    simp
  simp only [parseLoop,hd,hlen,hall]
  rw [hn]
  by_cases hs : n < headerSize
  · rw [if_pos (by omega),if_pos hs]
  · rw [if_neg (by omega),if_neg hs,if_pos trivial,if_pos ⟨hpos,trivial⟩]

/-- How far a parse has come with the whole of `frames`. -/
structure Complete (data : Bytes) (frames : List Bytes) (p : Parse) : Prop where
  frames : p.frames = frames
  errors : p.errors = 0
  touched : p.touched ≤ data.length

theorem Complete.touch {data : Bytes} {frames : List Bytes} {p : Parse} (h : Complete data frames p) {n : Nat}
    (hn : n ≤ data.length) (e : End) : Complete data frames {p.touch n with ended := e} :=
  ⟨h.frames,h.errors,Nat.max_le.mpr ⟨h.touched,hn⟩⟩

theorem Complete.deliver {data : Bytes} {frames : List Bytes} {p : Parse} (h : Complete data frames p)
    {pos : Nat} {f : Bytes} (hf : headerSize < f.length) (hn : pos+f.length ≤ data.length) :
    Complete data (frames ++ [f]) (p.deliver pos f) := by
  refine ⟨?_,h.errors,?_⟩
  · simp [Parse.deliver,Parse.touch,h.frames]
  · have := h.touched
    simp only [Parse.deliver,Parse.touch]
    omega

theorem parseLoop_packed (r : RcpEnv) (data : Bytes) (n : Nat) (frames done : List Bytes) (fuel pos : Nat)
    (st : Parse) (hd : data.drop pos = packed 4 0 true frames ++ List.replicate n 0)
    (hle : pos ≤ data.length) (hpos : frames = [] → 0 < pos) (hfuel : data.length-pos < fuel)
    (hf : ∀ f ∈ frames, Accepted c f)
    (hr : ∀ f ∈ frames, hdrIfType f = ESP_RCP_IF → rcpAccepts r f = true) (hst : Complete data done st) :
    Complete data (done ++ frames) (parseLoop c r data fuel pos st) ∧
      ((parseLoop c r data fuel pos st).ended = .bufferEnd ∨
        (parseLoop c r data fuel pos st).ended = .padding) := by
  induction frames generalizing done fuel pos st with
  | nil =>
    cases fuel with
    | zero => omega
    | succ fuel =>
      have hlen : data.length-pos = n := by
        have := congrArg List.length hd
        simpa [packed] using this
      rw [parseLoop_padding r fuel st (by simpa [packed] using hd) hle (hpos rfl),List.append_nil]
      split
      · exact ⟨⟨hst.frames,hst.errors,hst.touched⟩,.inl rfl⟩
      · exact ⟨hst.touch (by omega) .padding,.inr rfl⟩
  | cons f fs ih =>
    cases fuel with
    | zero => omega
    | succ fuel =>
      have hacc := hf f (by simp)
      have hhdr := hacc.wire.spec.2.2.2
      have hal := le_alignUp (by decide : 0 < 4) f.length
      have hsplit : data.drop pos = pad 4 0 f ++ (packed 4 0 true fs ++ List.replicate n 0) := by
        rw [hd,packed_true,packed_true]
        simp
      have hlen : data.length-pos = alignUp 4 f.length+(packed 4 0 true fs ++ List.replicate n 0).length := by
        rw [← List.length_drop,hsplit,List.length_append,length_pad (by decide)]
      have hnext : data.drop (pos+alignUp 4 f.length) = packed 4 0 true fs ++ List.replicate n 0 := by
        rw [← List.drop_drop,hsplit,drop_pad (by decide)]
      rw [parseLoop_frame r fuel st (by rw [hsplit,pad,List.append_assoc]) hacc,
        if_neg (fun hx => by rw [hr f (by simp) hx.1] at hx; cases hx.2)]
      have := ih (done ++ [f]) fuel (pos+alignUp 4 f.length) (st.deliver pos f) hnext (by omega)
        (fun _ => by omega) (by omega) (fun g hg => hf g (by simp [hg])) (fun g hg => hr g (by simp [hg]))
        (hst.deliver hhdr (by omega))
      simpa using this

/-! Building an aggregate. -/

/-- An RCP frame has its aggregate to itself. -/
structure Filled (c : Config) (aggr : Bytes) (frames : List Copied) : Prop where
  bytes : aggr = packed 4 0 true (frames.map Copied.bytes)
  fits : aggr.length ≤ c.txAggrSize
  accepted : ∀ x ∈ frames, Accepted c x.bytes
  same : ∀ x ∈ frames, SpiHd.SameHeader x.bytes x.skb ∧ (hdrIfType x.skb ≠ ESP_TEST_IF → x.bytes = x.skb)
  alone : ∀ x ∈ frames, hdrIfType x.bytes = ESP_RCP_IF → frames = [x]

def Pc.aggr : Pc → Bytes
  | .idle => []
  | .fill _ aggr _ _ => aggr
  | .built aggr _ => aggr

def Pc.frames : Pc → List Copied
  | .idle => []
  | .fill _ _ frames _ => frames
  | .built _ frames => frames

def Pc.filling : Pc → Bool
  | .fill _ _ _ _ => true
  | _ => false

structure Inv (c : Config) (s : Tx) : Prop where
  queues : ∀ p, ∀ skb ∈ s.q p, WellFormed c skb
  filled : Filled c s.pc.aggr s.pc.frames
  /-- An RCP frame ends the loop. -/
  noRcp : s.pc.filling = true → ∀ x ∈ s.pc.frames, hdrIfType x.bytes ≠ ESP_RCP_IF
  written : ∀ w ∈ s.written, w.2 ≠ [] ∧ ∃ aggr, w.1 = pad ESP_BLOCK_SIZE 0 aggr ∧ Filled c aggr w.2

theorem filled_nil : Filled c [] [] := ⟨rfl,Nat.zero_le _,by simp,by simp,by simp⟩

theorem Filled.nil_iff {aggr : Bytes} {frames : List Copied} (h : Filled c aggr frames) :
    aggr = [] ↔ frames = [] := by
  cases frames with
  | nil => simp [h.bytes,packed]
  | cons x xs =>
    have hl := E2h.length_le_packed true ((x :: xs).map Copied.bytes) x.bytes (by simp)
    have hs := (h.accepted x (by simp)).wire.spec.2.2.2
    rw [← h.bytes] at hl
    constructor
    · intro ha
      rw [ha,List.length_nil] at hl
      omega
    · intro hx
      cases hx

/-- One more frame; it is an RCP frame only in front. -/
theorem Filled.add {aggr : Bytes} {frames : List Copied} {x : Copied} (h : Filled c aggr frames)
    (ha : Accepted c x.bytes)
    (hs : SpiHd.SameHeader x.bytes x.skb ∧ (hdrIfType x.skb ≠ ESP_TEST_IF → x.bytes = x.skb))
    (hl : aggr.length+alignUp 4 x.bytes.length ≤ c.txAggrSize)
    (hold : ∀ y ∈ frames, hdrIfType y.bytes ≠ ESP_RCP_IF) (hx : hdrIfType x.bytes = ESP_RCP_IF → frames = []) :
    Filled c (aggr ++ pad 4 0 x.bytes) (frames ++ [x]) := by
  refine ⟨?_,?_,fun y hy => ?_,fun y hy => ?_,fun y hy hrcp => ?_⟩
  · rw [h.bytes,packed_true,packed_true]
    simp
  · rw [List.length_append,length_pad (by decide)]
    exact hl
  · rcases List.mem_append.mp hy with hy | hy
    · exact h.accepted y hy
    · rw [List.mem_singleton.mp hy]
      exact ha
  · rcases List.mem_append.mp hy with hy | hy
    · exact h.same y hy
    · rw [List.mem_singleton.mp hy]
      exact hs
  · rcases List.mem_append.mp hy with hy | hy
    · exact absurd hrcp (hold y hy)
    · rw [List.mem_singleton.mp hy] at hrcp ⊢
      rw [hx hrcp,List.nil_append]

theorem copied_accepted {skb : Bytes} (h : WellFormed c skb) (e : Turn) (seq : UInt32) :
    Accepted c (copied c e seq skb) ∧
      SpiHd.SameHeader (copied c e seq skb) skb ∧ (hdrIfType skb ≠ ESP_TEST_IF → copied c e seq skb = skb) := by
  unfold copied
  split
  · have hs := sameHeader_rawTpStamp c.checksum c.cksum skb seq
    refine ⟨⟨?_,?_,?_⟩,hs,fun ht => ?_⟩
    · rw [WireFrame,hs.hdrLen_eq,hs.hdrOffset_eq,hs.length]
      exact h.wire
    · rw [hs.length]
      exact h.fits
    · exact frameChecksumOk_rawTpStamp seq (Nat.le_of_lt h.wire.spec.2.2.2) h.checksum
    · rw [rawTpStamp,if_neg ht]
  · exact ⟨⟨h.wire,h.fits,h.checksum⟩,⟨rfl,rfl,rfl,⟨rfl,rfl⟩,⟨rfl,rfl⟩,rfl⟩,fun _ => rfl⟩

theorem mem_setQueue {q : Prio → List Bytes} {p p' : Prio} {skbs : List Bytes} {skb : Bytes}
    (h : skb ∈ setQueue q p skbs p') : skb ∈ skbs ∨ skb ∈ q p' := by
  rw [setQueue] at h
  split at h
  · exact .inl h
  · exact .inr h

theorem Inv.dequeue {s : Tx} (h : Inv c s) {p : Prio} {skb : Bytes} {rest : List Bytes}
    (hq : s.q p = skb :: rest) : Inv c {s with q := setQueue s.q p rest} := by
  refine ⟨fun p' b hb => ?_,h.filled,h.noRcp,h.written⟩
  rcases mem_setQueue hb with hb | hb
  · exact h.queues p b (by rw [hq]; simp [hb])
  · exact h.queues p' b hb

theorem Inv.built {s : Tx} (h : Inv c s) : Inv c {s with pc := .built s.pc.aggr s.pc.frames} := by
  refine ⟨h.queues,h.filled,fun hx => ?_,h.written⟩
  cases hx

theorem Inv.fillTurn {s : Tx} {first raw : UInt32} {aggr : Bytes} {frames : List Copied} (h : Inv c s) (e : Turn)
    (hpc : s.pc = .fill first aggr frames raw) : Inv c (fillTurn c e s first aggr frames raw) := by
  have hfill : Filled c aggr frames := by
    have := h.filled
    rwa [hpc] at this
  have hold : ∀ x ∈ frames, hdrIfType x.bytes ≠ ESP_RCP_IF := by
    have := h.noRcp
    rw [hpc] at this
    exact this rfl
  have hbuilt : Inv c {s with pc := .built aggr frames} := by
    have := h.built
    rwa [hpc] at this
  simp only [H2e.fillTurn]
  split
  · exact hbuilt
  split
  · exact h
  · rename_i skb rest hq
    have hw := h.queues e.prio skb (by rw [hq]; simp)
    have hsum : hdrOffset skb+hdrLen skb = skb.length := by
      have := hw.wire.spec.2.2.1
      omega
    split
    · exact h.dequeue hq
    split
    · exact h.dequeue hq
    split
    · exact hbuilt
    rename_i hflush
    split
    · exact hbuilt
    rename_i hroom
    split
    · exact h.dequeue hq
    rw [hsum] at hroom
    simp only [hsum,List.take_length]
    obtain ⟨hacc,hsame⟩ := copied_accepted hw e (first+raw)
    generalize copied c e (first+raw) skb = f at hacc hsame
    have hrcp : hdrIfType f = ESP_RCP_IF → hdrIfType skb = ESP_RCP_IF := by
      rw [hsame.1.hdrIfType_eq]
      exact id
    -- an RCP frame is flushed, so it found the buffer empty
    have hfirst : hdrIfType f = ESP_RCP_IF → frames = [] := by
      intro hx
      refine hfill.nil_iff.mp (not_not.mp fun hne => hflush ⟨?_,hne⟩)
      simp [hrcp hx]
    have hlen : aggr.length+alignUp 4 f.length ≤ c.txAggrSize := by
      rw [hsame.1.length]
      omega
    have hadd : Filled c (aggr ++ pad 4 0 f) (frames ++ [⟨skb,f⟩]) :=
      hfill.add (x := ⟨skb,f⟩) hacc hsame hlen hold hfirst
    refine ⟨(h.dequeue hq).queues,?_,fun hx x hm => ?_,h.written⟩
    · dsimp only
      split <;> exact hadd
    · dsimp only at hx hm
      split at hx
      · cases hx
      · rename_i hno
        rw [if_neg hno] at hm
        rcases List.mem_append.mp hm with hm | hm
        · exact hold x hm
        · rw [List.mem_singleton.mp hm]
          intro hf
          simp [hrcp hf] at hno

/-- What is queued while the run goes on is well formed. -/
def Fed (c : Config) (_ : Tx) : Action → Prop
  | .write _ skb => WellFormed c skb
  | _ => True

instance (s : Tx) (a : Action) : Decidable (Fed c s a) := by
  cases a <;> unfold Fed <;> infer_instance

theorem step_inv (s : Tx) (a : Action) (s' : Tx) (h : Inv c s) (hok : Fed c s a)
    (hs : txStep c s a = some s') : Inv c s' := by
  cases a with
  | write p skb =>
    cases hs
    refine ⟨fun p' b hb => ?_,h.filled,h.noRcp,h.written⟩
    rcases mem_setQueue hb with hb | hb
    · rcases List.mem_append.mp hb with hb | hb
      · exact h.queues p b hb
      · rw [List.mem_singleton.mp hb]
        exact hok
    · exact h.queues p' b hb
  | purge =>
    cases hs
    exact ⟨by simp,h.filled,h.noRcp,h.written⟩
  | begin first =>
    simp only [txStep] at hs
    split at hs
    · cases hs
      exact ⟨h.queues,filled_nil,by simp [Pc.frames],h.written⟩
    · cases hs
  | turn e =>
    simp only [txStep] at hs
    split at hs
    · rename_i hpc
      cases hs
      exact h.fillTurn e hpc
    · cases hs
  | stop =>
    simp only [txStep] at hs
    split at hs
    · rename_i first aggr frames raw hpc
      cases hs
      have := h.built
      rwa [hpc] at this
    · cases hs
  | finish send =>
    simp only [txStep] at hs
    split at hs
    · rename_i aggr frames hpc
      have hfill : Filled c aggr frames := by
        have := h.filled
        rwa [hpc] at this
      split at hs
      · cases hs
        exact ⟨h.queues,filled_nil,by simp [Pc.frames],h.written⟩
      · rename_i hne
        cases hs
        refine ⟨h.queues,filled_nil,by simp [Pc.frames],fun w hw => ?_⟩
        rcases List.mem_append.mp hw with hw | hw
        · exact h.written w hw
        · rw [List.mem_singleton.mp hw]
          exact ⟨fun hx => (not_or.mp hne).1 (hfill.nil_iff.mpr hx),aggr,rfl,hfill⟩
    · cases hs

theorem processRxPkt_filled {aggr : Bytes} {frames : List Copied} (h : Filled c aggr frames) (hne : frames ≠ [])
    (r : RcpEnv) :
    Complete (pad ESP_BLOCK_SIZE 0 aggr) (frames.map Copied.bytes)
        (processRxPkt c r (pad ESP_BLOCK_SIZE 0 aggr)) ∧
      ((processRxPkt c r (pad ESP_BLOCK_SIZE 0 aggr)).ended = .bufferEnd ∨
        (processRxPkt c r (pad ESP_BLOCK_SIZE 0 aggr)).ended = .padding ∨
        (processRxPkt c r (pad ESP_BLOCK_SIZE 0 aggr)).ended = .rcpFatal ∧
          ∃ x, frames = [x] ∧ hdrIfType x.bytes = ESP_RCP_IF ∧ rcpAccepts r x.bytes = false) := by
  have hd : (pad ESP_BLOCK_SIZE 0 aggr).drop 0 = packed 4 0 true (frames.map Copied.bytes) ++
      List.replicate (alignUp ESP_BLOCK_SIZE aggr.length-aggr.length) 0 := by
    rw [List.drop_zero,pad,← h.bytes]
  have hstart : Complete (pad ESP_BLOCK_SIZE 0 aggr) [] {} := ⟨rfl,rfl,Nat.zero_le _⟩
  have hacc : ∀ f ∈ frames.map Copied.bytes, Accepted c f := by
    intro f hf
    obtain ⟨x,hx,rfl⟩ := List.mem_map.mp hf
    exact h.accepted x hx
  by_cases hr : ∃ x ∈ frames, hdrIfType x.bytes = ESP_RCP_IF ∧ rcpAccepts r x.bytes = false
  · obtain ⟨x,hx,hrcp,hno⟩ := hr
    have hone := h.alone x hx hrcp
    have hax := h.accepted x hx
    have hd' : (pad ESP_BLOCK_SIZE 0 aggr).drop 0 = x.bytes ++
        (List.replicate (alignUp 4 x.bytes.length-x.bytes.length) 0 ++
          List.replicate (alignUp ESP_BLOCK_SIZE aggr.length-aggr.length) 0) := by
      rw [hd,hone]
      simp [packed,pad]
    have hlen : x.bytes.length ≤ (pad ESP_BLOCK_SIZE 0 aggr).length := by
      have := congrArg List.length hd'
      rw [List.drop_zero,List.length_append] at this
      omega
    have hdel := hstart.deliver hax.wire.spec.2.2.2 (Nat.zero_add _ ▸ hlen : 0+x.bytes.length ≤ _)
    rw [processRxPkt,parseLoop_frame r _ _ hd' hax,if_pos ⟨hrcp,hno⟩,hone]
    exact ⟨⟨hdel.frames,hdel.errors,hdel.touched⟩,.inr (.inr ⟨rfl,x,rfl,hrcp,hno⟩)⟩
  · have hok : ∀ f ∈ frames.map Copied.bytes, hdrIfType f = ESP_RCP_IF → rcpAccepts r f = true := by
      intro f hf hrcp
      obtain ⟨x,hx,rfl⟩ := List.mem_map.mp hf
      cases ha : rcpAccepts r x.bytes with
      | true => rfl
      | false => exact absurd ⟨x,hx,hrcp,ha⟩ hr
    have hp := parseLoop_packed r _ _ (frames.map Copied.bytes) [] ((pad ESP_BLOCK_SIZE 0 aggr).length+1) 0 {}
      hd (Nat.zero_le _) (fun hx => absurd (List.map_eq_nil_iff.mp hx) hne) (by omega) hacc hok hstart
    refine ⟨hp.1,?_⟩
    rcases hp.2 with he | he
    · exact .inl he
    · exact .inr (.inl he)

/-- Every aggregate fits the receive buffer of the firmware, in whole blocks, and is parsed
into the frames that were put in. -/
theorem h2e_aggregates_parse (c : Config) (q : Prio → List Bytes) (hq : ∀ p, ∀ skb ∈ q p, WellFormed c skb)
    (acts : List Action) (s : Tx) (hrun : exec (txStep c) {q := q} acts = some s)
    (hok : Along (txStep c) (Fed c) {q := q} acts) :
    ∀ w ∈ s.written,
      w.1.length ≤ c.txAggrSize ∧ ESP_BLOCK_SIZE ∣ w.1.length ∧
      (∀ x ∈ w.2, SpiHd.SameHeader x.bytes x.skb ∧ (hdrIfType x.skb ≠ ESP_TEST_IF → x.bytes = x.skb)) ∧
      ∀ r : RcpEnv,
        (processRxPkt c r w.1).frames = w.2.map Copied.bytes ∧ (processRxPkt c r w.1).errors = 0 ∧
        (processRxPkt c r w.1).touched ≤ w.1.length ∧
        ((processRxPkt c r w.1).ended = .bufferEnd ∨ (processRxPkt c r w.1).ended = .padding ∨
          (processRxPkt c r w.1).ended = .rcpFatal ∧
            ∃ x, w.2 = [x] ∧ hdrIfType x.bytes = ESP_RCP_IF ∧ rcpAccepts r x.bytes = false) := by
  have h0 : Inv c {q := q} := ⟨hq,filled_nil,by simp [Pc.frames],by simp⟩
  have hinv : Inv c s := exec_invariant_along step_inv hok h0 hrun
  intro w hw
  obtain ⟨hne,aggr,hb,hfill⟩ := hinv.written w hw
  rw [hb]
  refine ⟨?_,?_,hfill.same,fun r => ?_⟩
  · rw [length_pad (by decide)]
    exact alignUp_le (by decide) hfill.fits c.blocks
  · rw [length_pad (by decide)]
    exact dvd_alignUp _ _
  · obtain ⟨hc,he⟩ := processRxPkt_filled hfill hne r
    exact ⟨hc.frames,hc.errors,hc.touched,he⟩

def smallConfig : Config :=
  {txAggrSize := 3584, checksum := true, cksum := byteSum, blocks := by decide, limit := by decide}

def sampleSkb (ifType : Nat) (packetType : UInt8) (n : Nat) : Bytes :=
  let hdr : PayloadHeader :=
    {ifType := Usb.nibble ifType, ifNum := Usb.nibble 0, packetType := packetType, len := UInt16.ofNat n, offset := 12}
  let f := hdr.encode ++ List.replicate n 1
  SpiHd.setChecksum f (byteSum f)

/-- A command, a HCI packet and a data frame are waiting. -/
def sampleQueues : Prio → List Bytes
  | .high => [sampleSkb 3 1 8]
  | .mid => [sampleSkb 2 0 5]
  | .low => [sampleSkb 0 0 300]

/-- The command goes alone; then the HCI packet, the data frame and a test frame, which
is stamped and fills its aggregate up to 640 bytes. -/
def sampleRun : List Action :=
  [.begin 9,.turn {prio := .high},.finish true,.begin 9,.turn {prio := .mid},.turn {prio := .low},
   .write .low (sampleSkb 4 0 296),.turn {prio := .low, rawTp := true},.stop,.finish true]

theorem h2e_aggregates_parse_mixed :
    ∃ s ∈ exec (txStep smallConfig) {q := sampleQueues} sampleRun,
      s.written.map (fun w => (w.1.length,w.2.length)) = [(512,1),(1024,3)] ∧
      ∀ w ∈ s.written, (processRxPkt smallConfig {} w.1).frames = w.2.map Copied.bytes := by
  have h : ∃ s ∈ exec (txStep smallConfig) {q := sampleQueues} sampleRun,
      s.written.map (fun w => (w.1.length,w.2.length)) = [(512,1),(1024,3)] := by decide +kernel
  have hok : Along (txStep smallConfig) (Fed smallConfig) {q := sampleQueues} sampleRun := by decide +kernel
  have hq : ∀ p, ∀ skb ∈ sampleQueues p, WellFormed smallConfig skb := by
    intro p
    cases p <;> decide +kernel
  obtain ⟨s,hs,hw⟩ := h
  refine ⟨s,hs,hw,fun w hm => ?_⟩
  exact ((h2e_aggregates_parse smallConfig sampleQueues hq sampleRun s hs hok w hm).2.2.2 {}).1

/-- The RCP bridge has no room for the frame. -/
theorem h2e_rcp_refused :
    WellFormed smallConfig (sampleSkb 5 0 20) ∧
    ∃ s ∈ exec (txStep smallConfig) {q := fun _ => [sampleSkb 5 0 20]}
        [.begin 0,.turn {prio := .mid},.finish true],
      ∃ w ∈ s.written,
        (processRxPkt smallConfig {rxFromHost := fun _ => false} w.1).ended = .rcpFatal := by
  decide +kernel

end EspHosted.Sdio.H2e
