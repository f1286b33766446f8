import EspHosted.Wire
import EspHosted.Lib.Quads
import EspHosted.Lib.Shift

/-!
What SPI-HD puts on the wire: `spihd_sync_transfer`, `spihd_enhanced_xfer_lines` and
`spihd_command_lines` of `host/spi_hd/esp_spi_hd.c`. A clock is a byte and the number of
lanes it is on; a phase without a transmit buffer shifts out zeros.
-/

set_option autoImplicit false

namespace EspHosted.SpiHdWire
open EspHosted Shift Word

def SPIHD_CMD_WRDMA : UInt8 := 0x03
def SPIHD_CMD_RDDMA : UInt8 := 0x04
def SPIHD_CMD_WR_END : UInt8 := 0x07
def SPIHD_CMD_INT0 : UInt8 := 0x08
def SPIHD_CMD_INT1 : UInt8 := 0x09
def SPIHD_QIO_MASK : UInt8 := 0xA0
def SPIHD_QIO_DATA_ONLY_MASK : UInt8 := 0x20
def SPIHD_CONTROL_BYTES : Nat := 64

inductive Errno where
  | inval
  | opnotsupp
  | msgsize
  | range
  | nomem
  | again
  deriving DecidableEq, Repr

abbrev Clk := Nat × UInt8
abbrev Frames := List (List Clk)
abbrev Device := Peer Clk UInt8

/-- `littleEndian` is the byte order of the host's memory. -/
structure Controller where
  transferMax : Nat
  messageMax : Nat
  minSpeedHz : Nat := 0
  fullDuplex : Bool := true
  bpw32 : Bool := true
  littleEndian : Bool := true

/-- The module parameters and the negotiated limits; `speedHz` is
`spihd_effective_speed_hz`, and the first six are the fast paths. -/
structure Config where
  coalesce : Bool := false
  qioTxWord32 : Bool := false
  qioRxWord32 : Bool := false
  wrdmaBatchEnd : Bool := false
  rddmaBatchEnd : Bool := false
  rxBatchControl : Bool := false
  forceSioWrend : Bool := false
  forceSioControlE2h : Bool := true
  forceSioE2h : Bool := false
  qioAddrSingle : Bool := false
  appendTx : Bool := false
  appendNoAck : Bool := false
  txBatch : Bool := false
  sioBuf : Bool := true
  dataLines : Nat := 1
  speedHz : Nat
  sioMaxHz : Nat := 0
  qioH2eDiagMaxHz : Nat := 0
  rxLimit : Nat := 1600
  txSegmentMax : Nat

/-- `struct spi_transfer`, with where the buffers live. -/
structure Xfer where
  txBuf : Option Bytes := none
  rxBuf : Bool := false
  len : Nat
  txNbits : Nat := 1
  rxNbits : Nat := 1
  bitsPerWord : Nat := 8
  speedHz : Nat
  csChange : Bool := false
  txStack : Bool := false
  rxStack : Bool := false

def Xfer.wire (le : Bool) (x : Xfer) : Bytes :=
  match x.txBuf with
  | none => List.replicate x.len 0
  | some buf => if x.bitsPerWord = 32 then shiftOut le buf else buf

def Xfer.lanes (x : Xfer) : Nat := if x.txBuf.isSome then x.txNbits else x.rxNbits

def Xfer.phase (le : Bool) (x : Xfer) : Phase Clk :=
  {clocks := (x.wire le).map (Prod.mk x.lanes), ends := x.csChange}

def Xfer.memory (le : Bool) (x : Xfer) (bytes : Bytes) : Bytes :=
  if x.bitsPerWord = 32 then shiftIn le bytes else bytes

abbrev Result (α : Type) := Frames × Except Errno α

def phaseError (ctl : Controller) (total txUsed rxUsed : Nat) (x : Xfer) : Option Errno :=
  if ctl.transferMax < x.len ∨ ctl.messageMax-total < x.len then some .msgsize
  else if (x.bitsPerWord = 32 ∧ ctl.bpw32 = false) ∨ (x.txBuf.isSome ∧ x.rxBuf ∧ ctl.fullDuplex = false) then
    some .opnotsupp
  else if x.speedHz < ctl.minSpeedHz then some .range
  else if x.txStack ∧ SPIHD_CONTROL_BYTES-txUsed < x.len then some .msgsize
  else if x.rxStack ∧ SPIHD_CONTROL_BYTES-rxUsed < x.len then some .msgsize
  else none

def checkPhases (ctl : Controller) (total txUsed rxUsed : Nat) : List Xfer → Option Errno
  | [] => none
  | x :: xs =>
    match phaseError ctl total txUsed rxUsed x with
    | some e => some e
    | none =>
      checkPhases ctl (total+x.len) (if x.txStack then txUsed+x.len else txUsed)
        (if x.rxStack then rxUsed+x.len else rxUsed) xs

/-- The frames in `done` are over. Either the message is refused as a whole, or the bus
carries all of it. -/
def spihdSyncTransfer (ctl : Controller) (dev : Device) (done : Frames) (xs : List Xfer) : Result (List Bytes) :=
  if xs.length = 0 ∨ 6 < xs.length then (done,.error .inval)
  else
    match checkPhases ctl 0 0 0 xs with
    | some e => (done,.error e)
    | none =>
      let phases := xs.map (Xfer.phase ctl.littleEndian)
      ((Bus.run {frames := done} phases).close,
        .ok (List.zipWith (Xfer.memory ctl.littleEndian) xs (samples dev {frames := done} phases)))

def spihdWireCmdMode (base : UInt8) (dataLines addrLines : Nat) : UInt8 :=
  if dataLines ≠ 4 then base
  else base ||| (if addrLines = 1 then SPIHD_QIO_DATA_ONLY_MASK else SPIHD_QIO_MASK)

def spihdDataNbitsLines (lines : Nat) : Nat := if lines = 4 then 4 else 1

def spihdAddrLines (c : Config) (dataLines : Nat) (h2e : Bool) : Nat :=
  if dataLines = 4 ∧ h2e ∧ c.qioAddrSingle then 1 else dataLines

def spihdE2hLines (c : Config) : Nat := if c.forceSioE2h then 1 else c.dataLines

def spihdE2hControlLines (c : Config) : Nat := if c.forceSioControlE2h then 1 else spihdE2hLines c

def spihdCombinedWrdma (c : Config) (len lines : Nat) : Bool :=
  c.wrdmaBatchEnd && c.forceSioWrend && c.qioTxWord32 && c.qioAddrSingle &&
    decide (lines = 4 ∧ 256 < len ∧ len%4 = 0)

def spihdCombinedRddma (c : Config) (len lines : Nat) : Bool :=
  c.rddmaBatchEnd && c.forceSioControlE2h && c.qioRxWord32 && decide (lines = 4 ∧ 256 < len ∧ len%4 = 0)

def spihdBatchRxAck (c : Config) (len lines : Nat) : Bool :=
  c.rxBatchControl && !(c.appendTx && c.appendNoAck) && spihdCombinedRddma c len lines

def spihdRxAckRequired (c : Config) (status : UInt32) (pending : Nat) : Bool :=
  !(c.appendTx && c.appendNoAck && status == 0 && decide (pending ≠ 0 ∧ pending ≤ c.rxLimit))

def capHz (hz cap : Nat) : Nat := if cap = 0 then hz else min hz cap

/-- The clock of a command, and of data in that direction. -/
def spihdSpeedHz (c : Config) (lines : Nat) (tx : Bool) : Nat :=
  let speed := if lines = 1 then capHz c.speedHz c.sioMaxHz else c.speedHz
  if tx ∧ lines = 4 then capHz speed c.qioH2eDiagMaxHz else speed

/-- The `tx` and `rx` of a transfer: exactly one of them is there. -/
inductive Data where
  | tx (buf : Bytes) (stack : Bool)
  | rx (len : Nat) (stack : Bool)
  deriving DecidableEq, Repr

def Data.len : Data → Nat
  | .tx buf _ => buf.length
  | .rx len _ => len

def Data.isTx : Data → Bool
  | .tx _ _ => true
  | .rx _ _ => false

def packWord32 (le : Bool) : Bytes → Bytes :=
  quads fun b0 b1 b2 b3 =>
    store le (b0.toUInt32 <<< 24 ||| b1.toUInt32 <<< 16 ||| b2.toUInt32 <<< 8 ||| b3.toUInt32)

def unpackWord32 (le : Bool) : Bytes → Bytes :=
  quads fun b0 b1 b2 b3 =>
    let word := load le b0 b1 b2 b3
    [(word >>> 24).toUInt8,(word >>> 16).toUInt8,(word >>> 8).toUInt8,word.toUInt8]

def txWord32 (ctl : Controller) (c : Config) (len lines : Nat) : Bool :=
  c.qioTxWord32 && c.sioBuf && ctl.bpw32 && decide (lines = 4 ∧ 256 < len ∧ len%4 = 0 ∧
    len ≤ if c.txBatch then SPI_HD_TX_BATCH_MAX else SPI_HD_BUF_SIZE)

def rxWord32 (ctl : Controller) (c : Config) (len lines : Nat) : Bool :=
  c.qioRxWord32 && ctl.bpw32 && decide (lines = 4 ∧ 256 < len ∧ len%4 = 0)

def headerLen (hasAddr : Bool) : Nat := if hasAddr then 3 else 2

/-- The command, address, dummy and write data go in one controller transfer. -/
def coalesces (ctl : Controller) (c : Config) (hasAddr : Bool) (d : Data) (lines : Nat) : Bool :=
  c.coalesce && c.sioBuf && decide (lines = 1 ∧ spihdAddrLines c lines d.isTx = 1 ∧ d.len ≤ SPI_HD_BUF_SIZE ∧
    d.len+headerLen hasAddr ≤ ctl.transferMax ∧ d.len+headerLen hasAddr ≤ ctl.messageMax)

def thenResult {α β : Type} (r : Result α) (k : Frames → α → Result β) : Result β :=
  match r with
  | (done,.error e) => (done,.error e)
  | (done,.ok a) => k done a

def sioWriteXfer (hdr buf : Bytes) (speed : Nat) : Xfer :=
  {txBuf := some (hdr ++ buf), len := hdr.length+buf.length, speedHz := speed}

def sioExchangeXfer (hdr : Bytes) (len speed : Nat) : Xfer :=
  {txBuf := some (hdr ++ List.replicate len 0), rxBuf := true, len := hdr.length+len, speedHz := speed,
   txStack := true, rxStack := true}

def sioHeaderXfer (hdr : Bytes) (speed : Nat) : Xfer :=
  {txBuf := some hdr, len := hdr.length, speedHz := speed, txStack := true}

def sioReadXfer (len : Nat) (stack : Bool) (speed : Nat) : Xfer :=
  {rxBuf := true, len := len, speedHz := speed, rxStack := stack}

def coalescedXfer (ctl : Controller) (dev : Device) (done : Frames) (cmd : UInt8) (hasAddr : Bool)
    (addr : UInt8) (d : Data) (speed : Nat) : Result Bytes :=
  let hlen := headerLen hasAddr
  let hdr : Bytes := [cmd,if hasAddr then addr else 0,0].take hlen
  match d with
  | .rx len stack =>
    if len ≤ 4 ∧ ctl.fullDuplex then
      thenResult (spihdSyncTransfer ctl dev done [sioExchangeXfer hdr len speed]) fun done bufs =>
        (done,.ok ((bufs.getD 0 []).drop hlen))
    else
      thenResult (spihdSyncTransfer ctl dev done [sioHeaderXfer hdr speed,sioReadXfer len stack speed]) fun done bufs =>
        (done,.ok (bufs.getD 1 []))
  | .tx buf _ =>
    thenResult (spihdSyncTransfer ctl dev done [sioWriteXfer hdr buf speed]) fun done _ => (done,.ok [])

def controlXfer (cmd : UInt8) (speed : Nat) (csChange : Bool) : Xfer :=
  {txBuf := some [cmd,0,0], len := 3, speedHz := speed, csChange := csChange, txStack := true}

/-- `fold` is `fold_write_dummy`: the dummy clocks are a second address byte. -/
def headerXfers (cmd : UInt8) (hasAddr : Bool) (addr : UInt8) (addrNbits : Nat) (fold : Bool) (speed : Nat) :
    List Xfer :=
  [{txBuf := some [cmd], len := 1, speedHz := speed, txStack := true}] ++
  (if hasAddr then
    [{txBuf := some (if fold then [addr,0] else [addr]), len := if fold then 2 else 1, txNbits := addrNbits,
      speedHz := speed, txStack := true}]
  else []) ++
  (if fold then [] else [{txBuf := some [0], len := 1, speedHz := speed, txStack := true}])

def dataXfer (ctl : Controller) (c : Config) (d : Data) (lines speed : Nat) (csChange : Bool) : Xfer :=
  match d with
  | .tx buf stack =>
    if txWord32 ctl c buf.length lines then
      {txBuf := some (packWord32 ctl.littleEndian buf), len := buf.length, txNbits := spihdDataNbitsLines lines,
       bitsPerWord := 32, speedHz := speed, csChange := csChange}
    else
      {txBuf := some buf, len := buf.length, txNbits := spihdDataNbitsLines lines, speedHz := speed,
       csChange := csChange, txStack := stack}
  | .rx len stack =>
    {rxBuf := true, len := len, rxNbits := spihdDataNbitsLines lines,
     bitsPerWord := if rxWord32 ctl c len lines then 32 else 8, speedHz := speed, csChange := csChange,
     rxStack := stack}

def foldWriteDummy (c : Config) (hasAddr : Bool) (d : Data) (lines : Nat) : Bool :=
  d.isTx && hasAddr && decide (lines = 4 ∧ spihdAddrLines c lines d.isTx = 1)

/-- An `INT1` in front of a bulk read. -/
def batchesAck (c : Config) (base : UInt8) (d : Data) (lines : Nat) : Bool :=
  base == SPIHD_CMD_RDDMA && spihdBatchRxAck c d.len lines

/-- An `INT0` or `WR_END` behind the data. -/
def batchesEnd (c : Config) (base : UInt8) (d : Data) (lines : Nat) : Bool :=
  (base == SPIHD_CMD_WRDMA && spihdCombinedWrdma c d.len lines) ||
    (base == SPIHD_CMD_RDDMA && !c.appendTx && spihdCombinedRddma c d.len lines)

def phasedXfers (ctl : Controller) (c : Config) (base : UInt8) (hasAddr : Bool) (addr : UInt8) (d : Data)
    (lines : Nat) : List Xfer × Xfer × List Xfer :=
  let addrLines := spihdAddrLines c lines d.isTx
  let cmd := spihdWireCmdMode base lines addrLines
  let speed := spihdSpeedHz c lines d.isTx
  let ends := batchesEnd c base d lines
  let endCmd := if base == SPIHD_CMD_RDDMA then SPIHD_CMD_INT0 else SPIHD_CMD_WR_END
  ((if batchesAck c base d lines then [controlXfer SPIHD_CMD_INT1 (capHz speed c.sioMaxHz) true] else []) ++
      headerXfers cmd hasAddr addr (spihdDataNbitsLines addrLines) (foldWriteDummy c hasAddr d lines) speed,
    dataXfer ctl c d lines speed ends,
    if ends then [controlXfer endCmd (capHz c.speedHz c.sioMaxHz) false] else [])

def spihdEnhancedXferLines (ctl : Controller) (c : Config) (dev : Device) (done : Frames) (base : UInt8)
    (hasAddr : Bool) (addr : UInt8) (d : Data) (lines : Nat) : Result Bytes :=
  if d.len = 0 then (done,.error .inval)
  else if coalesces ctl c hasAddr d lines then
    coalescedXfer ctl dev done (spihdWireCmdMode base lines (spihdAddrLines c lines d.isTx)) hasAddr addr d
      (spihdSpeedHz c lines d.isTx)
  else
    let xs := phasedXfers ctl c base hasAddr addr d lines
    thenResult (spihdSyncTransfer ctl dev done (xs.1 ++ xs.2.1 :: xs.2.2)) fun done bufs =>
      (done,.ok (if d.isTx then []
        else if xs.2.1.bitsPerWord = 32 then unpackWord32 ctl.littleEndian (bufs.getD xs.1.length [])
        else bufs.getD xs.1.length []))

def spihdCommandLines (ctl : Controller) (c : Config) (dev : Device) (done : Frames) (base : UInt8)
    (lines : Nat) : Result Unit :=
  let addrLines := spihdAddrLines c lines true
  let cmd := spihdWireCmdMode base lines addrLines
  let speed := if lines = 1 then capHz c.speedHz c.sioMaxHz else c.speedHz
  thenResult
    (spihdSyncTransfer ctl dev done
      (if c.coalesce ∧ lines = 1 ∧ addrLines = 1 then [controlXfer cmd speed false]
      else headerXfers cmd true 0 (spihdDataNbitsLines addrLines) false speed))
    fun done _ => (done,.ok ())

/-! What the caller and the wire see of an operation. -/

variable {α β : Type}

def seen (r : Result α) : Frames × Option α := (r.1,r.2.toOption)

def thenSeen (r : Frames × Option α) (k : Frames → α → Frames × Option β) : Frames × Option β :=
  match r with
  | (done,none) => (done,none)
  | (done,some a) => k done a

theorem seen_thenResult (r : Result α) (k : Frames → α → Result β) :
    seen (thenResult r k) = thenSeen (seen r) fun done a => seen (k done a) := by
  rcases r with ⟨done,_ | a⟩ <;> rfl

@[simp] theorem seen_ok (done : Frames) (a : α) : seen ((done,.ok a) : Result α) = (done,some a) := rfl

@[simp] theorem seen_error (done : Frames) (e : Errno) : seen ((done,.error e) : Result α) = (done,none) := rfl

@[simp] theorem thenSeen_some (done : Frames) (a : α) (k : Frames → α → Frames × Option β) :
    thenSeen (done,some a) k = k done a := rfl

theorem thenSeen_ite {p : Prop} [Decidable p] (done : Frames) (r : Frames × Option α)
    (k : Frames → α → Frames × Option β) :
    thenSeen (if p then r else (done,none)) k = if p then thenSeen r k else (done,none) := by
  split <;> rfl

/-! Which messages the checks let through. -/

def sumOf (f : Xfer → Nat) : List Xfer → Nat
  | [] => 0
  | x :: xs => f x+sumOf f xs

@[simp] theorem sumOf_append (f : Xfer → Nat) (xs ys : List Xfer) : sumOf f (xs ++ ys) = sumOf f xs+sumOf f ys := by
  induction xs with
  | nil => simp [sumOf]
  | cons x xs ih => simp [sumOf,ih,Nat.add_assoc]

def Xfer.txStackLen (x : Xfer) : Nat := if x.txStack then x.len else 0

def Xfer.rxStackLen (x : Xfer) : Nat := if x.rxStack then x.len else 0

structure Xfer.Fits (ctl : Controller) (x : Xfer) : Prop where
  len : x.len ≤ ctl.transferMax
  bpw : x.bitsPerWord = 32 → ctl.bpw32 = true
  duplex : x.txBuf.isSome → x.rxBuf → ctl.fullDuplex = true
  speed : ctl.minSpeedHz ≤ x.speedHz

structure Accepted (ctl : Controller) (xs : List Xfer) : Prop where
  fits : ∀ x ∈ xs, x.Fits ctl
  total : sumOf Xfer.len xs ≤ ctl.messageMax
  txStack : sumOf Xfer.txStackLen xs ≤ SPIHD_CONTROL_BYTES
  rxStack : sumOf Xfer.rxStackLen xs ≤ SPIHD_CONTROL_BYTES

theorem ite_some_none {p : Prop} [Decidable p] {e : Errno} {r : Option Errno} :
    (if p then some e else r) = none ↔ ¬p ∧ r = none := by
  by_cases h : p <;> simp [h]

theorem phaseError_none {ctl : Controller} {total txUsed rxUsed : Nat} (x : Xfer) (ht : total ≤ ctl.messageMax)
    (htx : txUsed ≤ SPIHD_CONTROL_BYTES) (hrx : rxUsed ≤ SPIHD_CONTROL_BYTES) :
    phaseError ctl total txUsed rxUsed x = none ↔ x.Fits ctl ∧ total+x.len ≤ ctl.messageMax ∧
      txUsed+x.txStackLen ≤ SPIHD_CONTROL_BYTES ∧ rxUsed+x.rxStackLen ≤ SPIHD_CONTROL_BYTES := by
  simp only [phaseError,ite_some_none,and_true,not_or,not_and,Nat.not_lt,Bool.not_eq_false,Xfer.txStackLen,
    Xfer.rxStackLen]
  constructor
  · rintro ⟨⟨hl,hm⟩,⟨hb,hd⟩,hs,h1,h2⟩
    refine ⟨⟨hl,hb,hd,hs⟩,by omega,?_,?_⟩
    · split
      · have := h1 ‹_›
        omega
      · exact htx
    · split
      · have := h2 ‹_›
        omega
      · exact hrx
  · rintro ⟨⟨hl,hb,hd,hs⟩,hm,h1,h2⟩
    refine ⟨⟨hl,by omega⟩,⟨hb,hd⟩,hs,?_,?_⟩
    · intro h
      rw [if_pos h] at h1
      omega
    · intro h
      rw [if_pos h] at h2
      omega

theorem checkPhases_none {ctl : Controller} (xs : List Xfer) {total txUsed rxUsed : Nat} (ht : total ≤ ctl.messageMax)
    (htx : txUsed ≤ SPIHD_CONTROL_BYTES) (hrx : rxUsed ≤ SPIHD_CONTROL_BYTES) :
    checkPhases ctl total txUsed rxUsed xs = none ↔ (∀ x ∈ xs, x.Fits ctl) ∧
      total+sumOf Xfer.len xs ≤ ctl.messageMax ∧ txUsed+sumOf Xfer.txStackLen xs ≤ SPIHD_CONTROL_BYTES ∧
      rxUsed+sumOf Xfer.rxStackLen xs ≤ SPIHD_CONTROL_BYTES := by
  induction xs generalizing total txUsed rxUsed with
  | nil => simp [checkPhases,sumOf,ht,htx,hrx]
  | cons x xs ih =>
    have hstep := phaseError_none x ht htx hrx
    have htx' : (if x.txStack then txUsed+x.len else txUsed) = txUsed+x.txStackLen := by
      unfold Xfer.txStackLen
      split <;> rfl
    have hrx' : (if x.rxStack then rxUsed+x.len else rxUsed) = rxUsed+x.rxStackLen := by
      unfold Xfer.rxStackLen
      split <;> rfl
    simp only [checkPhases,htx',hrx',sumOf,List.forall_mem_cons,← Nat.add_assoc]
    cases hp : phaseError ctl total txUsed rxUsed x with
    | some e =>
      simp only [reduceCtorEq,false_iff]
      rintro ⟨⟨hx,-⟩,hm,h1,h2⟩
      have := hstep.mpr ⟨hx,by omega,by omega,by omega⟩
      simp [hp] at this
    | none =>
      obtain ⟨hx,hm,h1,h2⟩ := hstep.mp hp
      simp only [ih hm h1 h2,hx,true_and]

theorem accepted_iff {ctl : Controller} {xs : List Xfer} : checkPhases ctl 0 0 0 xs = none ↔ Accepted ctl xs := by
  rw [checkPhases_none xs (Nat.zero_le _) (Nat.zero_le _) (Nat.zero_le _)]
  simp only [Nat.zero_add]
  exact ⟨fun ⟨a,b,c,d⟩ => ⟨a,b,c,d⟩,fun ⟨a,b,c,d⟩ => ⟨a,b,c,d⟩⟩

instance (ctl : Controller) (xs : List Xfer) : Decidable (Accepted ctl xs) := decidable_of_iff _ accepted_iff

/-- The message as a whole, or nothing of it. -/
theorem seen_sync (ctl : Controller) (dev : Device) (done : Frames) {xs : List Xfer} (h0 : xs ≠ [])
    (h6 : xs.length ≤ 6) :
    seen (spihdSyncTransfer ctl dev done xs) =
      if Accepted ctl xs then
        ((Bus.run {frames := done} (xs.map (Xfer.phase ctl.littleEndian))).close,
          some (List.zipWith (Xfer.memory ctl.littleEndian) xs
            (samples dev {frames := done} (xs.map (Xfer.phase ctl.littleEndian)))))
      else (done,none) := by
  have hn : ¬(xs.length = 0 ∨ 6 < xs.length) := by
    simp only [List.length_eq_zero_iff,h0,false_or,Nat.not_lt]
    exact h6
  rw [spihdSyncTransfer,if_neg hn]
  cases hc : checkPhases ctl 0 0 0 xs with
  | none => simp [accepted_iff.mp hc]
  | some e =>
    have : ¬Accepted ctl xs := fun h => by simp [accepted_iff.mpr h] at hc
    simp [this]

/-! The frames of a command, whatever path it takes. -/

def controlFrame (cmd : UInt8) : List Clk := [(1,cmd),(1,0),(1,0)]

def wireHeader (c : Config) (base : UInt8) (hasAddr : Bool) (addr : UInt8) (lines : Nat) (tx : Bool) : List Clk :=
  (1,spihdWireCmdMode base lines (spihdAddrLines c lines tx)) ::
    ((if hasAddr then [(spihdDataNbitsLines (spihdAddrLines c lines tx),addr)] else []) ++ [(1,0)])

def wireData (d : Data) (lines : Nat) : List Clk :=
  match d with
  | .tx buf _ => buf.map (Prod.mk (spihdDataNbitsLines lines))
  | .rx len _ => List.replicate len (spihdDataNbitsLines lines,0)

/-- The frames `pre` come first; the bytes are those of the data clocks. -/
def received (dev : Device) (pre : Frames) (header : List Clk) (d : Data) (lines : Nat) : Bytes :=
  if d.isTx then [] else sample dev {frames := pre, current := header} (wireData d lines)

theorem headerXfers_open (cmd : UInt8) (hasAddr : Bool) (addr : UInt8) (n : Nat) (fold : Bool) (speed : Nat)
    (le : Bool) : ∀ p ∈ (headerXfers cmd hasAddr addr n fold speed).map (Xfer.phase le), p.ends = false := by
  cases hasAddr <;> cases fold <;> simp [headerXfers,Xfer.phase]

theorem headerXfers_clocks (cmd : UInt8) (hasAddr : Bool) (addr : UInt8) (n : Nat) (fold : Bool) (speed : Nat)
    (le : Bool) (hf : fold = true → hasAddr = true ∧ n = 1) :
    (((headerXfers cmd hasAddr addr n fold speed).map (Xfer.phase le)).map Phase.clocks).flatten =
      (1,cmd) :: ((if hasAddr then [(n,addr)] else []) ++ [(1,0)]) := by
  cases fold with
  | false => cases hasAddr <;> simp [headerXfers,Xfer.phase,Xfer.wire,Xfer.lanes]
  | true =>
    obtain ⟨rfl,rfl⟩ := hf rfl
    simp [headerXfers,Xfer.phase,Xfer.wire,Xfer.lanes]

theorem headerXfers_sums (cmd : UInt8) (hasAddr : Bool) (addr : UInt8) (n : Nat) (fold : Bool) (speed : Nat)
    (hf : fold = true → hasAddr = true) :
    sumOf Xfer.len (headerXfers cmd hasAddr addr n fold speed) = headerLen hasAddr ∧
      sumOf Xfer.txStackLen (headerXfers cmd hasAddr addr n fold speed) = headerLen hasAddr ∧
      sumOf Xfer.rxStackLen (headerXfers cmd hasAddr addr n fold speed) = 0 := by
  cases fold with
  | false => cases hasAddr <;> simp [headerXfers,sumOf,headerLen,Xfer.txStackLen,Xfer.rxStackLen]
  | true =>
    obtain rfl := hf rfl
    simp [headerXfers,sumOf,headerLen,Xfer.txStackLen,Xfer.rxStackLen]

theorem fits_bytes {ctl : Controller} {x : Xfer} (hb : x.bitsPerWord = 8) (hd : x.txBuf = none ∨ x.rxBuf = false) :
    x.Fits ctl ↔ x.len ≤ ctl.transferMax ∧ ctl.minSpeedHz ≤ x.speedHz := by
  constructor
  · rintro ⟨hl,-,-,hs⟩
    exact ⟨hl,hs⟩
  · rintro ⟨hl,hs⟩
    refine ⟨hl,fun h => ?_,fun ht hr => ?_,hs⟩
    · rw [hb] at h
      cases h
    · rcases hd with hd | hd
      · simp [hd] at ht
      · simp [hd] at hr

theorem headerXfers_fits {ctl : Controller} (cmd : UInt8) (hasAddr : Bool) (addr : UInt8) (n : Nat) (fold : Bool)
    (speed : Nat) (hf : fold = true → hasAddr = true) (h1 : 1 ≤ ctl.transferMax) :
    (∀ x ∈ headerXfers cmd hasAddr addr n fold speed, x.Fits ctl) ↔
      (fold = true → 2 ≤ ctl.transferMax) ∧ ctl.minSpeedHz ≤ speed := by
  cases fold with
  | false => cases hasAddr <;> simp [headerXfers,fits_bytes,h1]
  | true =>
    obtain rfl := hf rfl
    simp [headerXfers,fits_bytes,h1]

theorem controlXfer_fits {ctl : Controller} (cmd : UInt8) (speed : Nat) (b : Bool) :
    (controlXfer cmd speed b).Fits ctl ↔ 3 ≤ ctl.transferMax ∧ ctl.minSpeedHz ≤ speed := fits_bytes rfl (.inr rfl)

theorem controlXfer_phase (cmd : UInt8) (speed : Nat) (b le : Bool) :
    (controlXfer cmd speed b).phase le = {clocks := controlFrame cmd, ends := b} := by
  simp [controlXfer,controlFrame,Xfer.phase,Xfer.wire,Xfer.lanes]

/-! Words of four bytes. -/

theorem packWord32_eq (le : Bool) : packWord32 le = shiftIn le := by
  refine congrArg quads (funext fun b0 => funext fun b1 => funext fun b2 => funext fun b3 => congrArg (store le) ?_)
  rw [word,UInt32.or_comm _ b3.toUInt32,UInt32.or_comm _ (b2.toUInt32 <<< 8),
    UInt32.or_comm (b0.toUInt32 <<< 24),UInt32.or_assoc,UInt32.or_assoc]

theorem unpackWord32_eq (le : Bool) : unpackWord32 le = shiftOut le := rfl

theorem txWord32_iff {ctl : Controller} {c : Config} {len lines : Nat} :
    txWord32 ctl c len lines = true ↔ c.qioTxWord32 = true ∧ c.sioBuf = true ∧ ctl.bpw32 = true ∧ lines = 4 ∧
      256 < len ∧ len%4 = 0 ∧ len ≤ (if c.txBatch then SPI_HD_TX_BATCH_MAX else SPI_HD_BUF_SIZE) := by
  simp [txWord32,and_assoc]

theorem rxWord32_iff {ctl : Controller} {c : Config} {len lines : Nat} :
    rxWord32 ctl c len lines = true ↔ c.qioRxWord32 = true ∧ ctl.bpw32 = true ∧ lines = 4 ∧ 256 < len ∧ len%4 = 0 := by
  simp [rxWord32,and_assoc]

/-- What of the data the bounce buffers would have to hold. -/
def txOnStack (ctl : Controller) (c : Config) (d : Data) (lines : Nat) : Nat :=
  match d with
  | .tx buf stack => if stack ∧ txWord32 ctl c buf.length lines = false then buf.length else 0
  | .rx _ _ => 0

def rxOnStack (d : Data) : Nat :=
  match d with
  | .tx _ _ => 0
  | .rx len stack => if stack then len else 0

theorem dataXfer_sums (ctl : Controller) (c : Config) (d : Data) (lines speed : Nat) (b : Bool) :
    (dataXfer ctl c d lines speed b).len = d.len ∧
      (dataXfer ctl c d lines speed b).txStackLen = txOnStack ctl c d lines ∧
      (dataXfer ctl c d lines speed b).rxStackLen = rxOnStack d := by
  cases d with
  | tx buf stack =>
    cases hw : txWord32 ctl c buf.length lines <;>
      simp [dataXfer,hw,Data.len,Xfer.txStackLen,Xfer.rxStackLen,txOnStack,rxOnStack]
  | rx len stack => cases stack <;> exact ⟨rfl,rfl,rfl⟩

theorem dataXfer_fits {ctl : Controller} (c : Config) (d : Data) (lines speed : Nat) (b : Bool) :
    (dataXfer ctl c d lines speed b).Fits ctl ↔ d.len ≤ ctl.transferMax ∧ ctl.minSpeedHz ≤ speed := by
  cases d with
  | tx buf stack =>
    cases hw : txWord32 ctl c buf.length lines with
    | false => simpa [dataXfer,hw,Data.len] using fits_bytes rfl (.inr rfl)
    | true =>
      have hb := (txWord32_iff.mp hw).2.2.1
      constructor
      · rintro ⟨hl,-,-,hs⟩
        simp only [dataXfer,hw,if_true] at hl hs
        exact ⟨hl,hs⟩
      · rintro ⟨hl,hs⟩
        simp only [dataXfer,hw,if_true]
        exact ⟨hl,fun _ => hb,(fun _ h => by cases h),hs⟩
  | rx len stack =>
    constructor
    · rintro ⟨hl,-,-,hs⟩
      exact ⟨hl,hs⟩
    · rintro ⟨hl,hs⟩
      refine ⟨hl,fun h => ?_,(fun h => by cases h),hs⟩
      cases hw : rxWord32 ctl c len lines with
      | false => simp [dataXfer,hw] at h
      | true => exact (rxWord32_iff.mp hw).2.1

/-- Words are packed so that the wire carries the bytes in their own order. -/
theorem dataXfer_phase (ctl : Controller) (c : Config) (d : Data) (lines speed : Nat) (b : Bool) :
    (dataXfer ctl c d lines speed b).phase ctl.littleEndian = {clocks := wireData d lines, ends := b} := by
  cases d with
  | tx buf stack =>
    cases hw : txWord32 ctl c buf.length lines with
    | false => simp [dataXfer,hw,Xfer.phase,Xfer.wire,Xfer.lanes,wireData]
    | true =>
      have h4 := (txWord32_iff.mp hw).2.2.2.2.2.1
      simp [dataXfer,hw,Xfer.phase,Xfer.wire,Xfer.lanes,wireData,packWord32_eq,shiftOut_shiftIn _ buf h4]
  | rx len stack => simp [dataXfer,Xfer.phase,Xfer.wire,Xfer.lanes,wireData]

/-! The phase-by-phase path. -/

def ackFrames (c : Config) (base : UInt8) (d : Data) (lines : Nat) : Frames :=
  if batchesAck c base d lines then [controlFrame SPIHD_CMD_INT1] else []

def endFrames (c : Config) (base : UInt8) (d : Data) (lines : Nat) : Frames :=
  if batchesEnd c base d lines then
    [controlFrame (if base == SPIHD_CMD_RDDMA then SPIHD_CMD_INT0 else SPIHD_CMD_WR_END)]
  else []

def controlLen (b : Bool) : Nat := if b then 3 else 0

/-- What the checks ask of the message in the end. -/
structure Phased (ctl : Controller) (c : Config) (base : UInt8) (hasAddr : Bool) (d : Data) (lines : Nat) : Prop where
  fold : foldWriteDummy c hasAddr d lines = true → 2 ≤ ctl.transferMax
  len : d.len ≤ ctl.transferMax
  speed : ctl.minSpeedHz ≤ spihdSpeedHz c lines d.isTx
  ackSpeed : batchesAck c base d lines = true → ctl.minSpeedHz ≤ capHz (spihdSpeedHz c lines d.isTx) c.sioMaxHz
  endSpeed : batchesEnd c base d lines = true → ctl.minSpeedHz ≤ capHz c.speedHz c.sioMaxHz
  total : headerLen hasAddr+d.len+controlLen (batchesAck c base d lines)+controlLen (batchesEnd c base d lines) ≤
    ctl.messageMax
  txStack : headerLen hasAddr+txOnStack ctl c d lines+controlLen (batchesAck c base d lines)+
    controlLen (batchesEnd c base d lines) ≤ SPIHD_CONTROL_BYTES
  rxStack : rxOnStack d ≤ SPIHD_CONTROL_BYTES

theorem batchesAck_len {c : Config} {base : UInt8} {d : Data} {lines : Nat} (h : batchesAck c base d lines = true) :
    lines = 4 ∧ 256 < d.len ∧ d.len%4 = 0 := by
  simp [batchesAck,spihdBatchRxAck,spihdCombinedRddma] at h
  omega

theorem batchesEnd_len {c : Config} {base : UInt8} {d : Data} {lines : Nat} (h : batchesEnd c base d lines = true) :
    lines = 4 ∧ 256 < d.len ∧ d.len%4 = 0 := by
  simp [batchesEnd,spihdCombinedWrdma,spihdCombinedRddma] at h
  omega

theorem fold_addr {c : Config} {hasAddr : Bool} {d : Data} {lines : Nat} (h : foldWriteDummy c hasAddr d lines = true) :
    hasAddr = true ∧ spihdDataNbitsLines (spihdAddrLines c lines d.isTx) = 1 := by
  simp only [foldWriteDummy,Bool.and_eq_true,decide_eq_true_eq] at h
  obtain ⟨⟨-,ha⟩,-,hl⟩ := h
  exact ⟨ha,by rw [hl]; rfl⟩

variable {ctl : Controller} {c : Config} {dev : Device} {done : Frames} {base : UInt8} {hasAddr : Bool}
  {addr : UInt8} {d : Data} {lines : Nat}

theorem controlXfers_sums (b cs : Bool) (cmd : UInt8) (speed : Nat) :
    sumOf Xfer.len (if b then [controlXfer cmd speed cs] else []) = controlLen b ∧
      sumOf Xfer.txStackLen (if b then [controlXfer cmd speed cs] else []) = controlLen b ∧
      sumOf Xfer.rxStackLen (if b then [controlXfer cmd speed cs] else []) = 0 := by
  cases b <;> exact ⟨rfl,rfl,rfl⟩

theorem controlXfers_fits (b cs : Bool) (cmd : UInt8) (speed : Nat) :
    (∀ x ∈ (if b then [controlXfer cmd speed cs] else []), x.Fits ctl) ↔
      (b = true → 3 ≤ ctl.transferMax ∧ ctl.minSpeedHz ≤ speed) := by
  cases b <;> simp [controlXfer_fits]

theorem phased_accepted (hl : d.len ≠ 0) :
    Accepted ctl ((phasedXfers ctl c base hasAddr addr d lines).1 ++
      (phasedXfers ctl c base hasAddr addr d lines).2.1 :: (phasedXfers ctl c base hasAddr addr d lines).2.2) ↔
      Phased ctl c base hasAddr d lines := by
  have hf (h : foldWriteDummy c hasAddr d lines = true) : hasAddr = true := (fold_addr h).1
  have hA := @batchesAck_len c base d lines
  have hE := @batchesEnd_len c base d lines
  constructor
  · rintro ⟨hx,ht,htx,hrx⟩
    simp only [phasedXfers,List.forall_mem_append,List.forall_mem_cons,controlXfers_fits,dataXfer_fits] at hx
    simp only [phasedXfers,sumOf_append,sumOf,controlXfers_sums,dataXfer_sums,headerXfers_sums _ _ _ _ _ _ hf] at ht htx hrx
    obtain ⟨⟨ha,hh⟩,hd,he⟩ := hx
    obtain ⟨hh,-⟩ := (headerXfers_fits _ _ _ _ _ _ hf (by omega)).mp hh
    exact ⟨hh,hd.1,hd.2,fun h => (ha h).2,fun h => (he h).2,by omega,by omega,by omega⟩
  · rintro ⟨hh,hd,hs,ha,he,ht,htx,hrx⟩
    refine ⟨?_,?_,?_,?_⟩
    · simp only [phasedXfers,List.forall_mem_append,List.forall_mem_cons,controlXfers_fits,dataXfer_fits]
      have h1 : 1 ≤ ctl.transferMax := by omega
      refine ⟨⟨fun h => ⟨?_,ha h⟩,(headerXfers_fits _ _ _ _ _ _ hf h1).mpr ⟨hh,hs⟩⟩,⟨hd,hs⟩,fun h => ⟨?_,he h⟩⟩
      · have := hA h
        omega
      · have := hE h
        omega
    all_goals
      simp only [phasedXfers,sumOf_append,sumOf,controlXfers_sums,dataXfer_sums,headerXfers_sums _ _ _ _ _ _ hf]
      omega

theorem header_run (b : Bus Clk) (cmd : UInt8) (n : Nat) (fold : Bool) (speed : Nat) (le : Bool)
    (hf : fold = true → hasAddr = true ∧ n = 1) :
    b.run ((headerXfers cmd hasAddr addr n fold speed).map (Xfer.phase le)) =
      {b with current := b.current ++ (1,cmd) :: ((if hasAddr then [(n,addr)] else []) ++ [(1,0)])} := by
  rw [run_open b _ (headerXfers_open cmd hasAddr addr n fold speed le),
    headerXfers_clocks cmd hasAddr addr n fold speed le hf]

theorem phased_header_run :
    (Bus.run {frames := done} ((phasedXfers ctl c base hasAddr addr d lines).1.map (Xfer.phase ctl.littleEndian))) =
      {frames := done ++ ackFrames c base d lines, current := wireHeader c base hasAddr addr lines d.isTx} := by
  simp only [phasedXfers,List.map_append,run_append,header_run _ _ _ _ _ _ fold_addr]
  cases hA : batchesAck c base d lines <;>
    simp [ackFrames,hA,wireHeader,controlXfer_phase,Bus.shift]

theorem phased_run :
    (Bus.run {frames := done} (((phasedXfers ctl c base hasAddr addr d lines).1 ++
      (phasedXfers ctl c base hasAddr addr d lines).2.1 :: (phasedXfers ctl c base hasAddr addr d lines).2.2).map
        (Xfer.phase ctl.littleEndian))).close =
      done ++ ackFrames c base d lines ++ [wireHeader c base hasAddr addr lines d.isTx ++ wireData d lines] ++
        endFrames c base d lines := by
  rw [List.map_append,run_append,phased_header_run]
  simp only [phasedXfers,List.map_cons,run_cons,dataXfer_phase]
  cases hE : batchesEnd c base d lines <;>
    simp [endFrames,hE,controlXfer_phase,Bus.shift,Bus.close]

theorem zipWith_memory_at (le : Bool) (xs ys : List Xfer) (x : Xfer) (dev : Device) (b : Bus Clk) :
    (List.zipWith (Xfer.memory le) (xs ++ x :: ys) (samples dev b ((xs ++ x :: ys).map (Xfer.phase le)))).getD
        xs.length [] =
      x.memory le (sample dev (b.run (xs.map (Xfer.phase le))) (x.phase le).clocks) := by
  rw [List.map_append,samples_append,List.zipWith_append (by simp)]
  simp [samples]

theorem phased_received (bufs : List Bytes)
    (hb : bufs.getD (phasedXfers ctl c base hasAddr addr d lines).1.length [] =
      (dataXfer ctl c d lines (spihdSpeedHz c lines d.isTx) (batchesEnd c base d lines)).memory ctl.littleEndian
        (sample dev ⟨done ++ ackFrames c base d lines,wireHeader c base hasAddr addr lines d.isTx⟩ (wireData d lines))) :
    (if d.isTx then [] else if (phasedXfers ctl c base hasAddr addr d lines).2.1.bitsPerWord = 32 then
        unpackWord32 ctl.littleEndian (bufs.getD (phasedXfers ctl c base hasAddr addr d lines).1.length [])
      else bufs.getD (phasedXfers ctl c base hasAddr addr d lines).1.length []) =
      received dev (done ++ ackFrames c base d lines) (wireHeader c base hasAddr addr lines d.isTx) d lines := by
  rw [hb]
  cases d with
  | tx buf stack => rfl
  | rx len stack =>
    cases hw : rxWord32 ctl c len lines with
    | false => simp [phasedXfers,dataXfer,hw,Xfer.memory,received,Data.isTx]
    | true =>
      have h4 := (rxWord32_iff.mp hw).2.2.2.2
      simp only [phasedXfers,dataXfer,hw,Xfer.memory,received,Data.isTx,if_true,unpackWord32_eq,Bool.false_eq_true,if_false]
      exact shiftOut_shiftIn _ _ (by simpa [wireData] using h4)

theorem phased_length : ((phasedXfers ctl c base hasAddr addr d lines).1 ++
    (phasedXfers ctl c base hasAddr addr d lines).2.1 :: (phasedXfers ctl c base hasAddr addr d lines).2.2).length ≤ 6 := by
  simp only [phasedXfers,headerXfers]
  cases batchesAck c base d lines <;> cases batchesEnd c base d lines <;> cases hasAddr <;>
    cases foldWriteDummy c _ d lines <;> simp

theorem seen_phased (hl : d.len ≠ 0) (hc : coalesces ctl c hasAddr d lines = false)
    [Decidable (Phased ctl c base hasAddr d lines)] :
    seen (spihdEnhancedXferLines ctl c dev done base hasAddr addr d lines) =
      if Phased ctl c base hasAddr d lines then
        (done ++ ackFrames c base d lines ++ [wireHeader c base hasAddr addr lines d.isTx ++ wireData d lines] ++
            endFrames c base d lines,
          some (received dev (done ++ ackFrames c base d lines) (wireHeader c base hasAddr addr lines d.isTx) d lines))
      else (done,none) := by
  simp only [spihdEnhancedXferLines,hl,hc,if_false,Bool.false_eq_true,seen_thenResult,seen_ok]
  rw [seen_sync ctl dev done (by simp) phased_length,thenSeen_ite]
  simp only [phased_accepted hl,thenSeen,phased_run]
  have hb := @zipWith_memory_at ctl.littleEndian (phasedXfers ctl c base hasAddr addr d lines).1
    (phasedXfers ctl c base hasAddr addr d lines).2.2 (phasedXfers ctl c base hasAddr addr d lines).2.1 dev {frames := done}
  rw [phased_header_run] at hb
  rw [phased_received _ (hb.trans (congrArg (fun p => Xfer.memory _ _ (sample dev _ (Phase.clocks p)))
    (dataXfer_phase ctl c d lines _ _)))]

/-! The coalesced path. -/

theorem coalesces_iff : coalesces ctl c hasAddr d lines = true ↔ c.coalesce = true ∧ c.sioBuf = true ∧ lines = 1 ∧
    d.len ≤ SPI_HD_BUF_SIZE ∧ d.len+headerLen hasAddr ≤ ctl.transferMax ∧
      d.len+headerLen hasAddr ≤ ctl.messageMax := by
  simp only [coalesces,Bool.and_eq_true,decide_eq_true_eq,and_assoc]
  constructor
  · rintro ⟨h1,h2,h3,-,h5⟩
    exact ⟨h1,h2,h3,h5⟩
  · rintro ⟨h1,h2,rfl,h5⟩
    exact ⟨h1,h2,rfl,rfl,h5⟩

theorem coalesced_header (cmd : UInt8) :
    ([cmd,if hasAddr then addr else 0,0] : Bytes).take (headerLen hasAddr) =
      cmd :: ((if hasAddr then [addr] else []) ++ [0]) := by
  cases hasAddr <;> rfl

theorem coalesced_clocks (tx : Bool) :
    (spihdWireCmdMode base 1 (spihdAddrLines c 1 tx) :: ((if hasAddr then [addr] else []) ++ [0])).map (Prod.mk 1) =
      wireHeader c base hasAddr addr 1 tx := by
  cases hasAddr <;> rfl

theorem coalesced_length (cmd : UInt8) :
    (cmd :: ((if hasAddr then [addr] else []) ++ [0]) : Bytes).length = headerLen hasAddr := by
  cases hasAddr <;> rfl

theorem wireHeader_length (tx : Bool) : (wireHeader c base hasAddr addr lines tx).length = headerLen hasAddr := by
  cases hasAddr <;> rfl

theorem headerLen_le (b : Bool) : headerLen b ≤ 3 := by
  cases b <;> decide

theorem seen_write {hdr buf : Bytes} {speed : Nat} (htm : hdr.length+buf.length ≤ ctl.transferMax)
    (hmm : hdr.length+buf.length ≤ ctl.messageMax) :
    seen (spihdSyncTransfer ctl dev done [sioWriteXfer hdr buf speed]) =
      if ctl.minSpeedHz ≤ speed then
        (done ++ [(hdr ++ buf).map (Prod.mk 1)],some [sample dev {frames := done} ((hdr ++ buf).map (Prod.mk 1))])
      else (done,none) := by
  have ha : Accepted ctl [sioWriteXfer hdr buf speed] ↔ ctl.minSpeedHz ≤ speed := by
    constructor
    · rintro ⟨hx,-⟩
      exact (hx _ List.mem_cons_self).speed
    · intro hs
      have hx : (sioWriteXfer hdr buf speed).Fits ctl := (fits_bytes rfl (.inr rfl)).mpr ⟨htm,hs⟩
      exact ⟨by simpa using hx,hmm,Nat.zero_le _,Nat.zero_le _⟩
  rw [seen_sync ctl dev done (by simp) (by simp)]
  simp only [ha]
  simp [Bus.close,Bus.shift,Xfer.phase,sioWriteXfer,Xfer.wire,Xfer.lanes,samples,Xfer.memory]

theorem seen_exchange {hdr : Bytes} {len speed : Nat} (hfd : ctl.fullDuplex = true)
    (htm : hdr.length+len ≤ ctl.transferMax) (hmm : hdr.length+len ≤ ctl.messageMax)
    (hs : hdr.length+len ≤ SPIHD_CONTROL_BYTES) :
    seen (spihdSyncTransfer ctl dev done [sioExchangeXfer hdr len speed]) =
      if ctl.minSpeedHz ≤ speed then
        (done ++ [(hdr ++ List.replicate len 0).map (Prod.mk 1)],
          some [sample dev {frames := done} ((hdr ++ List.replicate len 0).map (Prod.mk 1))])
      else (done,none) := by
  have ha : Accepted ctl [sioExchangeXfer hdr len speed] ↔ ctl.minSpeedHz ≤ speed := by
    constructor
    · rintro ⟨hx,-⟩
      exact (hx _ List.mem_cons_self).speed
    · intro h
      have hx : (sioExchangeXfer hdr len speed).Fits ctl := ⟨htm,(fun h => by cases h),fun _ _ => hfd,h⟩
      exact ⟨by simpa using hx,hmm,hs,hs⟩
  rw [seen_sync ctl dev done (by simp) (by simp)]
  simp only [ha]
  simp [Bus.close,Bus.shift,Xfer.phase,sioExchangeXfer,Xfer.wire,Xfer.lanes,samples,Xfer.memory]

theorem seen_read {hdr : Bytes} {len speed : Nat} {stack : Bool} (hh : hdr.length ≤ 3)
    (htm : hdr.length+len ≤ ctl.transferMax) (hmm : hdr.length+len ≤ ctl.messageMax) :
    seen (spihdSyncTransfer ctl dev done [sioHeaderXfer hdr speed,sioReadXfer len stack speed]) =
      if ctl.minSpeedHz ≤ speed ∧ rxOnStack (.rx len stack) ≤ SPIHD_CONTROL_BYTES then
        (done ++ [(hdr ++ List.replicate len 0).map (Prod.mk 1)],
          some [sample dev {frames := done} (hdr.map (Prod.mk 1)),
            sample dev {frames := done, current := hdr.map (Prod.mk 1)} (List.replicate len (1,0))])
      else (done,none) := by
  have ha : Accepted ctl [sioHeaderXfer hdr speed,sioReadXfer len stack speed] ↔
      ctl.minSpeedHz ≤ speed ∧ rxOnStack (.rx len stack) ≤ SPIHD_CONTROL_BYTES := by
    have hsum : sumOf Xfer.rxStackLen [sioHeaderXfer hdr speed,sioReadXfer len stack speed] =
        rxOnStack (.rx len stack) := by
      cases stack <;> simp [sumOf,sioHeaderXfer,sioReadXfer,Xfer.rxStackLen,rxOnStack]
    constructor
    · rintro ⟨hx,-,-,hrx⟩
      exact ⟨(hx _ List.mem_cons_self).speed,hsum ▸ hrx⟩
    · rintro ⟨hs,hr⟩
      have hx : (sioHeaderXfer hdr speed).Fits ctl := (fits_bytes rfl (.inr rfl)).mpr ⟨by simp only [sioHeaderXfer]; omega,hs⟩
      have hy : (sioReadXfer len stack speed).Fits ctl := (fits_bytes rfl (.inl rfl)).mpr ⟨by simp only [sioReadXfer]; omega,hs⟩
      have htx : sumOf Xfer.txStackLen [sioHeaderXfer hdr speed,sioReadXfer len stack speed] = hdr.length := by
        simp [sumOf,sioHeaderXfer,sioReadXfer,Xfer.txStackLen]
      refine ⟨by simp [hx,hy],hmm,?_,hsum ▸ hr⟩
      simp only [htx,SPIHD_CONTROL_BYTES]
      omega
  rw [seen_sync ctl dev done (by simp) (by simp)]
  simp only [ha]
  simp [Bus.close,Bus.shift,Xfer.phase,sioHeaderXfer,sioReadXfer,Xfer.wire,Xfer.lanes,samples,Xfer.memory]

/-- One frame, the same as in phases; only the clock and the receive buffer can be refused. -/
theorem seen_coalesced (hl : d.len ≠ 0) (hc : coalesces ctl c hasAddr d lines = true) :
    seen (spihdEnhancedXferLines ctl c dev done base hasAddr addr d lines) =
      if ctl.minSpeedHz ≤ spihdSpeedHz c lines d.isTx ∧ rxOnStack d ≤ SPIHD_CONTROL_BYTES then
        (done ++ [wireHeader c base hasAddr addr lines d.isTx ++ wireData d lines],
          some (received dev done (wireHeader c base hasAddr addr lines d.isTx) d lines))
      else (done,none) := by
  obtain ⟨-,-,rfl,hbuf,htm,hmm⟩ := coalesces_iff.mp hc
  have h3 := headerLen_le hasAddr
  have hh (cmd : UInt8) := @coalesced_length hasAddr addr cmd
  simp only [spihdEnhancedXferLines,hl,hc,if_false,if_true,coalescedXfer,coalesced_header]
  cases d with
  | tx buf stack =>
    simp only [Data.len] at htm hmm
    rw [seen_thenResult,seen_write (by rw [hh]; omega) (by rw [hh]; omega),thenSeen_ite]
    simp only [List.map_append,coalesced_clocks,rxOnStack,Nat.zero_le,and_true]
    rfl
  | rx len stack =>
    simp only [Data.len] at htm hmm
    dsimp only
    by_cases hfd : len ≤ 4 ∧ ctl.fullDuplex = true
    · have hrx : rxOnStack (.rx len stack) ≤ SPIHD_CONTROL_BYTES := by
        simp only [rxOnStack,SPIHD_CONTROL_BYTES]
        split <;> omega
      have h7 : headerLen hasAddr+len ≤ SPIHD_CONTROL_BYTES := by
        simp only [SPIHD_CONTROL_BYTES]
        omega
      rw [if_pos hfd,seen_thenResult,
        seen_exchange hfd.2 (by rw [hh]; omega) (by rw [hh]; omega) (by rw [hh]; exact h7),thenSeen_ite]
      have hd (cs ds : Bytes) (h : cs.length = headerLen hasAddr) : (cs ++ ds).drop (headerLen hasAddr) = ds :=
        List.drop_left' h
      simp only [List.map_append,coalesced_clocks,hrx,and_true,thenSeen,sample_append]
      simp [received,Data.isTx,wireData,spihdDataNbitsLines,hd,wireHeader_length]
    · rw [if_neg hfd,seen_thenResult,
        seen_read (by rw [hh]; exact h3) (by rw [hh]; omega) (by rw [hh]; omega),thenSeen_ite]
      simp only [List.map_append,coalesced_clocks,thenSeen]
      simp [received,Data.isTx,wireData,spihdDataNbitsLines]

/-! A command without data. -/

def commandHz (c : Config) (lines : Nat) : Nat := if lines = 1 then capHz c.speedHz c.sioMaxHz else c.speedHz

theorem header_accepted {cmd : UInt8} {n speed : Nat} (htm : 1 ≤ ctl.transferMax) (hmm : 3 ≤ ctl.messageMax) :
    Accepted ctl (headerXfers cmd true 0 n false speed) ↔ ctl.minSpeedHz ≤ speed := by
  have hx := headerXfers_fits cmd true 0 n false speed (fun h => by cases h) htm
  obtain ⟨h1,h2,h3⟩ := headerXfers_sums cmd true 0 n false speed (fun h => by cases h)
  constructor
  · rintro ⟨h,-⟩
    exact (hx.mp h).2
  · intro h
    refine ⟨hx.mpr ⟨(fun h => by cases h),h⟩,?_,?_,?_⟩
    · rw [h1]
      exact hmm
    · rw [h2]
      decide
    · rw [h3]
      decide

theorem control_accepted {cmd : UInt8} {speed : Nat} (htm : 3 ≤ ctl.transferMax) (hmm : 3 ≤ ctl.messageMax) :
    Accepted ctl [controlXfer cmd speed false] ↔ ctl.minSpeedHz ≤ speed := by
  constructor
  · rintro ⟨h,-⟩
    exact (h _ List.mem_cons_self).speed
  · intro h
    have hx : (controlXfer cmd speed false).Fits ctl := (controlXfer_fits cmd speed false).mpr ⟨htm,h⟩
    refine ⟨by simpa using hx,hmm,?_,?_⟩ <;>
      simp [sumOf,controlXfer,Xfer.txStackLen,Xfer.rxStackLen,SPIHD_CONTROL_BYTES]

theorem seen_command (htm : 3 ≤ ctl.transferMax) (hmm : 3 ≤ ctl.messageMax) :
    seen (spihdCommandLines ctl c dev done base lines) =
      if ctl.minSpeedHz ≤ commandHz c lines then (done ++ [wireHeader c base true 0 lines true],some ())
      else (done,none) := by
  simp only [spihdCommandLines,seen_thenResult,seen_ok]
  by_cases hc : c.coalesce = true ∧ lines = 1 ∧ spihdAddrLines c lines true = 1
  · obtain ⟨-,rfl,-⟩ := id hc
    rw [if_pos hc,seen_sync ctl dev done (by simp) (by simp),thenSeen_ite]
    simp only [control_accepted htm hmm]
    simp only [thenSeen,List.map_cons,controlXfer_phase]
    rfl
  · rw [if_neg hc,seen_sync ctl dev done (by simp [headerXfers]) (by simp [headerXfers]),thenSeen_ite]
    simp only [header_accepted (Nat.le_trans (by decide) htm) hmm]
    rfl

end EspHosted.SpiHdWire
