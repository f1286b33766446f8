import EspHosted.Lib.Ledger
import EspHosted.Wire

/-!
MLME commands and events of one STA interface, `host/esp_cmd.c` and
`esp_retire_stale_disconnect_generation` in `host/esp_cfg80211.c`. A definition that
takes `bss_lock` is one step; a call into cfg80211 is recorded with the section that
decided on it, which nothing can withdraw.
-/

set_option autoImplicit false

namespace EspHosted.Mlme
open EspHosted

abbrev Bssid := BitVec 48

def IEEE_HEADER_SIZE : Nat := 24
def WLAN_REASON_UNSPECIFIED : UInt16 := 1
def stagedAuthLimit : Nat := 8

/-- `struct auth_event` and `struct assoc_event`; `frame` is all of the skb behind the
fixed fields, which a shorter skb does not have and which is dropped unread. -/
structure FrameEvent where
  seq : UInt16
  bssid : Bssid
  frameLen : UInt16 := 0
  frame : Bytes := []
  deriving DecidableEq, Repr

structure DisconnectEvent where
  seq : UInt16
  bssid : Bssid := 0
  status : UInt8 := 0
  reason : UInt8 := 0
  deriving DecidableEq, Repr

inductive Event where
  | authRx (e : FrameEvent)
  | assocRx (e : FrameEvent)
  | staDisconnect (e : DisconnectEvent)
  deriving DecidableEq, Repr

def skbHasFlexFrame (e : FrameEvent) : Bool := e.frameLen.toNat ≤ e.frame.length

def statusCode (e : FrameEvent) : Nat :=
  if IEEE_HEADER_SIZE+4 ≤ e.frameLen.toNat then
    le16ToCpu (e.frame.getD (IEEE_HEADER_SIZE+2) 0) (e.frame.getD (IEEE_HEADER_SIZE+3) 0)
  else 0

/-- A request cfg80211 has made, numbered; `conn` is the connection a disconnect
request is made on. -/
structure Request where
  id : Nat
  seq : UInt16
  bssid : Bssid := 0
  conn : Option Nat := none
  deriving DecidableEq, Repr

structure Connection where
  id : Nat
  seq : UInt16
  deriving DecidableEq, Repr

/-- What cfg80211 is given: the frames passed to `cfg80211_rx_mlme_mgmt` and
`CFG80211_RX_ASSOC_RESP`, and `CFG80211_DISCONNECTED`, each with the request or the
connection that is outstanding then. -/
inductive Report where
  | auth (e : FrameEvent) (req : Option Request)
  | assocResp (e : FrameEvent) (ie : Bytes) (req : Option Request)
  | deauth (disassoc : Bool) (e : DisconnectEvent) (conn : Option Connection)
  | disconnected (reason : UInt16) (e : Option DisconnectEvent) (req : Option Request)
  deriving DecidableEq, Repr

/-- `req` is the outstanding request: it has neither been answered nor failed, timed
out or been given up. -/
structure AuthState where
  cmdPending : Bool := false
  awaitingMlme : Bool := false
  cmdSeq : UInt16 := 0
  bssid : Bssid := 0
  req : Option Request := none
  deriving DecidableEq, Repr

structure AssocState where
  cmdPending : Bool := false
  awaitingMlme : Bool := false
  mlmeNotified : Bool := false
  cmdSeq : UInt16 := 0
  bssid : Bssid := 0
  reqIe : Bytes := []
  staged : Option FrameEvent := none
  stagedSeq : UInt16 := 0
  req : Option Request := none
  deriving DecidableEq, Repr

structure DisconnectState where
  cmdPending : Bool := false
  awaitingMlme : Bool := false
  localReq : Bool := false
  cmdSeq : UInt16 := 0
  req : Option Request := none
  deriving DecidableEq, Repr

structure Device where
  auth : AuthState := {}
  assoc : AssocState := {}
  disc : DisconnectState := {}
  connGeneration : UInt16 := 0
  stagedAuthQ : List FrameEvent := []
  stagedDisconnect : Option DisconnectEvent := none
  mlmeWdevHeld : Bool := false
  /-- `mlme_work` is queued, `mlme_timeout_work` is armed. -/
  mlmeWork : Bool := false
  mlmeTimeout : Bool := false
  nextCmdSeq : UInt16 := 0
  conn : Option Connection := none
  ledger : Ledger Report := {}
  deriving DecidableEq, Repr

def espWifiClearAuthPending (d : Device) : Device := {d with auth := {}}

def espWifiClearAssocPending (d : Device) : Device := {d with assoc := {}}

def authMatch (a : AuthState) (e : FrameEvent) : Bool :=
  a.cmdSeq != 0 && e.seq == a.cmdSeq && a.bssid == e.bssid

def assocMatch (a : AssocState) (e : FrameEvent) : Bool :=
  (a.cmdPending || a.awaitingMlme) && a.cmdSeq != 0 && e.seq == a.cmdSeq && a.bssid == e.bssid

/-- `some true` for the answer to a local request, `some false` for the end of a
connection. -/
def disconnectMatch (d : Device) (e : DisconnectEvent) : Option Bool :=
  if (d.disc.cmdPending || d.disc.awaitingMlme) && d.disc.cmdSeq != 0 && e.seq == d.disc.cmdSeq then
    some true
  else if (d.connGeneration != 0 && e.seq == d.connGeneration) ||
      (d.assoc.stagedSeq != 0 && e.seq == d.assoc.stagedSeq) then some false
  else if d.disc.localReq && (d.disc.cmdPending || d.disc.awaitingMlme) && d.disc.cmdSeq == 0 then
    some true
  else none

def espDeliverAuth (d : Device) (e : FrameEvent) : Device :=
  if skbHasFlexFrame e && d.auth.awaitingMlme && authMatch d.auth e then
    {d with
      auth := {d.auth with awaitingMlme := false, cmdSeq := 0, bssid := 0, req := none}
      ledger := d.ledger.report (.auth e d.auth.req)}
  else d

/-- `currentBss` is `wireless_dev_current_bss_exists`. -/
def espDeliverAssoc (currentBss : Bool) (d : Device) (e : FrameEvent) : Device :=
  if skbHasFlexFrame e && assocMatch d.assoc e then
    let ledger := d.ledger.report (.assocResp e d.assoc.reqIe d.assoc.req)
    let assoc := {d.assoc with
      cmdPending := false, awaitingMlme := false, mlmeNotified := true, stagedSeq := 0,
      cmdSeq := 0, bssid := 0, reqIe := [], req := none}
    if statusCode e = 0 then
      {d with
        assoc := assoc
        connGeneration := d.assoc.cmdSeq
        conn := some ⟨ledger.nextId,d.assoc.cmdSeq⟩
        ledger := ledger.issue}
    else if currentBss then {d with assoc := assoc, ledger := ledger}
    else {d with assoc := assoc, connGeneration := 0, conn := none, ledger := ledger}
  else d

/-- The section of `esp_deliver_disconnect_from_skb` for an event that matches. -/
def espDeliverDisconnect (d : Device) (e : DisconnectEvent) (isLocal : Bool) : Device :=
  {d with
    disc := {d.disc with localReq := false, awaitingMlme := false, cmdSeq := 0, req := none}
    assoc := {d.assoc with stagedSeq := 0, awaitingMlme := false, cmdSeq := 0, staged := none, req := none}
    connGeneration := 0
    conn := none
    ledger := d.ledger.report
      (if isLocal then .disconnected e.reason.toUInt16 (some e) d.disc.req
       else .deauth (e.status == DISCONNECT_TYPE_DISASSOC) e d.conn)}

def espMlmeBusy (d : Device) : Bool :=
  d.mlmeWdevHeld || d.auth.cmdPending || d.assoc.cmdPending || d.disc.cmdPending

/-- The frames that are spliced off and those that stay. -/
def espAuthSpliceGuard (cleanup : Bool) (d : Device) : List FrameEvent × List FrameEvent :=
  if d.auth.cmdPending && !cleanup then ([],d.stagedAuthQ)
  else if d.auth.awaitingMlme then (d.stagedAuthQ,[])
  else ([],[])

def awaitingAny (d : Device) : Bool :=
  d.assoc.awaitingMlme || d.auth.awaitingMlme || d.disc.awaitingMlme

def espMlmeHasStaged (d : Device) : Bool :=
  !d.stagedAuthQ.isEmpty || d.assoc.staged.isSome || d.stagedDisconnect.isSome

inductive DisconnectType where
  | deauth
  | disassoc
  deriving DecidableEq, Repr

/-- `enum esp_mlme_op`, with what the rest of `cmd_disconnect_request` uses. -/
inductive Cmd where
  | auth
  | assoc
  | disconnect (q : Request) (subtype : DisconnectType) (reason : UInt16)
  deriving DecidableEq, Repr

def espMlmeBegin (d : Device) : Cmd → Device
  | .auth => {d with
      mlmeWdevHeld := true, auth := {d.auth with cmdPending := true, awaitingMlme := false}}
  | .assoc => {d with mlmeWdevHeld := true, assoc := {d.assoc with mlmeNotified := false}}
  | .disconnect _ _ _ => {d with
      mlmeWdevHeld := true, disc := {d.disc with cmdPending := true, awaitingMlme := false}}

/-- What `esp_mlme_end` does first for a command that failed. -/
def espMlmeEndFailed (d : Device) : Cmd → Device
  | .auth => {d with stagedAuthQ := [], auth := {}}
  | .assoc => {d with assoc := {d.assoc with
      staged := none, stagedSeq := 0, awaitingMlme := false, mlmeNotified := false}}
  | .disconnect _ _ _ => d

def espMlmeEndFlags (d : Device) (success : Bool) : Cmd → Device
  | .auth => {d with auth := {d.auth with cmdPending := false, awaitingMlme := success}}
  | .assoc => {d with assoc := {d.assoc with
      cmdPending := false
      awaitingMlme := success && !d.assoc.mlmeNotified && d.assoc.cmdSeq != 0}}
  | .disconnect _ _ _ => {d with disc := {d.disc with
      cmdPending := false
      awaitingMlme := success
      req := if success then d.disc.req else none}}

/-- The last section of `esp_mlme_end`. -/
def espMlmeEnd (d : Device) (c : Cmd) (success : Bool) : Device :=
  let d := espMlmeEndFlags d success c
  {d with
    mlmeWdevHeld := false
    mlmeTimeout := awaitingAny d
    mlmeWork := d.mlmeWork || espMlmeHasStaged d}

/-- `alloc` is whether `skb_copy` succeeds. -/
def espMlmeStageEvent (d : Device) (alloc : Bool) : Event → Device
  | .authRx e =>
    if alloc then
      if d.stagedAuthQ.length < stagedAuthLimit then {d with stagedAuthQ := d.stagedAuthQ ++ [e]} else d
    else {d with auth := {d.auth with awaitingMlme := false, cmdPending := false, cmdSeq := 0, req := none}}
  | .assocRx e =>
    if alloc then
      if d.assoc.staged.isNone then
        {d with assoc := {d.assoc with staged := some e, stagedSeq := d.assoc.cmdSeq}}
      else d
    else {d with assoc := {d.assoc with
      awaitingMlme := false, cmdPending := false, stagedSeq := 0, cmdSeq := 0, req := none}}
  | .staDisconnect e =>
    if alloc then
      if d.stagedDisconnect.isNone then {d with stagedDisconnect := some e} else d
    else {d with disc := {d.disc with awaitingMlme := false, cmdPending := false, cmdSeq := 0, req := none}}

/-- The match in `process_auth_event`, `process_assoc_event` and
`process_disconnect_event`. -/
def processEventMatch (d : Device) : Event → Bool
  | .authRx e => skbHasFlexFrame e && (d.auth.cmdPending || d.auth.awaitingMlme) && authMatch d.auth e
  | .assocRx e => skbHasFlexFrame e && assocMatch d.assoc e
  | .staDisconnect e => (disconnectMatch d e).isSome

inductive ClearOp where
  | assoc
  | auth
  deriving DecidableEq, Repr

def clearPending (d : Device) : ClearOp → Device
  | .assoc => espWifiClearAssocPending d
  | .auth => espWifiClearAuthPending d

/-- The section of `esp_mlme_timeout_work`, and what is to be cleared after it. -/
def espMlmeTimeoutWork (d : Device) : Device × List ClearOp :=
  ({d with
    assoc := if d.assoc.awaitingMlme then {d.assoc with
      awaitingMlme := false, cmdPending := false, stagedSeq := 0, cmdSeq := 0, req := none} else d.assoc
    disc := if d.disc.awaitingMlme then {d.disc with
      awaitingMlme := false, cmdPending := false, cmdSeq := 0, req := none} else d.disc
    auth := if d.auth.awaitingMlme then {d.auth with
      awaitingMlme := false, cmdPending := false, cmdSeq := 0, req := none} else d.auth
    ledger := if d.disc.awaitingMlme then
      d.ledger.report (.disconnected WLAN_REASON_UNSPECIFIED none d.disc.req) else d.ledger},
   (if d.assoc.awaitingMlme then [.assoc] else []) ++
     (if d.disc.awaitingMlme then [.assoc,.auth] else []) ++
     (if d.auth.awaitingMlme then [.auth] else []))

/-- `prepare_command_request` skips zero when the counter wraps. -/
def allocCmdSeq (n : UInt16) : UInt16 := if n+1 = 0 then n+2 else n+1

theorem allocCmdSeq_ne_zero (n : UInt16) : allocCmdSeq n ≠ 0 := by
  unfold allocCmdSeq
  split
  · rename_i h
    have hn : n+2 = n+1+1 := by rw [UInt16.add_assoc]; rfl
    rw [hn,h]
    decide
  · assumption

/-! The thread that holds the wdev lock: a cfg80211 operation or `esp_mlme_work`. -/

/-- The operation an entry point goes on to. A disconnect on an AP interface has no
MLME part. -/
inductive Entry where
  | auth (bssid : Bssid)
  | assoc (bssid : Bssid) (ie : Bytes)
  | disconnect (isAp : Bool) (bssid : Bssid) (subtype : DisconnectType) (reason : UInt16)
  deriving DecidableEq, Repr

/-- Who runs `esp_mlme_flush_staged`. -/
inductive Caller where
  | work
  | finish (c : Cmd) (success : Bool)
  deriving DecidableEq, Repr

/-- Who runs `esp_deliver_disconnect_from_skb`. -/
inductive Deliverer where
  | flush (k : Caller)
  | retire (n : Entry)
  deriving DecidableEq, Repr

inductive Pc where
  | idle
  | retireTake (n : Entry)
  | retireReset (n : Entry)
  | prepare (n : Entry)
  | authSet (seq : UInt16) (bssid : Bssid)
  | assocSet (seq : UInt16) (bssid : Bssid) (ie : Bytes)
  | discClear (op : ClearOp) (isAp : Bool) (seq : UInt16) (bssid : Bssid) (subtype : DisconnectType)
      (reason : UInt16)
  | discSet (seq : UInt16) (bssid : Bssid) (subtype : DisconnectType) (reason : UInt16)
  | begin (c : Cmd)
  | wait (c : Cmd)
  | endFailed (c : Cmd)
  | flush (k : Caller)
  | deliverAuth (es : List FrameEvent) (a : Option FrameEvent) (e : Option DisconnectEvent) (k : Caller)
  | deliverAssoc (a : Option FrameEvent) (e : Option DisconnectEvent) (k : Caller)
  | deliverDisconnect (e : DisconnectEvent) (k : Deliverer)
  | deliverClear (op : ClearOp) (k : Deliverer)
  | flushEnd (k : Caller)
  | endFinal (c : Cmd) (success : Bool)
  | failClear (op : ClearOp)
  | discTail (q : Request) (subtype : DisconnectType) (reason : UInt16)
  | syncClear (op : ClearOp)
  deriving DecidableEq, Repr

def Caller.next : Caller → Pc
  | .work => .idle
  | .finish c success => .endFinal c success

def Deliverer.next : Deliverer → Pc
  | .flush k => .flushEnd k
  | .retire n => .retireReset n

/-- What `wait_and_decode_cmd_resp` meets: success, a response that reports failure,
or no response. -/
inductive Response where
  | ok
  | rejected
  | lost
  deriving DecidableEq, Repr

/-- What the holder of the lock finds outside the device. -/
structure Env where
  prepared : Bool := true
  response : Response := .ok
  currentBss : Bool := false
  cleanup : Bool := false
  deriving DecidableEq, Repr

/-- The first section of `esp_retire_stale_disconnect_generation`. -/
def retireTake (d : Device) : Device × Option DisconnectEvent :=
  ({d with
    stagedDisconnect := if d.disc.cmdPending then d.stagedDisconnect else none
    assoc := if d.assoc.cmdPending then d.assoc else {d.assoc with
      stagedSeq := 0, awaitingMlme := false, staged := none, req := none}},
   if d.disc.cmdPending then none else d.stagedDisconnect)

def retireReset (currentBss : Bool) (d : Device) : Device :=
  if d.disc.cmdPending then d
  else {d with
    disc := {d.disc with localReq := false, awaitingMlme := false, cmdSeq := 0, req := none}
    connGeneration := if currentBss then d.connGeneration else 0
    conn := if currentBss then d.conn else none}

def prepareCommandRequest (d : Device) (n : Entry) : Device × Pc :=
  let seq := allocCmdSeq d.nextCmdSeq
  ({d with nextCmdSeq := seq},
   match n with
   | .auth bssid => .authSet seq bssid
   | .assoc bssid ie => .assocSet seq bssid ie
   | .disconnect isAp bssid subtype reason => .discClear .assoc isAp seq bssid subtype reason)

/-- `-EBUSY` while an authentication is outstanding. -/
def cmdAuthRequest (d : Device) (seq : UInt16) (bssid : Bssid) : Device × Pc :=
  if d.auth.cmdPending || d.auth.awaitingMlme then (d,.idle)
  else
    ({d with
      auth := {d.auth with bssid := bssid, cmdSeq := seq, req := some ⟨d.ledger.nextId,seq,bssid,none⟩}
      ledger := d.ledger.issue},
     .begin .auth)

def cmdAssocRequest (d : Device) (seq : UInt16) (bssid : Bssid) (ie : Bytes) : Device × Pc :=
  if d.assoc.cmdPending || d.assoc.awaitingMlme then (d,.idle)
  else
    ({d with
      assoc := {d.assoc with
        reqIe := ie, bssid := bssid, cmdSeq := seq, cmdPending := true
        req := some ⟨d.ledger.nextId,seq,bssid,none⟩}
      ledger := d.ledger.issue},
     .begin .assoc)

def cmdDisconnectRequest (d : Device) (seq : UInt16) (bssid : Bssid) (subtype : DisconnectType)
    (reason : UInt16) : Device × Pc :=
  let q : Request := ⟨d.ledger.nextId,seq,bssid,d.conn.map Connection.id⟩
  ({d with
    disc := {d.disc with localReq := true, cmdSeq := seq, req := some q}
    ledger := d.ledger.issue},
   .begin (.disconnect q subtype reason))

/-- `decode_disconnect_resp` sets the local flag. -/
def waitAndDecodeCmdResp (d : Device) (r : Response) : Cmd → Device × Pc
  | .disconnect q subtype reason =>
    let c := Cmd.disconnect q subtype reason
    match r with
    | .ok => ({d with disc := {d.disc with localReq := true}},.flush (.finish c true))
    | .rejected => ({d with disc := {d.disc with localReq := false}},.endFailed c)
    | .lost => (d,.endFailed c)
  | c => (d,if r = .ok then .flush (.finish c true) else .endFailed c)

/-- The section for a failed command; for a disconnect the one in
`cmd_disconnect_request` before `esp_mlme_end`. -/
def endFailed (d : Device) : Cmd → Device
  | .disconnect _ _ _ => {d with disc := {d.disc with localReq := false}}
  | c => espMlmeEndFailed d c

def flushTake (cleanup : Bool) (d : Device) (k : Caller) : Device × Pc :=
  let q := espAuthSpliceGuard cleanup d
  ({d with stagedAuthQ := q.2, assoc := {d.assoc with staged := none}, stagedDisconnect := none},
   .deliverAuth q.1 d.assoc.staged d.stagedDisconnect k)

/-- The end of `cmd_disconnect_request`; the synchronous report is for this request. -/
def disconnectTail (d : Device) (q : Request) (reason : UInt16) : DisconnectType → Device × Pc
  | .disassoc =>
    ({d with
      disc := {d.disc with localReq := false, awaitingMlme := false, cmdSeq := 0, req := none}
      connGeneration := 0
      conn := none
      ledger := d.ledger.report (.disconnected reason none (some q))},
     .syncClear .assoc)
  | .deauth =>
    ({d with disc := if d.disc.localReq then d.disc else {d.disc with awaitingMlme := false, req := none}},
     .idle)

def endFinalNext : Cmd → Bool → Pc
  | .auth, false => .failClear .auth
  | .assoc, false => .failClear .assoc
  | .disconnect q subtype reason, true => .discTail q subtype reason
  | _, _ => .idle

/-- One section of the thread that holds the wdev lock. -/
def runHolder (d : Device) (i : Env) : Pc → Device × Pc
  | .idle => (d,.idle)
  | .retireTake n =>
    let t := retireTake d
    (t.1,match t.2 with
      | none => .retireReset n
      | some e => .deliverDisconnect e (.retire n))
  | .retireReset n => (retireReset i.currentBss d,.prepare n)
  | .prepare n => if i.prepared then prepareCommandRequest d n else (d,.idle)
  | .authSet seq bssid => cmdAuthRequest d seq bssid
  | .assocSet seq bssid ie => cmdAssocRequest d seq bssid ie
  | .discClear .assoc isAp seq bssid subtype reason =>
    (espWifiClearAssocPending d,.discClear .auth isAp seq bssid subtype reason)
  | .discClear .auth isAp seq bssid subtype reason =>
    (espWifiClearAuthPending d,if isAp then .idle else .discSet seq bssid subtype reason)
  | .discSet seq bssid subtype reason => cmdDisconnectRequest d seq bssid subtype reason
  | .begin c => (espMlmeBegin d c,.wait c)
  | .wait c => waitAndDecodeCmdResp d i.response c
  | .endFailed c => (endFailed d c,.flush (.finish c false))
  | .flush k => flushTake i.cleanup d k
  | .deliverAuth [] a e k => (d,.deliverAssoc a e k)
  | .deliverAuth (x :: xs) a e k => (espDeliverAuth d x,.deliverAuth xs a e k)
  | .deliverAssoc a e k =>
    (match a with
      | none => d
      | some x => espDeliverAssoc i.currentBss d x,
     match e with
      | none => .flushEnd k
      | some x => .deliverDisconnect x (.flush k))
  | .deliverDisconnect e k =>
    match disconnectMatch d e with
    | none => (d,k.next)
    | some isLocal => (espDeliverDisconnect d e isLocal,.deliverClear .assoc k)
  | .deliverClear .assoc k => (espWifiClearAssocPending d,.deliverClear .auth k)
  | .deliverClear .auth k => (espWifiClearAuthPending d,k.next)
  | .flushEnd k => ({d with mlmeTimeout := d.mlmeTimeout && awaitingAny d},k.next)
  | .endFinal c success => (espMlmeEnd d c success,endFinalNext c success)
  | .failClear op => (clearPending d op,.idle)
  | .discTail q subtype reason => disconnectTail d q reason subtype
  | .syncClear .assoc => (espWifiClearAssocPending d,.syncClear .auth)
  | .syncClear .auth => (espWifiClearAuthPending d,.idle)

/-! Everything that runs beside it. -/

/-- The receive worker, between matching an event, staging it and queueing
`mlme_work`. -/
inductive Rx where
  | idle
  | matched (e : Event) (busy : Bool)
  | staged (busy : Bool)
  deriving DecidableEq, Repr

/-- `mlme_timeout_work`: `started` means that it can no longer be cancelled. -/
inductive Timer where
  | idle
  | started
  | clearing (ops : List ClearOp)
  deriving DecidableEq, Repr

structure System where
  dev : Device := {}
  pc : Pc := .idle
  rx : Rx := .idle
  timer : Timer := .idle
  /-- `esp_mlme_work` waits for the wdev lock. -/
  workWaits : Bool := false
  deriving DecidableEq, Repr

inductive Action where
  /-- cfg80211 calls `.auth`, `.assoc`, or one of `.disconnect`, `.deauth`, `.disassoc`. -/
  | request (n : Entry)
  | holder (i : Env)
  | event (e : Event)
  | rx (alloc : Bool)
  | work
  | workLock
  | expire
  | timer
  /-- Any other command takes a sequence number. -/
  | otherCommand
  deriving DecidableEq, Repr

def entryPc : Entry → Pc
  | .disconnect isAp bssid subtype reason => .prepare (.disconnect isAp bssid subtype reason)
  | n => .retireTake n

def runRx (s : System) (alloc : Bool) : Option System :=
  match s.rx with
  | .idle => none
  | .matched e busy => some {s with dev := espMlmeStageEvent s.dev alloc e, rx := .staged busy}
  | .staged busy => some {s with dev := {s.dev with mlmeWork := s.dev.mlmeWork || !busy}, rx := .idle}

def runTimer (s : System) : Option System :=
  match s.timer with
  | .idle => none
  | .started =>
    let t := espMlmeTimeoutWork s.dev
    some {s with dev := t.1, timer := .clearing t.2}
  | .clearing [] => some {s with timer := .idle}
  | .clearing (op :: ops) => some {s with dev := clearPending s.dev op, timer := .clearing ops}

def step (s : System) : Action → Option System
  | .request n => if s.pc = .idle then some {s with pc := entryPc n} else none
  | .holder i =>
    if s.pc = .idle then none
    else
      let t := runHolder s.dev i s.pc
      some {s with dev := t.1, pc := t.2}
  | .event e =>
    if s.rx = .idle then
      if processEventMatch s.dev e then some {s with rx := .matched e (espMlmeBusy s.dev)} else some s
    else none
  | .rx alloc => runRx s alloc
  | .work =>
    if s.dev.mlmeWork then
      some {s with dev := {s.dev with mlmeWork := false}, workWaits := s.workWaits || !s.dev.mlmeWdevHeld}
    else none
  | .workLock => if s.workWaits ∧ s.pc = .idle then some {s with pc := .flush .work, workWaits := false} else none
  | .expire =>
    if s.dev.mlmeTimeout ∧ s.timer = .idle then
      some {s with dev := {s.dev with mlmeTimeout := false}, timer := .started}
    else none
  | .timer => runTimer s
  | .otherCommand => some {s with dev := {s.dev with nextCmdSeq := allocCmdSeq s.dev.nextCmdSeq}}

end EspHosted.Mlme
