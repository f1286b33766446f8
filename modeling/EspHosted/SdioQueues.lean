import EspHosted.SdioH2e
import EspHosted.Lib.Pool

/-!
The TX queues of `host/sdio/esp_sdio.c` and their two counters. `write_packet`,
`tx_process`, `sdio_purge_tx_queues` and `esp_sdio_flush_if_traffic` run as threads; a
step is one access to a lock, a queue or a counter.
-/

set_option autoImplicit false

namespace EspHosted.Sdio.Queues
open EspHosted Padded Run
open EspHosted.SpiHd (Prio)
open EspHosted.Sdio.H2e (sdioGetCmdInfo ESP_HOST_TX_LATENCY_BYPASS_SIZE)

def TX_MAX_PENDING_COUNT : Int := 1000

/-- `lock` is `tx_q[prio].lock`, `items` is `queue_items`. -/
structure Shared where
  q : Prio → List Bytes := fun _ => []
  items : Prio → Int := fun _ => 0
  pending : Int := 0
  lock : Prio → Bool := fun _ => false

namespace Shared

/-- `none` while the lock is taken. -/
def acquire (s : Shared) (p : Prio) : Option Shared :=
  if s.lock p then none else some {s with lock := Function.update s.lock p true}

def release (s : Shared) (p : Prio) : Shared := {s with lock := Function.update s.lock p false}

def setQ (s : Shared) (p : Prio) (skbs : List Bytes) : Shared := {s with q := Function.update s.q p skbs}

def setItems (s : Shared) (p : Prio) (n : Int) : Shared := {s with items := Function.update s.items p n}

def setPending (s : Shared) (n : Int) : Shared := {s with pending := n}

def queued (s : Shared) : Int := (s.q .high).length+(s.q .mid).length+(s.q .low).length

end Shared

/-- What a step reads besides the queues: `closed` the lifecycle checks of `write_packet`,
`priv` that the frame has a `cb->priv`, `rawTp` that `TEST_RAW_TP` is built in, `current` is
`sdio_cmd_is_current`, `stop` is `kthread_should_stop`. -/
structure Env where
  closed : Bool := false
  priv : Bool := true
  rawTp : Bool := false
  current : Bool := true
  stop : Bool := false
  txAggrSize : Nat := 15872
  deriving DecidableEq, Repr

def Prio.next : Prio → Option Prio
  | .high => some .mid
  | .mid => some .low
  | .low => none

/-! `write_packet`. -/

inductive WritePc where
  | start (skb : Bytes)
  | lock (p : Prio) (skb : Bytes)
  | check (p : Prio) (skb : Bytes)
  | pending (p : Prio) (skb : Bytes)
  | tail (p : Prio) (skb : Bytes)
  | items (p : Prio)
  | unlock (p : Prio)
  | done
  deriving DecidableEq, Repr

def writePrio (skb : Bytes) : Prio :=
  if hdrIfType skb = ESP_INTERNAL_IF then .high
  else if hdrIfType skb = ESP_HCI_IF ∨ hdrIfType skb = ESP_RCP_IF then .mid
  else .low

/-- The frame is turned away before the queue lock is taken. -/
def writeRefused (s : Shared) (e : Env) (skb : Bytes) : Bool :=
  e.closed || skb.isEmpty || decide (ESP_RX_BUFFER_SIZE-headerSize < skb.length) ||
    (decide (TX_MAX_PENDING_COUNT ≤ s.pending) &&
      (e.rawTp && decide (hdrIfType skb = ESP_TEST_IF) ||
        e.priv && (decide (hdrIfType skb = ESP_STA_IF) || decide (hdrIfType skb = ESP_AP_IF))))

def writePacket (s : Shared) (e : Env) : WritePc → Option (Shared × WritePc)
  | .start skb => some (s,if writeRefused s e skb then .done else .lock (writePrio skb) skb)
  | .lock p skb => (s.acquire p).map (·,.check p skb)
  | .check p skb => some (s,if e.closed then .unlock p else .pending p skb)
  | .pending p skb => some (s.setPending (s.pending+1),.tail p skb)
  | .tail p skb => some (s.setQ p (s.q p ++ [skb]),.items p)
  | .items p => some (s.setItems p (s.items p+1),.unlock p)
  | .unlock p => some (s.release p,.done)
  | .done => none

/-! `tx_process`. -/

/-- `len` is `aggr_len`, `size` is `tx_aggr_size`. -/
structure Aggr where
  size : Nat
  len : Nat := 0
  deriving DecidableEq, Repr

/-- What becomes of a dequeued frame: dropped as invalid or truncated, or put into the
aggregate with `len_to_send`, `flush_after_pkt` and whether it is a command. -/
inductive Taken where
  | drop
  | keep (len : Nat) (flush cmd : Bool)
  deriving DecidableEq, Repr

inductive TxPc where
  /-- The head of the outer loop. -/
  | top
  | sample (a : Aggr) (p : Prio)
  | lock (a : Aggr) (p : Prio)
  | peek (a : Aggr) (p : Prio)
  /-- The `SDIO_TX_QUEUE_DESYNC` branch. -/
  | reset (a : Aggr) (p : Prio)
  | dequeue (a : Aggr) (p : Prio) (k : Taken)
  | items (a : Aggr) (p : Prio) (k : Taken)
  | unlock (a : Aggr) (p : Prio) (k : Option Taken)
  /-- The unlock before a `break`. -/
  | leave (p : Prio)
  | read (a : Aggr) (k : Taken)
  | dec (a : Aggr) (k : Taken)
  | done
  deriving DecidableEq, Repr

def loopHead (a : Aggr) : TxPc := if a.len < a.size then .sample a .high else .top

/-- `none` where the loop stops before the frame. -/
def judge (a : Aggr) (p : Prio) (skb : Bytes) : Option Taken :=
  let frameLen := hdrOffset skb+hdrLen skb
  let flushAfterPkt := sdioGetCmdInfo skb || decide (hdrIfType skb = ESP_RCP_IF) ||
    (decide (p = .low) && decide (hdrLen skb ≤ ESP_HOST_TX_LATENCY_BYPASS_SIZE))
  if espOffsetValid (hdrOffset skb) = false ∨ hdrLen skb = 0 then some .drop
  else if skb.length < frameLen then some .drop
  else if flushAfterPkt ∧ a.len ≠ 0 then none
  else if a.size < a.len+alignUp 4 frameLen then none
  else some (.keep (alignUp 4 frameLen) flushAfterPkt (sdioGetCmdInfo skb))

/-- The rest of the loop body, after `tx_pending`. -/
def settle (a : Aggr) (e : Env) : Taken → TxPc
  | .drop => loopHead a
  | .keep len flush cmd =>
    if cmd && !e.current then loopHead a
    else if flush then .top
    else loopHead {a with len := a.len+len}

def txProcess (s : Shared) (e : Env) : TxPc → Option (Shared × TxPc)
  | .top => some (s,if e.stop then .done else loopHead {size := e.txAggrSize})
  | .sample a p =>
    if 0 < s.items p then some (s,.lock a p)
    else
      match Prio.next p with
      | some p' => some (s,.sample a p')
      | none => some (s,.top)
  | .lock a p => (s.acquire p).map (·,.peek a p)
  | .peek a p =>
    match s.q p with
    | [] => some (s,.reset a p)
    | skb :: _ =>
      match judge a p skb with
      | some k => some (s,.dequeue a p k)
      | none => some (s,.leave p)
  | .reset a p => some (s.setItems p 0,.unlock a p none)
  | .dequeue a p k =>
    match s.q p with
    | [] => some (s,.unlock a p none)
    | _ :: rest => some (s.setQ p rest,.items a p k)
  | .items a p k => some (s.setItems p (s.items p-1),.unlock a p (some k))
  | .unlock a p none => some (s.release p,loopHead a)
  | .unlock a p (some k) => some (s.release p,.read a k)
  | .leave p => some (s.release p,.top)
  | .read a k => some (s,if s.pending ≠ 0 then .dec a k else settle a e k)
  | .dec a k => some (s.setPending (s.pending-1),settle a e k)
  | .done => none

/-! `sdio_purge_tx_queues`. -/

/-- `again` says that a frame of the queue has been dequeued. -/
inductive PurgePc where
  | lock (p : Prio) (again : Bool)
  | dequeue (p : Prio) (again : Bool)
  | free (p : Prio)
  | read (p : Prio)
  | dec (p : Prio)
  | reset (p : Prio) (again : Bool)
  | unlock (p : Prio)
  | done
  deriving DecidableEq, Repr

def sdioPurgeTxQueues (s : Shared) : PurgePc → Option (Shared × PurgePc)
  | .lock p again => (s.acquire p).map (·,.dequeue p again)
  | .dequeue p again =>
    match s.q p with
    | [] => some (s,.reset p again)
    | _ :: rest => some (s.setQ p rest,.free p)
  | .free p => some (s.release p,.read p)
  | .read p => some (s,if s.pending ≠ 0 then .dec p else .lock p true)
  | .dec p => some (s.setPending (s.pending-1),.lock p true)
  | .reset p _ => some (s.setItems p 0,.unlock p)
  | .unlock p =>
    match Prio.next p with
    | some p' => some (s.release p,.lock p' false)
    | none => some (s.release p,.done)
  | .done => none

/-! `esp_sdio_flush_if_traffic`. -/

/-- `k` frames of the queue have been passed over. -/
inductive FlushPc where
  | lock (p : Prio)
  | walk (p : Prio) (k : Nat)
  | read (p : Prio) (k : Nat)
  | dec (p : Prio) (k : Nat)
  | items (p : Prio) (k : Nat)
  | unlock (p : Prio)
  | done
  deriving DecidableEq, Repr

def espSdioFlushIfTraffic (s : Shared) (ifType : Nat) : FlushPc → Option (Shared × FlushPc)
  | .lock p => (s.acquire p).map (·,.walk p 0)
  | .walk p k =>
    match (s.q p)[k]? with
    | none => some (s,.unlock p)
    | some skb =>
      if headerSize ≤ skb.length ∧ hdrIfType skb = ifType then some (s.setQ p ((s.q p).eraseIdx k),.read p k)
      else some (s,.walk p (k+1))
  | .read p k => some (s,if s.pending ≠ 0 then .dec p k else .items p k)
  | .dec p k => some (s.setPending (s.pending-1),.items p k)
  | .items p k => some (s.setItems p (s.items p-1),.walk p k)
  | .unlock p =>
    match Prio.next p with
    | some p' => some (s.release p,.lock p')
    | none => some (s.release p,.done)
  | .done => none

/-! The driver. -/

inductive Pc where
  | write (w : WritePc)
  | tx (t : TxPc)
  | purge (u : PurgePc)
  | flush (ifType : Nat) (f : FlushPc)
  deriving DecidableEq, Repr

def next (s : Shared) (pc : Pc) (e : Env) : Option (Shared × Pc) :=
  match pc with
  | .write w => (writePacket s e w).map (fun r => (r.1,.write r.2))
  | .tx t => (txProcess s e t).map (fun r => (r.1,.tx r.2))
  | .purge u => (sdioPurgeTxQueues s u).map (fun r => (r.1,.purge r.2))
  | .flush i f => (espSdioFlushIfTraffic s i f).map (fun r => (r.1,.flush i r.2))

/-- A thread that runs `tx_process`. -/
def Pc.isTx : Pc → Bool
  | .tx .done => false
  | .tx _ => true
  | _ => false

/-- There is one `tx_thread` at a time. -/
def entry (l : List Pc) : Pc → Bool
  | .write (.start _) => true
  | .tx .top => l.all (fun pc => !pc.isTx)
  | .purge (.lock .high false) => true
  | .flush _ (.lock .high) => true
  | _ => false

abbrev System := Pool.State Shared Pc
abbrev Action := Pool.Act Pc Env

def step : System → Action → Option System := Pool.step entry next

def init : System := {shared := {}}

/-! What a thread has done to a queue and not yet accounted for. -/

def Pc.holding : Pc → Option Prio
  | .write (.check p _) | .write (.pending p _) | .write (.tail p _) | .write (.items p) | .write (.unlock p) => some p
  | .tx (.peek _ p) | .tx (.reset _ p) | .tx (.dequeue _ p _) | .tx (.items _ p _) | .tx (.unlock _ p _)
  | .tx (.leave p) => some p
  | .purge (.dequeue p _) | .purge (.free p) | .purge (.reset p _) | .purge (.unlock p) => some p
  | .flush _ (.walk p _) | .flush _ (.read p _) | .flush _ (.dec p _) | .flush _ (.items p _)
  | .flush _ (.unlock p) => some p
  | _ => none

/-- The queue whose purge has dequeued a frame and has not reset the counter. -/
def Pc.purging : Pc → Option Prio
  | .purge (.lock p true) | .purge (.dequeue p true) | .purge (.free p) | .purge (.read p) | .purge (.dec p)
  | .purge (.reset p true) => some p
  | _ => none

/-- The queue from which a flush has unlinked a frame that is still counted. -/
def Pc.unlinking : Pc → Option Prio
  | .flush _ (.read p _) | .flush _ (.dec p _) | .flush _ (.items p _) => some p
  | _ => none

def held (p : Prio) (pc : Pc) : Int := if pc.holding = some p then 1 else 0

def purges (p : Prio) (pc : Pc) : Int := if pc.purging = some p then 1 else 0

def isTx (pc : Pc) : Int := if pc.isTx then 1 else 0

/-- What the thread will still add to `queue_items[p]` for a frame it has moved. -/
def due (p : Prio) : Pc → Int
  | .write (.items r) => if r = p then 1 else 0
  | .tx (.items _ r _) => if r = p then -1 else 0
  | .flush _ (.read r _) | .flush _ (.dec r _) | .flush _ (.items r _) => if r = p then -1 else 0
  | _ => 0

/-- A frame that `tx_pending` counts and that is not in a queue. -/
def owed : Pc → Int
  | .write (.tail _ _) => 1
  | .tx (.items _ _ _) | .tx (.unlock _ _ (some _)) | .tx (.read _ _) | .tx (.dec _ _) => 1
  | .purge (.free _) | .purge (.read _) | .purge (.dec _) => 1
  | .flush _ (.read _ _) | .flush _ (.dec _ _) => 1
  | _ => 0

/-- The queue that the thread has found empty and will reset the counter of. -/
def Pc.resetting : Pc → Option Prio
  | .tx (.reset _ p) => some p
  | .purge (.reset p _) => some p
  | _ => none

namespace Shared

def taken (s : Shared) (p : Prio) : Int := if s.lock p then 1 else 0

def len (s : Shared) (p : Prio) : Int := (s.q p).length

@[simp] theorem taken_setPending (s : Shared) (n : Int) (p : Prio) : (s.setPending n).taken p = s.taken p := rfl
@[simp] theorem taken_setQ (s : Shared) (r : Prio) (skbs : List Bytes) (p : Prio) :
    (s.setQ r skbs).taken p = s.taken p := rfl
@[simp] theorem taken_setItems (s : Shared) (r : Prio) (n : Int) (p : Prio) :
    (s.setItems r n).taken p = s.taken p := rfl

end Shared

/-- How far `queue_items[p]` will be above the length of the queue after the thread's own updates. -/
def drift (s : Shared) (p : Prio) (pc : Pc) : Int := s.items p+due p pc-s.len p

/-- What one step of one thread does to one queue and its counter. -/
inductive Counts (s s' : Shared) (p : Prio) (pc pc' : Pc) : Prop where
  | same (h : drift s' p pc' = drift s p pc) (hpurge : purges p pc ≤ purges p pc')
  | purged (h : drift s' p pc' = drift s p pc+1) (hpurge : purges p pc' = 1)
  | reset (h : pc.resetting = some p) (hitems : s'.items p = 0) (hq : s'.q p = s.q p) (hdue : due p pc' = 0)

/-- What one step of one thread does. The decrement of `tx_pending` goes through wherever
the counter covers the frame the thread took. -/
structure Effect (s s' : Shared) (pc pc' : Pc) : Prop where
  lock : ∀ p, s'.taken p-held p pc' = s.taken p-held p pc
  queue : ∀ p, held p pc = 0 → s'.q p = s.q p
  pending : s.queued+owed pc ≤ s.pending → s'.pending-s'.queued-owed pc' = s.pending-s.queued-owed pc
  counts : ∀ p, Counts s s' p pc pc'
  empty : ∀ p, pc'.resetting = some p → s'.q p = []
  tx : isTx pc' ≤ isTx pc

variable {s s' : Shared} {pc pc' : Pc} {e : Env}

theorem acquire_eq {p : Prio} (h : s.acquire p = some s') :
    s.lock p = false ∧ s' = {s with lock := Function.update s.lock p true} := by
  simp only [Shared.acquire] at h
  split at h
  · cases h
  · next hp => exact ⟨by simpa using hp,(Option.some.inj h).symm⟩

theorem queued_setQ (s : Shared) (p : Prio) (skbs : List Bytes) :
    (s.setQ p skbs).queued = s.queued-s.len p+skbs.length := by
  cases p <;> simp [Shared.queued,Shared.setQ,Shared.len,Function.update] <;> omega

theorem queued_nonneg (s : Shared) : 0 ≤ s.queued := by
  simp only [Shared.queued]
  omega

/-- A step of the thread that leaves what it has to account for as it is. -/
structure Plain (pc pc' : Pc) : Prop where
  purging : pc'.purging = pc.purging
  due : ∀ p, due p pc' = due p pc
  owed : owed pc' = owed pc
  resetting : pc'.resetting = none
  tx : isTx pc' ≤ isTx pc

theorem Plain.purges_eq (h : Plain pc pc') (p : Prio) : purges p pc' = purges p pc := by
  simp [purges,h.purging]

theorem Plain.empty (h : Plain pc pc') (p : Prio) (hp : pc'.resetting = some p) : s.q p = [] := by
  rw [h.resetting] at hp
  cases hp

theorem Plain.goto (h : Plain pc pc') (hhold : pc'.holding = pc.holding) : Effect s s pc pc' where
  lock p := by simp [held,hhold]
  queue _ _ := rfl
  pending _ := by rw [h.owed]
  counts p := .same (by simp [drift,h.due]) (Int.le_of_eq (h.purges_eq p).symm)
  empty := h.empty
  tx := h.tx

theorem Plain.acquire {p : Prio} (h : Plain pc pc') (hold : pc.holding = none) (hnew : pc'.holding = some p)
    (hs : s.acquire p = some s') : Effect s s' pc pc' := by
  obtain ⟨hp,rfl⟩ := acquire_eq hs
  exact {
    lock := by
      intro r
      by_cases hr : r = p
      · subst hr
        simp [held,hold,hnew,Shared.taken,hp]
      · simp [held,hold,hnew,Shared.taken,hr,Ne.symm hr]
    queue := fun _ _ => rfl
    pending := fun _ => by simp [h.owed,Shared.queued]
    counts := fun r => .same (by simp [drift,h.due,Shared.len]) (Int.le_of_eq (h.purges_eq r).symm)
    empty := h.empty
    tx := h.tx }

theorem Plain.release {p : Prio} (h : Plain pc pc') (hold : pc.holding = some p) (hnew : pc'.holding = none)
    (hp : s.lock p = true) : Effect s (s.release p) pc pc' where
  lock r := by
    by_cases hr : r = p
    · subst hr
      simp [held,hold,hnew,Shared.taken,Shared.release,hp]
    · simp [held,hold,hnew,Shared.taken,Shared.release,hr,Ne.symm hr]
  queue _ _ := rfl
  pending _ := by simp [h.owed,Shared.queued,Shared.release]
  counts r := .same (by simp [drift,h.due,Shared.len,Shared.release]) (Int.le_of_eq (h.purges_eq r).symm)
  empty := h.empty
  tx := h.tx

theorem Effect.pendingSet {n : Int} (hhold : pc'.holding = pc.holding) (hpurge : pc'.purging = pc.purging)
    (hdue : ∀ p, due p pc' = due p pc) (hreset : pc'.resetting = none) (htx : isTx pc' ≤ isTx pc)
    (hn : n-owed pc' = s.pending-owed pc) : Effect s (s.setPending n) pc pc' where
  lock p := by simp [held,hhold]
  queue _ _ := rfl
  pending _ := by
    simp only [Shared.queued,Shared.setPending]
    omega
  counts p := .same (by simp [drift,hdue,Shared.len,Shared.setPending]) (by simp [purges,hpurge])
  empty p hp := by
    rw [hreset] at hp
    cases hp
  tx := htx

/-- The guard of a decrement finds `tx_pending` zero. -/
theorem Effect.uncovered (hzero : s.pending = 0) (hhold : pc'.holding = pc.holding) (hpurge : pc'.purging = pc.purging)
    (hdue : ∀ p, due p pc' = due p pc) (hreset : pc'.resetting = none) (howed : owed pc = 1)
    (htx : isTx pc' ≤ isTx pc) : Effect s s pc pc' where
  lock p := by simp [held,hhold]
  queue _ _ := rfl
  pending h := by
    have hq := queued_nonneg s
    omega
  counts p := .same (by simp [drift,hdue]) (by simp [purges,hpurge])
  empty p hp := by
    rw [hreset] at hp
    cases hp
  tx := htx

theorem Effect.queueSet {p : Prio} {skbs : List Bytes} (hold : pc.holding = some p) (hnew : pc'.holding = some p)
    (hreset : pc'.resetting = none) (htx : isTx pc' ≤ isTx pc) (howed : owed pc'+skbs.length = owed pc+s.len p)
    (hother : ∀ r, r ≠ p → due r pc' = due r pc ∧ purges r pc ≤ purges r pc')
    (hcounts : (due p pc'-skbs.length = due p pc-s.len p ∧ purges p pc ≤ purges p pc') ∨
      (due p pc'-skbs.length = due p pc-s.len p+1 ∧ purges p pc' = 1)) :
    Effect s (s.setQ p skbs) pc pc' where
  lock r := by simp [held,hold,hnew]
  queue r hr := by
    have hne : r ≠ p := by
      rintro rfl
      simp [held,hold] at hr
    simp [Shared.setQ,hne]
  pending _ := by
    rw [queued_setQ]
    simp only [Shared.setQ]
    omega
  counts r := by
    by_cases hr : r = p
    · subst hr
      rcases hcounts with ⟨hlen,hpurge⟩ | ⟨hlen,hpurge⟩
      · refine .same ?_ hpurge
        simp only [drift,Shared.len,Shared.setQ,Function.update_self] at hlen ⊢
        omega
      · refine .purged ?_ hpurge
        simp only [drift,Shared.len,Shared.setQ,Function.update_self] at hlen ⊢
        omega
    · refine .same ?_ (hother r hr).2
      simp [drift,Shared.len,Shared.setQ,hr,(hother r hr).1]
  empty r hr := by
    rw [hreset] at hr
    cases hr
  tx := htx

theorem Effect.itemsSet {p : Prio} {n : Int} (hhold : pc'.holding = pc.holding) (hreset : pc'.resetting = none)
    (htx : isTx pc' ≤ isTx pc) (howed : owed pc' = owed pc)
    (hother : ∀ r, r ≠ p → due r pc' = due r pc ∧ purges r pc ≤ purges r pc')
    (hcounts : (n+due p pc' = s.items p+due p pc ∧ purges p pc ≤ purges p pc') ∨
      (pc.resetting = some p ∧ n = 0 ∧ due p pc' = 0)) :
    Effect s (s.setItems p n) pc pc' where
  lock r := by simp [held,hhold]
  queue _ _ := rfl
  pending _ := by simp [howed,Shared.queued,Shared.setItems]
  counts r := by
    by_cases hr : r = p
    · subst hr
      rcases hcounts with ⟨hn,hpurge⟩ | ⟨hp,rfl,hdue⟩
      · refine .same ?_ hpurge
        simp only [drift,Shared.len,Shared.setItems,Function.update_self]
        omega
      · exact .reset hp (by simp [Shared.setItems]) rfl hdue
    · refine .same ?_ (hother r hr).2
      simp [drift,Shared.len,Shared.setItems,hr,(hother r hr).1]
  empty r hr := by
    rw [hreset] at hr
    cases hr
  tx := htx

/-! The four operations. -/

theorem effect_writePacket {w w' : WritePc} (h : writePacket s e w = some (s',w'))
    (hlock : ∀ p, (Pc.write w).holding = some p → s.lock p = true) : Effect s s' (.write w) (.write w') := by
  cases w with
  | start skb =>
    simp only [writePacket,Option.some.injEq,Prod.mk.injEq] at h
    obtain ⟨rfl,rfl⟩ := h
    split <;> exact Plain.goto ⟨rfl,fun _ => rfl,rfl,rfl,Int.le_refl _⟩ rfl
  | lock p skb =>
    simp only [writePacket,Option.map_eq_some_iff,Prod.mk.injEq] at h
    obtain ⟨m,hm,rfl,rfl⟩ := h
    exact Plain.acquire ⟨rfl,fun _ => rfl,rfl,rfl,Int.le_refl _⟩ rfl rfl hm
  | check p skb =>
    simp only [writePacket,Option.some.injEq,Prod.mk.injEq] at h
    obtain ⟨rfl,rfl⟩ := h
    split <;> exact Plain.goto ⟨rfl,fun _ => rfl,rfl,rfl,Int.le_refl _⟩ rfl
  | pending p skb =>
    simp only [writePacket,Option.some.injEq,Prod.mk.injEq] at h
    obtain ⟨rfl,rfl⟩ := h
    exact .pendingSet rfl rfl (fun _ => rfl) rfl (Int.le_refl _) (by simp only [owed]; omega)
  | tail p skb =>
    simp only [writePacket,Option.some.injEq,Prod.mk.injEq] at h
    obtain ⟨rfl,rfl⟩ := h
    refine .queueSet rfl rfl rfl (Int.le_refl _) ?_ (fun r hr => ⟨?_,Int.le_refl _⟩) (.inl ⟨?_,Int.le_refl _⟩)
    · simp only [owed,Shared.len,List.length_append,List.length_singleton]
      omega
    · simp [due,Ne.symm hr]
    · simp only [due,Shared.len,List.length_append,List.length_singleton,if_true]
      omega
  | items p =>
    simp only [writePacket,Option.some.injEq,Prod.mk.injEq] at h
    obtain ⟨rfl,rfl⟩ := h
    refine .itemsSet rfl rfl (Int.le_refl _) rfl (fun r hr => ⟨?_,Int.le_refl _⟩) (.inl ⟨?_,Int.le_refl _⟩)
    · simp [due,Ne.symm hr]
    · simp [due]
  | unlock p =>
    simp only [writePacket,Option.some.injEq,Prod.mk.injEq] at h
    obtain ⟨rfl,rfl⟩ := h
    exact Plain.release ⟨rfl,fun _ => rfl,rfl,rfl,Int.le_refl _⟩ rfl rfl (hlock p rfl)
  | done => cases h

theorem loopHead_cases (a : Aggr) : loopHead a = .top ∨ loopHead a = .sample a .high := by
  unfold loopHead
  split
  · exact .inr rfl
  · exact .inl rfl

theorem settle_cases (a : Aggr) (e : Env) (k : Taken) :
    settle a e k = .top ∨ ∃ b, settle a e k = .sample b .high := by
  have hloop : ∀ b, loopHead b = .top ∨ ∃ b', loopHead b = .sample b' .high :=
    fun b => (loopHead_cases b).imp id fun h => ⟨b,h⟩
  cases k with
  | drop => exact hloop a
  | keep len flush cmd =>
    simp only [settle]
    split
    · exact hloop a
    · split
      · exact .inl rfl
      · exact hloop _

theorem effect_txProcess {t t' : TxPc} (h : txProcess s e t = some (s',t'))
    (hlock : ∀ p, (Pc.tx t).holding = some p → s.lock p = true) : Effect s s' (.tx t) (.tx t') := by
  cases t with
  | top =>
    simp only [txProcess,Option.some.injEq,Prod.mk.injEq] at h
    obtain ⟨rfl,rfl⟩ := h
    split
    · exact Plain.goto ⟨rfl,fun _ => rfl,rfl,rfl,by decide⟩ rfl
    · rcases loopHead_cases {size := e.txAggrSize} with hl | hl
      all_goals
        rw [hl]
        exact Plain.goto ⟨rfl,fun _ => rfl,rfl,rfl,Int.le_refl _⟩ rfl
  | sample a p =>
    simp only [txProcess] at h
    split at h
    · cases h
      exact Plain.goto ⟨rfl,fun _ => rfl,rfl,rfl,Int.le_refl _⟩ rfl
    · split at h
      all_goals
        cases h
        exact Plain.goto ⟨rfl,fun _ => rfl,rfl,rfl,Int.le_refl _⟩ rfl
  | lock a p =>
    simp only [txProcess,Option.map_eq_some_iff,Prod.mk.injEq] at h
    obtain ⟨m,hm,rfl,rfl⟩ := h
    exact Plain.acquire ⟨rfl,fun _ => rfl,rfl,rfl,Int.le_refl _⟩ rfl rfl hm
  | peek a p =>
    simp only [txProcess] at h
    split at h
    · next hq =>
      cases h
      exact {
        lock := fun _ => rfl
        queue := fun _ _ => rfl
        pending := fun _ => rfl
        counts := fun _ => .same rfl (Int.le_refl _)
        empty := fun r hr => by
          cases hr
          exact hq
        tx := Int.le_refl _ }
    · split at h
      all_goals
        cases h
        exact Plain.goto ⟨rfl,fun _ => rfl,rfl,rfl,Int.le_refl _⟩ rfl
  | reset a p =>
    simp only [txProcess,Option.some.injEq,Prod.mk.injEq] at h
    obtain ⟨rfl,rfl⟩ := h
    exact .itemsSet rfl rfl (Int.le_refl _) rfl (fun _ _ => ⟨rfl,Int.le_refl _⟩) (.inr ⟨rfl,rfl,rfl⟩)
  | dequeue a p k =>
    simp only [txProcess] at h
    split at h
    · cases h
      exact Plain.goto ⟨rfl,fun _ => rfl,rfl,rfl,Int.le_refl _⟩ rfl
    · next skb rest hq =>
      cases h
      refine .queueSet rfl rfl rfl (Int.le_refl _) ?_ (fun r hr => ⟨?_,Int.le_refl _⟩) (.inl ⟨?_,Int.le_refl _⟩)
      · simp only [owed,Shared.len,hq,List.length_cons]
        omega
      · simp [due,Ne.symm hr]
      · simp only [due,Shared.len,hq,List.length_cons,if_true]
        omega
  | items a p k =>
    simp only [txProcess,Option.some.injEq,Prod.mk.injEq] at h
    obtain ⟨rfl,rfl⟩ := h
    refine .itemsSet rfl rfl (Int.le_refl _) rfl (fun r hr => ⟨?_,Int.le_refl _⟩) (.inl ⟨?_,Int.le_refl _⟩)
    · simp [due,Ne.symm hr]
    · simp only [due,if_true]
      omega
  | unlock a p k =>
    cases k with
    | none =>
      simp only [txProcess,Option.some.injEq,Prod.mk.injEq] at h
      obtain ⟨rfl,rfl⟩ := h
      rcases loopHead_cases a with hl | hl
      all_goals
        rw [hl]
        exact Plain.release ⟨rfl,fun _ => rfl,rfl,rfl,Int.le_refl _⟩ rfl rfl (hlock p rfl)
    | some k =>
      simp only [txProcess,Option.some.injEq,Prod.mk.injEq] at h
      obtain ⟨rfl,rfl⟩ := h
      exact Plain.release ⟨rfl,fun _ => rfl,rfl,rfl,Int.le_refl _⟩ rfl rfl (hlock p rfl)
  | leave p =>
    simp only [txProcess,Option.some.injEq,Prod.mk.injEq] at h
    obtain ⟨rfl,rfl⟩ := h
    exact Plain.release ⟨rfl,fun _ => rfl,rfl,rfl,Int.le_refl _⟩ rfl rfl (hlock p rfl)
  | read a k =>
    simp only [txProcess,Option.some.injEq,Prod.mk.injEq] at h
    obtain ⟨rfl,rfl⟩ := h
    split
    · exact Plain.goto ⟨rfl,fun _ => rfl,rfl,rfl,Int.le_refl _⟩ rfl
    · next hzero =>
      rcases settle_cases a e k with hl | ⟨b,hl⟩
      all_goals
        rw [hl]
        exact .uncovered (by simpa using hzero) rfl rfl (fun _ => rfl) rfl rfl (Int.le_refl _)
  | dec a k =>
    simp only [txProcess,Option.some.injEq,Prod.mk.injEq] at h
    obtain ⟨rfl,rfl⟩ := h
    rcases settle_cases a e k with hl | ⟨b,hl⟩
    all_goals
      rw [hl]
      exact .pendingSet rfl rfl (fun _ => rfl) rfl (Int.le_refl _) (by simp only [owed]; omega)
  | done => cases h

theorem effect_sdioPurgeTxQueues {u u' : PurgePc} (h : sdioPurgeTxQueues s u = some (s',u'))
    (hlock : ∀ p, (Pc.purge u).holding = some p → s.lock p = true) : Effect s s' (.purge u) (.purge u') := by
  cases u with
  | lock p again =>
    simp only [sdioPurgeTxQueues,Option.map_eq_some_iff,Prod.mk.injEq] at h
    obtain ⟨m,hm,rfl,rfl⟩ := h
    cases again
    all_goals exact Plain.acquire ⟨rfl,fun _ => rfl,rfl,rfl,Int.le_refl _⟩ rfl rfl hm
  | dequeue p again =>
    simp only [sdioPurgeTxQueues] at h
    split at h
    · next hq =>
      cases h
      cases again
      all_goals
        exact {
          lock := fun _ => rfl
          queue := fun _ _ => rfl
          pending := fun _ => rfl
          counts := fun _ => .same rfl (Int.le_refl _)
          empty := fun r hr => by
            cases hr
            exact hq
          tx := Int.le_refl _ }
    · next skb rest hq =>
      cases h
      refine .queueSet rfl rfl rfl (Int.le_refl _) ?_ (fun r hr => ⟨rfl,?_⟩) (.inr ⟨?_,?_⟩)
      · simp only [owed,Shared.len,hq,List.length_cons]
        omega
      · cases again <;> simp [purges,Pc.purging,Ne.symm hr]
      · simp only [due,Shared.len,hq,List.length_cons]
        omega
      · simp [purges,Pc.purging]
  | free p =>
    simp only [sdioPurgeTxQueues,Option.some.injEq,Prod.mk.injEq] at h
    obtain ⟨rfl,rfl⟩ := h
    exact Plain.release ⟨rfl,fun _ => rfl,rfl,rfl,Int.le_refl _⟩ rfl rfl (hlock p rfl)
  | read p =>
    simp only [sdioPurgeTxQueues,Option.some.injEq,Prod.mk.injEq] at h
    obtain ⟨rfl,rfl⟩ := h
    split
    · exact Plain.goto ⟨rfl,fun _ => rfl,rfl,rfl,Int.le_refl _⟩ rfl
    · next hzero => exact .uncovered (by simpa using hzero) rfl rfl (fun _ => rfl) rfl rfl (Int.le_refl _)
  | dec p =>
    simp only [sdioPurgeTxQueues,Option.some.injEq,Prod.mk.injEq] at h
    obtain ⟨rfl,rfl⟩ := h
    exact .pendingSet rfl rfl (fun _ => rfl) rfl (Int.le_refl _) (by simp only [owed]; omega)
  | reset p again =>
    simp only [sdioPurgeTxQueues,Option.some.injEq,Prod.mk.injEq] at h
    obtain ⟨rfl,rfl⟩ := h
    refine .itemsSet rfl rfl (Int.le_refl _) rfl (fun r hr => ⟨rfl,?_⟩) (.inr ⟨rfl,rfl,rfl⟩)
    cases again <;> simp [purges,Pc.purging,Ne.symm hr]
  | unlock p =>
    simp only [sdioPurgeTxQueues] at h
    split at h
    all_goals
      cases h
      exact Plain.release ⟨rfl,fun _ => rfl,rfl,rfl,Int.le_refl _⟩ rfl rfl (hlock p rfl)
  | done => cases h

theorem effect_espSdioFlushIfTraffic {i : Nat} {f f' : FlushPc} (h : espSdioFlushIfTraffic s i f = some (s',f'))
    (hlock : ∀ p, (Pc.flush i f).holding = some p → s.lock p = true) : Effect s s' (.flush i f) (.flush i f') := by
  cases f with
  | lock p =>
    simp only [espSdioFlushIfTraffic,Option.map_eq_some_iff,Prod.mk.injEq] at h
    obtain ⟨m,hm,rfl,rfl⟩ := h
    exact Plain.acquire ⟨rfl,fun _ => rfl,rfl,rfl,Int.le_refl _⟩ rfl rfl hm
  | walk p k =>
    simp only [espSdioFlushIfTraffic] at h
    split at h
    · cases h
      exact Plain.goto ⟨rfl,fun _ => rfl,rfl,rfl,Int.le_refl _⟩ rfl
    · next skb hk =>
      split at h
      · cases h
        have hlen : k < (s.q p).length := (List.getElem?_eq_some_iff.mp hk).1
        refine .queueSet rfl rfl rfl (Int.le_refl _) ?_ (fun r hr => ⟨?_,Int.le_refl _⟩) (.inl ⟨?_,Int.le_refl _⟩)
        · simp only [owed,Shared.len,List.length_eraseIdx,hlen,if_true]
          omega
        · simp [due,Ne.symm hr]
        · simp only [due,Shared.len,List.length_eraseIdx,hlen,if_true]
          omega
      · cases h
        exact Plain.goto ⟨rfl,fun _ => rfl,rfl,rfl,Int.le_refl _⟩ rfl
  | read p k =>
    simp only [espSdioFlushIfTraffic,Option.some.injEq,Prod.mk.injEq] at h
    obtain ⟨rfl,rfl⟩ := h
    split
    · exact Plain.goto ⟨rfl,fun _ => rfl,rfl,rfl,Int.le_refl _⟩ rfl
    · next hzero => exact .uncovered (by simpa using hzero) rfl rfl (fun _ => rfl) rfl rfl (Int.le_refl _)
  | dec p k =>
    simp only [espSdioFlushIfTraffic,Option.some.injEq,Prod.mk.injEq] at h
    obtain ⟨rfl,rfl⟩ := h
    exact .pendingSet rfl rfl (fun _ => rfl) rfl (Int.le_refl _) (by simp only [owed]; omega)
  | items p k =>
    simp only [espSdioFlushIfTraffic,Option.some.injEq,Prod.mk.injEq] at h
    obtain ⟨rfl,rfl⟩ := h
    refine .itemsSet rfl rfl (Int.le_refl _) rfl (fun r hr => ⟨?_,Int.le_refl _⟩) (.inl ⟨?_,Int.le_refl _⟩)
    · simp [due,Ne.symm hr]
    · simp only [due,if_true]
      omega
  | unlock p =>
    simp only [espSdioFlushIfTraffic] at h
    split at h
    all_goals
      cases h
      exact Plain.release ⟨rfl,fun _ => rfl,rfl,rfl,Int.le_refl _⟩ rfl rfl (hlock p rfl)
  | done => cases h

theorem next_effect (h : next s pc e = some (s',pc')) (hlock : ∀ p, pc.holding = some p → s.lock p = true) :
    Effect s s' pc pc' := by
  cases pc with
  | write w =>
    simp only [next,Option.map_eq_some_iff,Prod.mk.injEq] at h
    obtain ⟨⟨m,w'⟩,hw,rfl,rfl⟩ := h
    exact effect_writePacket hw hlock
  | tx t =>
    simp only [next,Option.map_eq_some_iff,Prod.mk.injEq] at h
    obtain ⟨⟨m,t'⟩,ht,rfl,rfl⟩ := h
    exact effect_txProcess ht hlock
  | purge u =>
    simp only [next,Option.map_eq_some_iff,Prod.mk.injEq] at h
    obtain ⟨⟨m,u'⟩,hu,rfl,rfl⟩ := h
    exact effect_sdioPurgeTxQueues hu hlock
  | flush i f =>
    simp only [next,Option.map_eq_some_iff,Prod.mk.injEq] at h
    obtain ⟨⟨m,f'⟩,hf,rfl,rfl⟩ := h
    exact effect_espSdioFlushIfTraffic hf hlock

/-! The whole driver. -/

/-- `drifted`: only a purge that has not reset the counter leaves it above the length. -/
structure Inv (s : System) : Prop where
  lock : ∀ p, Pool.total (held p) s.threads = s.shared.taken p
  empty : ∀ (i : Nat) (pc : Pc) (p : Prio), s.threads[i]? = some pc → pc.resetting = some p → s.shared.q p = []
  pending : s.shared.pending = s.shared.queued+Pool.total owed s.threads
  counted : ∀ p, s.shared.len p ≤ s.shared.items p+Pool.total (due p) s.threads
  drifted : ∀ p, s.shared.len p < s.shared.items p+Pool.total (due p) s.threads → 0 < Pool.total (purges p) s.threads
  tx : Pool.total isTx s.threads ≤ 1

theorem held_nonneg (p : Prio) (pc : Pc) : 0 ≤ held p pc := by
  unfold held
  split <;> omega

theorem purges_nonneg (p : Prio) (pc : Pc) : 0 ≤ purges p pc := by
  unfold purges
  split <;> omega

theorem isTx_nonneg (pc : Pc) : 0 ≤ isTx pc := by
  unfold isTx
  split <;> omega

theorem owed_nonneg (pc : Pc) : 0 ≤ owed pc := by
  unfold owed
  split <;> omega

theorem taken_le_one (s : Shared) (p : Prio) : s.taken p ≤ 1 := by
  unfold Shared.taken
  split <;> omega

theorem due_of_not_held {p : Prio} (h : held p pc = 0) : due p pc = 0 := by
  unfold due
  split
  all_goals first | rfl | skip
  all_goals
    split
    · next hp =>
      subst hp
      simp [held,Pc.holding] at h
    · rfl

theorem holding_of_resetting {p : Prio} (h : pc.resetting = some p) : pc.holding = some p := by
  unfold Pc.resetting at h
  split at h
  · exact h
  · exact h
  · cases h

namespace Inv
variable {t t' : System}

theorem unique (h : Inv t) {i j : Nat} {a b : Pc} {p : Prio} (hi : t.threads[i]? = some a)
    (hj : t.threads[j]? = some b) (ha : a.holding = some p) (hb : b.holding = some p) : i = j := by
  refine Pool.eq_of_total_le_one (held_nonneg p) ?_ hi hj (by simp [held,ha]) (by simp [held,hb])
  rw [h.lock]
  exact taken_le_one _ _

theorem locked (h : Inv t) {i : Nat} (hi : t.threads[i]? = some pc) (p : Prio) (hp : pc.holding = some p) :
    t.shared.lock p = true := by
  have hle := Pool.le_total (held_nonneg p) hi
  rw [h.lock,Shared.taken] at hle
  by_contra hfree
  simp [held,hp,hfree] at hle

theorem counts (h : Inv t) {i : Nat} (hi : t.threads[i]? = some pc) {p : Prio}
    (hc : Counts t.shared s' p pc pc') :
    s'.len p ≤ s'.items p+Pool.total (due p) (t.threads.set i pc') ∧
      (s'.len p < s'.items p+Pool.total (due p) (t.threads.set i pc') →
        0 < Pool.total (purges p) (t.threads.set i pc')) := by
  have hdue := Pool.total_set (w := due p) hi pc'
  have hpurges := Pool.total_set (w := purges p) hi pc'
  have hle := Pool.le_total (purges_nonneg p) hi
  have hcounted := h.counted p
  have hdrifted := h.drifted p
  cases hc with
  | same hd hp =>
    simp only [drift] at hd
    exact ⟨by omega,fun hlt => by have := hdrifted (by omega); omega⟩
  | purged hd hp =>
    simp only [drift] at hd
    exact ⟨by omega,fun _ => by omega⟩
  | reset hreset hitems hq hnone =>
    -- the thread holds the lock, so no other thread has moved a frame of the queue
    have hempty : s'.len p = 0 := by simp [Shared.len,hq,h.empty i pc p hi hreset]
    have hzero : Pool.total (due p) (t.threads.set i pc') = 0 := by
      refine Pool.total_eq_zero fun a ha => ?_
      obtain ⟨j,hj⟩ := List.getElem?_of_mem ha
      by_cases hij : i = j
      · subst hij
        rw [List.getElem?_set_self (List.getElem?_eq_some_iff.mp hi).1,Option.some.injEq] at hj
        rwa [← hj]
      · rw [List.getElem?_set_ne hij] at hj
        apply due_of_not_held
        unfold held
        split
        · next hheld => exact absurd (h.unique hi hj (holding_of_resetting hreset) hheld) hij
        · rfl
    rw [hzero,hitems,hempty]
    exact ⟨by omega,fun hlt => by omega⟩

theorem run (h : Inv t) {i : Nat} (hi : t.threads[i]? = some pc) (hn : next t.shared pc e = some (s',pc')) :
    Inv ⟨s',t.threads.set i pc'⟩ := by
  have eff := next_effect hn (h.locked hi)
  constructor
  · intro p
    have hlock := eff.lock p
    have htotal := h.lock p
    show Pool.total (held p) (t.threads.set i pc') = s'.taken p
    rw [Pool.total_set hi]
    omega
  · intro j a p hj ha
    by_cases hij : i = j
    · subst hij
      rw [List.getElem?_set_self (List.getElem?_eq_some_iff.mp hi).1,Option.some.injEq] at hj
      subst hj
      exact eff.empty p ha
    · rw [List.getElem?_set_ne hij] at hj
      rw [eff.queue p ?_]
      · exact h.empty j a p hj ha
      · unfold held
        split
        · next hheld => exact absurd (h.unique hi hj hheld (holding_of_resetting ha)) hij
        · rfl
  · have hle := Pool.le_total owed_nonneg hi
    have hpending := h.pending
    have hset := eff.pending (by omega)
    show s'.pending = s'.queued+Pool.total owed (t.threads.set i pc')
    rw [Pool.total_set hi]
    omega
  · exact fun p => (h.counts hi (eff.counts p)).1
  · exact fun p => (h.counts hi (eff.counts p)).2
  · have htx := eff.tx
    have hone := h.tx
    rw [Pool.total_set hi]
    omega

theorem spawn (h : Inv t) (he : entry t.threads pc = true) : Inv {t with threads := t.threads ++ [pc]} := by
  have hrest : (∀ p, held p pc = 0) ∧ pc.resetting = none ∧ owed pc = 0 ∧ (∀ p, due p pc = 0) ∧
      (∀ p, purges p pc = 0) ∧ Pool.total isTx t.threads+isTx pc ≤ 1 := by
    have hone := h.tx
    unfold entry at he
    split at he
    · exact ⟨fun _ => rfl,rfl,rfl,fun _ => rfl,fun _ => rfl,by simpa [isTx,Pc.isTx] using hone⟩
    · refine ⟨fun _ => rfl,rfl,rfl,fun _ => rfl,fun _ => rfl,?_⟩
      rw [Pool.total_eq_zero (fun a ha => by simpa [isTx] using List.all_eq_true.mp he a ha)]
      decide
    · exact ⟨fun _ => rfl,rfl,rfl,fun _ => rfl,fun _ => rfl,by simpa [isTx,Pc.isTx] using hone⟩
    · exact ⟨fun _ => rfl,rfl,rfl,fun _ => rfl,fun _ => rfl,by simpa [isTx,Pc.isTx] using hone⟩
    · cases he
  obtain ⟨hheld,hreset,howed,hdue,hpurges,htx⟩ := hrest
  constructor
  · intro p
    simp [Pool.total_spawn,hheld,h.lock p]
  · intro i a p hi ha
    by_cases hlt : i < t.threads.length
    · rw [List.getElem?_append_left hlt] at hi
      exact h.empty i a p hi ha
    · rw [List.getElem?_append_right (by omega)] at hi
      obtain ⟨-,rfl⟩ : i-t.threads.length = 0 ∧ pc = a := by simpa [List.getElem?_singleton] using hi
      rw [hreset] at ha
      cases ha
  · simp [Pool.total_spawn,howed,h.pending]
  · intro p
    simpa [Pool.total_spawn,hdue] using h.counted p
  · intro p hlt
    simp only [Pool.total_spawn,hdue,hpurges,Int.add_zero] at hlt ⊢
    exact h.drifted p hlt
  · rwa [Pool.total_spawn]

theorem step {a : Action} (h : Inv t) (ha : step t a = some t') : Inv t' := by
  cases a with
  | spawn pc =>
    obtain ⟨he,rfl⟩ := Pool.step_spawn ha
    exact h.spawn he
  | run i e =>
    obtain ⟨pc,pc',sh,hi,hn,rfl⟩ := Pool.step_run ha
    exact h.run hi hn

end Inv

theorem init_inv : Inv init where
  lock _ := rfl
  empty _ _ _ hi := by cases hi
  pending := rfl
  counted _ := Int.le_refl _
  drifted _ hp := absurd hp (Int.lt_irrefl _)
  tx := by decide

theorem exec_inv {as : List Action} {t : System} (h : exec step init as = some t) : Inv t :=
  exec_invariant (I := Inv) (fun _ _ _ hs ha => hs.step ha) init_inv h

/-! The result. -/

/-- No operation is under way: the thread holds no lock and has no frame to account for. -/
def Pc.resting : Pc → Bool
  | .write (.start _) | .write (.lock _ _) | .write .done => true
  | .tx .top | .tx (.sample _ _) | .tx (.lock _ _) | .tx .done => true
  | .purge (.lock _ _) | .purge .done => true
  | .flush _ (.lock _) | .flush _ .done => true
  | _ => false

theorem owed_of_resting (h : pc.resting = true) : owed pc = 0 := by
  unfold Pc.resting at h
  split at h
  all_goals first | rfl | cases h

/-- The sample after which `tx_process` has taken the lock and found the queue empty: others' steps, then the lock,
then others' steps again. At the sample the queue held a frame, or a purge or a flush of it was under way. -/
def SampledBefore (as : List Action) (i : Nat) (a : Aggr) (p : Prio) : Prop :=
  ∃ bs e cs e' ds u, as = bs ++ .run i e :: (cs ++ .run i e' :: ds) ∧ Pool.Without i cs ∧ Pool.Without i ds ∧
    exec step init bs = some u ∧ u.threads[i]? = some (.tx (.sample a p)) ∧ 0 < u.shared.items p ∧
    (u.shared.q p ≠ [] ∨ ∃ pc ∈ u.threads, pc.purging = some p ∨ pc.unlinking = some p)

theorem due_neg {p : Prio} (h : 0 < -due p pc) :
    (∃ a k, pc = .tx (.items a p k)) ∨ pc.unlinking = some p := by
  unfold due at h
  split at h
  · split at h <;> omega
  · next a r k =>
    split at h
    · next hr =>
      subst hr
      exact .inl ⟨a,k,rfl⟩
    · omega
  all_goals first | omega | skip
  all_goals
    split at h
    · next hr =>
      subst hr
      exact .inr rfl
    · omega

theorem sample_covered {t : System} (h : Inv t) {i : Nat} {a : Aggr} {p : Prio}
    (hi : t.threads[i]? = some (.tx (.sample a p))) (hpos : 0 < t.shared.items p) (hq : t.shared.q p = []) :
    ∃ pc ∈ t.threads, pc.purging = some p ∨ pc.unlinking = some p := by
  have hlen : t.shared.len p = 0 := by simp [Shared.len,hq]
  by_cases hdrift : t.shared.len p < t.shared.items p+Pool.total (due p) t.threads
  · obtain ⟨j,pc,hj,hpurges⟩ := Pool.exists_of_total_pos (h.drifted p hdrift)
    refine ⟨pc,List.mem_of_getElem? hj,.inl ?_⟩
    by_contra hne
    simp [purges,hne] at hpurges
  · have hneg : 0 < Pool.total (fun pc => -due p pc) t.threads := by
      rw [Pool.total_neg]
      omega
    obtain ⟨j,pc,hj,hdue⟩ := Pool.exists_of_total_pos hneg
    refine ⟨pc,List.mem_of_getElem? hj,.inr ?_⟩
    rcases due_neg hdue with ⟨b,k,rfl⟩ | hunlink
    · -- there is one `tx_process`, and it is at the sample
      have hij := Pool.eq_of_total_le_one isTx_nonneg h.tx hi hj (by simp [isTx,Pc.isTx]) (by simp [isTx,Pc.isTx])
      rw [← hij,hi] at hj
      cases hj
    · exact hunlink

theorem next_tx {t : TxPc} (h : next s pc e = some (s',.tx t)) :
    ∃ t₀, pc = .tx t₀ ∧ txProcess s e t₀ = some (s',t) := by
  cases pc with
  | write w =>
    simp only [next,Option.map_eq_some_iff,Prod.mk.injEq] at h
    obtain ⟨_,-,-,hbad⟩ := h
    cases hbad
  | tx t₀ =>
    simp only [next,Option.map_eq_some_iff,Prod.mk.injEq,Pc.tx.injEq] at h
    obtain ⟨⟨m,t'⟩,ht,rfl,rfl⟩ := h
    exact ⟨t₀,rfl,ht⟩
  | purge u =>
    simp only [next,Option.map_eq_some_iff,Prod.mk.injEq] at h
    obtain ⟨_,-,-,hbad⟩ := h
    cases hbad
  | flush i f =>
    simp only [next,Option.map_eq_some_iff,Prod.mk.injEq] at h
    obtain ⟨_,-,-,hbad⟩ := h
    cases hbad

theorem txProcess_to {t t' : TxPc} (h : txProcess s e t = some (s',t')) :
    (∀ a p, t' = .peek a p → t = .lock a p) ∧ (∀ a p, t' = .lock a p → t = .sample a p ∧ 0 < s.items p) := by
  have hloop : ∀ b, (∀ a p, loopHead b = .peek a p → t = .lock a p) ∧
      ∀ a p, loopHead b = .lock a p → t = .sample a p ∧ 0 < s.items p := by
    intro b
    rcases loopHead_cases b with hl | hl <;> simp [hl]
  have hsettle : ∀ b k, (∀ a p, settle b e k = .peek a p → t = .lock a p) ∧
      ∀ a p, settle b e k = .lock a p → t = .sample a p ∧ 0 < s.items p := by
    intro b k
    rcases settle_cases b e k with hl | ⟨b',hl⟩ <;> simp [hl]
  cases t with
  | top =>
    simp only [txProcess,Option.some.injEq,Prod.mk.injEq] at h
    obtain ⟨-,rfl⟩ := h
    split
    · simp
    · exact hloop _
  | sample a p =>
    simp only [txProcess] at h
    split at h
    · next hpos =>
      cases h
      refine ⟨fun b r hb => (by cases hb),fun b r hb => ?_⟩
      cases hb
      exact ⟨rfl,hpos⟩
    · split at h
      all_goals
        cases h
        simp
  | lock a p =>
    simp only [txProcess,Option.map_eq_some_iff,Prod.mk.injEq] at h
    obtain ⟨m,-,-,rfl⟩ := h
    refine ⟨fun b r hb => ?_,fun b r hb => (by cases hb)⟩
    cases hb
    rfl
  | peek a p =>
    simp only [txProcess] at h
    split at h
    · cases h
      simp
    · split at h
      all_goals
        cases h
        simp
  | dequeue a p k =>
    simp only [txProcess] at h
    split at h
    all_goals
      cases h
      simp
  | unlock a p k =>
    cases k with
    | none =>
      cases h
      exact hloop a
    | some k =>
      cases h
      simp
  | read a k =>
    simp only [txProcess,Option.some.injEq,Prod.mk.injEq] at h
    obtain ⟨-,rfl⟩ := h
    split
    · simp
    · exact hsettle a k
  | dec a k =>
    cases h
    exact hsettle a k
  | reset a p | items a p k | leave p =>
    cases h
    simp
  | done => cases h

theorem sampled_before {as : List Action} {t : System} {i : Nat} {a : Aggr} {p : Prio}
    (h : exec step init as = some t) (hi : t.threads[i]? = some (.tx (.peek a p))) : SampledBefore as i a p := by
  obtain ⟨ms,e',ds,m,pc,sh,rfl,hds,hm,hpc,hn⟩ := Pool.exec_last_run rfl (fun _ => rfl) h hi
  obtain ⟨t₁,rfl,ht₁⟩ := next_tx hn
  obtain rfl := (txProcess_to ht₁).1 a p rfl
  obtain ⟨bs,e,cs,u,pc,sh',rfl,hcs,hu,hpc',hn'⟩ := Pool.exec_last_run rfl (fun _ => rfl) hm hpc
  obtain ⟨t₂,rfl,ht₂⟩ := next_tx hn'
  obtain ⟨rfl,hpos⟩ := (txProcess_to ht₂).2 a p rfl
  refine ⟨bs,e,cs,e',ds,u,by simp,hcs,hds,hu,hpc',hpos,?_⟩
  by_cases hq : u.shared.q p = []
  · exact .inr (sample_covered (exec_inv hu) hpc' hpos hq)
  · exact .inl hq

/-- While the lock of a queue is free its counter is not below the length, and equal to it unless a purge has dequeued
a frame and not reset it. -/
theorem tx_queue_accounting (as : List Action) (t : System) (h : exec step init as = some t) :
    (∀ p, t.shared.lock p = false →
      (t.shared.q p).length ≤ t.shared.items p ∧
      ((∀ pc ∈ t.threads, pc.purging ≠ some p) → t.shared.items p = (t.shared.q p).length)) ∧
    (∀ (i : Nat) a p, t.threads[i]? = some (.tx (.peek a p)) → t.shared.q p = [] → SampledBefore as i a p) ∧
    ((∀ pc ∈ t.threads, pc.resting = true) → t.shared.pending = t.shared.queued) := by
  have hinv := exec_inv h
  refine ⟨fun p hfree => ?_,fun i a p hi _ => sampled_before h hi,fun hrest => ?_⟩
  · have hdue : Pool.total (due p) t.threads = 0 := by
      refine Pool.total_eq_zero fun pc hpc => due_of_not_held ?_
      obtain ⟨i,hi⟩ := List.getElem?_of_mem hpc
      have hle := Pool.le_total (held_nonneg p) hi
      have hnonneg := held_nonneg p pc
      simp only [hinv.lock,Shared.taken,hfree,Bool.false_eq_true,if_false] at hle
      omega
    have hcounted := hinv.counted p
    simp only [hdue,Shared.len] at hcounted
    refine ⟨by omega,fun hnone => ?_⟩
    by_contra hne
    have hpurges := hinv.drifted p (by simp only [hdue,Shared.len]; omega)
    rw [Pool.total_eq_zero (fun pc hpc => by simp [purges,hnone pc hpc])] at hpurges
    omega
  · have hpending := hinv.pending
    rw [Pool.total_eq_zero (fun pc hpc => owed_of_resting (hrest pc hpc))] at hpending
    omega

/-- `k` steps of thread `t`. -/
def runs (t k : Nat) : List Action := List.replicate k (.run t {})

/-- Two frames are written and purged, then a third is written. -/
def settledRun : List Action :=
  .spawn (.write (.start [0])) :: runs 0 7 ++
    .spawn (.write (.start [1])) :: runs 1 7 ++
    .spawn (.purge (.lock .high false)) :: runs 2 22 ++
    .spawn (.write (.start [0])) :: runs 3 7

theorem tx_queue_accounting_settled :
    ∃ t, exec step init settledRun = some t ∧ t.shared.items .low = (t.shared.q .low).length ∧
      t.shared.q .low = [[0]] ∧ t.shared.pending = t.shared.queued := by
  have hx : ∃ t ∈ exec step init settledRun, t.shared.lock .low = false ∧ t.shared.q .low = [[0]] ∧
      (∀ pc ∈ t.threads, pc.purging ≠ some .low) ∧ ∀ pc ∈ t.threads, pc.resting = true := by decide +kernel
  obtain ⟨t,ht,hfree,hq,hnone,hrest⟩ := hx
  obtain ⟨hcount,-,hpending⟩ := tx_queue_accounting settledRun t ht
  exact ⟨t,ht,(hcount .low hfree).2 hnone,hq,hpending hrest⟩

/-- A purge has dequeued the only frame and released the lock; `tx_process` is about to sample the counter. -/
def staleRun : List Action :=
  .spawn (.write (.start [0])) :: runs 0 7 ++
    .spawn (.purge (.lock .high false)) :: runs 1 11 ++
    .spawn (.tx .top) :: runs 2 3

/-- A flush has unlinked the only frame and not yet counted it out; `tx_process` is about to sample the counter. -/
def unlinkedRun : List Action :=
  .spawn (.write (.start (List.replicate 12 0))) :: runs 0 7 ++
    .spawn (.flush ESP_STA_IF (.lock .high)) :: runs 1 8 ++
    .spawn (.tx .top) :: runs 2 3

/-- With the lock free the counter is one above the length, and `tx_process` goes on to the
`SDIO_TX_QUEUE_DESYNC` branch of a queue that was empty when it sampled the counter, after a purge and after a flush. -/
theorem queue_items_stale :
    (∃ t ∈ exec step init staleRun, t.shared.lock .low = false ∧ t.shared.items .low = 1 ∧ t.shared.q .low = [] ∧
      t.threads[2]? = some (.tx (.sample {size := 15872} .low))) ∧
    (∃ t ∈ exec step init (staleRun ++ runs 2 2),
      t.shared.q .low = [] ∧ t.threads[2]? = some (.tx (.peek {size := 15872} .low))) ∧
    (∃ t ∈ exec step init unlinkedRun, t.shared.q .low = [] ∧
      t.threads[2]? = some (.tx (.sample {size := 15872} .low))) ∧
    ∃ t ∈ exec step init (unlinkedRun ++ runs 2 1 ++ runs 1 5 ++ runs 2 1),
      t.shared.q .low = [] ∧ t.threads[2]? = some (.tx (.peek {size := 15872} .low)) := by decide +kernel

end EspHosted.Sdio.Queues
