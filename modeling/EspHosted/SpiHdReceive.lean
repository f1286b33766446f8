import EspHosted.SpiHdBatch

/-!
The receive path of SPI-HD across live resyncs, `spihd_rddma`, `spihd_receive_one` and the
receive half of `spihd_work` of `host/spi_hd/esp_spi_hd.c`. What the registers hold, what
the bus does and which allocations fail is an input.
-/

set_option autoImplicit false

namespace EspHosted.SpiHd
open EspHosted Padded Recovery Run

def SPIHD_INT_MASK : UInt32 := 0x3000000

/-- The module parameters the receive path reads; `combined` is
`spihd_combined_rddma` for a length at the current line count. -/
structure RxConfig where
  appendTx : Bool := false
  appendNoAck : Bool := false
  rxBatchControl : Bool := false
  combined : Nat → Bool := fun _ => false
  rxLimit : Nat := 1600

def spihdBatchRxAck (c : RxConfig) (len : Nat) : Bool :=
  c.rxBatchControl && !(c.appendTx && c.appendNoAck) && c.combined len

def spihdRxAckRequired (c : RxConfig) (status : UInt32) (pending : Nat) : Bool :=
  !(c.appendTx && c.appendNoAck && status == 0 && pending != 0 && decide (pending ≤ c.rxLimit))

/-- What the controller does with one RDDMA. After an error other than the four that
mean it was refused, the firmware may have handed out any bytes. -/
inductive Rddma where
  | done (data : Bytes)
  | rejected
  | failed (taken : Bytes)
  deriving DecidableEq, Repr

structure RxScript where
  /-- `SPIHD_REG_TX_BUF_LEN`, `none` for a read that failed. -/
  status : Option UInt32
  int1 : Bool := true
  skb : Bool := true
  rddma : Rddma := .rejected
  int0 : Bool := true
  alloc : Nat → Bool := fun _ => true

/-- `sent` is what the firmware's DMA has handed out since the counters were zeroed,
`counted` how much of it went into `rx_byte_count`. Nothing is removed from `queues`.
`booting` is set from the zeroing until the boot event of that incarnation. -/
structure Session where
  link : Link := {}
  queues : RxQueues := fun _ => []
  sent : Bytes := []
  counted : Nat := 0
  booting : Bool := true

inductive RxPoll where
  | error
  | again
  | idle
  | read (pending : Nat)
  deriving DecidableEq, Repr

/-- `spihd_receive_one` up to its RDDMA. -/
def spihdReceivePoll (c : RxConfig) (h : Host) (r : RxScript) : RxPoll :=
  match r.status with
  | none => .error
  | some word =>
    let status := word &&& SPIHD_INT_MASK
    let pending := (((word &&& SPIHD_TX_BUF_LEN_MASK)-h.rxByteCount) &&& SPIHD_TX_BUF_LEN_MASK).toNat
    if spihdRxAckRequired c status pending ∧ ¬(spihdBatchRxAck c pending ∧ pending ≤ c.rxLimit) ∧
        r.int1 = false then .error
    else if pending = 0 then (if status ≠ 0 then .idle else .again)
    else if c.rxLimit < pending then .error
    else if r.skb then .read pending
    else .error

def Session.setRxInflight (s : Session) (b : Bool) : Session :=
  {s with link := {s.link with host := {s.link.host with rxInflight := b}}}

/-- `INT0` is sent only where no other command ends the transfer. -/
def int0Lost (c : RxConfig) (r : RxScript) (len : Nat) : Bool :=
  !c.appendTx && !c.combined len && !r.int0

def spihdRddma (c : RxConfig) (r : RxScript) (s : Session) (len : Nat) : Session × Option Bytes :=
  match r.rddma with
  | .rejected => (s.setRxInflight false,none)
  | .failed taken => ({s.setRxInflight true with sent := s.sent ++ taken},none)
  | .done data =>
    if int0Lost c r len then ({s.setRxInflight true with sent := s.sent ++ data},none)
    else ({s.setRxInflight false with sent := s.sent ++ data},some data)

def Session.count (s : Session) (pending : Nat) : Session :=
  {s with
    counted := s.counted+pending
    link := {s.link with host := {s.link.host with
      rxByteCount := (s.link.host.rxByteCount+UInt32.ofNat pending) &&& SPIHD_TX_BUF_LEN_MASK}}}

/-- `spihd_process_rx_batch`, with the flag it leaves behind. -/
def processCounted (c : RxConfig) (r : RxScript) (s : Session) (data : Bytes) : Session × Bool :=
  match spihdProcessRxBatch r.alloc s.queues data with
  | (q,.ok) => ({s with queues := q},true)
  | (q,.proto) => (if c.appendTx then {s with queues := q}.setRxInflight true else {s with queues := q},false)
  | (q,.inval) => ({s with queues := q},false)
  | (q,.nomem) => ({s with queues := q},false)

/-- `false` is an error for which `spihd_work` asks for a recovery. -/
def spihdReceiveOne (c : RxConfig) (s : Session) (r : RxScript) : Session × Bool :=
  match spihdReceivePoll c s.link.host r with
  | .error => (s,false)
  | .again => (s,true)
  | .idle => (s,true)
  | .read pending =>
    match spihdRddma c r s pending with
    | (s,none) => (s,false)
    | (s,some data) => processCounted c r (s.count pending) data

def spihdLiveRecoveryPending (a : Adapter) : Bool :=
  decide (a.state ≠ .ready) && a.initDone && a.recoveryPending && !a.resetExpected

def Session.failed (s : Session) (ok : Bool) : Session := {s with link := s.link.failed ok}

/-- A transfer of `pending` bytes that ends well brings `pending` bytes. -/
def wellSized (c : RxConfig) (h : Host) (r : RxScript) : Bool :=
  match spihdReceivePoll c h r, r.rddma with
  | .read pending, .done data => data.length = pending
  | _, _ => true

inductive RxAction (ck : Bytes → Bool) where
  | receive (c : RxConfig) (r : RxScript)
  /-- `spihd_reset_target` or a new binding. -/
  | restart
  | boot
  | act (a : Action ck)

/-- A boot event is accepted of the incarnation that the counters were zeroed for. -/
def rxStep {ck : Bytes → Bool} (clk : Clock) (s : Session) : RxAction ck → Option Session
  | .receive c r =>
    if spihdLiveRecoveryPending s.link.adapter ∨ wellSized c s.link.host r = false then none
    else
      let t := spihdReceiveOne c s r
      some (t.1.failed t.2)
  | .restart => some {link := s.link.rebase.restarted}
  | .boot =>
    if s.booting then
      some {s with
        booting := false
        link := {s.link with adapter := {espBeginReconstruction s.link.adapter with state := .ready}}}
    else none
  | .act .boot => none
  | .act (.receive _ _ _) => none
  | .act (.recover now r) =>
    (step clk s.link (.recover now r : Action ck)).map (fun l =>
      if (spihdRecoverTransport clk now s.link r).2 = .notReady then {link := l} else {s with link := l})
  | .act a => (step clk s.link a).map (fun l => {s with link := l})

/-- Every counted byte belongs to a batch, and the queues hold the frames of the batches. -/
structure Delivered (s : Session) (batches : List (List Bytes × Bool)) : Prop where
  bytes : s.sent.take s.counted = (batches.map (fun b => packed 4 0 b.2 b.1)).flatten
  frames : ∀ b ∈ batches, ∀ f ∈ b.1, RxFrame f
  queues : s.queues = queued (fun _ => []) (batches.map Prod.fst).flatten

def Session.keepsReceiving (s : Session) : Bool := s.booting || s.link.adapter.allowReconstruct

/-- A counted batch is well formed and its frames find memory. A malformed batch of the
append mode and an unknown completion are noted in `rx_inflight`, which does no good
where the next transfer clears it. -/
def keptReceive (s : Session) (c : RxConfig) (r : RxScript) : Bool :=
  match spihdReceivePoll c s.link.host r, r.rddma with
  | .read _, .failed _ => !s.keepsReceiving
  | .read pending, .done data =>
    if int0Lost c r pending then !s.keepsReceiving
    else
      match spihdValidateRxBatch data with
      | none => c.appendTx && !s.keepsReceiving
      | some k => decide (k = 1 ∨ ∀ j < k, r.alloc j = true)
  | _, _ => true

def Kept {ck : Bytes → Bool} (s : Session) : RxAction ck → Prop
  | .receive c r => keptReceive s c r = true
  | _ => True

instance {ck : Bytes → Bool} (s : Session) (a : RxAction ck) : Decidable (Kept s a) := by
  cases a <;> unfold Kept <;> infer_instance

/-! Sending leaves the receive state alone. -/

variable {ck : Bytes → Bool} {clk : Clock}

def SameRx (h h' : Host) : Prop := h'.rxInflight = h.rxInflight ∧ h'.rxByteCount = h.rxByteCount

theorem SameRx.trans {h h' h'' : Host} (h1 : SameRx h h') (h2 : SameRx h' h'') : SameRx h h'' :=
  ⟨h2.1.trans h1.1,h2.2.trans h1.2⟩

theorem pollTxCredit_rx {h h' : Host} (polls : List Poll) (hp : pollTxCredit h polls = some h') :
    SameRx h h' := by
  induction polls with
  | nil => cases hp
  | cons p ps ih =>
    simp only [pollTxCredit] at hp
    split at hp
    · split at hp
      · split at hp
        · cases hp
          exact ⟨rfl,rfl⟩
        · exact ih hp
      · exact ih hp
    · split_ifs at hp
      · cases hp
        exact ⟨rfl,rfl⟩
      · exact ih hp
      · split at hp
        · split at hp
          · cases hp
            exact ⟨rfl,rfl⟩
          · exact ih hp
        · exact ih hp

theorem spihdWaitTxCredit_rx {h h' : Host} {polls : List Poll}
    (hw : spihdWaitTxCredit h polls = some h') : SameRx h h' := by
  rw [spihdWaitTxCredit] at hw
  split at hw
  · cases hw
    exact ⟨rfl,rfl⟩
  · exact pollTxCredit_rx polls hw

theorem sendLoop_rx (segment fuel : Nat) (l : Link) (data : Bytes) (script : List Segment) :
    SameRx l.host (sendLoop ck segment fuel l data script).1.host := by
  induction fuel generalizing l data script with
  | zero => cases data <;> exact ⟨rfl,rfl⟩
  | succ fuel ih =>
    cases data with
    | nil => exact ⟨rfl,rfl⟩
    | cons b data =>
      cases hc : spihdWaitTxCredit l.host (script.headD {}).polls with
      | none =>
        simp only [sendLoop,hc]
        exact ⟨rfl,rfl⟩
      | some h =>
        have hh := spihdWaitTxCredit_rx hc
        cases hw : (script.headD {}).wrdma with
        | ok =>
          rw [sendLoop_accepted hc hw]
          exact hh.trans (ih _ _ _)
        | rejected =>
          simp only [sendLoop,hc,hw]
          exact hh
        | failed n =>
          simp only [sendLoop,hc,hw]
          exact hh
        | endFailed n =>
          simp only [sendLoop,hc,hw]
          exact hh

theorem spihdSendFrame_rx (c : TxConfig) (l : Link) (data : Bytes) (script : List Segment) :
    SameRx l.host (spihdSendFrame ck c l data script).1.host := by
  rw [spihdSendFrame]
  generalize (if c.txBatch then SPI_HD_TX_BATCH_MAX else SPI_HD_BUF_SIZE) = limit
  split
  · exact ⟨rfl,rfl⟩
  split
  · exact ⟨rfl,rfl⟩
  exact sendLoop_rx _ _ _ _ _

/-! The invariant. -/

def Session.current (s : Session) : Prop := s.booting = true ∨ s.link.live

structure Clean (s : Session) : Prop where
  all : s.counted = s.sent.length
  delivered : ∃ batches, Delivered s batches

structure RxInv (s : Session) : Prop where
  counter : s.link.host.rxByteCount.toNat = s.counted%2^24
  clean : s.current → s.link.host.rxInflight = false → Clean s
  /-- With a transfer in doubt nothing more is received. -/
  stopped : s.current → s.link.host.rxInflight = true →
    s.keepsReceiving = false ∧ spihdLiveRecoveryPending s.link.adapter = true

theorem Clean.setLink {s : Session} (h : Clean s) (l : Link) : Clean {s with link := l} := by
  obtain ⟨batches,hd⟩ := h.delivered
  exact ⟨h.all,batches,hd.bytes,hd.frames,hd.queues⟩

/-- The receive state is untouched, and what made the driver stop stays. -/
structure Follows (l l' : Link) : Prop where
  same : SameRx l.host l'.host
  live : l'.live → l.live
  stopped : l.host.rxInflight = true → l.adapter.allowReconstruct = false →
    spihdLiveRecoveryPending l.adapter = true → l'.live →
    l'.adapter.allowReconstruct = false ∧ spihdLiveRecoveryPending l'.adapter = true

theorem RxInv.follow {s : Session} {l : Link} (h : RxInv s) (hf : Follows s.link l) :
    RxInv {s with link := l} := by
  have hcur : Session.current {s with link := l} → s.current := by
    rintro (hb | hl)
    · exact .inl hb
    · exact .inr (hf.live hl)
  refine ⟨?_,fun hc hi => ?_,fun hc hi => ?_⟩
  · rw [hf.same.2]
    exact h.counter
  · exact (h.clean (hcur hc) (hf.same.1.symm.trans hi)).setLink l
  · have hi' := hf.same.1.symm.trans hi
    obtain ⟨hk,hp⟩ := h.stopped (hcur hc) hi'
    simp only [Session.keepsReceiving,Bool.or_eq_false_iff] at hk
    have hl : l.live := hc.resolve_left (by simp [hk.1])
    obtain ⟨ha,hp'⟩ := hf.stopped hi' hk.2 hp hl
    exact ⟨by simp [Session.keepsReceiving,hk.1,ha],hp'⟩

theorem spihdLiveRecoveryPending_iff {a : Adapter} : spihdLiveRecoveryPending a = true ↔
    a.state ≠ .ready ∧ a.initDone = true ∧ a.recoveryPending = true ∧ a.resetExpected = false := by
  simp [spihdLiveRecoveryPending,and_assoc]

theorem espScheduleRecovery_pending (a : Adapter) (fwReset : Bool) (h : a.shuttingDown = false) :
    (espScheduleRecovery a fwReset).recoveryPending = true := by
  simp only [espScheduleRecovery,espRecoveryDropTx,h]
  split_ifs <;> simp_all

theorem stops_of_schedule {l : Link} {fwReset : Bool} (hr : l.adapter.allowReconstruct = false)
    (hl : Link.live {l with adapter := espScheduleRecovery l.adapter fwReset}) :
    spihdLiveRecoveryPending (espScheduleRecovery l.adapter fwReset) = true := by
  obtain ⟨hd,hx⟩ := hl
  have hf := espScheduleRecovery_flags l.adapter fwReset
  simp only [hf.2.2] at hd
  simp only [hf.1,hr] at hx
  have hx' := hx.resolve_left (by simp)
  exact spihdLiveRecoveryPending_iff.mpr ⟨espScheduleRecovery_state _ _ hd hr,hx'.1,
    espScheduleRecovery_pending _ _ hd,hx'.2⟩

theorem Follows.refl (l : Link) : Follows l l := ⟨⟨rfl,rfl⟩,id,fun _ ha hp _ => ⟨ha,hp⟩⟩

theorem Follows.schedule {l l' : Link} (h : Follows l l') (fwReset : Bool) :
    Follows l {l' with adapter := espScheduleRecovery l'.adapter fwReset} := by
  refine ⟨h.same,fun hl => h.live (live_of_schedule hl),fun hi ha hp hl => ?_⟩
  have hr := (h.stopped hi ha hp (live_of_schedule hl)).1
  exact ⟨(espScheduleRecovery_flags _ _).1.trans hr,stops_of_schedule hr hl⟩

theorem Follows.failed {l l' : Link} (h : Follows l l') (ok : Bool) : Follows l (l'.failed ok) := by
  cases ok with
  | true => exact h
  | false => exact h.schedule false

/-- Only hosts that agree on the receive state differ. -/
theorem Follows.of_adapter {l l' : Link} (hs : SameRx l.host l'.host) (ha : l'.adapter = l.adapter) :
    Follows l l' := by
  refine ⟨hs,fun hl => ?_,fun _ hr hp _ => ?_⟩
  · simpa only [Link.live,ha] using hl
  · rw [ha]
    exact ⟨hr,hp⟩

theorem Follows.of_reconstruct {l : Link} {a : Adapter} (hr : l.adapter.allowReconstruct = true)
    (hd : a.shuttingDown = l.adapter.shuttingDown) : Follows l {l with adapter := a} := by
  refine ⟨⟨rfl,rfl⟩,fun hl => ?_,fun _ hr' => ?_⟩
  · exact ⟨hd.symm.trans hl.1,.inl hr⟩
  · rw [hr] at hr'
    cases hr'

theorem Follows.of_not_live {l l' : Link} (hs : SameRx l.host l'.host) (h : ¬l'.live) : Follows l l' :=
  ⟨hs,fun hl => absurd hl h,fun _ _ _ hl => absurd hl h⟩

theorem recover_follows {now : Nat} {l : Link} {r : Regs}
    (hw : (espFwRecoveryWork clk now l.adapter).2 = .recover)
    (hn : (spihdRecoverTransport clk now l r).2 ≠ .notReady) :
    Follows l (spihdRecoverTransport clk now l r).1 := by
  have hrec := (espFwRecoveryWork_recover hw).2
  rw [spihdRecoverTransport] at hn ⊢
  by_cases hx : l.adapter.initDone = true ∧ l.adapter.resetExpected = false
  case neg =>
    rw [if_neg hx] at hn
    exact absurd rfl hn
  case pos =>
    rw [if_pos hx] at hn ⊢
    cases hres : spihdResyncLiveSession l r with
    | mk l' res =>
      rw [hres] at hn
      cases res with
      | readError =>
        rw [spihdResyncLiveSession_same hres (by decide)]
        exact .refl l
      | notReady => exact absurd rfl hn
      | unclean =>
        obtain rfl := spihdResyncLiveSession_same hres (by decide)
        exact .of_not_live ⟨rfl,rfl⟩ (not_live_of_reset hrec)
      | resumed =>
        obtain ⟨⟨-,hi⟩,rfl⟩ := spihdResyncLiveSession_resumed hres
        refine ⟨⟨rfl,rfl⟩,fun hl => hl,fun hi' => ?_⟩
        rw [hi] at hi'
        cases hi'

theorem step_follows {l l' : Link} {a : Action ck} (hs : step clk l a = some l')
    (hb : a ≠ .boot) (hr : ∀ n i f, a ≠ .receive n i f)
    (hn : ∀ now r, a = .recover now r → (spihdRecoverTransport clk now l r).2 ≠ .notReady) :
    Follows l l' := by
  cases a with
  | send cfg first queued script =>
    simp only [step] at hs
    split at hs
    · cases hs
      exact (Follows.of_adapter (spihdSendFrame_rx _ _ _ _) (spihdSendFrame_adapter _ _ _ _)).failed _
    · cases hs
  | receive n i f => exact absurd rfl (hr n i f)
  | request fwReset =>
    cases hs
    exact (Follows.refl l).schedule fwReset
  | recover now r =>
    simp only [step] at hs
    split at hs
    · rename_i hw
      cases hs
      exact recover_follows hw (hn now r rfl)
    · cases hs
  | boot => exact absurd rfl hb
  | commit =>
    simp only [step] at hs
    split at hs
    · rename_i hrec
      cases hs
      refine .of_reconstruct hrec ?_
      simp only [espCommitReconstruction]
      split <;> rfl
    · cases hs
  | abort =>
    simp only [step] at hs
    split at hs
    · rename_i hrec
      cases hs
      exact .of_reconstruct hrec rfl
    · cases hs
  | remove =>
    cases hs
    exact .of_not_live ⟨rfl,rfl⟩ fun hl => by simp [Link.live] at hl

theorem Clean.empty (l : Link) : Clean {link := l} :=
  ⟨rfl,[],rfl,by simp,by rw [List.map_nil,List.flatten_nil,queued_nil]⟩

theorem RxInv.zeroed {l : Link} (hi : l.host.rxInflight = false) (hn : l.host.rxByteCount = 0) :
    RxInv {link := l} := by
  refine ⟨by rw [hn]; rfl,fun _ _ => .empty l,fun _ hx => ?_⟩
  rw [hi] at hx
  cases hx

/-! Receiving. -/

theorem count_rxByteCount (a : UInt32) (n : Nat) :
    ((a+UInt32.ofNat n) &&& SPIHD_TX_BUF_LEN_MASK).toNat = (a.toNat+n)%2^24 := by
  rw [UInt32.toNat_and,UInt32.toNat_add,UInt32.toNat_ofNat',
    show SPIHD_TX_BUF_LEN_MASK.toNat = 2^24-1 from rfl,Nat.and_two_pow_sub_one_eq_mod]
  omega

/-- How `spihd_receive_one` can end when the condition on its input is met. -/
inductive Received (s : Session) : Session × Bool → Prop where
  | untouched (ok : Bool) : Received s (s,ok)
  | refused : Received s (s.setRxInflight false,false)
  | doubtful (taken : Bytes) (hk : s.keepsReceiving = false) :
      Received s ({s.setRxInflight true with sent := s.sent ++ taken},false)
  | malformed (data : Bytes) (hk : s.keepsReceiving = false) :
      Received s ({s.setRxInflight true with sent := s.sent ++ data}.count data.length
        |>.setRxInflight true,false)
  | delivered (frames : List Bytes) (padLast : Bool) (hall : ∀ f ∈ frames, RxFrame f) :
      Received s ({{s.setRxInflight false with sent := s.sent ++ packed 4 0 padLast frames}.count
        (packed 4 0 padLast frames).length with queues := queued s.queues frames},true)

theorem spihdReceiveOne_received {c : RxConfig} {s : Session} {r : RxScript}
    (hw : wellSized c s.link.host r = true) (hk : Kept s (.receive c r : RxAction ck)) :
    Received s (spihdReceiveOne c s r) := by
  simp only [wellSized] at hw
  simp only [Kept,keptReceive] at hk
  rw [spihdReceiveOne]
  cases hp : spihdReceivePoll c s.link.host r with
  | error => exact .untouched false
  | again => exact .untouched true
  | idle => exact .untouched true
  | read pending =>
    cases hd : r.rddma with
    | rejected =>
      simp only [spihdRddma,hd]
      exact .refused
    | failed taken =>
      simp only [hp,hd,Bool.not_eq_true'] at hk
      simp only [spihdRddma,hd]
      exact .doubtful taken hk
    | done data =>
      simp only [hp,hd,decide_eq_true_eq] at hw hk
      simp only [spihdRddma,hd]
      cases hi : int0Lost c r pending with
      | true =>
        simp only [hi,if_true,Bool.not_eq_true'] at hk ⊢
        exact .doubtful data hk
      | false =>
        simp only [hi,Bool.false_eq_true,if_false] at hk ⊢
        cases hv : spihdValidateRxBatch data with
        | none =>
          simp only [hv,Bool.and_eq_true,Bool.not_eq_true'] at hk
          have hpr : ∀ q, spihdProcessRxBatch r.alloc q data = (q,.proto) := by
            intro q
            rw [spihdProcessRxBatch,hv]
          simp only [processCounted,hpr,hk.1,if_true]
          subst hw
          exact .malformed data hk.2
        | some k =>
          simp only [hv,decide_eq_true_eq] at hk
          obtain ⟨frames,padLast,hne,hall,hdat⟩ := spihdValidateRxBatch_sound hv
          have hlen : spihdValidateRxBatch (packed 4 0 padLast frames) = some frames.length :=
            spihdValidateRxBatch_packed hne hall
          rw [← hdat,hv,Option.some.injEq] at hlen
          rw [hlen] at hk
          subst hw
          simp only [processCounted,hdat,spihdProcessRxBatch_packed _ _ hne hall,if_pos hk]
          exact .delivered frames padLast hall

theorem Clean.deliver {s : Session} (h : Clean s) {frames : List Bytes} (padLast : Bool)
    (hall : ∀ f ∈ frames, RxFrame f) (l : Link) :
    Clean {s with
      link := l
      sent := s.sent ++ packed 4 0 padLast frames
      counted := s.counted+(packed 4 0 padLast frames).length
      queues := queued s.queues frames} := by
  obtain ⟨batches,hd⟩ := h.delivered
  have hcnt : s.counted+(packed 4 0 padLast frames).length = (s.sent ++ packed 4 0 padLast frames).length := by
    rw [List.length_append,h.all]
  refine ⟨hcnt,batches ++ [(frames,padLast)],?_,fun b hb => ?_,?_⟩
  · have hb := hd.bytes
    rw [h.all,List.take_length] at hb
    simp only [hcnt,List.take_length,List.map_append,List.flatten_append,← hb]
    simp
  · rcases List.mem_append.mp hb with hb | hb
    · exact hd.frames b hb
    · rw [List.mem_singleton.mp hb]
      exact hall
  · funext p
    simp [hd.queues,queued]

theorem RxInv.doubt {s : Session} (hcnt : s.link.host.rxByteCount.toNat = s.counted%2^24)
    (hi : s.link.host.rxInflight = true) (hk : s.keepsReceiving = false) : RxInv (s.failed false) := by
  simp only [Session.keepsReceiving,Bool.or_eq_false_iff] at hk
  refine ⟨hcnt,fun _ hx => ?_,fun hc _ => ?_⟩
  · have hx' : s.link.host.rxInflight = false := hx
    rw [hi] at hx'
    cases hx'
  · have hl := hc.resolve_left (by simp [Session.failed,hk.1])
    refine ⟨?_,stops_of_schedule hk.2 hl⟩
    simp only [Session.keepsReceiving,Session.failed,Link.failed]
    simp [hk.1,(espScheduleRecovery_flags s.link.adapter false).1,hk.2]

theorem RxInv.failed {s : Session} (h : RxInv s) (ok : Bool) : RxInv (s.failed ok) :=
  h.follow ((Follows.refl s.link).failed ok)

theorem RxInv.receive {s : Session} {t : Session × Bool} (h : RxInv s)
    (hp : spihdLiveRecoveryPending s.link.adapter = false) (hr : Received s t) :
    RxInv (t.1.failed t.2) := by
  -- nothing is in doubt, or the receiver would have stopped
  have hi : s.current → s.link.host.rxInflight = false := by
    intro hc
    cases hx : s.link.host.rxInflight with
    | false => rfl
    | true =>
      rw [(h.stopped hc hx).2] at hp
      cases hp
  have hset : ∀ {s' : Session}, s'.link.host.rxInflight = false →
      s'.link.host.rxByteCount.toNat = s'.counted%2^24 → (s'.current → Clean s') → RxInv s' := by
    intro s' hi' hn hc
    refine ⟨hn,fun hcur _ => hc hcur,fun _ hx => ?_⟩
    rw [hi'] at hx
    cases hx
  have hcnt : ∀ n, ((s.link.host.rxByteCount+UInt32.ofNat n) &&& SPIHD_TX_BUF_LEN_MASK).toNat =
      (s.counted+n)%2^24 := by
    intro n
    rw [count_rxByteCount,h.counter,Nat.mod_add_mod]
  cases hr with
  | untouched ok => exact h.failed ok
  | refused =>
    have : RxInv (s.setRxInflight false) :=
      hset rfl h.counter fun hc => (h.clean hc (hi hc)).setLink _
    exact this.failed false
  | doubtful taken hk => exact .doubt h.counter rfl hk
  | malformed data hk =>
    exact .doubt (hcnt data.length) rfl hk
  | delivered frames padLast hall =>
    refine RxInv.failed (hset ?_ ?_ fun hc => ?_) true
    · rfl
    · exact hcnt _
    · exact (h.clean hc (hi hc)).deliver padLast hall _

theorem recover_zeroed {now : Nat} {l l' : Link} {r : Regs}
    (hs : step clk l (.recover now r : Action ck) = some l')
    (hn : (spihdRecoverTransport clk now l r).2 = .notReady) :
    l'.host.rxInflight = false ∧ l'.host.rxByteCount = 0 := by
  simp only [step] at hs
  split at hs
  · cases hs
    rw [spihdRecoverTransport] at hn ⊢
    split at hn
    · rename_i hx
      rw [if_pos hx]
      cases hres : spihdResyncLiveSession l r with
      | mk l' res =>
        rw [hres] at hn
        cases res with
        | notReady => exact ⟨rfl,rfl⟩
        | readError => cases hn
        | unclean => cases hn
        | resumed => cases hn
    · rename_i hx
      rw [if_neg hx]
      exact ⟨rfl,rfl⟩
  · cases hs

theorem RxInv.act {s s' : Session} (h : RxInv s) (clk : Clock) (a : Action ck)
    (hs : (step clk s.link a).map (fun l => {s with link := l}) = some s')
    (hb : a ≠ .boot) (hr : ∀ n i f, a ≠ .receive n i f) (hn : ∀ now r, a ≠ .recover now r) : RxInv s' := by
  obtain ⟨l,hl,rfl⟩ := Option.map_eq_some_iff.mp hs
  exact h.follow (step_follows hl hb hr fun now r he => absurd he (hn now r))

theorem rxStep_inv (s : Session) (a : RxAction ck) (s' : Session) (h : RxInv s) (hk : Kept s a)
    (hs : rxStep clk s a = some s') : RxInv s' := by
  cases a with
  | receive c r =>
    simp only [rxStep] at hs
    split at hs
    · cases hs
    · rename_i hen
      cases hs
      simp only [not_or,Bool.not_eq_true,Bool.not_eq_false] at hen
      exact h.receive hen.1 (spihdReceiveOne_received hen.2 hk)
  | restart =>
    cases hs
    exact .zeroed rfl rfl
  | boot =>
    simp only [rxStep] at hs
    split at hs
    · rename_i hb
      cases hs
      have hi : s.link.host.rxInflight = false := by
        cases hx : s.link.host.rxInflight with
        | false => rfl
        | true =>
          have := (h.stopped (.inl hb) hx).1
          simp [Session.keepsReceiving,hb] at this
      have hc := h.clean (.inl hb) hi
      obtain ⟨batches,hd⟩ := hc.delivered
      refine ⟨h.counter,fun _ _ => ⟨hc.all,batches,hd.bytes,hd.frames,hd.queues⟩,fun _ hx => ?_⟩
      have hx' : s.link.host.rxInflight = true := hx
      rw [hi] at hx'
      cases hx'
    · cases hs
  | act a =>
    cases a with
    | boot => cases hs
    | receive n i f => cases hs
    | recover now r =>
      simp only [rxStep] at hs
      obtain ⟨l,hl,rfl⟩ := Option.map_eq_some_iff.mp hs
      split
      · rename_i hn
        obtain ⟨hi,hz⟩ := recover_zeroed hl hn
        exact .zeroed hi hz
      · rename_i hn
        refine h.follow (step_follows hl (by simp) (by simp) fun now' r' he => ?_)
        cases he
        exact hn
    | send cfg first queued script => exact h.act clk (.send cfg first queued script) hs (by simp) (by simp) (by simp)
    | request fwReset => exact h.act clk (.request fwReset : Action ck) hs (by simp) (by simp) (by simp)
    | commit => exact h.act clk .commit hs (by simp) (by simp) (by simp)
    | abort => exact h.act clk .abort hs (by simp) (by simp) (by simp)
    | remove => exact h.act clk (.remove : Action ck) hs (by simp) (by simp) (by simp)

theorem rxInv_initial : RxInv {} := .zeroed rfl rfl

/-- A resync that resumes the session finds every counted byte in the queues. -/
theorem live_resync_delivered (ck : Bytes → Bool) (clk : Clock) (acts : List (RxAction ck)) (s s' : Session)
    (hrun : exec (rxStep clk) {} acts = some s) (hok : Along (rxStep clk) Kept {} acts)
    (now : Nat) (r : Regs) (hs : rxStep clk s (.act (.recover now r) : RxAction ck) = some s')
    (hret : (spihdRecoverTransport clk now s.link r).2 = .resumed) :
    s'.link.host.rxByteCount.toNat = s'.counted%2^24 ∧ ∃ batches, Delivered s' batches := by
  have hinv : RxInv s := exec_invariant_along rxStep_inv hok rxInv_initial hrun
  have hinv' := rxStep_inv s (.act (.recover now r) : RxAction ck) s' hinv trivial hs
  simp only [rxStep] at hs
  obtain ⟨l,hl,rfl⟩ := Option.map_eq_some_iff.mp hs
  rw [hret,if_neg (by decide)] at hinv' ⊢
  refine ⟨hinv'.counter,?_⟩
  simp only [step] at hl
  split at hl
  · rename_i hw
    obtain ⟨hlive,⟨-,hi⟩,-⟩ := spihdRecoverTransport_resumed (Prod.ext rfl hret)
    have hc := hinv.clean (.inr ⟨(espFwRecoveryWork_recover hw).1,.inr hlive⟩) hi
    obtain ⟨batches,hd⟩ := hc.delivered
    exact ⟨batches,hd.bytes,hd.frames,hd.queues⟩
  · cases hl

def twoFrames : Bytes := packed 4 0 true [[3,0,0,0,1,0,12,0,0,0,0,0,5],[3,0,0,0,1,0,12,0,0,0,0,0,6]]

/-- A batch is read before the boot event and one after the commit; the next transfer is
refused, which stops the receiver. -/
def refusedRun : List (RxAction (fun _ => true)) :=
  [.receive {} {status := some 32, rddma := .done twoFrames},.boot,.act .commit,
   .receive {} {status := some 64, rddma := .done twoFrames},
   .receive {} {status := some 96}]

def quiet (txBytes : UInt32) : Regs := ⟨some 0xee,some 0,some txBytes,1600⟩

theorem live_resync_delivered_refused :
    ∃ s ∈ exec (rxStep clock32) {} refusedRun, ∃ s' ∈ rxStep clock32 s (.act (.recover 0 (quiet 96)) :
        RxAction (fun _ => true)),
      s'.counted = 64 ∧ ∃ batches, Delivered s' batches := by
  have h : ∃ s ∈ exec (rxStep clock32) {} refusedRun, ∃ s' ∈ rxStep clock32 s (.act (.recover 0 (quiet 96)) :
        RxAction (fun _ => true)),
      s'.counted = 64 ∧ (spihdRecoverTransport clock32 0 s.link (quiet 96)).2 = .resumed := by decide +kernel
  obtain ⟨s,hs,s',hs',hc,hret⟩ := h
  have hok : Along (rxStep clock32) Kept {} refusedRun := by decide +kernel
  exact ⟨s,hs,s',hs',hc,(live_resync_delivered _ _ _ s s' hs hok 0 (quiet 96) hs' hret).2⟩

theorem not_delivered {s : Session} (hq : ∀ p, s.queues p = []) (hs : s.sent.take s.counted ≠ [])
    (batches : List (List Bytes × Bool)) : ¬Delivered s batches := by
  intro hd
  have hnil : ∀ b ∈ batches, b.1 = [] := by
    intro b hb
    refine List.eq_nil_iff_forall_not_mem.mpr fun f hf => ?_
    have hmem : f ∈ queued (fun _ => []) (batches.map Prod.fst).flatten (framePrio f) := by
      simp only [queued,List.nil_append,List.mem_filter,List.mem_flatten,List.mem_map,decide_true,and_true]
      exact ⟨b.1,⟨b,hb,rfl⟩,hf⟩
    rw [← hd.queues,hq] at hmem
    cases hmem
  refine hs (hd.bytes.trans (List.flatten_eq_nil_iff.mpr fun x hx => ?_))
  obtain ⟨b,hb,rfl⟩ := List.mem_map.mp hx
  rw [hnil b hb]
  rfl

def nomemRun : List (RxAction (fun _ => true)) :=
  [.boot,.act .commit,
   .receive {appendTx := true} {status := some 32, rddma := .done twoFrames, alloc := fun i => i = 0}]

def malformedRun : List (RxAction (fun _ => true)) :=
  [.boot,.act .commit,.receive {} {status := some 12, rddma := .done (List.replicate 12 15)}]

theorem resumed_without_batch :
    (∃ s ∈ exec (rxStep clock32) {} nomemRun, ∃ s' ∈ rxStep clock32 s (.act (.recover 0 (quiet 32)) :
        RxAction (fun _ => true)),
      (spihdRecoverTransport clock32 0 s.link (quiet 32)).2 = .resumed ∧
        s'.link.host.rxByteCount = 32 ∧ ∀ batches, ¬Delivered s' batches) ∧
    ∃ s ∈ exec (rxStep clock32) {} malformedRun, ∃ s' ∈ rxStep clock32 s (.act (.recover 0 (quiet 12)) :
        RxAction (fun _ => true)),
      (spihdRecoverTransport clock32 0 s.link (quiet 12)).2 = .resumed ∧
        s'.link.host.rxByteCount = 12 ∧ ∀ batches, ¬Delivered s' batches := by
  have hfirst : ∃ s ∈ exec (rxStep clock32) {} nomemRun, ∃ s' ∈ rxStep clock32 s (.act (.recover 0 (quiet 32)) :
        RxAction (fun _ => true)),
      (spihdRecoverTransport clock32 0 s.link (quiet 32)).2 = .resumed ∧ s'.link.host.rxByteCount = 32 ∧
        (∀ p ∈ [Prio.high,.mid,.low], s'.queues p = []) ∧ s'.sent.take s'.counted ≠ [] := by decide +kernel
  have hsecond : ∃ s ∈ exec (rxStep clock32) {} malformedRun,
      ∃ s' ∈ rxStep clock32 s (.act (.recover 0 (quiet 12)) : RxAction (fun _ => true)),
      (spihdRecoverTransport clock32 0 s.link (quiet 12)).2 = .resumed ∧ s'.link.host.rxByteCount = 12 ∧
        (∀ p ∈ [Prio.high,.mid,.low], s'.queues p = []) ∧ s'.sent.take s'.counted ≠ [] := by decide +kernel
  obtain ⟨s,hs,s',hs',hret,hn,hq,hne⟩ := hfirst
  obtain ⟨t,ht,t',ht',hret',hn',hq',hne'⟩ := hsecond
  exact ⟨⟨s,hs,s',hs',hret,hn,not_delivered (fun p => hq p (by cases p <;> simp)) hne⟩,
    t,ht,t',ht',hret',hn',not_delivered (fun p => hq' p (by cases p <;> simp)) hne'⟩

end EspHosted.SpiHd
