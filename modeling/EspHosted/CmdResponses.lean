import EspHosted.CmdHandlers

/-!
What a handler owes its command: one response with the command's own code and sequence number,
or, for a frame without the marker, the slot `s_mgmt_tx_pending` with that number.
-/

set_option autoImplicit false

namespace EspHosted.Dispatch
open EspHosted Prog

structure Frame where
  ifType : Nat
  payload : Bytes
  deriving DecidableEq, Repr

def slice (b : Bytes) (off len : Nat) : Bytes := (b.drop off).take len

def Frame.code (f : Frame) : UInt8 := (slice f.payload 0 1).getD 0 0
def Frame.seq (f : Frame) : Nat := leNat (slice f.payload 4 2)

/-- A frame to be sent without the marker, for which the response may come later. -/
def Frame.unmarked (f : Frame) : Prop :=
  f.code = CMD_MGMT_TX ∧ (slice f.payload 6 1).getD 0 0 ≠ HOSTED_MGMT_TX_ASYNC_STATUS_V1

/-- `CMD_HOST_REBOOT` is a command of the internal channel. -/
def Frame.addressed (f : Frame) : Prop := f.code = CMD_HOST_REBOOT → f.ifType = ESP_INTERNAL_IF

inductive Duty where
  | owed
  | inSlot
  | answered
  deriving DecidableEq, Repr

/-- What each action of a handler needs, with the duty after it. -/
def duties (f : Frame) : Spec Act Ans Duty
  | .read off len, d, Q => off+len ≤ f.payload.length ∧ Q (slice f.payload off len) d
  | .call, d, Q => ∀ ret : Int, Q ret d
  | .test, d, Q => ∀ b : Bool, Q b d
  | .fetch, d, Q => ∀ b : Bytes, Q b d
  | .respond r, d, Q => (d = .owed ∧ r.code = f.code ∧ r.seq = f.seq) ∧ Q () .answered
  | .begin seq _, d, Q => (d = .owed ∧ f.unmarked ∧ seq = f.seq) ∧ Q true .inSlot ∧ Q false .owed
  | .take, d, Q => d = .inSlot ∧ Q () .owed
  | .failPending, d, Q => d = .owed ∧ Q () d
  | .espRestart, _, _ => True

theorem duties_mono (f : Frame) : (duties f).Mono := by
  intro a d Q Q' hQ h
  cases a with
  | read off len => exact ⟨h.1,hQ _ _ h.2⟩
  | call => exact fun x => hQ _ _ (h x)
  | test => exact fun x => hQ _ _ (h x)
  | fetch => exact fun x => hQ _ _ (h x)
  | respond r => exact ⟨h.1,hQ _ _ h.2⟩
  | begin seq da => exact ⟨h.1,hQ _ _ h.2.1,hQ _ _ h.2.2⟩
  | take => exact ⟨h.1,hQ _ _ h.2⟩
  | failPending => exact ⟨h.1,hQ _ _ h.2⟩
  | espRestart => trivial

section primitives

variable {f : Frame} {d : Duty}

@[simp] theorem does_read {off len : Nat} {Q : Bytes → Duty → Prop} :
    wp (duties f) (read off len) d Q ↔ off+len ≤ f.payload.length ∧ Q (slice f.payload off len) d := Iff.rfl

@[simp] theorem does_call {Q : Int → Duty → Prop} : wp (duties f) call d Q ↔ ∀ ret, Q ret d := Iff.rfl

@[simp] theorem does_test {Q : Bool → Duty → Prop} : wp (duties f) test d Q ↔ ∀ b, Q b d := Iff.rfl

@[simp] theorem does_fetch {Q : Bytes → Duty → Prop} : wp (duties f) fetch d Q ↔ ∀ b, Q b d := Iff.rfl

@[simp] theorem does_respond {r : Resp} {Q : Unit → Duty → Prop} :
    wp (duties f) (respond r) d Q ↔ (d = .owed ∧ r.code = f.code ∧ r.seq = f.seq) ∧ Q () .answered := Iff.rfl

@[simp] theorem does_begin {seq : Nat} {da : Bytes} {Q : Bool → Duty → Prop} :
    wp (duties f) (mgmtTxInflightBegin seq da) d Q ↔
      (d = .owed ∧ f.unmarked ∧ seq = f.seq) ∧ Q true .inSlot ∧ Q false .owed := Iff.rfl

@[simp] theorem does_take {Q : Unit → Duty → Prop} :
    wp (duties f) mgmtTxInflightTake d Q ↔ d = .inSlot ∧ Q () .owed := Iff.rfl

@[simp] theorem does_failPending {Q : Unit → Duty → Prop} :
    wp (duties f) mgmtTxFailPending d Q ↔ d = .owed ∧ Q () d := Iff.rfl

@[simp] theorem does_espRestart {Q : Unit → Duty → Prop} : wp (duties f) espRestart d Q ↔ True := Iff.rfl

@[simp] theorem does_byte {off : Nat} {Q : UInt8 → Duty → Prop} :
    wp (duties f) (byte off) d Q ↔ off+1 ≤ f.payload.length ∧ Q ((slice f.payload off 1).getD 0 0) d := by
  simp [byte]

@[simp] theorem does_le16 {off : Nat} {Q : Nat → Duty → Prop} :
    wp (duties f) (le16 off) d Q ↔ off+2 ≤ f.payload.length ∧ Q (leNat (slice f.payload off 2)) d := by
  simp [le16]

@[simp] theorem does_le32 {off : Nat} {Q : Nat → Duty → Prop} :
    wp (duties f) (le32 off) d Q ↔ off+4 ≤ f.payload.length ∧ Q (leNat (slice f.payload off 4)) d := by
  simp [le32]

@[simp] theorem does_onlyIf {c : Prop} [Decidable c] {p : Handler Unit} {Q : Unit → Duty → Prop} :
    wp (duties f) (onlyIf c p) d Q ↔ (c → wp (duties f) p d Q) ∧ (¬c → Q () d) := by
  simp [onlyIf]

end primitives

/-- `p` keeps to the payload and leaves the response to what follows. -/
abbrev Keeps {α : Type} (f : Frame) (p : Handler α) : Prop := Quiet (duties f) .owed p

/-- The response is given, or the slot has the sequence number. -/
def Answers (f : Frame) (p : Handler Unit) : Prop := wp (duties f) p .owed fun _ d => d = .answered ∨ d = .inSlot

variable {f : Frame} {α : Type}

@[simp] theorem does_sendCommandResp {c : Ctx} {code status : UInt8} {data : Bytes} {d : Duty} {Q : Unit → Duty → Prop} :
    wp (duties f) (sendCommandResp c code status data) d Q ↔
      (d = .owed ∧ code = f.code ∧ c.seq = f.seq) ∧ Q () .answered := Iff.rfl

theorem keeps_hostedWifiStop : Keeps f hostedWifiStop := by
  simp [Quiet,hostedWifiStop]

theorem keeps_mgmtTxEnsureCb : Keeps f mgmtTxEnsureCb := by
  simp [Quiet,mgmtTxEnsureCb]

theorem keeps_espHostedMonitorRestore : Keeps f espHostedMonitorRestore := by
  simp [Quiet,espHostedMonitorRestore]

theorem keeps_hostedMgmtFailPending : Keeps f hostedMgmtFailPending := by
  simp [Quiet,hostedMgmtFailPending]

theorem Keeps.wp {p : Handler α} {Q : α → Duty → Prop} (h : Keeps f p) (hQ : ∀ x, Q x .owed) :
    wp (duties f) p .owed Q :=
  wp_mono (duties_mono f) (fun x d hd => by rw [hd]; exact hQ x) h

theorem Keeps.bind {β : Type} {p : Handler α} {q : α → Handler β} (h : Keeps f p) (hq : ∀ x, Keeps f (q x)) :
    Keeps f (p >>= q) :=
  Quiet.bind (duties_mono f) h hq

theorem Keeps.ite {p : Prop} [Decidable p] {x y : Handler α} (hx : p → Keeps f x) (hy : ¬p → Keeps f y) :
    Keeps f (if p then x else y) :=
  (wp_ite p x y).mpr ⟨hx,hy⟩

theorem keeps_pure (x : α) : Keeps f (pure x : Handler α) := rfl

theorem keeps_test : Keeps f test := by
  simp [Quiet]

theorem keeps_call : Keeps f call := by
  simp [Quiet]

theorem keeps_byte {off : Nat} (h : off+1 ≤ f.payload.length) : Keeps f (byte off) := by
  simp [Quiet,h]

theorem Keeps.answers {p : Handler α} {q : α → Handler Unit} (h : Keeps f p) (hq : ∀ x, Answers f (q x)) :
    Answers f (p >>= q) :=
  Quiet.bind (duties_mono f) h hq

theorem keeps_hostedWifiStart : Keeps f hostedWifiStart := by
  simp only [Quiet,hostedWifiStart,wp_bind,does_call,wp_ite,wp_pure,implies_true,and_true]
  intro ret _
  refine keeps_mgmtTxEnsureCb.wp fun cb => ⟨fun _ => keeps_hostedWifiStop.wp fun _ => rfl,fun _ => ?_⟩
  exact keeps_espHostedMonitorRestore.wp fun restored => ⟨fun _ => keeps_hostedWifiStop.wp fun _ => rfl,fun _ => rfl⟩

theorem keeps_chain {ps : List (Handler Int)} (h : ∀ p ∈ ps, Keeps f p) : Keeps f (chain ps) := by
  induction ps with
  | nil => rfl
  | cons p ps ih =>
    simp only [Quiet,chain,wp_bind,wp_ite,wp_pure]
    exact (h p (by simp)).wp fun ret => ⟨fun _ => rfl,fun _ => ih fun q hq => h q (by simp [hq])⟩

theorem answers_answer {c : Ctx} {code : UInt8} {p : Handler UInt8} (hcode : code = f.code) (hseq : c.seq = f.seq)
    (h : Keeps f p) : Answers f (answer c code p) := by
  simp only [Answers,answer,wp_bind,does_sendCommandResp]
  exact h.wp fun status => ⟨⟨rfl,hcode,hseq⟩,.inl trivial⟩

structure Ctx.Of (c : Ctx) (f : Frame) : Prop where
  ifType : c.ifType = f.ifType
  len : c.len = f.payload.length
  header : 8 ≤ f.payload.length
  code : c.code = f.code
  seq : c.seq = f.seq

variable {c : Ctx}

theorem keeps_monitorRejects {off : Nat} (h : off+1 ≤ f.payload.length) : Keeps f (monitorRejects off) := by
  simp [Quiet,monitorRejects,h]

theorem answers_processStartScan (hc : c.Of f) (hcode : f.code = CMD_SCAN_REQUEST) : Answers f (processStartScan c) := by
  have hlen := hc.len
  refine answers_answer hcode.symm hc.seq ?_
  simp [Quiet,scanStatus,monitorRejects,hlen]
  omega

theorem answers_processSetMcastMacList (hc : c.Of f) (hcode : f.code = CMD_SET_MCAST_MAC_ADDR)
    (hmin : 57 ≤ f.payload.length) : Answers f (processSetMcastMacList c) := by
  refine answers_answer hcode.symm hc.seq ?_
  simp [Quiet]
  omega

theorem answers_sendPower {code : UInt8} (hc : c.Of f) (hcode : f.code = code) : Answers f (sendPower c code) := by
  simp [Answers,sendPower,hc.seq,hcode]

theorem answers_processSetTxPower (hc : c.Of f) (hcode : f.code = CMD_SET_TXPOWER) : Answers f (processSetTxPower c) := by
  have hlen := hc.len
  have hsend := answers_sendPower hc hcode
  simp only [Answers] at hsend
  simp [Answers,processSetTxPower,hlen,hc.seq,hcode,hsend]

theorem answers_sendFetched {code : UInt8} (n : Nat) (hc : c.Of f) (hcode : f.code = code) :
    Answers f (sendFetched c code n) := by
  simp [Answers,sendFetched,hc.seq,hcode]

theorem answers_processSetIp (hc : c.Of f) (hcode : f.code = CMD_SET_IP_ADDR) (hmin : 12 ≤ f.payload.length) :
    Answers f (processSetIp c) := by
  refine answers_answer hcode.symm hc.seq ?_
  simp [Quiet,hmin]

theorem answers_processWowSet (hc : c.Of f) (hcode : f.code = CMD_SET_WOW_CONFIG) (hmin : 13 ≤ f.payload.length) :
    Answers f (processWowSet c) := by
  refine answers_answer hcode.symm hc.seq ?_
  simp [Quiet,hmin]

theorem answers_processRadioService (hc : c.Of f) : Answers f (processRadioService c) := by
  have hlen := hc.len
  have hheader := hc.header
  simp [Answers,processRadioService,hlen,hc.seq,Frame.code]
  omega

theorem answers_processSetTime (hc : c.Of f) (hcode : f.code = CMD_SET_TIME) : Answers f (processSetTime c) := by
  have hlen := hc.len
  refine answers_answer hcode.symm hc.seq ?_
  simp [Quiet,hlen]

theorem answers_processRegSet (hc : c.Of f) (hcode : f.code = CMD_SET_REG_DOMAIN) : Answers f (processRegSet c) := by
  have hlen := hc.len
  simp [Answers,processRegSet,hlen,hc.seq,hcode]

theorem answers_processOtaStart (hc : c.Of f) (hcode : f.code = CMD_START_OTA_UPDATE) : Answers f (processOtaStart c) := by
  refine answers_answer hcode.symm hc.seq ?_
  simp [Quiet]

theorem answers_processOtaWrite (hc : c.Of f) (hcode : f.code = CMD_START_OTA_WRITE) : Answers f (processOtaWrite c) := by
  have hlen := hc.len
  refine answers_answer hcode.symm hc.seq ?_
  simp [Quiet,verifyOtaImageHeader,cmdFlexLenValid,hlen]
  omega

theorem answers_processOtaEnd (hc : c.Of f) (hcode : f.code = CMD_START_OTA_END) : Answers f (processOtaEnd c) := by
  refine answers_answer hcode.symm hc.seq ?_
  simp [Quiet]

theorem answers_processDisconnect (hc : c.Of f) (hcode : f.code = CMD_DISCONNECT) : Answers f (processDisconnect c) := by
  have hlen := hc.len
  refine answers_answer hcode.symm hc.seq ?_
  simp [Quiet,hlen]
  omega

theorem keeps_saeCommitRetry (msgType : UInt8) (h : 80 ≤ f.payload.length) : Keeps f (saeCommitRetry msgType) := by
  simp [Quiet,saeCommitRetry]
  omega

theorem keeps_authConnect (h : 80 ≤ f.payload.length) : Keeps f authConnect := by
  have hfixed {n : Nat} (hn : n ≤ 80) : n ≤ f.payload.length := Nat.le_trans hn h
  simp [Quiet,authConnect,registerEnterprise,chain,hfixed]

theorem keeps_sendAuth (h : 80 ≤ f.payload.length) : Keeps f sendAuth := by
  simp [Quiet,sendAuth]
  omega

theorem keeps_authSubmit {dataLen : UInt8} (msgType : UInt8) (h : 80 ≤ f.payload.length)
    (hdata : 80+dataLen.toNat ≤ f.payload.length) (hfour : dataLen ≠ 0 → 4 ≤ dataLen.toNat) :
    Keeps f (authSubmit dataLen msgType) := by
  have htail : Keeps f (if msgType = 2 then sendAuth
      else do
        let ongoing ← test
        if ongoing ∧ msgType = 1 then sendAuth else authConnect) :=
    Keeps.ite (fun _ => keeps_sendAuth h) fun _ => keeps_test.bind fun ongoing =>
      Keeps.ite (fun _ => keeps_sendAuth h) fun _ => keeps_authConnect h
  simp only [Quiet,authSubmit,wp_bind,does_read,does_onlyIf,wp_pure]
  refine ⟨by omega,fun hne => ⟨?_,htail⟩,fun _ => htail⟩
  have := hfour hne
  omega

theorem keeps_authStatus (hc : c.Of f) : Keeps f (authStatus c) := by
  have hlen := hc.len
  refine Keeps.ite (fun _ => keeps_pure _) fun hlong => ?_
  have h80 : 80 ≤ f.payload.length := by omega
  refine (keeps_monitorRejects (by omega)).bind fun b => Keeps.ite (fun _ => keeps_pure _) fun _ => ?_
  refine (keeps_byte (by omega)).bind fun keyLen => (keeps_byte (by omega)).bind fun dataLen => ?_
  refine Keeps.ite (fun _ => keeps_pure _) fun hgood => ?_
  simp only [not_or,cmdFlexLenValid,decide_eq_false_iff_not,not_and,Nat.not_lt] at hgood
  obtain ⟨-,hdata,hfour⟩ := hgood
  have hfirst : dataLen ≠ 0 → Keeps f (byte 80) := by
    intro hne
    have := hfour hne
    exact keeps_byte (by omega)
  refine (Keeps.ite hfirst fun _ => keeps_pure _).bind fun msgType => keeps_test.bind fun ongoing => ?_
  refine (Keeps.ite (fun _ => keeps_saeCommitRetry msgType h80) fun _ => keeps_pure _).bind fun admitted => ?_
  exact Keeps.ite (fun _ => keeps_authSubmit msgType h80 (by omega) hfour) fun _ => keeps_pure _

theorem answers_processAuthRequest (hc : c.Of f) (hcode : f.code = CMD_STA_AUTH) : Answers f (processAuthRequest c) :=
  answers_answer hcode.symm hc.seq (keeps_authStatus hc)

theorem answers_processAssocRequest (hc : c.Of f) (hcode : f.code = CMD_STA_ASSOC) : Answers f (processAssocRequest c) := by
  have hlen := hc.len
  refine answers_answer hcode.symm hc.seq ?_
  simp [Quiet,cmdFlexLenValid,hlen]
  omega

theorem answers_processStaSetAuthorized (hc : c.Of f) (hcode : f.code = CMD_STA_SET_AUTHORIZED) :
    Answers f (processStaSetAuthorized c) := by
  have hlen := hc.len
  refine answers_answer hcode.symm hc.seq ?_
  simp [Quiet,hlen]
  omega

theorem answers_processStaConnect (hc : c.Of f) (hcode : f.code = CMD_STA_CONNECT) : Answers f (processStaConnect c) := by
  have hlen := hc.len
  refine answers_answer hcode.symm hc.seq ?_
  refine Keeps.ite (fun _ => keeps_pure _) fun hlong => ?_
  refine (keeps_monitorRejects (by omega)).bind fun b => Keeps.ite (fun _ => keeps_pure _) fun _ => ?_
  refine (keeps_byte (by omega)).bind fun ieLen => Keeps.ite (fun _ => keeps_pure _) fun hgood => ?_
  simp only [cmdFlexLenValid,decide_eq_false_iff_not,Decidable.not_not] at hgood
  have hstart : Keeps f (chain [call,hostedWifiStart]) :=
    keeps_chain (by simp [keeps_call,keeps_hostedWifiStart])
  simp only [Quiet,wp_bind,does_read,does_byte,does_onlyIf,wp_pure]
  have htail : wp (duties f) (chain [call,hostedWifiStart]) .owed fun x t =>
      wp (duties f) (if x ≠ 0 then pure CMD_RESPONSE_FAIL else do
        let _ ← read 8 6
        return okOr CMD_RESPONSE_FAIL (← call)) t fun _ t => t = .owed := by
    refine hstart.wp fun ret => ?_
    simp
    omega
  exact ⟨by omega,by omega,by omega,by omega,fun _ => ⟨by omega,htail⟩,fun _ => htail⟩

theorem keeps_stopOrRestart : Keeps f stopOrRestart := by
  refine keeps_hostedWifiStop.bind fun ret => ?_
  simp [Quiet]

theorem keeps_retireRadio (monitoring idle : Bool) : Keeps f (retireRadio monitoring idle) := by
  refine Keeps.ite (fun _ => keeps_stopOrRestart) fun _ => Keeps.ite (fun _ => keeps_pure _) fun _ => ?_
  refine keeps_stopOrRestart.bind fun _ => (keeps_chain ?_).bind fun ret => ?_
  · simp [keeps_call,keeps_hostedWifiStart]
  · simp [Quiet]

theorem answers_send {code status : UInt8} {data : Bytes} (hcode : code = f.code) (hseq : c.seq = f.seq) :
    Answers f (sendCommandResp c code status data) := by
  simp [Answers,hcode,hseq]

theorem answers_processDeinitInterface (hc : c.Of f) (hcode : f.code = CMD_DEINIT_INTERFACE) :
    Answers f (processDeinitInterface c) := by
  refine keeps_hostedMgmtFailPending.answers fun _ => ?_
  refine (Keeps.ite (fun _ => keeps_test) fun _ => keeps_pure _).answers fun idle => ?_
  exact keeps_test.answers fun monitoring => (keeps_retireRadio monitoring idle).answers fun _ =>
    answers_send hcode.symm hc.seq

theorem answers_processInitInterface (hc : c.Of f) (hcode : f.code = CMD_INIT_INTERFACE) :
    Answers f (processInitInterface c) := by
  refine answers_answer hcode.symm hc.seq ?_
  refine keeps_call.bind fun ret => Keeps.ite (fun _ => keeps_pure _) fun _ => keeps_test.bind fun b => ?_
  refine Keeps.ite (fun _ => ?_) fun _ => keeps_pure _
  refine Keeps.ite (fun _ => ?_) fun _ => Keeps.ite (fun _ => ?_) fun _ => keeps_pure _
  · exact (keeps_chain (by simp [keeps_call,keeps_hostedWifiStart])).bind fun _ => keeps_pure _
  · exact (keeps_chain (by simp [keeps_call,keeps_hostedWifiStart])).bind fun _ => keeps_pure _

theorem answers_processGetMac (hc : c.Of f) (hcode : f.code = CMD_GET_MAC) : Answers f (processGetMac c) := by
  simp [Answers,processGetMac,hc.seq,hcode]

theorem answers_processSetMac (hc : c.Of f) (hcode : f.code = CMD_SET_MAC) (hmin : 16 ≤ f.payload.length) :
    Answers f (processSetMac c) := by
  simp [Answers,processSetMac,hc.seq,hcode]
  omega

theorem answers_processSetDefaultKey (hc : c.Of f) (hcode : f.code = CMD_SET_DEFAULT_KEY) :
    Answers f (processSetDefaultKey c) := by
  refine answers_answer hcode.symm hc.seq ?_
  simp [Quiet]

theorem answers_processDelKey (hc : c.Of f) (hcode : f.code = CMD_DEL_KEY) : Answers f (processDelKey c) := by
  have hlen := hc.len
  refine answers_answer hcode.symm hc.seq ?_
  simp [Quiet,hlen]
  omega

theorem answers_processAddKey (hc : c.Of f) (hcode : f.code = CMD_ADD_KEY) : Answers f (processAddKey c) := by
  have hlen := hc.len
  refine answers_answer hcode.symm hc.seq ?_
  simp [Quiet,hlen]
  omega

theorem keeps_transitionRollback : Keeps f transitionRollback := by
  refine keeps_test.bind fun lost => keeps_test.bind fun starts => keeps_test.bind fun stops => ?_
  refine (Keeps.ite (fun _ => keeps_hostedWifiStart) fun _ =>
    Keeps.ite (fun _ => keeps_hostedWifiStop) fun _ => keeps_pure _).bind fun ret => ?_
  simp [Quiet]

theorem keeps_transition {forward : Handler Int} (h : Keeps f forward) : Keeps f (transition forward) := by
  refine h.bind fun ret => Keeps.ite (fun _ => ?_) fun _ => ?_
  · exact keeps_hostedMgmtFailPending.bind fun _ => keeps_pure _
  · exact keeps_transitionRollback.bind fun _ => keeps_pure _

theorem keeps_modeStatus (req : Nat) : Keeps f (modeStatus req) := by
  refine keeps_call.bind fun got => Keeps.ite (fun _ => keeps_pure _) fun _ => keeps_test.bind fun b => ?_
  refine Keeps.ite (fun _ => keeps_pure _) fun _ => keeps_test.bind fun same => ?_
  refine (Keeps.ite (fun _ => keeps_pure _) fun _ => keeps_hostedWifiStop).bind fun stopped => ?_
  refine Keeps.ite (fun _ => keeps_pure _) fun _ => keeps_transition (keeps_chain ?_)
  have hchanges : Keeps f (chain (if req = 1 then [call,call,call] else [call,call,call,call])) := by
    split
    · exact keeps_chain (by simp [keeps_call])
    · exact keeps_chain (by simp [keeps_call])
  simp only [List.forall_mem_cons,List.not_mem_nil,false_implies,implies_true,and_true]
  refine ⟨Keeps.ite (fun _ => keeps_pure _) fun _ => hchanges,?_,?_⟩
  · exact Keeps.ite (fun _ => keeps_pure _) fun _ => keeps_mgmtTxEnsureCb
  · exact keeps_test.bind fun b => Keeps.ite (fun _ => keeps_pure _) fun _ => keeps_hostedWifiStart

theorem Answers.ite {p : Prop} [Decidable p] {x y : Handler Unit} (hx : p → Answers f x) (hy : ¬p → Answers f y) :
    Answers f (if p then x else y) :=
  (wp_ite p x y).mpr ⟨hx,hy⟩

theorem keeps_le16 {off : Nat} (h : off+2 ≤ f.payload.length) : Keeps f (le16 off) := by
  simp [Quiet,h]

theorem answers_processSetMode (hc : c.Of f) (hcode : f.code = CMD_SET_MODE) : Answers f (processSetMode c) := by
  have hlen := hc.len
  have hsend (status : UInt8) (data : Bytes) : Answers f (sendCommandResp c CMD_SET_MODE status data) :=
    answers_send hcode.symm hc.seq
  refine Answers.ite (fun _ => hsend _ _) fun hlong => (keeps_le16 (by omega)).answers fun req => ?_
  exact Answers.ite (fun _ => hsend _ _) fun _ => (keeps_modeStatus req).answers fun status => hsend _ _

theorem answers_processSetIe (hc : c.Of f) (hcode : f.code = CMD_SET_IE) : Answers f (processSetIe c) := by
  have hlen := hc.len
  refine answers_answer hcode.symm hc.seq ?_
  simp [Quiet,cmdFlexLenValid,hlen]
  omega

theorem keeps_apConfigStatus (hc : c.Of f) : Keeps f (apConfigStatus c) := by
  have hlen := hc.len
  refine Keeps.ite (fun _ => keeps_pure _) fun hlong => ?_
  have h53 : 53 ≤ f.payload.length := by omega
  refine (keeps_monitorRejects (by omega)).bind fun b => Keeps.ite (fun _ => keeps_pure _) fun _ => ?_
  refine (keeps_byte (by omega)).bind fun ssidLen => Keeps.ite (fun _ => keeps_pure _) fun hssid => ?_
  refine (keeps_le16 (by omega)).bind fun _ => (keeps_le16 (by omega)).bind fun inactivity => ?_
  have hread : Keeps f (read 8 ssidLen.toNat) := by
    simp [Quiet]
    omega
  refine hread.bind fun _ => (keeps_byte (by omega)).bind fun _ => (keeps_byte (by omega)).bind fun _ => ?_
  refine (keeps_byte (by omega)).bind fun _ => keeps_call.bind fun got => Keeps.ite (fun _ => keeps_pure _) fun _ => ?_
  refine keeps_hostedWifiStop.bind fun stopped => Keeps.ite (fun _ => keeps_pure _) fun _ => ?_
  refine keeps_transition (keeps_chain ?_)
  simp only [List.forall_mem_cons,List.not_mem_nil,false_implies,implies_true,and_true]
  refine ⟨?_,keeps_call,?_,keeps_mgmtTxEnsureCb,keeps_call,keeps_hostedWifiStart⟩
  · exact keeps_test.bind fun b => Keeps.ite (fun _ => keeps_pure _) fun _ => keeps_call
  · exact Keeps.ite (fun _ => keeps_pure _) fun _ => keeps_call

theorem answers_processSetApConfig (hc : c.Of f) (hcode : f.code = CMD_AP_CONFIG) : Answers f (processSetApConfig c) :=
  answers_answer hcode.symm hc.seq (keeps_apConfigStatus hc)

theorem keeps_addStationNodeAp (h : 124 ≤ f.payload.length) : Keeps f addStationNodeAp := by
  have hfixed {n : Nat} (hn : n ≤ 124) : n ≤ f.payload.length := Nat.le_trans hn h
  simp [Quiet,addStationNodeAp,hfixed]

theorem answers_processApStation (hc : c.Of f) (hcode : f.code = CMD_AP_STATION) : Answers f (processApStation c) := by
  have hlen := hc.len
  refine answers_answer hcode.symm hc.seq (Keeps.ite (fun _ => keeps_pure _) fun hlong => ?_)
  exact (keeps_addStationNodeAp (by omega)).bind fun _ => keeps_pure _

theorem answers_processMonitorConfig (hc : c.Of f) (hcode : f.code = CMD_MONITOR_CONFIG) :
    Answers f (processMonitorConfig c) := by
  have hlen := hc.len
  refine answers_answer hcode.symm hc.seq ?_
  simp [Quiet,hlen]
  omega

theorem answers_processHostReboot (hc : c.Of f) (hcode : f.code = CMD_HOST_REBOOT) (haddr : f.addressed) :
    Answers f (processHostReboot c) := by
  have hif : c.ifType = ESP_INTERNAL_IF := hc.ifType.trans (haddr hcode)
  have hheader := hc.header
  have hlen := hc.len
  refine Answers.ite (fun h => ?_) fun _ => answers_send hcode.symm hc.seq
  exact absurd hif (h.resolve_right (by omega))

theorem answers_processRawTp (hc : c.Of f) (hcode : f.code ∈ rawTpCodes) : Answers f (processRawTp c) := by
  have hheader := hc.header
  have hlen := hc.len
  simp only [Answers,processRawTp,wp_ite,wp_bind,does_byte,wp_pure]
  refine ⟨fun h => by omega,fun _ => ⟨by omega,fun h => absurd hcode h,fun _ => ?_⟩⟩
  have hsetup : Keeps f (chain [call,if f.code = CMD_RAW_TP_HOST_TO_ESP then pure 0 else call]) := by
    refine keeps_chain ?_
    simp only [List.forall_mem_cons,List.not_mem_nil,false_implies,implies_true,and_true]
    exact ⟨keeps_call,Keeps.ite (fun _ => keeps_pure _) fun _ => keeps_call⟩
  refine hsetup.wp fun setup => ?_
  simp [Frame.code,Frame.seq,hlen]
  omega

theorem answers_accept {status : UInt8} {seq : Nat} (hcode : f.code = CMD_MGMT_TX) (hseq : seq = f.seq) :
    Answers f (hostedSendMgmtAccept status seq) := by
  simp [Answers,hostedSendMgmtAccept,hcode,hseq]

theorem answers_done {ifType seq : Nat} {status : UInt8} (hcode : f.code = CMD_MGMT_TX) (hseq : seq = f.seq) :
    Answers f (sendMgmtTxDone ifType status [] seq) := by
  simp [Answers,sendMgmtTxDone,mgmtTxDone,hcode,hseq]

theorem answers_byte {off : Nat} {q : UInt8 → Handler Unit} (h : off+1 ≤ f.payload.length)
    (hq : Answers f (q ((slice f.payload off 1).getD 0 0))) : Answers f (byte off >>= q) :=
  (wp_bind _ _).mpr (does_byte.mpr ⟨h,hq⟩)

theorem answers_le16 {off : Nat} {q : Nat → Handler Unit} (h : off+2 ≤ f.payload.length)
    (hq : Answers f (q (leNat (slice f.payload off 2)))) : Answers f (le16 off >>= q) :=
  (wp_bind _ _).mpr (does_le16.mpr ⟨h,hq⟩)

theorem keeps_le32 {off : Nat} (h : off+4 ≤ f.payload.length) : Keeps f (le32 off) := by
  simp [Quiet,h]

theorem keeps_read {off len : Nat} (h : off+len ≤ f.payload.length) : Keeps f (read off len) := by
  simp [Quiet,h]

theorem answers_processMgmtTxUnmarked (hc : c.Of f) (hun : f.unmarked) : Answers f (processMgmtTxUnmarked c) := by
  have hlen := hc.len
  have hseq : leNat (slice f.payload 4 2) = f.seq := rfl
  refine Answers.ite (fun _ => answers_send hun.1.symm hc.seq) fun hlong => answers_le16 (by omega) ?_
  refine (keeps_le32 (by omega)).answers fun frameLen => Answers.ite (fun _ => answers_done hun.1 rfl) fun hgood => ?_
  simp only [not_or,cmdFlexLenValid,decide_eq_false_iff_not,Decidable.not_not,Nat.not_lt] at hgood
  refine keeps_test.answers fun softap => Answers.ite (fun _ => answers_done hun.1 rfl) fun _ => ?_
  refine keeps_mgmtTxEnsureCb.answers fun cb => Answers.ite (fun _ => answers_done hun.1 rfl) fun _ => ?_
  refine (keeps_read (by omega)).answers fun da => ?_
  simp [Answers,sendMgmtTxDone,mgmtTxDone,hun,hun.1,hseq]
  omega

theorem answers_processMgmtTx (hc : c.Of f) (hcode : f.code = CMD_MGMT_TX) : Answers f (processMgmtTx c) := by
  have hlen := hc.len
  have hheader := hc.header
  refine Answers.ite (fun _ => answers_accept hcode hc.seq) fun hlong => answers_byte (by omega) ?_
  refine Answers.ite (fun hmark => answers_processMgmtTxUnmarked hc ⟨hcode,hmark⟩) fun _ => ?_
  refine answers_le16 (by omega) ((keeps_le32 (by omega)).answers fun frameLen => ?_)
  refine (keeps_read (by omega)).answers fun _ => Answers.ite (fun _ => answers_accept hcode rfl) fun hgood => ?_
  simp only [not_or,cmdFlexLenValid,decide_eq_false_iff_not,Decidable.not_not,Nat.not_lt,HOSTED_MGMT_HDR_LEN] at hgood
  refine keeps_test.answers fun softap => Answers.ite (fun _ => answers_accept hcode rfl) fun _ => ?_
  refine keeps_test.answers fun busy => Answers.ite (fun _ => answers_accept hcode rfl) fun _ => ?_
  refine keeps_mgmtTxEnsureCb.answers fun cb => Answers.ite (fun _ => answers_accept hcode rfl) fun _ => ?_
  refine (keeps_read (by omega)).answers fun da => (keeps_byte (by omega)).answers fun dontWait => ?_
  have hframe : Keeps f (read 28 frameLen) := keeps_read (by omega)
  refine (Keeps.ite (fun _ => hframe.bind fun _ => keeps_call) fun _ => keeps_pure _).answers fun begun => ?_
  refine Answers.ite (fun _ => answers_accept hcode rfl) fun _ => hframe.answers fun _ => keeps_call.answers fun ret => ?_
  refine Answers.ite (fun _ => answers_accept hcode rfl) fun _ => ?_
  simp [Answers,hostedSendMgmtAccept,hostedMgmtMarkAccepted,hcode,Frame.seq]
  omega

/-- Every handler of the table answers the command it is entered for. -/
theorem answers_entry (hc : c.Of f) (haddr : f.addressed) :
    ∀ e ∈ sCmdTable, f.code = e.cmdCode → e.minPayloadLen ≤ f.payload.length → Answers f (e.handler c) := by
  simp only [sCmdTable,List.forall_mem_cons,List.not_mem_nil,false_implies,implies_true,and_true]
  exact
    ⟨fun h _ => answers_processInitInterface hc h,
     fun h hmin => answers_processSetMac hc h hmin,
     fun h _ => answers_processGetMac hc h,
     fun h _ => answers_processStartScan hc h,
     fun h _ => answers_processStaConnect hc h,
     fun h _ => answers_processDisconnect hc h,
     fun h _ => answers_processDeinitInterface hc h,
     fun h _ => answers_processAddKey hc h,
     fun h _ => answers_processDelKey hc h,
     fun h _ => answers_processSetDefaultKey hc h,
     fun h _ => answers_processAuthRequest hc h,
     fun h _ => answers_processAssocRequest hc h,
     fun h hmin => answers_processSetIp hc h hmin,
     fun h hmin => answers_processSetMcastMacList hc h hmin,
     fun h _ => answers_sendPower hc h,
     fun h _ => answers_processSetTxPower hc h,
     fun h _ => answers_sendFetched 4 hc h,
     fun h _ => answers_processRegSet hc h,
     fun h _ => answers_processRawTp hc (by simp [h,rawTpCodes]),
     fun h _ => answers_processRawTp hc (by simp [h,rawTpCodes]),
     fun h _ => answers_processRawTp hc (by simp [h,rawTpCodes]),
     fun h hmin => answers_processWowSet hc h hmin,
     fun h _ => answers_processSetMode hc h,
     fun h _ => answers_processSetIe hc h,
     fun h _ => answers_processSetApConfig hc h,
     fun h _ => answers_processMgmtTx hc h,
     fun h _ => answers_processApStation hc h,
     fun h _ => answers_sendFetched 1 hc h,
     fun h _ => answers_processSetTime hc h,
     fun h _ => answers_processOtaStart hc h,
     fun h _ => answers_processOtaWrite hc h,
     fun h _ => answers_processOtaEnd hc h,
     fun h _ => answers_processStaSetAuthorized hc h,
     fun _ _ => answers_processRadioService hc,
     fun _ _ => answers_processRadioService hc,
     fun h _ => answers_processHostReboot hc h haddr,
     fun h _ => answers_processMonitorConfig hc h⟩

/-- Whatever the command, code and lengths. -/
theorem answers_espCmdDispatch (cfg : Config) (hheader : 8 ≤ f.payload.length) (haddr : f.addressed) :
    Answers f (espCmdDispatch cfg f.ifType f.payload.length) := by
  refine (wp_ite _ _ _).mpr ⟨fun h => by omega,fun _ => answers_byte (by omega) (answers_le16 (by omega) ?_)⟩
  have hc : (⟨cfg,f.ifType,f.payload.length,f.code,f.seq⟩ : Ctx).Of f := ⟨rfl,rfl,hheader,rfl,rfl⟩
  split
  · exact answers_send rfl rfl
  · rename_i e he
    have hfound := List.find?_some he
    have hcode : e.cmdCode = f.code := of_decide_eq_true hfound
    refine Answers.ite (fun _ => answers_send rfl rfl) fun hlen => ?_
    exact answers_entry hc haddr e (List.mem_of_find?_eq_some he) hcode.symm (Nat.le_of_not_lt hlen)

end EspHosted.Dispatch
