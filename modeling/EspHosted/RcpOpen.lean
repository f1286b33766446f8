import EspHosted.RcpEndpoint
import EspHosted.Lib.Run

/-!
`esp_rcp_open` with everything that runs while it waits for the ACK. The caller inside
holds `rcp_lifecycle_lock`, so there is one; `rcp_session_nonce` is stored without any
lock.
-/

set_option autoImplicit false

namespace EspHosted.Rcp.Opening
open EspHosted Recovery Rcp Run

inductive OpenError where
  | noMem
  | noDev
  | busy
  | noNonce
  | sendFailed
  | timedOut
  deriving DecidableEq, Repr

/-- How far the caller is; it holds `rcp_lock` up to `waiting`. -/
inductive OpenPc where
  | opened
  | checked
  | copied
  | waiting
  | woken
  | expired
  deriving DecidableEq, Repr

def OpenPc.locked : OpenPc → Bool
  | .opened => true
  | .checked => true
  | .copied => true
  | _ => false

/-- The marker has been filled in. -/
def OpenPc.marked : OpenPc → Bool
  | .opened => false
  | .checked => false
  | _ => true

/-- The caller from the moment it has set `rcp_opened`. -/
structure Opener where
  pc : OpenPc := .opened
  /-- The nonce in the marker. -/
  sent : UInt64 := 0
  /-- `rcp_session_nonce` when the marker is sent. -/
  current : UInt64 := 0
  /-- The two nonces as the wait condition may have read them, the acknowledged one first. -/
  looked : Option (UInt64 × UInt64) := none
  /-- An ACK carrying `sent` has been accepted since. -/
  confirmed : Bool := false
  deriving DecidableEq, Repr

structure Return where
  error : Option OpenError
  sent : UInt64 := 0
  current : UInt64 := 0
  confirmed : Bool := false
  deriving DecidableEq, Repr

structure State where
  ep : Endpoint := {}
  opener : Option Opener := none
  returns : List Return := []
  deriving DecidableEq, Repr

/-- Why `esp_rcp_open` returns at its first checks; `ready` is what the unlocked reads of
`esp_rcp_session_ready` come to. -/
def openRefused (s : Endpoint) (alloc ready : Bool) : Option OpenError :=
  if alloc = false then some .noMem
  else if s.registered = false ∨ s.sessionActive = false ∨ ready = false then some .noDev
  else if s.opened then some .busy
  else none

def openStream (s : Endpoint) : Endpoint :=
  {s with
    rxQ := []
    openingFirst := !s.everOpened
    earlyQ := if s.everOpened then [] else s.earlyQ
    opened := true
    ackedNonce := 0
    fileGeneration := s.generation
    held := none
    acked := false
    firstOpen := !s.everOpened
    released := []
    returned := []}

def openUndone (s : Endpoint) : Endpoint := {s with opened := false, openingFirst := false}

def State.refuse (s : State) (e : OpenError) : State :=
  {s with ep := openUndone s.ep, opener := none, returns := s.returns ++ [{error := some e}]}

def openBegin (s : State) (alloc ready : Bool) : State :=
  match openRefused s.ep alloc ready with
  | some e => {s with returns := s.returns ++ [{error := some e}]}
  | none => {s with ep := openStream s.ep, opener := some {}}

/-- The checks under `rcp_lock` after the wait. -/
def openFinish (c : Clock) (now : Nat) (s : Endpoint) (pc : OpenPc) : Endpoint × Option OpenError :=
  if pc ≠ .woken ∨ s.registered = false ∨ s.opened = false ∨ s.fileGeneration ≠ s.generation ∨
      s.ackedNonce ≠ s.nonce then
    (espRcpOpenTimeout c now s,some .timedOut)
  else (s,none)

/-- `esp_rcp_session_ack` takes the marker. -/
def ackAccepted (s : Endpoint) (nonce : UInt64) : Bool :=
  s.registered ∧ s.opened ∧ s.sessionActive ∧ nonce ≠ 0 ∧ nonce = s.nonce ∧ s.ackedNonce ≠ nonce

def Opener.hear (o : Opener) (s : Endpoint) : Rcp.Action → Opener
  | .packet _ (.session nonce) =>
    {o with confirmed := o.confirmed || (ackAccepted s nonce && nonce == o.sent)}
  | _ => o

/-- The action blocks on `rcp_lifecycle_lock`. -/
def locksLifecycle (s : Endpoint) : Rcp.Action → Bool
  | .packet _ (.boot legacy) => espRcpFailClosedRequired s || legacy
  | .open _ => true
  | .openTimeout _ => true
  | .release _ => true
  | .bootClean => true
  | .failAfterCommit _ => true
  | .initRcp _ _ _ => true
  | .deinitRcp => true
  | _ => false

/-- The action blocks on `rcp_lock`, or is part of a function that does. -/
def locksRcp : Rcp.Action → Bool
  | .packet _ .unknown => false
  | .packet _ _ => true
  | .dequeue => true
  | .read _ _ => true
  | _ => false

inductive Action where
  /-- Anything but `esp_rcp_open`. -/
  | endpoint (a : Rcp.Action)
  /-- `decode_radio_service`, or the store after `esp_deinit_rcp` in `esp_radio_service_work`. -/
  | storeNonce (nonce : UInt64)
  | open (alloc ready : Bool)
  /-- `esp_rcp_send_session_start` asks for a nonce, copies it into the marker and sends. -/
  | checkNonce
  | copyNonce (alloc : Bool)
  | send (sent : Bool)
  /-- The condition of `wait_event_timeout` reads the two nonces one after the other. -/
  | look
  | wake
  | timeout
  | finish (now : Nat)
  deriving DecidableEq, Repr

def isOpen : Rcp.Action → Bool
  | .open _ => true
  | .openTimeout _ => true
  | _ => false

def Opener.locked (o : Opener) : Bool := o.pc.locked

def State.blocked (s : State) (a : Rcp.Action) : Bool :=
  s.opener.any fun o => locksLifecycle s.ep a || o.locked && locksRcp a

/-- What the two reads of the condition may have found equal, in either order. -/
def Opener.seesEqual (o : Opener) (s : Endpoint) : Bool :=
  o.looked.any fun v => v.1 == s.nonce || v.2 == s.ackedNonce

def Opener.seesDifferent (o : Opener) (s : Endpoint) : Bool :=
  o.looked.any fun v => v.1 != s.nonce || v.2 != s.ackedNonce

def step (c : Clock) (s : State) : Action → Option State
  | .endpoint a =>
    if isOpen a ∨ s.blocked a then none
    else
      (Rcp.step c s.ep a).map fun ep =>
        {s with ep := ep, opener := s.opener.map fun o => o.hear s.ep a}
  | .storeNonce nonce => some {s with ep := {s.ep with nonce := nonce}}
  | .open alloc ready => if s.opener.isSome then none else some (openBegin s alloc ready)
  | .checkNonce =>
    s.opener.bind fun o =>
      if o.pc ≠ .opened then none
      else if s.ep.nonce = 0 then some (s.refuse .noNonce)
      else some {s with opener := some {o with pc := .checked}}
  | .copyNonce alloc =>
    s.opener.bind fun o =>
      if o.pc ≠ .checked then none
      else if alloc = false then some (s.refuse .noMem)
      else some {s with opener := some {o with pc := .copied, sent := s.ep.nonce}}
  | .send sent =>
    s.opener.bind fun o =>
      if o.pc ≠ .copied then none
      else if sent = false then some (s.refuse .sendFailed)
      else some {s with opener := some {o with pc := .waiting, current := s.ep.nonce}}
  | .look =>
    s.opener.bind fun o =>
      if o.pc ≠ .waiting then none
      else some {s with opener := some {o with looked := some (s.ep.ackedNonce,s.ep.nonce)}}
  | .wake =>
    s.opener.bind fun o =>
      if o.pc = .waiting ∧ o.seesEqual s.ep then some {s with opener := some {o with pc := .woken}} else none
  | .timeout =>
    s.opener.bind fun o =>
      if o.pc = .waiting ∧ o.seesDifferent s.ep then some {s with opener := some {o with pc := .expired}}
      else none
  | .finish now =>
    s.opener.bind fun o =>
      if o.pc ≠ .woken ∧ o.pc ≠ .expired then none
      else
        some {s with
          ep := (openFinish c now s.ep o.pc).1
          opener := none
          returns := s.returns ++
            [{error := (openFinish c now s.ep o.pc).2, sent := o.sent, current := o.current, confirmed := o.confirmed}]}

/-- `Rcp.espRcpOpen` is what these steps come to when nothing runs between them. -/
theorem espRcpOpen_eq (s : Endpoint) (sent : Bool) :
    espRcpOpen s sent =
      if openRefused s true (espRcpSessionReady s) ≠ none then s
      else if s.nonce = 0 ∨ sent = false then openUndone (openStream s)
      else openStream s := by
  simp only [espRcpOpen,openRefused,openUndone,openStream]
  split_ifs <;> simp_all

theorem open_undisturbed (c : Clock) (s : State) (hidle : s.opener = none) (hnonce : s.ep.nonce ≠ 0)
    (hready : openRefused s.ep true (espRcpSessionReady s.ep) = none) :
    exec (step c) s [.open true (espRcpSessionReady s.ep),.checkNonce,.copyNonce true,.send true] =
      some {s with
        ep := espRcpOpen s.ep true
        opener := some {pc := .waiting, sent := s.ep.nonce, current := s.ep.nonce}} := by
  have hep : espRcpOpen s.ep true = openStream s.ep := by
    rw [espRcpOpen_eq,hready]
    simp [hnonce]
  have hkeep : (openStream s.ep).nonce = s.ep.nonce := rfl
  rw [hep]
  simp [exec,step,hidle,openBegin,hready,hkeep,hnonce]

def storedNonce : Action → Option UInt64
  | .storeNonce nonce => some nonce
  | .endpoint .bootStart => some 0
  | .endpoint (.bootBegin _ nonce) => some nonce
  | _ => none

/-- The nonce is still there when it is copied into the start marker, and no other one is
stored from then on until the ACK is in. -/
def Steady (s : State) (a : Action) : Prop :=
  (a = .copyNonce true → s.ep.nonce ≠ 0) ∧
  ∀ o ∈ s.opener, o.pc.marked = true → o.confirmed = false → ∀ n ∈ storedNonce a, n = o.sent

instance (s : State) (a : Action) : Decidable (Steady s a) :=
  decidable_of_iff ((a = .copyNonce true → s.ep.nonce ≠ 0) ∧
    (s.opener.all fun o => !o.pc.marked || o.confirmed || (storedNonce a).all (· == o.sent)) = true) (by
    rw [Steady]
    refine and_congr_right fun _ => ?_
    cases ho : s.opener with
    | none => simp
    | some o => cases hm : o.pc.marked <;> cases hc : o.confirmed <;> cases hn : storedNonce a <;> simp [hm,hc])

/-- Nothing is acknowledged before the marker is filled in; from then on, until the ACK is
in, the nonce stands as it is in the marker and is not acknowledged. -/
structure Opener.Sound (o : Opener) (s : Endpoint) : Prop where
  unmarked : o.pc.marked = false → o.confirmed = false ∧ s.ackedNonce = 0
  marked : o.pc.marked = true →
    o.sent ≠ 0 ∧ (o.confirmed = false → s.nonce = o.sent ∧ s.ackedNonce ≠ o.sent)
  copied : o.pc = .copied → o.confirmed = false
  sent : o.pc.locked = false → o.current = o.sent

structure Inv (s : State) : Prop where
  waiting : ∀ o ∈ s.opener, o.Sound s.ep
  returns : ∀ r ∈ s.returns, r.error = none → r.sent ≠ 0 ∧ r.sent = r.current ∧ r.confirmed = true

theorem inv_initial : Inv {} where
  waiting := by simp
  returns := by simp

theorem ackAccepted_iff (s : Endpoint) (nonce : UInt64) :
    ackAccepted s nonce = true ↔ s.registered ∧ s.opened ∧ s.sessionActive ∧ nonce ≠ 0 ∧
      nonce = s.nonce ∧ s.ackedNonce ≠ nonce := by
  simp only [ackAccepted,decide_eq_true_eq]

theorem espRcpSessionAck_ignored {s : Endpoint} {nonce : UInt64} (h : ackAccepted s nonce = false) :
    espRcpSessionAck s nonce = s := by
  rw [Bool.eq_false_iff,ne_eq,ackAccepted_iff] at h
  exact if_neg h

/-- What a step keeps unless it handles an ACK or stores a nonce. -/
def SameSession (s s' : Endpoint) : Prop := s'.nonce = s.nonce ∧ s'.ackedNonce = s.ackedNonce

theorem sameSession_espRcpRx (c : Clock) (now : Nat) (s : Endpoint) (skb : Bytes) :
    SameSession s (espRcpRx c now s skb) := by
  simp only [espRcpRx]
  split_ifs <;> exact ⟨rfl,rfl⟩

theorem sameSession_packet (c : Clock) (now : Nat) (s : Endpoint) (p : Packet)
    (hlock : locksLifecycle s (.packet now p) = false) (hack : ∀ n, p ≠ .session n) :
    SameSession s (processRxPacket c now s p) := by
  cases p with
  | corrupt =>
    simp only [processRxPacket]
    split_ifs <;> exact ⟨rfl,rfl⟩
  | session n => exact absurd rfl (hack n)
  | unknown => exact ⟨rfl,rfl⟩
  | data payload =>
    simp only [processRxPacket]
    split_ifs
    · exact ⟨rfl,rfl⟩
    · exact sameSession_espRcpRx c now s payload
  | boot legacy =>
    have hno : (espRcpFailClosedRequired s || legacy) = false := hlock
    simp only [processRxPacket,hno]
    exact ⟨rfl,rfl⟩

theorem sameSession_read (s : Endpoint) (count : Nat) (fault : Bool) :
    SameSession s (espRcpRead s count fault) := by
  simp only [espRcpRead,espRcpRequeueCurrent]
  split
  · exact ⟨rfl,rfl⟩
  · split_ifs <;> exact ⟨rfl,rfl⟩

theorem sameSession_dequeue (s : Endpoint) : SameSession s (espRcpDequeueCurrent s) := by
  simp only [espRcpDequeueCurrent]
  split
  · split_ifs <;> exact ⟨rfl,rfl⟩
  · exact ⟨rfl,rfl⟩

theorem Opener.Sound.store {o : Opener} {s s' : Endpoint} (h : o.Sound s)
    (hacked : s'.ackedNonce = s.ackedNonce)
    (hnonce : o.pc.marked = true → o.confirmed = false → s'.nonce = o.sent) : o.Sound s' where
  unmarked hm := by
    rw [hacked]
    exact h.unmarked hm
  marked hm := by
    refine ⟨(h.marked hm).1,fun hc => ⟨hnonce hm hc,?_⟩⟩
    rw [hacked]
    exact ((h.marked hm).2 hc).2
  copied := h.copied
  sent := h.sent

theorem Opener.Sound.same {o : Opener} {s s' : Endpoint} (h : o.Sound s) (hs : SameSession s s') :
    o.Sound s' :=
  h.store hs.2 (fun hm hc => hs.1.trans ((h.marked hm).2 hc).1)

theorem OpenPc.marked_of_unlocked {pc : OpenPc} (h : pc.locked = false) : pc.marked = true := by
  cases pc <;> first | rfl | cases h

/-- An accepted marker carries the current nonce, which is the one sent. -/
theorem Opener.Sound.ack {o : Opener} {s : Endpoint} (h : o.Sound s) (hl : o.locked = false) (now : Nat)
    (n : UInt64) : (o.hear s (.packet now (.session n))).Sound (espRcpSessionAck s n) := by
  have hmarked := OpenPc.marked_of_unlocked hl
  refine ⟨fun hm => ?_,fun _ => ⟨(h.marked hmarked).1,fun hc => ?_⟩,fun hp => ?_,h.sent⟩
  · have hm : o.pc.marked = false := hm
    rw [hmarked] at hm
    cases hm
  · have hc : (o.confirmed || (ackAccepted s n && n == o.sent)) = false := hc
    rw [Bool.or_eq_false_iff] at hc
    obtain ⟨hnonce,hacked⟩ := (h.marked hmarked).2 hc.1
    cases ha : ackAccepted s n with
    | false =>
      rw [espRcpSessionAck_ignored ha]
      exact ⟨hnonce,hacked⟩
    | true =>
      have hn : n = o.sent := ((ackAccepted_iff s n).mp ha).2.2.2.2.1.trans hnonce
      rw [ha] at hc
      simp [hn] at hc
  · have hp : o.pc = .copied := hp
    rw [Opener.locked,hp] at hl
    cases hl

theorem Opener.Sound.step {c : Clock} {o : Opener} {s s' : Endpoint} {a : Rcp.Action} (h : o.Sound s)
    (hfree : locksLifecycle s a = false) (hlock : o.locked = true → locksRcp a = false)
    (hsteady : o.pc.marked = true → o.confirmed = false → ∀ n ∈ storedNonce (.endpoint a), n = o.sent)
    (hs : Rcp.step c s a = some s') : (o.hear s a).Sound s' := by
  cases a with
  | packet now p =>
    cases hs
    by_cases hp : ∃ n, p = .session n
    · obtain ⟨n,rfl⟩ := hp
      refine h.ack ?_ now n
      cases hl : o.locked with
      | false => rfl
      | true => cases hlock hl
    · have hsame := sameSession_packet c now s p hfree (fun n hn => hp ⟨n,hn⟩)
      cases p <;> first | exact h.same hsame | exact absurd ⟨_,rfl⟩ hp
  | dequeue => cases hs; exact h.same (sameSession_dequeue s)
  | read count fault => cases hs; exact h.same (sameSession_read s count fault)
  | request fwReset => cases hs; exact h.same ⟨rfl,rfl⟩
  | resume now =>
    simp only [Rcp.step] at hs
    split at hs <;> cases hs
    exact h.same ⟨rfl,rfl⟩
  | bootStart =>
    simp only [Rcp.step] at hs
    split at hs <;> cases hs
    exact h.store rfl (fun hm hc => hsteady hm hc 0 rfl)
  | bootBegin rcpAny nonce =>
    simp only [Rcp.step] at hs
    split at hs <;> cases hs
    exact h.store rfl (fun hm hc => hsteady hm hc nonce rfl)
  | bootCommit =>
    simp only [Rcp.step] at hs
    split at hs <;> cases hs
    exact h.same ⟨rfl,rfl⟩
  | bootAbort now =>
    simp only [Rcp.step] at hs
    split at hs <;> cases hs
    exact h.same ⟨rfl,rfl⟩
  | remove => cases hs; exact h.same ⟨rfl,rfl⟩
  | «open» sent => cases hfree
  | openTimeout now => cases hfree
  | release now => cases hfree
  | bootClean => cases hfree
  | failAfterCommit now => cases hfree
  | initRcp rcpAny nonce reg => cases hfree
  | deinitRcp => cases hfree

theorem openFinish_ok {c : Clock} {now : Nat} {s : Endpoint} {pc : OpenPc}
    (h : (openFinish c now s pc).2 = none) : s.ackedNonce = s.nonce := by
  simp only [openFinish] at h
  split at h
  · cases h
  · rename_i hx
    simp only [not_or,not_not] at hx
    exact hx.2.2.2.2

theorem Inv.openBegin {s : State} (h : Inv s) (alloc ready : Bool) (hno : s.opener = none) :
    Inv (openBegin s alloc ready) := by
  simp only [Opening.openBegin]
  cases hr : openRefused s.ep alloc ready with
  | some e =>
    refine ⟨by simp [hno],fun r hm he => ?_⟩
    simp only [List.mem_append,List.mem_singleton] at hm
    rcases hm with hm | rfl
    · exact h.returns r hm he
    · cases he
  | none =>
    refine ⟨fun o ho => ?_,h.returns⟩
    cases ho
    exact ⟨fun _ => ⟨rfl,rfl⟩,fun hm => (nomatch hm),fun hp => (nomatch hp),fun hl => (nomatch hl)⟩

theorem Inv.refuse {s : State} (h : Inv s) (e : OpenError) : Inv (s.refuse e) := by
  refine ⟨by simp [State.refuse],fun r hm he => ?_⟩
  simp only [State.refuse,List.mem_append,List.mem_singleton] at hm
  rcases hm with hm | rfl
  · exact h.returns r hm he
  · cases he

theorem Inv.moves {s : State} (h : Inv s) {o : Opener} (ho : o.Sound s.ep) : Inv {s with opener := some o} := by
  refine ⟨fun o' ho' => ?_,h.returns⟩
  cases ho'
  exact ho

theorem Opener.Sound.copyNonce {o : Opener} {s : Endpoint} (h : o.Sound s) (hp : o.pc = .checked)
    (hn : s.nonce ≠ 0) : {o with pc := .copied, sent := s.nonce : Opener}.Sound s := by
  obtain ⟨hc,hacked⟩ := h.unmarked (by rw [hp]; rfl)
  refine ⟨fun hm => (nomatch hm),fun _ => ⟨hn,fun _ => ⟨rfl,?_⟩⟩,fun _ => hc,fun hl => (nomatch hl)⟩
  rw [hacked]
  exact hn.symm

theorem Opener.Sound.send {o : Opener} {s : Endpoint} (h : o.Sound s) (hp : o.pc = .copied) :
    {o with pc := .waiting, current := s.nonce : Opener}.Sound s := by
  have hmarked := h.marked (by rw [hp]; rfl)
  exact ⟨fun hm => (nomatch hm),fun _ => hmarked,fun hp => (nomatch hp),fun _ => (hmarked.2 (h.copied hp)).1⟩

/-- Past the send only the place in the wait changes. -/
theorem Opener.Sound.waits {o : Opener} {s : Endpoint} (h : o.Sound s) (hl : o.pc.locked = false) {pc : OpenPc}
    (hpc : pc.locked = false) (looked : Option (UInt64 × UInt64)) :
    {o with pc := pc, looked := looked : Opener}.Sound s := by
  refine ⟨fun hm => ?_,fun _ => h.marked (OpenPc.marked_of_unlocked hl),fun hp => ?_,fun _ => h.sent hl⟩
  · have hm : pc.marked = false := hm
    rw [OpenPc.marked_of_unlocked hpc] at hm
    cases hm
  · have hp : pc = .copied := hp
    rw [hp] at hpc
    cases hpc

theorem Inv.finish {s : State} (h : Inv s) (c : Clock) (now : Nat) {o : Opener} (ho : s.opener = some o)
    (hl : o.pc.locked = false) :
    Inv {s with
      ep := (openFinish c now s.ep o.pc).1
      opener := none
      returns := s.returns ++
        [{error := (openFinish c now s.ep o.pc).2, sent := o.sent, current := o.current, confirmed := o.confirmed}]} := by
  have hsound := h.waiting o ho
  obtain ⟨hne,hun⟩ := hsound.marked (OpenPc.marked_of_unlocked hl)
  refine ⟨by simp,fun r hm he => ?_⟩
  simp only [List.mem_append,List.mem_singleton] at hm
  rcases hm with hm | rfl
  · exact h.returns r hm he
  · refine ⟨hne,(hsound.sent hl).symm,?_⟩
    by_contra hc
    obtain ⟨hnonce,hacked⟩ := hun (by simpa using hc)
    exact hacked ((openFinish_ok he).trans hnonce)

theorem step_inv {c : Clock} (s : State) (a : Action) (s' : State) (h : Inv s) (hok : Steady s a)
    (hs : step c s a = some s') : Inv s' := by
  cases a with
  | endpoint a =>
    simp only [step] at hs
    split at hs
    · cases hs
    rename_i hgo
    obtain ⟨ep,hep,rfl⟩ := Option.map_eq_some_iff.mp hs
    refine ⟨fun o' ho' => ?_,h.returns⟩
    obtain ⟨o,ho,rfl⟩ := Option.map_eq_some_iff.mp ho'
    have hb : (locksLifecycle s.ep a || o.locked && locksRcp a) = false := by
      simpa [State.blocked,ho] using (not_or.mp hgo).2
    rw [Bool.or_eq_false_iff] at hb
    refine (h.waiting o ho).step hb.1 (fun hl => ?_) (hok.2 o ho) hep
    simpa [hl] using hb.2
  | storeNonce nonce =>
    cases hs
    exact ⟨fun o ho => (h.waiting o ho).store rfl (fun hm hc => hok.2 o ho hm hc nonce rfl),h.returns⟩
  | «open» alloc ready =>
    simp only [step] at hs
    split at hs
    · cases hs
    · rename_i hno
      cases hs
      exact h.openBegin alloc ready (by simpa using hno)
  | checkNonce =>
    obtain ⟨o,ho,hs⟩ := Option.bind_eq_some_iff.mp hs
    split_ifs at hs with hp <;> cases hs
    · exact h.refuse .noNonce
    · have hc := (h.waiting o ho).unmarked (by rw [not_not.mp hp]; rfl)
      exact h.moves ⟨fun _ => hc,fun hm => (nomatch hm),fun hp => (nomatch hp),fun hl => (nomatch hl)⟩
  | copyNonce alloc =>
    obtain ⟨o,ho,hs⟩ := Option.bind_eq_some_iff.mp hs
    split_ifs at hs with hp ha <;> cases hs
    · exact h.refuse .noMem
    · have hn := hok.1 (by rw [Bool.not_eq_false] at ha; rw [ha])
      exact h.moves ((h.waiting o ho).copyNonce (not_not.mp hp) hn)
  | send sent =>
    obtain ⟨o,ho,hs⟩ := Option.bind_eq_some_iff.mp hs
    split_ifs at hs with hp <;> cases hs
    · exact h.refuse .sendFailed
    · exact h.moves ((h.waiting o ho).send (not_not.mp hp))
  | look =>
    obtain ⟨o,ho,hs⟩ := Option.bind_eq_some_iff.mp hs
    split_ifs at hs with hp
    cases hs
    have hl : o.pc.locked = false := by rw [not_not.mp hp]; rfl
    exact h.moves ((h.waiting o ho).waits hl hl _)
  | wake =>
    obtain ⟨o,ho,hs⟩ := Option.bind_eq_some_iff.mp hs
    split_ifs at hs with hp
    cases hs
    exact h.moves ((h.waiting o ho).waits (by rw [hp.1]; rfl) rfl _)
  | timeout =>
    obtain ⟨o,ho,hs⟩ := Option.bind_eq_some_iff.mp hs
    split_ifs at hs with hp
    cases hs
    exact h.moves ((h.waiting o ho).waits (by rw [hp.1]; rfl) rfl _)
  | finish now =>
    obtain ⟨o,ho,hs⟩ := Option.bind_eq_some_iff.mp hs
    split_ifs at hs with hp
    cases hs
    refine h.finish c now ho ?_
    cases hpc : o.pc <;> simp_all [OpenPc.locked]

/-- An open that returns 0 has had the ACK of the nonce it sent, which was the current one. -/
theorem open_ok_confirmed (c : Clock) (acts : List Action) (s : State)
    (hrun : exec (step c) {} acts = some s) (hok : Along (step c) Steady {} acts) :
    ∀ r ∈ s.returns, r.error = none → r.sent ≠ 0 ∧ r.sent = r.current ∧ r.confirmed = true :=
  (exec_invariant_along step_inv hok inv_initial hrun).returns

def published : List Action :=
  [.endpoint .bootStart,.endpoint (.bootBegin true 7),.endpoint .bootCommit,
   .endpoint (.initRcp true 7 true)]

/-- `esp_rcp_open` up to its wait. -/
def opening : List Action := [.open true true,.checkNonce,.copyNonce true,.send true]

/-- A stale marker is ignored and the right one wakes the caller; a second open is refused. -/
def confirmedRun : List Action :=
  published ++ opening ++
  ([.endpoint (.packet 0 (.session 6)),.storeNonce 7,.endpoint (.packet 0 (.session 7)),
    .look,.wake,.finish 0,.open true true] : List Action)

theorem open_ok_confirmed_run :
    ∃ s ∈ exec (step clock32) {} confirmedRun,
      s.returns.map Return.error = [none,some .busy] ∧
      ∀ r ∈ s.returns, r.error = none → r.sent ≠ 0 ∧ r.sent = r.current ∧ r.confirmed = true := by
  have h : ∃ s ∈ exec (step clock32) {} confirmedRun,
      s.returns.map Return.error = [none,some .busy] := by decide +kernel
  have hok : Along (step clock32) Steady {} confirmedRun := by decide +kernel
  obtain ⟨s,hs,hr⟩ := h
  exact ⟨s,hs,hr,open_ok_confirmed clock32 confirmedRun s hs hok⟩

/-- A second boot event, taken up while the open waits, clears the nonce: zero equals
the acknowledged nonce and the open returns 0 with no ACK. -/
theorem open_ok_without_ack :
    ∃ s ∈ exec (step clock32) {} (published ++ opening ++ [.endpoint .bootStart,.look,.wake,.finish 0]),
      ∃ r ∈ s.returns, r.error = none ∧ r.sent = 7 ∧ r.confirmed = false := by decide +kernel

end EspHosted.Rcp.Opening
