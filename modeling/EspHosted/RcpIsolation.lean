import EspHosted.RcpReceive
import EspHosted.RcpStream
import Mathlib.Data.List.Forall2

/-!
Whose bytes a file reads. The boot event is read before any RCP frame sent after it, so
what is read between two boot events comes from one incarnation or from an earlier one;
only the frames a boot event has overtaken have to be kept out.
-/

set_option autoImplicit false

namespace EspHosted.Rcp.Isolation
open EspHosted Recovery Rcp Run

/-- What holds of the endpoint alone, whatever it is handed. -/
structure Session (s : Endpoint) : Prop where
  opened : s.opened = true →
    s.registered = true ∧ s.sessionActive = true ∧ s.fileGeneration = s.generation
  active : s.sessionActive = true → s.registered = true
  quarantine : s.bootPending = true → s.sessionActive = false
  pristine : s.bootPending = true ∨ s.openingFirst = true → s.everOpened = false
  booting : s.phase ≠ .idle → s.adapter.initDone = false
  cleaned : s.phase = .cleaned ∨ s.phase = .reconstructing → s.opened = false
  stale : s.opened = true → s.adapter.initDone = false →
    s.adapter.resetExpected = true ∨ s.phase = .cleaning ∨ s.adapter.shuttingDown = true
  nonce : s.opened = true →
    s.nonce = 0 ∧ s.adapter.initDone = false ∨
    s.nonce ≠ 0 ∧ s.ackedNonce = if s.acked then s.nonce else 0
  first : s.opened = true → s.openingFirst = true → s.firstOpen = true
  queue : s.opened = false ∨ s.acked = false → s.rxQ = []
  unacked : s.acked = false → s.held = none ∧ s.returned = []

theorem session_initial : Session {} where
  opened := by simp
  active := by simp
  quarantine := by simp
  pristine := by simp
  booting := by simp
  cleaned := by simp
  stale := by simp
  nonce := by simp
  first := by simp
  queue := by simp
  unacked := by simp

theorem Session.setAdapter {s : Endpoint} (h : Session s) {a : Adapter} (ha : Raises s.adapter a) :
    Session {s with adapter := a} :=
  { h with
    booting := fun hp => ha.init.trans (h.booting hp)
    stale := fun ho hi => by
      rcases h.stale ho (ha.init.symm.trans hi) with hx | hx | hx
      · exact .inl (ha.reset hx)
      · exact .inr (.inl hx)
      · exact .inr (.inr (ha.down hx))
    nonce := fun ho => by
      rw [ha.init]
      exact h.nonce ho }

theorem Session.failClosed {s : Endpoint} (h : Session s) (c : Clock) (now : Nat) :
    Session {s with adapter := failClosed c now s.adapter} :=
  h.setAdapter (raises_failClosed c now s.adapter)

theorem Session.closed {s s' : Endpoint} (h : Session s)
    (hfile : s'.acked = s.acked ∧ s'.held = s.held ∧ s'.returned = s.returned) (ho : s'.opened = false)
    (hrx : s'.rxQ = []) (ha : s'.sessionActive = true → s'.registered = true)
    (hq : s'.bootPending = true → s'.sessionActive = false)
    (hp : s'.bootPending = true ∨ s'.openingFirst = true → s'.everOpened = false)
    (hb : s'.phase ≠ .idle → s'.adapter.initDone = false) : Session s' := by
  obtain ⟨h1,h2,h3⟩ := hfile
  have hno : s'.opened = true → False := by simp [ho]
  refine ⟨fun x => (hno x).elim,ha,hq,hp,hb,fun _ => ho,fun x => (hno x).elim,fun x => (hno x).elim,
    fun x => (hno x).elim,fun _ => hrx,?_⟩
  rw [h1,h2,h3]
  exact h.unacked

theorem Session.opened_eq_false {s : Endpoint} (h : Session s)
    (hx : s.registered = false ∨ s.sessionActive = false) : s.opened = false := by
  by_contra ho
  obtain ⟨hr,ha,-⟩ := h.opened (by simpa using ho)
  rcases hx with hx | hx <;> simp_all

theorem Session.espRcpOpen {s : Endpoint} (h : Session s) (sent : Bool) : Session (espRcpOpen s sent) := by
  simp only [Rcp.espRcpOpen]
  split
  · exact h
  rename_i hgate
  simp only [not_or,Bool.not_eq_false] at hgate
  obtain ⟨hr,ha,hready⟩ := hgate
  obtain ⟨hi,-⟩ := ready_flags hready
  have hidle : s.phase = .idle := by
    by_contra hp
    rw [h.booting hp] at hi
    cases hi
  have hpend : s.bootPending = false := by
    by_contra hx
    rw [h.quarantine (by simpa using hx)] at ha
    cases ha
  split
  · exact h
  split
  · exact ⟨by simp,h.active,h.quarantine,by simp [hpend],h.booting,by simp,by simp,by simp,by simp,by simp,by simp⟩
  · rename_i hsend
    have hz : s.nonce ≠ 0 := (not_or.mp hsend).1
    exact ⟨by simp [hr,ha],h.active,h.quarantine,by simp [hpend],h.booting,by simp [hidle],by simp [hi],
      by simp [hz],by simp,by simp,by simp⟩

theorem Session.espRcpOpenTimeout {s : Endpoint} (h : Session s) (c : Clock) (now : Nat) :
    Session (espRcpOpenTimeout c now s) := by
  simp only [Rcp.espRcpOpenTimeout]
  split
  · refine (h.failClosed c now).closed ⟨rfl,rfl,rfl⟩ rfl rfl h.active h.quarantine ?_ (h.failClosed c now).booting
    simpa using fun hx => h.pristine (.inl hx)
  · exact h.failClosed c now

theorem Session.espRcpRelease {s : Endpoint} (h : Session s) (c : Clock) (now : Nat) :
    Session (espRcpRelease c now s) := by
  have hp : s.bootPending = true ∨ false = true → s.everOpened = false := by
    simpa using fun hx => h.pristine (.inl hx)
  simp only [Rcp.espRcpRelease]
  split
  · split
    · exact h.closed ⟨rfl,rfl,rfl⟩ rfl rfl h.active h.quarantine hp h.booting
    · exact (h.failClosed c now).closed ⟨rfl,rfl,rfl⟩ rfl rfl h.active h.quarantine hp (h.failClosed c now).booting
  · exact h

theorem Session.espRcpNoteBootEvent {s : Endpoint} (h : Session s) (active : Bool) :
    Session (espRcpNoteBootEvent s active) ∧ (espRcpNoteBootEvent s active).opened = false := by
  simp only [Rcp.espRcpNoteBootEvent]
  split
  · exact ⟨h.closed ⟨rfl,rfl,rfl⟩ rfl rfl (by simp) (fun _ => rfl) (fun _ => rfl) h.booting,rfl⟩
  · rename_i hx
    have hact : s.sessionActive = false := by
      by_contra ha
      have ha : s.sessionActive = true := by simpa using ha
      exact hx ⟨h.active ha,ha⟩
    have ho := h.opened_eq_false (.inr hact)
    exact ⟨h.closed ⟨rfl,rfl,rfl⟩ ho (h.queue (.inl ho)) h.active (fun _ => hact) (fun _ => rfl) h.booting,ho⟩

theorem Session.dropQuarantine {s : Endpoint} (h : Session s) : Session (dropQuarantine s) :=
  { h with
    quarantine := by simp [Rcp.dropQuarantine]
    pristine := by simpa [Rcp.dropQuarantine] using fun hx => h.pristine (.inr hx) }

theorem Session.espInitRcp {s : Endpoint} (h : Session s) (reg : Bool) : Session (espInitRcp s reg) := by
  simp only [Rcp.espInitRcp]
  split
  · exact h.dropQuarantine
  split
  · exact h.dropQuarantine
  split
  · exact h
  split
  · exact h.closed ⟨rfl,rfl,rfl⟩ rfl rfl h.active (by simp [Rcp.dropQuarantine]) (fun _ => rfl) h.booting
  split
  · exact h.closed ⟨rfl,rfl,rfl⟩ rfl rfl (fun _ => rfl) (by simp) (fun _ => rfl) h.booting
  · exact h.closed ⟨rfl,rfl,rfl⟩ rfl rfl h.active (by simp) (fun _ => rfl) h.booting

theorem Session.announce {s : Endpoint} (h : Session s) (rcpAny : Bool) (nonce : UInt64) :
    Session (announce s rcpAny nonce) := by
  simp only [Rcp.announce]
  split
  · exact h
  · rename_i hr
    have ho := h.opened_eq_false (.inl (by simpa using hr))
    exact h.closed ⟨rfl,rfl,rfl⟩ ho (h.queue (.inl ho)) h.active h.quarantine h.pristine h.booting

theorem Session.espDeinitRcp {s : Endpoint} (h : Session s) :
    Session (espDeinitRcp s) ∧ (espDeinitRcp s).opened = false := by
  have hdone : ∀ {s : Endpoint}, Session s → s.opened = false →
      Session (if s.adapter.shuttingDown then Rcp.dropQuarantine s else s) ∧
        (if s.adapter.shuttingDown then Rcp.dropQuarantine s else s).opened = false := by
    intro s h ho
    split
    · exact ⟨h.dropQuarantine,ho⟩
    · exact ⟨h,ho⟩
  simp only [Rcp.espDeinitRcp]
  split
  · refine hdone (h.closed ⟨rfl,rfl,rfl⟩ rfl rfl (by simp) (fun _ => rfl) (fun _ => rfl) h.booting) rfl
  · rename_i hr
    exact hdone h (h.opened_eq_false (.inl (by simpa using hr)))

theorem Session.current {s : Endpoint} (h : Session s) : espRcpFileIsCurrent s = s.opened := by
  cases ho : s.opened with
  | false => simp [espRcpFileIsCurrent,ho]
  | true =>
    obtain ⟨hr,ha,hg⟩ := h.opened ho
    simp [espRcpFileIsCurrent,ho,hr,ha,hg]

/-- The reader only moves payloads of an acknowledged open file. -/
theorem Session.reader {s : Endpoint} (h : Session s) (hk : s.acked = true) {q : List Bytes}
    (hq : s.opened = false → q = []) (held : Option Bytes) (returned : Bytes) :
    Session {s with rxQ := q, held := held, returned := returned} :=
  { h with
    queue := fun hx => by
      rcases hx with hx | hx
      · exact hq hx
      · simp [hk] at hx
    unacked := fun hx => by simp [hk] at hx }

theorem Session.acked_of_rxQ {s : Endpoint} (h : Session s) {skb : Bytes} {q : List Bytes}
    (hq : s.rxQ = skb :: q) : s.opened = true ∧ s.acked = true := by
  constructor
  · by_contra hx
    rw [h.queue (.inl (by simpa using hx))] at hq
    cases hq
  · by_contra hx
    rw [h.queue (.inr (by simpa using hx))] at hq
    cases hq

theorem Session.acked_of_held {s : Endpoint} (h : Session s) {skb : Bytes} (hk : s.held = some skb) :
    s.acked = true := by
  by_contra hx
  rw [(h.unacked (by simpa using hx)).1] at hk
  cases hk

theorem Session.espRcpDequeueCurrent {s : Endpoint} (h : Session s) : Session (espRcpDequeueCurrent s) := by
  simp only [Rcp.espRcpDequeueCurrent]
  split
  · rename_i skb q hheld hq
    split
    · obtain ⟨ho,hk⟩ := h.acked_of_rxQ hq
      exact h.reader hk (fun hx => by simp [ho] at hx) (some skb) s.returned
    · exact h
  · exact h

theorem Session.requeue {s : Endpoint} (h : Session s) (hk : s.acked = true) (returned skb : Bytes) :
    Session (espRcpRequeueCurrent {s with held := none, returned := returned} skb) := by
  have hcur : espRcpFileIsCurrent {s with held := none, returned := returned} = s.opened := h.current
  simp only [Rcp.espRcpRequeueCurrent,hcur]
  split
  · rename_i ho
    exact h.reader hk (fun hx => by simp [ho] at hx) none returned
  · exact h.reader hk (fun hx => h.queue (.inl hx)) none returned

theorem Session.espRcpRead {s : Endpoint} (h : Session s) (count : Nat) (fault : Bool) :
    Session (espRcpRead s count fault) := by
  simp only [Rcp.espRcpRead]
  split
  · exact h
  · rename_i skb hheld
    have hk := h.acked_of_held hheld
    split
    · exact h.requeue hk s.returned skb
    split
    · exact h.requeue hk _ _
    · exact h.reader hk (fun hx => h.queue (.inl hx)) none _

theorem Session.unacked_of_accepted {s : Endpoint} (h : Session s) {nonce : UInt64}
    (hx : Opening.ackAccepted s nonce = true) :
    s.opened = true ∧ s.acked = false ∧ s.nonce ≠ 0 ∧ nonce = s.nonce := by
  simp only [Opening.ackAccepted,decide_eq_true_eq] at hx
  obtain ⟨-,ho,-,hn0,hn,hne⟩ := hx
  have hz : s.nonce ≠ 0 := hn ▸ hn0
  refine ⟨ho,?_,hz,hn⟩
  by_contra hk
  rcases h.nonce ho with hx | hx
  · exact hz hx.1
  · rw [if_pos (by simpa using hk),← hn] at hx
    exact hne hx.2

theorem Session.espRcpSessionAck {s : Endpoint} (h : Session s) (nonce : UInt64) :
    Session (espRcpSessionAck s nonce) := by
  simp only [Rcp.espRcpSessionAck]
  split
  · rename_i hx
    obtain ⟨ho,hk,hz,hn⟩ := h.unacked_of_accepted (by simpa [Opening.ackAccepted] using hx)
    have hpend : s.bootPending = false := by
      by_contra hb
      have hact := h.quarantine (by simpa using hb)
      rw [(h.opened ho).2.1] at hact
      cases hact
    exact { h with
      pristine := by simp [hpend]
      nonce := fun _ => .inr ⟨hz,hn⟩
      first := by simp
      queue := fun hx => by simp [ho] at hx
      unacked := by simp }
  · exact h

theorem Session.acked_of_ready {s : Endpoint} (h : Session s) (ho : s.opened = true)
    (hready : espRcpSessionReady s = true) (heq : s.ackedNonce = s.nonce) : s.acked = true := by
  obtain ⟨hi,-⟩ := ready_flags hready
  rcases h.nonce ho with hx | ⟨hz,hx⟩
  · rw [hi] at hx
    cases hx.2
  · by_contra hk
    rw [if_neg hk,heq] at hx
    exact hz hx

/-- What `esp_rcp_rx` can do with a payload. -/
inductive Received (s : Endpoint) (skb : Bytes) : Endpoint → Prop where
  | dropped (hand : List Bytes) {a : Adapter} (ha : Raises s.adapter a) :
    Received s skb {s with handed := hand, adapter := a}
  | earlyLost (hand : List Bytes) (o : Bool) {a : Adapter} (ha : Raises s.adapter a) :
    Received s skb {s with handed := hand, earlyQ := [], earlyOverflow := o, adapter := a}
  | rxLost (hand : List Bytes) {a : Adapter} (ha : Raises s.adapter a) :
    Received s skb {s with handed := hand, rxQ := [], adapter := a}
  | early (hand : List Bytes) (hkeep : keeps s (.data skb) = true) (hnew : s.everOpened = false) :
    Received s skb {s with handed := hand, earlyQ := s.earlyQ ++ [skb]}
  | rx (hand : List Bytes) (hkeep : keeps s (.data skb) = true) (ho : s.opened = true) (hk : s.acked = true) :
    Received s skb {s with handed := hand, rxQ := s.rxQ ++ [skb]}

theorem Raises.refl (a : Adapter) : Raises a a := ⟨id,id,rfl⟩

theorem Session.received {s : Endpoint} (h : Session s) (c : Clock) (now : Nat) (skb : Bytes) :
    Received s skb (processRxPacket c now s (.data skb)) := by
  have hfail := raises_failClosed c now s.adapter
  have hready : espRcpSessionReady {s with handed := s.handed ++ [skb]} = espRcpSessionReady s := rfl
  simp only [Rcp.processRxPacket]
  split
  · exact .dropped s.handed hfail
  simp only [Rcp.espRcpRx,hready]
  split
  · rename_i hb
    split
    · exact .earlyLost _ true (Raises.refl _)
    · exact .early _ (by simp [keeps,hb]) (h.pristine (.inl hb))
  split
  · exact .dropped _ (Raises.refl _)
  rename_i hgate
  simp only [not_or,Bool.not_eq_false] at hgate
  obtain ⟨hr,ha,hrdy⟩ := hgate
  split
  · exact .dropped _ (Raises.refl _)
  rename_i ho
  have ho : s.opened = true := by simpa using ho
  split
  · split
    · exact .dropped _ (Raises.refl _)
    rename_i hfirst
    have hfirst : s.openingFirst = true := by simpa using hfirst
    split
    · exact .earlyLost _ s.earlyOverflow hfail
    · exact .early _ (by simp [keeps,hr,ha,hrdy,ho,hfirst]) (h.pristine (.inr hfirst))
  · rename_i heq
    have heq : s.ackedNonce = s.nonce := not_not.mp heq
    split
    · exact .rxLost _ hfail
    · exact .rx _ (by simp [keeps,hr,ha,hrdy,ho,heq]) ho (h.acked_of_ready ho hrdy heq)

theorem Received.session {s s' : Endpoint} {skb : Bytes} (hr : Received s skb s') (h : Session s) : Session s' := by
  cases hr with
  | dropped hand ha => exact { h.setAdapter ha with }
  | earlyLost hand o ha => exact { h.setAdapter ha with }
  | rxLost hand ha => exact { h.setAdapter ha with queue := fun _ => rfl }
  | early hand hkeep hnew => exact { h with }
  | rx hand hkeep ho hk => exact { h with queue := fun hx => by simp [ho,hk] at hx }

/-- A step that leaves the file and its payloads alone, or drops payloads. -/
structure Quiet (s s' : Endpoint) : Prop where
  acked : s'.acked = s.acked
  held : s'.held = s.held
  returned : s'.returned = s.returned
  generation : s'.fileGeneration = s.fileGeneration
  firstOpen : s'.firstOpen = s.firstOpen
  opened : s'.opened = true → s.opened = true ∧ (s'.nonce = 0 ∨ s'.nonce = s.nonce)
  rxQ : s'.rxQ = s.rxQ ∨ s'.rxQ = []
  earlyQ : s'.earlyQ = s.earlyQ ∨ s'.earlyQ = []

theorem Quiet.refl (s : Endpoint) : Quiet s s :=
  ⟨rfl,rfl,rfl,rfl,rfl,fun h => ⟨h,.inr rfl⟩,.inl rfl,.inl rfl⟩

theorem Quiet.trans {s s' s'' : Endpoint} (h : Quiet s s') (k : Quiet s' s'') : Quiet s s'' where
  acked := k.acked.trans h.acked
  held := k.held.trans h.held
  returned := k.returned.trans h.returned
  generation := k.generation.trans h.generation
  firstOpen := k.firstOpen.trans h.firstOpen
  opened := fun ho => by
    obtain ⟨ho',hn⟩ := k.opened ho
    obtain ⟨ho'',hn'⟩ := h.opened ho'
    refine ⟨ho'',?_⟩
    rcases hn with hn | hn
    · exact .inl hn
    · rw [hn]
      exact hn'
  rxQ := by
    rcases k.rxQ with hk | hk
    · rw [hk]
      exact h.rxQ
    · exact .inr hk
  earlyQ := by
    rcases k.earlyQ with hk | hk
    · rw [hk]
      exact h.earlyQ
    · exact .inr hk

theorem Received.quiet_or {s s' : Endpoint} {skb : Bytes} (hr : Received s skb s') :
    Quiet s s' ∨
    (keeps s (.data skb) = true ∧ s.everOpened = false ∧
      ∃ hand, s' = {s with handed := hand, earlyQ := s.earlyQ ++ [skb]}) ∨
    (keeps s (.data skb) = true ∧ s.opened = true ∧ s.acked = true ∧
      ∃ hand, s' = {s with handed := hand, rxQ := s.rxQ ++ [skb]}) := by
  cases hr with
  | dropped hand ha => exact .inl ⟨rfl,rfl,rfl,rfl,rfl,fun hx => ⟨hx,.inr rfl⟩,.inl rfl,.inl rfl⟩
  | earlyLost hand o ha => exact .inl ⟨rfl,rfl,rfl,rfl,rfl,fun hx => ⟨hx,.inr rfl⟩,.inl rfl,.inr rfl⟩
  | rxLost hand ha => exact .inl ⟨rfl,rfl,rfl,rfl,rfl,fun hx => ⟨hx,.inr rfl⟩,.inr rfl,.inl rfl⟩
  | early hand hkeep hnew => exact .inr (.inl ⟨hkeep,hnew,hand,rfl⟩)
  | rx hand hkeep ho hk => exact .inr (.inr ⟨hkeep,ho,hk,hand,rfl⟩)

theorem quiet_dropQuarantine (s : Endpoint) : Quiet s (dropQuarantine s) :=
  ⟨rfl,rfl,rfl,rfl,rfl,fun h => ⟨h,.inr rfl⟩,.inl rfl,.inr rfl⟩

theorem quiet_espDeinitRcp (s : Endpoint) : Quiet s (espDeinitRcp s) := by
  simp only [Rcp.espDeinitRcp]
  split
  · have hclose : Quiet s {s with
        sessionActive := false
        opened := false
        everOpened := false
        openingFirst := false
        ackedNonce := 0
        rxQ := []
        registered := false} := ⟨rfl,rfl,rfl,rfl,rfl,by simp,.inr rfl,.inl rfl⟩
    split
    · exact hclose.trans (quiet_dropQuarantine _)
    · exact hclose
  · split
    · exact quiet_dropQuarantine s
    · exact Quiet.refl s

theorem quiet_espInitRcp (s : Endpoint) (reg : Bool) : Quiet s (espInitRcp s reg) := by
  simp only [Rcp.espInitRcp]
  split
  · exact quiet_dropQuarantine s
  split
  · exact quiet_dropQuarantine s
  split
  · exact Quiet.refl s
  split
  · exact ⟨rfl,rfl,rfl,rfl,rfl,by simp [Rcp.dropQuarantine],.inr rfl,.inr rfl⟩
  split
  · exact ⟨rfl,rfl,rfl,rfl,rfl,by simp,.inr rfl,.inl rfl⟩
  · exact ⟨rfl,rfl,rfl,rfl,rfl,by simp,.inr rfl,.inl rfl⟩

theorem quiet_espRcpNoteBootEvent (s : Endpoint) (active : Bool) :
    Quiet s (espRcpNoteBootEvent s active) ∧ (espRcpNoteBootEvent s active).earlyQ = [] := by
  simp only [Rcp.espRcpNoteBootEvent]
  split
  · exact ⟨⟨rfl,rfl,rfl,rfl,rfl,by simp,.inr rfl,.inr rfl⟩,rfl⟩
  · exact ⟨⟨rfl,rfl,rfl,rfl,rfl,fun h => ⟨h,.inr rfl⟩,.inl rfl,.inr rfl⟩,rfl⟩

theorem quiet_setAdapter (s : Endpoint) (a : Adapter) : Quiet s {s with adapter := a} :=
  ⟨rfl,rfl,rfl,rfl,rfl,fun h => ⟨h,.inr rfl⟩,.inl rfl,.inl rfl⟩

theorem Session.bootStart {s : Endpoint} (h : Session s) (hp : s.phase = .idle)
    (hd : s.adapter.shuttingDown = false) : Session (bootStart s) := by
  have hno : (s.adapter.initDone || s.adapter.recoveryPending || s.adapter.resetExpected) = false →
      s.opened = false := by
    intro hx
    simp only [Bool.or_eq_false_iff] at hx
    by_contra ho
    rcases h.stale (by simpa using ho) hx.1.1 with hs | hs | hs <;> simp_all
  exact { h with
    booting := fun _ => rfl
    cleaned := fun hx => by
      by_cases hr : (s.adapter.initDone || s.adapter.recoveryPending || s.adapter.resetExpected) = true
      · simp [Rcp.bootStart,hr] at hx
      · exact hno (by simpa using hr)
    stale := fun ho _ => by
      have hr : (s.adapter.initDone || s.adapter.recoveryPending || s.adapter.resetExpected) = true := by
        by_contra hr
        have hclosed := hno (by simpa using hr)
        simp [Rcp.bootStart,hclosed] at ho
      exact .inr (.inl (if_pos hr))
    nonce := fun _ => .inl ⟨rfl,rfl⟩ }

theorem Session.reconstruct {s s' : Endpoint} (h : Session s) (hp : s.phase = .cleaned ∨ s.phase = .reconstructing)
    (hs : s' = {s with adapter := s'.adapter, rcpAny := s'.rcpAny, nonce := s'.nonce, phase := s'.phase})
    (hb : s'.phase ≠ .idle → s'.adapter.initDone = false) : Session s' ∧ Quiet s s' := by
  have ho := h.cleaned hp
  rw [hs]
  refine ⟨h.closed ⟨rfl,rfl,rfl⟩ ho (h.queue (.inl ho)) h.active h.quarantine h.pristine hb,
    ⟨rfl,rfl,rfl,rfl,rfl,fun hx => ?_,.inl rfl,.inl rfl⟩⟩
  simp [ho] at hx

theorem Session.deinit {s s' : Endpoint} (h : Session s)
    (hs : s' = {Rcp.espDeinitRcp s with adapter := s'.adapter, nonce := s'.nonce, phase := s'.phase})
    (hb : s'.phase ≠ .idle → s'.adapter.initDone = false) : Session s' ∧ Quiet s s' := by
  obtain ⟨hd,ho⟩ := h.espDeinitRcp
  have hq : Quiet (Rcp.espDeinitRcp s) s' := by
    rw [hs]
    refine ⟨rfl,rfl,rfl,rfl,rfl,fun hx => ?_,.inl rfl,.inl rfl⟩
    simp [ho] at hx
  refine ⟨?_,(quiet_espDeinitRcp s).trans hq⟩
  rw [hs]
  exact hd.closed ⟨rfl,rfl,rfl⟩ ho (hd.queue (.inl ho)) hd.active hd.quarantine hd.pristine hb

/-- The actions of the reader, the opener and the receive work. -/
def busy : Rcp.Action → Bool
  | .packet _ _ => true
  | .open _ => true
  | .dequeue => true
  | .read _ _ => true
  | _ => false

theorem Session.quiet {c : Clock} {s s' : Endpoint} {a : Rcp.Action} (h : Session s) (ha : busy a = false)
    (hs : Rcp.step c s a = some s') : Session s' ∧ Quiet s s' := by
  cases a with
  | packet now p => simp [busy] at ha
  | «open» sent => simp [busy] at ha
  | dequeue => simp [busy] at ha
  | read count fault => simp [busy] at ha
  | openTimeout now =>
    obtain rfl := Option.some.inj hs
    refine ⟨h.espRcpOpenTimeout c now,?_⟩
    simp only [Rcp.espRcpOpenTimeout]
    split
    · exact ⟨rfl,rfl,rfl,rfl,rfl,by simp,.inr rfl,.inr rfl⟩
    · exact quiet_setAdapter s _
  | release now =>
    obtain rfl := Option.some.inj hs
    refine ⟨h.espRcpRelease c now,?_⟩
    simp only [Rcp.espRcpRelease]
    split
    · split
      · exact ⟨rfl,rfl,rfl,rfl,rfl,by simp,.inr rfl,.inr rfl⟩
      · exact ⟨rfl,rfl,rfl,rfl,rfl,by simp,.inr rfl,.inr rfl⟩
    · exact Quiet.refl s
  | request fwReset =>
    obtain rfl := Option.some.inj hs
    exact ⟨h.setAdapter (raises_schedule _ _),quiet_setAdapter s _⟩
  | resume now =>
    simp only [Rcp.step] at hs
    split at hs
    · obtain rfl := Option.some.inj hs
      exact ⟨h.setAdapter ⟨id,id,rfl⟩,quiet_setAdapter s _⟩
    · cases hs
  | bootStart =>
    simp only [Rcp.step] at hs
    split at hs
    · rename_i hx
      obtain rfl := Option.some.inj hs
      exact ⟨h.bootStart hx.1 hx.2,⟨rfl,rfl,rfl,rfl,rfl,fun ho => ⟨ho,.inl rfl⟩,.inl rfl,.inl rfl⟩⟩
    · cases hs
  | bootClean =>
    simp only [Rcp.step] at hs
    split at hs
    · rename_i hp
      obtain rfl := Option.some.inj hs
      refine h.deinit rfl fun _ => ?_
      rw [(espDeinitRcp_frame s).1]
      exact h.booting (by simp [hp])
    · cases hs
  | bootBegin rcpAny nonce =>
    simp only [Rcp.step] at hs
    split at hs
    · rename_i hp
      obtain rfl := Option.some.inj hs
      exact h.reconstruct (.inl hp) rfl fun _ => h.booting (by simp [hp])
    · cases hs
  | bootCommit =>
    simp only [Rcp.step] at hs
    split at hs
    · rename_i hp
      obtain rfl := Option.some.inj hs
      exact h.reconstruct (.inr hp) rfl fun hx => absurd rfl hx
    · cases hs
  | bootAbort now =>
    simp only [Rcp.step] at hs
    split at hs
    · cases hs
    · obtain rfl := Option.some.inj hs
      have hr : Raises s.adapter (Rcp.failClosed c now (espClearReconstructFlag s.adapter)) :=
        Raises.trans (b := espClearReconstructFlag s.adapter) ⟨id,id,rfl⟩ (raises_failClosed c now _)
      refine ⟨?_,⟨rfl,rfl,rfl,rfl,rfl,fun ho => ⟨ho,.inr rfl⟩,.inl rfl,.inl rfl⟩⟩
      exact { h.setAdapter hr with
        booting := fun hx => absurd rfl hx
        cleaned := fun hx => by rcases hx with hx | hx <;> cases hx
        stale := fun _ _ => (failClosed_fences c now _).imp id .inr }
  | failAfterCommit now =>
    simp only [Rcp.step] at hs
    split at hs
    · rename_i hp
      obtain rfl := Option.some.inj hs
      rw [espDeinitRcp_setAdapter s {s.adapter with cleanupInProgress := true, initDone := false} rfl]
      exact h.deinit rfl fun hx => absurd ((espDeinitRcp_frame s).2.trans hp) hx
    · cases hs
  | initRcp rcpAny nonce reg =>
    obtain rfl := Option.some.inj hs
    refine ⟨(h.announce rcpAny nonce).espInitRcp reg,Quiet.trans ?_ (quiet_espInitRcp _ reg)⟩
    simp only [Rcp.announce]
    split
    · exact Quiet.refl s
    · rename_i hr
      have ho := h.opened_eq_false (.inl (by simpa using hr))
      exact ⟨rfl,rfl,rfl,rfl,rfl,fun hx => by simp [ho] at hx,.inl rfl,.inl rfl⟩
  | deinitRcp =>
    obtain rfl := Option.some.inj hs
    exact h.deinit rfl h.espDeinitRcp.1.booting
  | remove =>
    obtain rfl := Option.some.inj hs
    exact ⟨h.setAdapter ⟨id,fun _ => rfl,rfl⟩,quiet_setAdapter s _⟩

def Frame.bootInc (f : Frame) : Option Nat := if isBoot f.body then some f.inc else none

/-- A boot event waits in the high queue for every incarnation from `taken` on. -/
structure Queues (s : State) : Prop where
  high : ∀ f ∈ s.high, f.body.ifType = .internal
  mid : ∀ f ∈ s.mid, f.body.ifType ≠ .internal ∧ f.inc ≤ s.inc ∧ f.no < s.count
  low : ∀ f ∈ s.low, f.body.ifType = .other
  order : s.mid.Pairwise (·.no < ·.no)
  le : s.taken ≤ s.inc
  boots : s.high.filterMap Frame.bootInc = List.range' (s.taken+1) (s.inc-s.taken)

theorem Queues.taken_eq {s : State} (h : Queues s) (hhigh : s.high = []) : s.taken = s.inc := by
  have hboots := congrArg List.length h.boots
  have hle := h.le
  simp only [hhigh,List.filterMap_nil,List.length_nil,List.length_range'] at hboots
  omega

theorem Queues.processRxBuf {s : State} (h : Queues s) {body : Body} (hbody : isBoot body = false) :
    Queues (processRxBuf s body) := by
  have hmid : ∀ f ∈ s.mid, f.body.ifType ≠ .internal ∧ f.inc ≤ s.inc ∧ f.no < s.count+1 := by
    intro f hf
    obtain ⟨h1,h2,h3⟩ := h.mid f hf
    exact ⟨h1,h2,by omega⟩
  have horder : ∀ f : Frame, f.no = s.count → (s.mid ++ [f]).Pairwise (·.no < ·.no) := by
    intro f hf
    refine List.pairwise_append.mpr ⟨h.order,by simp,fun g hg e he => ?_⟩
    rw [List.mem_singleton] at he
    have hlt := (h.mid g hg).2.2
    rw [he,hf]
    exact hlt
  simp only [Isolation.processRxBuf]
  cases hi : body.ifType with
  | internal =>
    refine ⟨?_,hmid,h.low,h.order,h.le,?_⟩
    · intro f hf
      rcases List.mem_append.mp hf with hf | hf
      · exact h.high f hf
      · rw [List.mem_singleton.mp hf]
        exact hi
    · simpa [Frame.bootInc,hbody] using h.boots
  | hci =>
    refine ⟨h.high,?_,h.low,horder _ rfl,h.le,h.boots⟩
    intro f hf
    rcases List.mem_append.mp hf with hf | hf
    · exact hmid f hf
    · rw [List.mem_singleton.mp hf]
      simp [hi]
  | rcp =>
    refine ⟨h.high,?_,h.low,horder _ rfl,h.le,h.boots⟩
    intro f hf
    rcases List.mem_append.mp hf with hf | hf
    · exact hmid f hf
    · rw [List.mem_singleton.mp hf]
      simp [hi]
  | other =>
    refine ⟨h.high,hmid,?_,h.order,h.le,h.boots⟩
    intro f hf
    rcases List.mem_append.mp hf with hf | hf
    · exact h.low f hf
    · rw [List.mem_singleton.mp hf]
      exact hi

theorem Queues.boot {s : State} (h : Queues s) (legacy : Bool) :
    Queues (Isolation.processRxBuf {s with inc := s.inc+1} (.boot legacy)) := by
  have hle := h.le
  refine ⟨?_,?_,h.low,h.order,by simp only [Isolation.processRxBuf,Body.ifType]; omega,?_⟩
  · intro f hf
    rcases List.mem_append.mp hf with hf | hf
    · exact h.high f hf
    · rw [List.mem_singleton.mp hf]
      rfl
  · intro f hf
    obtain ⟨h1,h2,h3⟩ := h.mid f hf
    simp only [Isolation.processRxBuf,Body.ifType]
    exact ⟨h1,by omega,by omega⟩
  · have hlen : s.inc+1-s.taken = s.inc-s.taken+1 := by omega
    have hlast : s.taken+1+(s.inc-s.taken) = s.inc+1 := by omega
    simp [Isolation.processRxBuf,Body.ifType,Frame.bootInc,isBoot,h.boots,hlen,List.range'_1_concat,hlast]

theorem Queues.shrink {s s' : State} (h : Queues s) (hhigh : s'.high.Sublist s.high)
    (hboots : s'.high.filterMap Frame.bootInc = s.high.filterMap Frame.bootInc) (hmid : s'.mid.Sublist s.mid)
    (hlow : s'.low.Sublist s.low) (hsame : s'.inc = s.inc ∧ s'.count = s.count ∧ s'.taken = s.taken) : Queues s' := by
  obtain ⟨h1,h2,h3⟩ := hsame
  refine ⟨fun f hf => h.high f (hhigh.subset hf),fun f hf => ?_,fun f hf => h.low f (hlow.subset hf),
    h.order.sublist hmid,?_,?_⟩
  · rw [h1,h2]
    exact h.mid f (hmid.subset hf)
  · rw [h1,h3]
    exact h.le
  · rw [h1,h3,hboots]
    exact h.boots

/-- The payload is of the file's own session: sent by the incarnation that confirmed the
open and handed over after the ACK, or in quarantine before any open was confirmed. -/
def Own (s : State) (a : Arrival) : Prop :=
  ∃ k ∈ s.ack, a.inc = k.inc ∧
    (k.no < a.no ∧ a.generation = s.ep.fileGeneration ∨ s.ep.firstOpen = true ∧ a.everOpened = false)

/-- Every payload the file has read or may still read. -/
def State.mine (s : State) : List Arrival := s.rx ++ (s.held.toList ++ s.reads.map (·.1))

def Left (a : Arrival) (skb : Bytes) : Prop := skb <:+ a.payload

structure Inv (nonce : Nat → UInt64) (s : State) : Prop where
  queues : Queues s
  session : Session s.ep
  rx : List.Forall₂ Left s.rx s.ep.rxQ
  early : List.Forall₂ Left s.early s.ep.earlyQ
  held : Option.Rel Left s.held s.ep.held
  bytes : (s.reads.map (·.2)).flatten = s.ep.returned
  part : ∀ r ∈ s.reads, r.2 <:+: r.1.payload
  quarantined : ∀ a ∈ s.early, a.inc = s.taken ∧ a.everOpened = false
  own : ∀ a ∈ s.mine, Own s a
  ack : s.ack.isSome = s.ep.acked
  confirmed : ∀ k ∈ s.ack, k.no < s.count ∧ nonce k.inc = s.started
  current : s.ep.opened = true → ∀ k ∈ s.ack, k.inc = s.taken ∧ ∀ f ∈ s.mid, k.no < f.no
  started : s.ep.opened = true → s.ep.nonce = 0 ∨ s.ep.nonce = s.started

theorem inv_start (nonce : Nat → UInt64) : Inv nonce {} where
  queues := ⟨by simp,by simp,by simp,by simp,by simp,rfl⟩
  session := session_initial
  rx := .nil
  early := .nil
  held := .none
  bytes := rfl
  part := by simp
  quarantined := by simp
  own := by simp [State.mine]
  ack := rfl
  confirmed := by simp
  current := by simp
  started := by simp

theorem mem_of_mem_kept {marks : List Arrival} {q : List Bytes} {a : Arrival} (h : a ∈ kept marks q) : a ∈ marks := by
  simp only [kept] at h
  split at h
  · cases h
  · exact h

theorem forall₂_kept {marks : List Arrival} {q q' : List Bytes} (h : List.Forall₂ Left marks q)
    (hq : q' = q ∨ q' = []) : List.Forall₂ Left (kept marks q') q' := by
  simp only [kept]
  split
  · rename_i hx
    rw [hx]
    exact .nil
  · rename_i hx
    rw [hq.resolve_right hx]
    exact h

theorem added_kept (marks : List Arrival) (a : Arrival) {q q' : List Bytes} (hq : q' = q ∨ q' = []) :
    added marks a q q' = kept marks q' := by
  rcases hq with hq | hq <;> simp [added,hq]

theorem added_concat (marks : List Arrival) (a : Arrival) (q : List Bytes) (skb : Bytes) :
    added marks a q (q ++ [skb]) = marks ++ [a] := by
  simp [added]

theorem forall₂_concat {marks : List Arrival} {q : List Bytes} (h : List.Forall₂ Left marks q) {a : Arrival}
    {skb : Bytes} (ha : Left a skb) : List.Forall₂ Left (marks ++ [a]) (q ++ [skb]) :=
  List.rel_append h (.cons ha .nil)

/-- Frames are lost or arrive, and the endpoint does not notice. -/
theorem Inv.setQueues {nonce : Nat → UInt64} {s s' : State} (h : Inv nonce s) (hq : Queues s')
    (hs : s' = {s with high := s'.high, mid := s'.mid, low := s'.low, inc := s'.inc, count := s'.count})
    (hcount : s.count ≤ s'.count) (hmid : ∀ f ∈ s'.mid, f ∈ s.mid ∨ s.count ≤ f.no) : Inv nonce s' := by
  rw [hs] at hq ⊢
  refine ⟨hq,h.session,h.rx,h.early,h.held,h.bytes,h.part,h.quarantined,h.own,h.ack,fun k hk => ?_,
    fun ho k hk => ⟨(h.current ho k hk).1,fun f hf => ?_⟩,h.started⟩
  · obtain ⟨hno,hn⟩ := h.confirmed k hk
    exact ⟨Nat.lt_of_lt_of_le hno hcount,hn⟩
  · rcases hmid f hf with hf | hf
    · exact (h.current ho k hk).2 f hf
    · exact Nat.lt_of_lt_of_le (h.confirmed k hk).1 hf

theorem Inv.flushRcpTraffic {nonce : Nat → UInt64} {s : State} (h : Inv nonce s) : Inv nonce (flushRcpTraffic s) := by
  have hsub : (Isolation.flushRcpTraffic s).mid.Sublist s.mid := List.filter_sublist
  refine h.setQueues (h.queues.shrink (.refl _) rfl hsub (.refl _) ⟨rfl,rfl,rfl⟩) rfl (Nat.le_refl _) fun f hf => ?_
  exact .inl (hsub.subset hf)

theorem Inv.processRxBuf {nonce : Nat → UInt64} {s : State} (h : Inv nonce s) {body : Body} (inc : Nat)
    (hq : Queues (processRxBuf {s with inc := inc} body)) : Inv nonce (processRxBuf {s with inc := inc} body) := by
  refine h.setQueues hq ?_ ?_ ?_
  · simp only [Isolation.processRxBuf]
    cases body.ifType <;> rfl
  · simp only [Isolation.processRxBuf]
    cases body.ifType <;> exact Nat.le_succ _
  · intro f hf
    simp only [Isolation.processRxBuf] at hf
    cases hi : body.ifType <;> simp only [hi,List.mem_append,List.mem_singleton] at hf
    · exact .inl hf
    · exact hf.imp id fun hx => by simp [hx]
    · exact hf.imp id fun hx => by simp [hx]
    · exact .inl hf

theorem mem_mine_kept {s s' : State} {q : List Bytes} {a : Arrival} (ha : a ∈ s'.mine)
    (hrx : s'.rx = kept s.rx q) (hheld : s'.held = s.held) (hreads : s'.reads = s.reads) : a ∈ s.mine := by
  simp only [State.mine,hrx,hheld,hreads,List.mem_append] at ha ⊢
  exact ha.imp mem_of_mem_kept id

theorem Inv.quiet {nonce : Nat → UInt64} {s : State} (h : Inv nonce s) {ep : Endpoint} (hep : Session ep)
    (hq : Quiet s.ep ep) {high : List Frame} {taken : Nat}
    (hqueues : Queues {s with high := high, taken := taken})
    (htaken : taken = s.taken ∨ ep.opened = false ∧ ep.earlyQ = []) :
    Inv nonce {s with
      ep := ep, high := high, taken := taken, rx := kept s.rx ep.rxQ, early := kept s.early ep.earlyQ} := by
  refine ⟨hqueues.shrink (.refl _) rfl (.refl _) (.refl _) ⟨rfl,rfl,rfl⟩,hep,forall₂_kept h.rx hq.rxQ,
    forall₂_kept h.early hq.earlyQ,?_,?_,h.part,fun a ha => ?_,fun a ha => ?_,h.ack.trans hq.acked.symm,h.confirmed,
    fun ho k hk => ?_,fun ho => ?_⟩
  · rw [hq.held]
    exact h.held
  · rw [hq.returned]
    exact h.bytes
  · obtain ⟨h1,h2⟩ := h.quarantined a (mem_of_mem_kept ha)
    rcases htaken with ht | ht
    · exact ⟨h1.trans ht.symm,h2⟩
    · simp [kept,ht.2] at ha
  · obtain ⟨k,hk,hx⟩ := h.own a (mem_mine_kept ha rfl rfl rfl)
    refine ⟨k,hk,?_⟩
    rw [hq.generation,hq.firstOpen]
    exact hx
  · rcases htaken with ht | ht
    · obtain ⟨h1,h2⟩ := h.current (hq.opened ho).1 k hk
      exact ⟨h1.trans ht.symm,h2⟩
    · rw [ht.1] at ho
      cases ho
  · obtain ⟨ho',hn⟩ := hq.opened ho
    rcases hn with hn | hn
    · exact .inl hn
    · rw [hn]
      exact h.started ho'

theorem Inv.data {nonce : Nat → UInt64} {s : State} (h : Inv nonce s) (c : Clock) (now : Nat) (f : Frame)
    (payload : Bytes) (hinc : keeps s.ep (.data payload) = true → f.inc = s.taken)
    (hno : s.ep.opened = true → ∀ k ∈ s.ack, k.no < f.no) :
    Inv nonce (processPacket c now s f (.data payload)) := by
  have hr := h.session.received c now payload
  have hep := hr.session h.session
  simp only [processPacket]
  generalize processRxPacket c now s.ep (.data payload) = ep at hr hep ⊢
  rcases hr.quiet_or with hq | ⟨hkeep,hnew,hand,rfl⟩ | ⟨hkeep,ho,hk,hand,rfl⟩
  · rw [added_kept _ _ hq.rxQ,added_kept _ _ hq.earlyQ]
    exact h.quiet hep hq h.queues (.inl rfl)
  · rw [added_kept _ _ (.inl rfl),added_concat]
    refine ⟨h.queues.shrink (.refl _) rfl (.refl _) (.refl _) ⟨rfl,rfl,rfl⟩,hep,forall₂_kept h.rx (.inl rfl),
      forall₂_concat h.early (List.suffix_refl _),h.held,h.bytes,h.part,fun a ha => ?_,
      fun a ha => h.own a (mem_mine_kept ha rfl rfl rfl),h.ack,h.confirmed,h.current,h.started⟩
    rcases List.mem_append.mp ha with ha | ha
    · exact h.quarantined a ha
    · rw [List.mem_singleton.mp ha]
      exact ⟨hinc hkeep,hnew⟩
  · rw [added_concat,added_kept _ _ (.inl rfl)]
    refine ⟨h.queues.shrink (.refl _) rfl (.refl _) (.refl _) ⟨rfl,rfl,rfl⟩,hep,
      forall₂_concat h.rx (List.suffix_refl _),forall₂_kept h.early (.inl rfl),h.held,h.bytes,h.part,
      fun a ha => h.quarantined a (mem_of_mem_kept ha),fun a ha => ?_,h.ack,h.confirmed,h.current,h.started⟩
    simp only [State.mine,List.append_assoc,List.mem_append,List.mem_singleton] at ha
    rcases ha with ha | ha | ha
    · exact h.own a (List.mem_append_left _ ha)
    · have hsome : s.ack.isSome = true := h.ack.trans hk
      obtain ⟨k,hk'⟩ := Option.isSome_iff_exists.mp hsome
      refine ⟨k,hk',?_⟩
      rw [ha]
      exact ⟨(hinc hkeep).trans (h.current ho k hk').1.symm,.inl ⟨hno ho k hk',(h.session.opened ho).2.2.symm⟩⟩
    · exact h.own a (List.mem_append_right _ (List.mem_append.mpr ha))

/-- The ACK opens the quarantine, which holds payloads of its own sender only. -/
theorem Inv.sessionAck {nonce : Nat → UInt64} {s : State} (h : Inv nonce s) (c : Clock) (now : Nat) (f : Frame)
    (hinc : Opening.ackAccepted s.ep (nonce f.inc) = true → f.inc = s.taken) (hcount : f.no < s.count)
    (hno : ∀ g ∈ s.mid, f.no < g.no) : Inv nonce (processPacket c now s f (.session (nonce f.inc))) := by
  simp only [processPacket]
  split
  · rename_i hacc
    obtain ⟨ho,hk,hz,hn⟩ := h.session.unacked_of_accepted hacc
    have hep := h.session.espRcpSessionAck (nonce f.inc)
    have hnone : s.ack = none := by
      have hx := h.ack
      rw [hk] at hx
      simpa using hx
    have hmine : s.mine = [] := by
      rw [List.eq_nil_iff_forall_not_mem]
      intro a ha
      obtain ⟨k,hk',-⟩ := h.own a ha
      simp [hnone] at hk'
    simp only [State.mine,List.append_eq_nil_iff] at hmine
    obtain ⟨hrx,hheld,hreads⟩ := hmine
    have hstart : s.ep.nonce = s.started := (h.started ho).resolve_left hz
    have hack : espRcpSessionAck s.ep (nonce f.inc) = {s.ep with
        ackedNonce := nonce f.inc
        rxQ := if s.ep.openingFirst then s.ep.rxQ ++ s.ep.earlyQ else []
        earlyQ := []
        everOpened := true
        openingFirst := false
        acked := true
        ackAt := s.ep.handed.length
        released := if s.ep.openingFirst then s.ep.rxQ ++ s.ep.earlyQ else []} := by
      simp only [Opening.ackAccepted,decide_eq_true_eq] at hacc
      simp only [Rcp.espRcpSessionAck,if_pos hacc]
    rw [hack] at hep ⊢
    refine ⟨h.queues.shrink (.refl _) rfl (.refl _) (.refl _) ⟨rfl,rfl,rfl⟩,hep,?_,.nil,h.held,h.bytes,h.part,
      by simp,fun a ha => ?_,rfl,fun k hk' => ?_,fun _ k hk' => ?_,h.started⟩
    · dsimp only
      split
      · exact List.rel_append h.rx h.early
      · exact .nil
    · refine ⟨f,rfl,?_⟩
      simp only [State.mine,hrx,hheld,hreads,List.nil_append,List.append_nil] at ha
      split at ha
      · rename_i hfirst
        obtain ⟨h1,h2⟩ := h.quarantined a ha
        exact ⟨h1.trans (hinc hacc).symm,.inr ⟨h.session.first ho hfirst,h2⟩⟩
      · cases ha
    · obtain rfl := Option.mem_some_iff.mp hk'
      exact ⟨hcount,hn.trans hstart⟩
    · obtain rfl := Option.mem_some_iff.mp hk'
      exact ⟨hinc hacc,hno⟩
  · exact h

theorem Inv.bootEvent {nonce : Nat → UInt64} {s : State} (h : Inv nonce s) (c : Clock) (now : Nat) {f : Frame}
    {q : List Frame} {legacy : Bool} (hhigh : s.high = f :: q) (hbody : f.body = .boot legacy)
    (hclean : espRcpFailClosedRequired s.ep = true ∨ legacy = true ∨ s.ep.earlyQ = []) :
    Inv nonce (processPacket c now {s with high := q} f (.boot legacy)) := by
  have hboots := h.queues.boots
  have hle := h.queues.le
  simp only [hhigh,List.filterMap_cons,Frame.bootInc,hbody,isBoot,if_true] at hboots
  obtain ⟨n,hn⟩ : ∃ n, s.inc-s.taken = n+1 := by
    cases hx : s.inc-s.taken with
    | zero => simp [hx] at hboots
    | succ n => exact ⟨n,rfl⟩
  rw [hn,List.range'_succ,List.cons.injEq] at hboots
  obtain ⟨hinc,hrest⟩ := hboots
  have hqueues : Queues {s with high := q, taken := f.inc} := by
    refine ⟨fun g hg => h.queues.high g (by simp [hhigh,hg]),h.queues.mid,h.queues.low,h.queues.order,?_,?_⟩
    · simp only [hinc]
      omega
    · have hlen : s.inc-(s.taken+1) = n := by omega
      simp only [hinc,hlen]
      exact hrest
  have hstep : ∃ ep, processRxPacket c now s.ep (.boot legacy) = ep ∧ Session ep ∧ Quiet s.ep ep ∧
      ep.opened = false ∧ ep.earlyQ = [] := by
    refine ⟨_,rfl,?_⟩
    simp only [Rcp.processRxPacket]
    split
    · obtain ⟨hs,ho⟩ := h.session.espRcpNoteBootEvent legacy
      obtain ⟨hq,he⟩ := quiet_espRcpNoteBootEvent s.ep legacy
      exact ⟨hs,hq,ho,he⟩
    · rename_i hx
      simp only [Bool.or_eq_true,not_or] at hx
      refine ⟨h.session,Quiet.refl _,?_,(hclean.resolve_left hx.1).resolve_left hx.2⟩
      by_contra ho
      obtain ⟨hr,ha,-⟩ := h.session.opened (by simpa using ho)
      simp [espRcpFailClosedRequired,hr,ha] at hx
  obtain ⟨ep,hep,hs,hq,hidle⟩ := hstep
  have hall := h.quiet hs hq hqueues (.inr hidle)
  simp only [processPacket,hep]
  split
  · exact hall.flushRcpTraffic
  · exact hall

theorem Inv.adapterOnly {nonce : Nat → UInt64} {s : State} (h : Inv nonce s) {a : Adapter}
    (ha : Raises s.ep.adapter a) : Inv nonce {s with ep := {s.ep with adapter := a}} :=
  ⟨h.queues.shrink (.refl _) rfl (.refl _) (.refl _) ⟨rfl,rfl,rfl⟩,h.session.setAdapter ha,h.rx,h.early,h.held,
    h.bytes,h.part,h.quarantined,h.own,h.ack,h.confirmed,h.current,h.started⟩

/-- A frame that is neither RCP data, an ACK nor a boot event can only ask for a reset. -/
theorem Inv.unconcerned {nonce : Nat → UInt64} {s : State} (h : Inv nonce s) (c : Clock) (now : Nat) {f : Frame}
    (hf : (∃ i, f.body = .corrupt i) ∨ ∃ i, f.body = .misc i) :
    Inv nonce (match f.packet nonce with
      | none => s
      | some p => processPacket c now s f p) := by
  have hfail := h.adapterOnly (raises_failClosed c now s.ep.adapter)
  rcases hf with ⟨i,hi⟩ | ⟨i,hi⟩
  · simp only [Frame.packet,hi,processPacket,Rcp.processRxPacket]
    split
    · exact hfail
    · exact h
  · simp only [Frame.packet,hi]
    by_cases hrcp : i = .rcp
    · simp only [hrcp,if_true,processPacket,Rcp.processRxPacket]
      exact hfail
    · simp only [hrcp,if_false]
      exact h

theorem Inv.readHigh {nonce : Nat → UInt64} {s : State} (h : Inv nonce s) (c : Clock) (now : Nat) {f : Frame}
    {q : List Frame} (hhigh : s.high = f :: q) (hclean : cleanFrame nonce s f = true) :
    Inv nonce (match f.packet nonce with
      | none => {s with high := q}
      | some p => processPacket c now {s with high := q} f p) := by
  have hif := h.queues.high f (by simp [hhigh])
  have hpop : isBoot f.body = false → Inv nonce {s with high := q} := by
    intro hb
    refine h.setQueues (h.queues.shrink ?_ ?_ (.refl _) (.refl _) ⟨rfl,rfl,rfl⟩) rfl (Nat.le_refl _) fun g hg => .inl hg
    · rw [hhigh]
      exact List.sublist_cons_self f q
    · simp [hhigh,Frame.bootInc,hb]
  cases hb : f.body with
  | boot legacy =>
    simp only [cleanFrame,Frame.packet,hb,Bool.or_eq_true,List.isEmpty_iff] at hclean
    simp only [Frame.packet,hb]
    exact h.bootEvent c now hhigh hb (or_assoc.mp hclean)
  | session => simp [hb,Body.ifType] at hif
  | data payload => simp [hb,Body.ifType] at hif
  | corrupt i => exact (hpop (by simp [hb,isBoot])).unconcerned c now (.inl ⟨i,hb⟩)
  | misc i => exact (hpop (by simp [hb,isBoot])).unconcerned c now (.inr ⟨i,hb⟩)

theorem Inv.readMid {nonce : Nat → UInt64} {s : State} (h : Inv nonce s) (c : Clock) (now : Nat) {f : Frame}
    {q : List Frame} (hhigh : s.high = []) (hmid : s.mid = f :: q) (hclean : cleanFrame nonce s f = true) :
    Inv nonce (match f.packet nonce with
      | none => {s with mid := q}
      | some p => processPacket c now {s with mid := q} f p) := by
  have hf : f ∈ s.mid := by simp [hmid]
  obtain ⟨hif,hinc,hno⟩ := h.queues.mid f hf
  have htaken := h.queues.taken_eq hhigh
  have horder := h.queues.order
  rw [hmid,List.pairwise_cons] at horder
  have hsub : q.Sublist s.mid := by
    rw [hmid]
    exact List.sublist_cons_self f q
  have hpop : Inv nonce {s with mid := q} :=
    h.setQueues (h.queues.shrink (.refl _) rfl hsub (.refl _) ⟨rfl,rfl,rfl⟩) rfl (Nat.le_refl _)
      fun g hg => .inl (hsub.subset hg)
  have hnew : ∀ p, f.packet nonce = some p → isBoot f.body = false → keeps s.ep p = true → f.inc = s.taken := by
    intro p hp hb hkeep
    have hle : s.taken ≤ f.inc := by
      cases p with
      | boot legacy =>
        cases hbody : f.body <;> simp [Frame.packet,hbody,isBoot] at hp hb
      | _ => simpa [cleanFrame,hp,hkeep] using hclean
    omega
  cases hb : f.body with
  | boot legacy => simp [hb,Body.ifType] at hif
  | session =>
    have hp : f.packet nonce = some (.session (nonce f.inc)) := by simp [Frame.packet,hb]
    simp only [hp]
    exact hpop.sessionAck c now f (hnew _ hp (by simp [hb,isBoot])) hno horder.1
  | data payload =>
    have hp : f.packet nonce = some (.data payload) := by simp [Frame.packet,hb]
    simp only [hp]
    exact hpop.data c now f payload (hnew _ hp (by simp [hb,isBoot])) fun ho k hk => (h.current ho k hk).2 f hf
  | corrupt i => exact hpop.unconcerned c now (.inl ⟨i,hb⟩)
  | misc i => exact hpop.unconcerned c now (.inr ⟨i,hb⟩)

theorem Inv.readLow {nonce : Nat → UInt64} {s : State} (h : Inv nonce s) (c : Clock) (now : Nat) {f : Frame}
    {q : List Frame} (hlow : s.low = f :: q) :
    Inv nonce (match f.packet nonce with
      | none => {s with low := q}
      | some p => processPacket c now {s with low := q} f p) := by
  have hif := h.queues.low f (by simp [hlow])
  have hsub : q.Sublist s.low := by
    rw [hlow]
    exact List.sublist_cons_self f q
  have hpop : Inv nonce {s with low := q} :=
    h.setQueues (h.queues.shrink (.refl _) rfl (.refl _) hsub ⟨rfl,rfl,rfl⟩) rfl (Nat.le_refl _) fun g hg => .inl hg
  cases hb : f.body with
  | boot legacy => simp [hb,Body.ifType] at hif
  | session => simp [hb,Body.ifType] at hif
  | data payload => simp [hb,Body.ifType] at hif
  | corrupt i => exact hpop.unconcerned c now (.inl ⟨i,hb⟩)
  | misc i => exact hpop.unconcerned c now (.inr ⟨i,hb⟩)

theorem Inv.rxWork {nonce : Nat → UInt64} {s : State} (h : Inv nonce s) (c : Clock) (now : Nat)
    (hclean : Clean nonce s (.rxWork now)) : Inv nonce (rxWork c nonce now s) := by
  simp only [Clean,clean] at hclean
  cases hhigh : s.high with
  | cons f q =>
    have hread : readPacket s = some (f,{s with high := q}) := by simp [readPacket,hhigh]
    rw [hread] at hclean
    simp only [Isolation.rxWork,hread]
    exact h.readHigh c now hhigh hclean
  | nil =>
    cases hmid : s.mid with
    | cons f q =>
      have hread : readPacket s = some (f,{s with mid := q}) := by simp [readPacket,hhigh,hmid]
      rw [hread] at hclean
      simp only [Isolation.rxWork,hread]
      exact h.readMid c now hhigh hmid hclean
    | nil =>
      cases hlow : s.low with
      | cons f q =>
        have hread : readPacket s = some (f,{s with low := q}) := by simp [readPacket,hhigh,hmid,hlow]
        simp only [Isolation.rxWork,hread]
        exact h.readLow c now hlow
      | nil =>
        have hread : readPacket s = none := by simp [readPacket,hhigh,hmid,hlow]
        simp only [Isolation.rxWork,hread]
        exact h

theorem espRcpOpen_refused {s : Endpoint} (h : opens s = false) (sent : Bool) : espRcpOpen s sent = s := by
  simp only [Rcp.espRcpOpen]
  split
  · rfl
  rename_i hgate
  split
  · rfl
  rename_i ho
  simp_all [opens]

theorem espRcpOpen_fresh {s : Endpoint} (h : opens s = true) (sent : Bool) :
    (espRcpOpen s sent).rxQ = [] ∧ (espRcpOpen s sent).held = none ∧ (espRcpOpen s sent).returned = [] ∧
    (espRcpOpen s sent).acked = false ∧ (espRcpOpen s sent).nonce = s.nonce ∧
    ((espRcpOpen s sent).earlyQ = s.earlyQ ∨ (espRcpOpen s sent).earlyQ = []) := by
  simp only [opens,Bool.and_eq_true,Bool.not_eq_true'] at h
  obtain ⟨⟨⟨hr,ha⟩,hready⟩,ho⟩ := h
  have hearly : (if s.everOpened = true then [] else s.earlyQ) = s.earlyQ ∨
      (if s.everOpened = true then [] else s.earlyQ) = [] := by
    cases s.everOpened
    · exact .inl rfl
    · exact .inr rfl
  simp only [Rcp.espRcpOpen,hr,ha,hready,ho,Bool.true_eq_false,Bool.false_eq_true,or_false,if_false]
  split
  · exact ⟨rfl,rfl,rfl,rfl,rfl,hearly⟩
  · exact ⟨rfl,rfl,rfl,rfl,rfl,hearly⟩

theorem Inv.opening {nonce : Nat → UInt64} {s : State} (h : Inv nonce s) (sent : Bool) :
    Inv nonce (follow s (espRcpOpen s.ep sent) (.open sent)) := by
  have hep := h.session.espRcpOpen sent
  simp only [follow]
  split
  · rename_i hopens
    obtain ⟨hrx,hheld,hret,hack,hnonce,hearly⟩ := espRcpOpen_fresh hopens sent
    refine ⟨h.queues.shrink (.refl _) rfl (.refl _) (.refl _) ⟨rfl,rfl,rfl⟩,hep,?_,forall₂_kept h.early hearly,?_,
      hret.symm,by simp,fun a ha => h.quarantined a (mem_of_mem_kept ha),?_,hack.symm,by simp,by simp,
      fun _ => .inr hnonce⟩
    · simp only [hrx,kept,if_true]
      exact .nil
    · simp only [hheld]
      exact .none
    · simp [State.mine,hrx,kept]
  · rename_i hopens
    rw [espRcpOpen_refused (by simpa using hopens)]
    exact h.quiet h.session (Quiet.refl _) h.queues (.inl rfl)

theorem Inv.dequeue {nonce : Nat → UInt64} {s : State} (h : Inv nonce s) :
    Inv nonce (follow s (espRcpDequeueCurrent s.ep) .dequeue) := by
  have hep := h.session.espRcpDequeueCurrent
  have hsame : espRcpDequeueCurrent s.ep = s.ep → Inv nonce (follow s (espRcpDequeueCurrent s.ep) .dequeue) := by
    intro hx
    rw [hx]
    simpa [follow] using h
  cases hheld : s.ep.held with
  | some skb => exact hsame (by simp [Rcp.espRcpDequeueCurrent,hheld])
  | none =>
    cases hrx : s.ep.rxQ with
    | nil => exact hsame (by simp [Rcp.espRcpDequeueCurrent,hheld,hrx])
    | cons skb q =>
      by_cases hcur : espRcpFileIsCurrent s.ep = true
      · have hdeq : espRcpDequeueCurrent s.ep = {s.ep with rxQ := q, held := some skb} := by
          simp [Rcp.espRcpDequeueCurrent,hheld,hrx,hcur]
        have hmarks := h.rx
        rw [hrx] at hmarks
        cases hm : s.rx with
        | nil => simp [hm] at hmarks
        | cons a marks =>
          rw [hm,List.forall₂_cons] at hmarks
          rw [hdeq] at hep ⊢
          simp only [follow,hheld,hm,List.head?_cons,List.tail_cons]
          rw [if_pos (by simp)]
          refine ⟨h.queues.shrink (.refl _) rfl (.refl _) (.refl _) ⟨rfl,rfl,rfl⟩,hep,hmarks.2,h.early,.some hmarks.1,
            h.bytes,h.part,h.quarantined,fun b hb => h.own b ?_,h.ack,h.confirmed,h.current,h.started⟩
          simp only [State.mine,hm,Option.toList_some,List.mem_append,List.mem_cons,List.not_mem_nil,or_false] at hb ⊢
          rcases hb with hb | hb | hb
          · exact .inl (.inr hb)
          · exact .inl (.inl hb)
          · exact .inr (.inr hb)
      · exact hsame (by simp [Rcp.espRcpDequeueCurrent,hheld,hrx,hcur])

theorem espRcpRead_cases {s : Endpoint} {skb : Bytes} (hheld : s.held = some skb) (count : Nat) (fault : Bool) :
    ∃ out rest, out ++ rest = skb ∧
      (espRcpRead s count fault = {s with held := none, returned := s.returned ++ out} ∨
        espRcpRead s count fault = {s with held := none, returned := s.returned ++ out, rxQ := rest :: s.rxQ}) := by
  simp only [Rcp.espRcpRead,hheld,Rcp.espRcpRequeueCurrent]
  cases fault with
  | true =>
    refine ⟨[],skb,rfl,?_⟩
    simp only [if_true,List.append_nil]
    split
    · exact .inr rfl
    · exact .inl rfl
  | false =>
    refine ⟨_,_,List.take_append_drop (min count skb.length) skb,?_⟩
    simp only [Bool.false_eq_true,if_false]
    split
    · split
      · exact .inr rfl
      · exact .inl rfl
    · exact .inl rfl

theorem Inv.read {nonce : Nat → UInt64} {s : State} (h : Inv nonce s) (count : Nat) (fault : Bool) :
    Inv nonce (follow s (espRcpRead s.ep count fault) (.read count fault)) := by
  have hep := h.session.espRcpRead count fault
  cases hheld : s.ep.held with
  | none =>
    have hmark : s.held = none := by
      have hx := h.held
      cases hs : s.held with
      | none => rfl
      | some a => simp [hs,hheld] at hx
    have hread : espRcpRead s.ep count fault = s.ep := by simp [Rcp.espRcpRead,hheld]
    have hfollow : follow s (espRcpRead s.ep count fault) (.read count fault) = s := by
      simp only [follow,hread]
      split
      · rfl
      · rename_i a hs
        simp [hmark] at hs
    rw [hfollow]
    exact h
  | some skb =>
    obtain ⟨a,hmark,hleft⟩ : ∃ a, s.held = some a ∧ Left a skb := by
      have hx := h.held
      rw [hheld] at hx
      cases hs : s.held with
      | none => simp [hs] at hx
      | some a =>
        rw [hs] at hx
        cases hx
        exact ⟨a,rfl,by assumption⟩
    obtain ⟨out,rest,hsplit,hcases⟩ := espRcpRead_cases hheld count fault
    have hout : out <:+: a.payload := by
      have hx : out <+: skb := ⟨rest,hsplit⟩
      exact hx.isInfix.trans hleft.isInfix
    have hrest : Left a rest := (List.suffix_append out rest).trans (hsplit ▸ hleft)
    have hpart : ∀ r ∈ s.reads ++ [(a,out)], r.2 <:+: r.1.payload := by
      intro r hr
      rcases List.mem_append.mp hr with hr | hr
      · exact h.part r hr
      · rw [List.mem_singleton.mp hr]
        exact hout
    have hbytes : ((s.reads ++ [(a,out)]).map (·.2)).flatten = s.ep.returned ++ out := by
      simp [h.bytes]
    have hown : ∀ b, b ∈ s.rx ∨ b = a ∨ b ∈ s.reads.map (·.1) → Own s b := by
      intro b hb
      refine h.own b ?_
      simpa [State.mine,hmark] using hb
    simp only [follow,hmark]
    rcases hcases with hx | hx
    · rw [hx] at hep ⊢
      simp only [Nat.lt_irrefl,if_false,List.drop_left]
      refine ⟨h.queues.shrink (.refl _) rfl (.refl _) (.refl _) ⟨rfl,rfl,rfl⟩,hep,h.rx,h.early,.none,hbytes,hpart,
        h.quarantined,fun b hb => hown b ?_,h.ack,h.confirmed,h.current,h.started⟩
      simp only [State.mine,Option.toList_none,List.nil_append,List.map_append,List.map_cons,List.map_nil,
        List.mem_append,List.mem_singleton] at hb
      tauto
    · rw [hx] at hep ⊢
      simp only [List.length_cons,Nat.lt_succ_self,if_true,List.drop_left]
      refine ⟨h.queues.shrink (.refl _) rfl (.refl _) (.refl _) ⟨rfl,rfl,rfl⟩,hep,.cons hrest h.rx,h.early,.none,hbytes,
        hpart,h.quarantined,fun b hb => hown b ?_,h.ack,h.confirmed,h.current,h.started⟩
      simp only [State.mine,Option.toList_none,List.nil_append,List.map_append,List.map_cons,List.map_nil,
        List.mem_append,List.mem_cons] at hb
      tauto

theorem Inv.host {c : Clock} {nonce : Nat → UInt64} {s : State} {a : Rcp.Action} {ep : Endpoint} (h : Inv nonce s)
    (ha : isPacket a = false) (hs : Rcp.step c s.ep a = some ep) : Inv nonce (follow s ep a) := by
  by_cases hb : busy a = true
  · cases a with
    | packet now p => simp [isPacket] at ha
    | «open» sent => exact Option.some.inj hs ▸ h.opening sent
    | dequeue => exact Option.some.inj hs ▸ h.dequeue
    | read count fault => exact Option.some.inj hs ▸ h.read count fault
    | _ => simp [busy] at hb
  · obtain ⟨hep,hq⟩ := h.session.quiet (by simpa using hb) hs
    have hall := h.quiet hep hq h.queues (.inl rfl)
    cases a with
    | packet now p => simp [isPacket] at ha
    | «open» sent => simp [busy] at hb
    | dequeue => simp [busy] at hb
    | read count fault => simp [busy] at hb
    | _ => exact hall

theorem step_isolated {c : Clock} {nonce : Nat → UInt64} (s : State) (a : Action) (s' : State) (h : Inv nonce s)
    (hok : Clean nonce s a) (hs : step c nonce s a = some s') : Inv nonce s' := by
  cases a with
  | boot legacy => exact Option.some.inj hs ▸ h.processRxBuf (s.inc+1) (h.queues.boot legacy)
  | frame body =>
    simp only [step] at hs
    split at hs
    · cases hs
    · rename_i hb
      exact Option.some.inj hs ▸ h.processRxBuf s.inc (h.queues.processRxBuf (by simpa using hb))
  | rxWork now => exact Option.some.inj hs ▸ h.rxWork c now hok
  | host a =>
    simp only [step] at hs
    split at hs
    · cases hs
    rename_i ha
    rw [Option.map_eq_some_iff] at hs
    obtain ⟨ep,hep,rfl⟩ := hs
    have hall := h.host (by simpa using ha) hep
    split
    · exact hall.flushRcpTraffic
    · exact hall

/-- Every byte that reads on a file returned is from a payload sent by the incarnation
whose nonce its open confirmed, handed over after its ACK in its own generation, or in
quarantine before any open was confirmed. -/
theorem rcp_session_isolation (c : Clock) (nonce : Nat → UInt64) (acts : List Action) (s : State)
    (hrun : exec (step c nonce) {} acts = some s) (hok : Along (step c nonce) (Clean nonce) {} acts) :
    (s.reads.map (·.2)).flatten = s.ep.returned ∧
    ∀ r ∈ s.reads, r.2 <:+: r.1.payload ∧ ∃ k ∈ s.ack, nonce k.inc = s.started ∧ r.1.inc = k.inc ∧
      (k.no < r.1.no ∧ r.1.generation = s.ep.fileGeneration ∨
        s.ep.firstOpen = true ∧ r.1.everOpened = false) := by
  have h : Inv nonce s := exec_invariant_along step_isolated hok (inv_start nonce) hrun
  refine ⟨h.bytes,fun r hr => ⟨h.part r hr,?_⟩⟩
  have hmem : r.1 ∈ s.mine := by
    simp only [State.mine,List.mem_append,List.mem_map]
    exact .inr (.inr ⟨r,hr,rfl⟩)
  obtain ⟨k,hk,hinc,hx⟩ := h.own r.1 hmem
  exact ⟨k,hk,(h.confirmed k hk).2,hinc,hx⟩

def bootNonce (inc : Nat) : UInt64 := UInt64.ofNat (inc+1)

/-- `process_esp_bootup_event` for incarnation `inc`, and the registration. -/
def publish (inc : Nat) : List Action :=
  [.host .bootStart,.host (.bootBegin true (bootNonce inc)),.host .bootCommit,
   .host (.initRcp true (bootNonce inc) true)]

def cleanRun : List Action :=
  ([.boot true,.rxWork 0,.frame (.data [1,2]),.rxWork 0] : List Action) ++ publish 1 ++
  ([.host (.open true),.frame .session,.frame (.data [3]),.rxWork 0,.rxWork 0,
   .host .dequeue,.host (.read 9 false),.host .dequeue,.host (.read 9 false)] : List Action)

theorem rcp_session_isolation_first_open :
    ∃ s ∈ exec (step clock32 bootNonce) {} cleanRun,
      s.ep.returned = [1,2,3] ∧ (s.reads.map (·.2)).flatten = s.ep.returned ∧
      ∀ r ∈ s.reads, ∃ k ∈ s.ack, bootNonce k.inc = s.started ∧ r.1.inc = k.inc := by
  have h : ∃ s ∈ exec (step clock32 bootNonce) {} cleanRun, s.ep.returned = [1,2,3] := by decide +kernel
  obtain ⟨s,hs,hr⟩ := h
  have hok : Along (step clock32 bootNonce) (Clean bootNonce) {} cleanRun := by decide +kernel
  obtain ⟨hbytes,hall⟩ := rcp_session_isolation clock32 bootNonce cleanRun s hs hok
  refine ⟨s,hs,hr,hbytes,fun r hx => ?_⟩
  obtain ⟨-,k,hk,hn,hinc,-⟩ := hall r hx
  exact ⟨k,hk,hn,hinc⟩

/-- DATA of the first incarnation is still queued when the boot event of the second one
overtakes it, so it lands in the quarantine of the second: the file that confirmed the
second one's nonce reads it. -/
theorem rcp_overtaken_data_read :
    ∃ s ∈ exec (step clock32 bootNonce) {}
        ([.boot true,.rxWork 0,.frame (.data [1,2]),.boot true,.rxWork 0,.rxWork 0] ++ publish 1 ++
          [.host .bootStart,.host .bootClean,.host (.bootBegin true (bootNonce 2)),.host .bootCommit,
           .host (.initRcp true (bootNonce 2) true),.host (.open true),.frame .session,.rxWork 0,
           .host .dequeue,.host (.read 9 false)]),
      s.started = bootNonce 2 ∧ s.ep.returned = [1,2] ∧
      ∃ r ∈ s.reads, ∃ k ∈ s.ack, k.inc = 2 ∧ r.1.inc = 1 ∧ r.2 = [1,2] := by decide +kernel

end EspHosted.Rcp.Isolation
