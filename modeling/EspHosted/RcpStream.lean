import EspHosted.RcpEndpoint
import EspHosted.Lib.Run

/-!
What the reads on one open file return. A loss is never followed by more data
because whatever loses a payload also closes the gate in front of the queue.
-/

set_option autoImplicit false

namespace EspHosted.Rcp
open EspHosted Recovery Run

/-- No payload enters the readable queue again before the file is closed. -/
def Endpoint.fenced (s : Endpoint) : Bool :=
  s.adapter.resetExpected || s.adapter.shuttingDown || !s.adapter.initDone

/-- What the file is to read: the quarantine its ACK released, then all later DATA. -/
def Endpoint.stream (s : Endpoint) : Bytes := (s.released ++ s.handed.drop s.ackAt).flatten

def Endpoint.heldBytes (s : Endpoint) : Bytes := s.held.getD []

structure Inv (s : Endpoint) : Prop where
  opened : s.opened = true →
    s.registered = true ∧ s.sessionActive = true ∧ s.fileGeneration = s.generation
  active : s.sessionActive = true → s.registered = true
  quarantine : s.bootPending = true → s.sessionActive = false
  booting : s.phase ≠ .idle → s.adapter.initDone = false
  cleaned : s.phase = .cleaned ∨ s.phase = .reconstructing → s.opened = false
  stale : s.opened = true → s.adapter.initDone = false →
    s.adapter.resetExpected = true ∨ s.phase = .cleaning ∨ s.adapter.shuttingDown = true
  nonce : s.opened = true →
    s.nonce = 0 ∧ s.adapter.initDone = false ∨
    s.nonce ≠ 0 ∧ s.ackedNonce = if s.acked then s.nonce else 0
  first : s.opened = true → s.firstOpen = false → s.openingFirst = false
  unacked : s.acked = false → s.returned = [] ∧ s.held = none ∧ (s.opened = true → s.rxQ = [])
  early : s.earlyQ.Sublist s.handed
  released : s.acked = true → s.released.Sublist (s.handed.take s.ackAt) ∧
    s.ackAt ≤ s.handed.length ∧ (s.firstOpen = false → s.released = [])
  read : s.acked = true → s.returned ++ s.heldBytes <+: s.stream
  queued : s.acked = true → s.opened = true → s.returned ++ (s.heldBytes ++ s.rxQ.flatten) <+: s.stream
  complete : s.acked = true → s.opened = true → s.fenced = false →
    s.returned ++ (s.heldBytes ++ s.rxQ.flatten) = s.stream

theorem inv_initial : Inv {} where
  opened := fun h => nomatch h
  active := fun h => nomatch h
  quarantine := fun h => nomatch h
  booting := fun h => absurd rfl h
  cleaned := fun _ => rfl
  stale := fun h => nomatch h
  nonce := fun h => nomatch h
  first := fun h => nomatch h
  unacked := fun _ => ⟨rfl,rfl,fun _ => rfl⟩
  early := .slnil
  released := fun h => nomatch h
  read := fun h => nomatch h
  queued := fun h => nomatch h
  complete := fun h => nomatch h

theorem Inv.current {s : Endpoint} (h : Inv s) : espRcpFileIsCurrent s = s.opened := by
  cases ho : s.opened with
  | false => simp [espRcpFileIsCurrent,ho]
  | true =>
    obtain ⟨hr,ha,hg⟩ := h.opened ho
    simp [espRcpFileIsCurrent,ho,hr,ha,hg]

/-- The adapter changes, and no fence is taken down. -/
structure Raises (a b : Adapter) : Prop where
  reset : a.resetExpected = true → b.resetExpected = true
  down : a.shuttingDown = true → b.shuttingDown = true
  init : b.initDone = a.initDone

theorem Raises.trans {a b c : Adapter} (h : Raises a b) (k : Raises b c) : Raises a c :=
  ⟨fun x => k.reset (h.reset x),fun x => k.down (h.down x),k.init.trans h.init⟩

theorem raises_schedule (a : Adapter) (fwReset : Bool) : Raises a (espScheduleRecovery a fwReset) := by
  simp only [espScheduleRecovery,espRecoveryDropTx]
  split_ifs <;> constructor <;> simp_all

theorem raises_restart (c : Clock) (now : Nat) (a : Adapter) :
    Raises a (espRequestFirmwareRestart c now a).1 := by
  simp only [espRequestFirmwareRestart]
  split_ifs <;> constructor <;> simp

theorem raises_failClosed (c : Clock) (now : Nat) (a : Adapter) : Raises a (failClosed c now a) :=
  (raises_schedule a true).trans (raises_restart c now _)

/-- After `failClosed` a reset is due, or the driver is going away. -/
theorem failClosed_fences (c : Clock) (now : Nat) (a : Adapter) :
    (failClosed c now a).resetExpected = true ∨ (failClosed c now a).shuttingDown = true := by
  have hr := raises_restart c now (espScheduleRecovery a true)
  cases hd : a.shuttingDown with
  | true => exact .inr (hr.down ((raises_schedule a true).down hd))
  | false =>
    refine .inl (hr.reset ?_)
    simp only [espScheduleRecovery,espRecoveryDropTx,hd]
    split_ifs <;> simp_all

theorem fenced_eq_false {s : Endpoint} :
    s.fenced = false ↔ s.adapter.resetExpected = false ∧ s.adapter.shuttingDown = false ∧
      s.adapter.initDone = true := by
  simp [Endpoint.fenced,and_assoc]

theorem Raises.unfenced {s : Endpoint} {a : Adapter} (h : Raises s.adapter a)
    (hf : Endpoint.fenced {s with adapter := a} = false) : s.fenced = false := by
  rw [fenced_eq_false] at hf ⊢
  obtain ⟨hr,hd,hi⟩ := hf
  refine ⟨?_,?_,by rw [← h.init]; exact hi⟩
  · cases hx : s.adapter.resetExpected with
    | false => rfl
    | true => rw [h.reset hx] at hr; cases hr
  · cases hx : s.adapter.shuttingDown with
    | false => rfl
    | true => rw [h.down hx] at hd; cases hd

theorem Inv.setAdapter {s : Endpoint} (h : Inv s) {a : Adapter} (ha : Raises s.adapter a) :
    Inv {s with adapter := a} :=
  { h with
    booting := fun hp => by rw [ha.init]; exact h.booting hp
    stale := fun ho hi => by
      change a.initDone = false at hi
      rw [ha.init] at hi
      rcases h.stale ho hi with hx | hx | hx
      · exact .inl (ha.reset hx)
      · exact .inr (.inl hx)
      · exact .inr (.inr (ha.down hx))
    nonce := fun ho => by
      rw [ha.init]
      exact h.nonce ho
    complete := fun hk ho hf => h.complete hk ho (ha.unfenced hf) }

theorem Inv.setQuarantine {s : Endpoint} (h : Inv s) {q : List Bytes} (hq : q.Sublist s.handed)
    (b o : Bool) (hb : b = true → s.sessionActive = false) :
    Inv {s with earlyQ := q, bootPending := b, earlyOverflow := o} :=
  { h with
    quarantine := hb
    early := hq }

theorem Inv.dropQuarantine {s : Endpoint} (h : Inv s) : Inv (dropQuarantine s) :=
  h.setQuarantine (List.nil_sublist _) false false (nomatch ·)

/-- Everything the statements about the file speak of. -/
def Endpoint.file (s : Endpoint) :=
  (s.held,s.handed,s.acked,s.ackAt,s.firstOpen,s.released,s.returned)

theorem Inv.closed {s s' : Endpoint} (h : Inv s) (hfile : s'.file = s.file) (ho : s'.opened = false)
    (ha : s'.sessionActive = true → s'.registered = true)
    (hq : s'.bootPending = true → s'.sessionActive = false)
    (hb : s'.phase ≠ .idle → s'.adapter.initDone = false)
    (he : s'.earlyQ = [] ∨ s'.earlyQ = s.earlyQ) : Inv s' := by
  simp only [Endpoint.file,Prod.mk.injEq] at hfile
  obtain ⟨h1,h2,h3,h4,h5,h6,h7⟩ := hfile
  have hstream : s'.stream = s.stream := by simp only [Endpoint.stream,h2,h4,h6]
  have hheld : s'.heldBytes = s.heldBytes := by simp only [Endpoint.heldBytes,h1]
  have hno : s'.opened = true → False := by simp [ho]
  refine ⟨fun x => (hno x).elim,ha,hq,hb,fun _ => ho,fun x => (hno x).elim,fun x => (hno x).elim,
    fun x => (hno x).elim,?_,?_,?_,?_,fun _ x => (hno x).elim,fun _ x => (hno x).elim⟩
  · rw [h1,h3,h7]
    exact fun hk => ⟨(h.unacked hk).1,(h.unacked hk).2.1,fun x => (hno x).elim⟩
  · rw [h2]
    rcases he with he | he
    · rw [he]
      exact List.nil_sublist _
    · rw [he]
      exact h.early
  · rw [h2,h3,h4,h5,h6]
    exact h.released
  · rw [h3,h7,hheld,hstream]
    exact h.read

theorem Inv.opened_eq_false {s : Endpoint} (h : Inv s)
    (hx : s.registered = false ∨ s.sessionActive = false) : s.opened = false := by
  cases ho : s.opened with
  | false => rfl
  | true =>
    obtain ⟨hr,ha,-⟩ := h.opened ho
    rcases hx with hx | hx
    · rw [hr] at hx; cases hx
    · rw [ha] at hx; cases hx

theorem ready_flags {s : Endpoint} (h : espRcpSessionReady s = true) :
    s.adapter.initDone = true ∧ s.fenced = false := by
  simp only [espRcpSessionReady,Bool.and_eq_true,Bool.not_eq_true'] at h
  obtain ⟨⟨⟨⟨⟨⟨⟨-,hi⟩,-⟩,-⟩,-⟩,hr⟩,hd⟩,-⟩ := h
  exact ⟨hi,fenced_eq_false.mpr ⟨hr,hd,hi⟩⟩

theorem Inv.idle_of_init {s : Endpoint} (h : Inv s) (hi : s.adapter.initDone = true) :
    s.phase = .idle := by
  by_contra hp
  rw [h.booting hp] at hi
  cases hi

theorem Inv.espRcpOpen {s : Endpoint} (h : Inv s) (sent : Bool) : Inv (espRcpOpen s sent) := by
  simp only [Rcp.espRcpOpen]
  split
  · exact h
  rename_i hgate
  simp only [not_or,Bool.not_eq_false] at hgate
  obtain ⟨hr,ha,hready⟩ := hgate
  obtain ⟨hi,-⟩ := ready_flags hready
  have hidle := h.idle_of_init hi
  split
  · exact h
  have hearly : (if s.everOpened = true then [] else s.earlyQ).Sublist s.handed := by
    split
    · exact List.nil_sublist _
    · exact h.early
  split
  · refine ⟨(nomatch ·),h.active,h.quarantine,h.booting,fun _ => rfl,(nomatch ·),(nomatch ·),
      (nomatch ·),fun _ => ⟨rfl,rfl,(nomatch ·)⟩,hearly,(nomatch ·),(nomatch ·),(nomatch ·),
      (nomatch ·)⟩
  · rename_i hsend
    refine ⟨fun _ => ⟨hr,ha,rfl⟩,h.active,h.quarantine,h.booting,?_,?_,fun _ => .inr ⟨?_,rfl⟩,
      fun _ => id,fun _ => ⟨rfl,rfl,fun _ => rfl⟩,hearly,(nomatch ·),(nomatch ·),(nomatch ·),
      (nomatch ·)⟩
    · intro hp
      simp only [hidle] at hp
      rcases hp with hp | hp <;> cases hp
    · intro _ hx
      simp only [hi] at hx
      cases hx
    · exact (not_or.mp hsend).1

theorem Inv.espRcpOpenTimeout {s : Endpoint} (h : Inv s) (c : Clock) (now : Nat) :
    Inv (espRcpOpenTimeout c now s) := by
  have hr := raises_failClosed c now s.adapter
  simp only [Rcp.espRcpOpenTimeout]
  split
  · refine (h.setAdapter hr).closed rfl rfl h.active h.quarantine ?_ (.inl rfl)
    exact (h.setAdapter hr).booting
  · exact h.setAdapter hr

theorem Inv.espRcpRelease {s : Endpoint} (h : Inv s) (c : Clock) (now : Nat) :
    Inv (espRcpRelease c now s) := by
  have hr := raises_failClosed c now s.adapter
  simp only [Rcp.espRcpRelease]
  split
  · split
    · exact h.closed rfl rfl h.active h.quarantine h.booting (.inl rfl)
    · exact (h.setAdapter hr).closed rfl rfl h.active h.quarantine (h.setAdapter hr).booting (.inl rfl)
  · exact h

theorem Inv.espRcpNoteBootEvent {s : Endpoint} (h : Inv s) (active : Bool) :
    Inv (espRcpNoteBootEvent s active) := by
  simp only [Rcp.espRcpNoteBootEvent]
  split
  · exact h.closed rfl rfl (nomatch ·) (fun _ => rfl) h.booting (.inl rfl)
  · rename_i hx
    have hact : s.sessionActive = false := by
      cases ha : s.sessionActive with
      | false => rfl
      | true => exact absurd ⟨h.active ha,ha⟩ hx
    exact h.closed rfl (h.opened_eq_false (.inr hact)) h.active (fun _ => hact) h.booting (.inl rfl)

theorem Inv.espInitRcp {s : Endpoint} (h : Inv s) (reg : Bool) : Inv (espInitRcp s reg) := by
  simp only [Rcp.espInitRcp]
  split
  · exact h.dropQuarantine
  split
  · exact h.dropQuarantine
  split
  · exact h
  split
  · exact h.closed rfl rfl h.active (nomatch ·) h.booting (.inl rfl)
  split
  · exact h.closed rfl rfl (fun _ => rfl) (nomatch ·) h.booting (.inr rfl)
  · exact h.closed rfl rfl h.active (nomatch ·) h.booting (.inr rfl)

theorem Inv.announce {s : Endpoint} (h : Inv s) (rcpAny : Bool) (nonce : UInt64) :
    Inv (announce s rcpAny nonce) := by
  simp only [Rcp.announce]
  split
  · exact h
  · rename_i hr
    exact h.closed rfl (h.opened_eq_false (.inl (by simpa using hr))) h.active h.quarantine h.booting
      (.inr rfl)

theorem espDeinitRcp_opened {s : Endpoint} (h : Inv s) : (espDeinitRcp s).opened = false := by
  simp only [Rcp.espDeinitRcp]
  split_ifs with hr <;> simp_all [Rcp.dropQuarantine,h.opened_eq_false]

theorem Inv.espDeinitRcp {s : Endpoint} (h : Inv s) : Inv (espDeinitRcp s) := by
  simp only [Rcp.espDeinitRcp]
  split
  · split
    · exact Inv.dropQuarantine (h.closed rfl rfl (nomatch ·) (fun _ => rfl) h.booting (.inr rfl))
    · exact h.closed rfl rfl (nomatch ·) (fun _ => rfl) h.booting (.inr rfl)
  · split
    · exact h.dropQuarantine
    · exact h

theorem Inv.acked_of_held {s : Endpoint} (h : Inv s) {skb : Bytes} (hk : s.held = some skb) :
    s.acked = true := by
  cases ha : s.acked with
  | true => rfl
  | false => rw [(h.unacked ha).2.1] at hk; cases hk

theorem Inv.espRcpDequeueCurrent {s : Endpoint} (h : Inv s) : Inv (espRcpDequeueCurrent s) := by
  simp only [Rcp.espRcpDequeueCurrent,h.current]
  split
  · rename_i skb q hheld hq
    split
    · rename_i ho
      have hk : s.acked = true := by
        cases ha : s.acked with
        | true => rfl
        | false => rw [(h.unacked ha).2.2 ho] at hq; cases hq
      have hbytes : s.heldBytes ++ s.rxQ.flatten = skb ++ q.flatten := by
        simp [Endpoint.heldBytes,hheld,hq]
      have hread := h.queued hk ho
      have hall := h.complete hk ho
      rw [hbytes] at hread hall
      exact { h with
        unacked := fun ha => by
          change s.acked = false at ha
          rw [hk] at ha
          cases ha
        read := fun _ => (List.append_assoc _ _ _ ▸ List.prefix_append _ _).trans hread
        queued := fun _ _ => hread
        complete := fun _ _ => hall }
    · exact h
  · exact h

/-- The reader returns `out` and gives back `rest`. -/
theorem Inv.giveBack {s : Endpoint} (h : Inv s) {skb out rest : Bytes} (hheld : s.held = some skb)
    (hsplit : out ++ rest = skb) {q : List Bytes}
    (hq : s.opened = true → q.flatten = rest ++ s.rxQ.flatten) :
    Inv {s with held := none, returned := s.returned ++ out, rxQ := q} := by
  have hk := h.acked_of_held hheld
  have hread : (s.returned ++ out) ++ [] <+: s.stream := by
    refine List.IsPrefix.trans ?_ (h.read hk)
    rw [Endpoint.heldBytes,hheld,Option.getD_some,← hsplit,List.append_nil,← List.append_assoc]
    exact List.prefix_append _ _
  have hbytes : s.opened = true → s.returned ++ (s.heldBytes ++ s.rxQ.flatten) =
      (s.returned ++ out) ++ ([] ++ q.flatten) := by
    intro ho
    rw [hq ho,Endpoint.heldBytes,hheld,Option.getD_some,← hsplit]
    simp
  exact { h with
    unacked := fun ha => by
      change s.acked = false at ha
      rw [hk] at ha
      cases ha
    read := fun _ => hread
    queued := fun _ ho => hbytes ho ▸ h.queued hk ho
    complete := fun _ ho hf => hbytes ho ▸ h.complete hk ho hf }

theorem Inv.requeue {s : Endpoint} (h : Inv s) {skb out rest : Bytes} (hheld : s.held = some skb)
    (hsplit : out ++ rest = skb) :
    Inv (espRcpRequeueCurrent {s with held := none, returned := s.returned ++ out} rest) := by
  have hcur : espRcpFileIsCurrent {s with held := none, returned := s.returned ++ out} = s.opened :=
    h.current
  simp only [Rcp.espRcpRequeueCurrent,hcur]
  split
  · exact h.giveBack hheld hsplit (fun _ => by simp)
  · rename_i ho
    exact h.giveBack hheld hsplit (fun hx => absurd hx ho)

theorem Inv.espRcpRead {s : Endpoint} (h : Inv s) (count : Nat) (fault : Bool) :
    Inv (espRcpRead s count fault) := by
  simp only [Rcp.espRcpRead]
  split
  · exact h
  · rename_i skb hheld
    split
    · have hback : Inv (espRcpRequeueCurrent {s with held := none, returned := s.returned ++ []} skb) :=
        h.requeue hheld rfl
      simpa using hback
    · have hsplit := List.take_append_drop (min count skb.length) skb
      split
      · exact h.requeue hheld hsplit
      · rename_i hz
        have hz : skb.drop (min count skb.length) = [] := List.length_eq_zero_iff.mp (not_not.mp hz)
        exact h.giveBack hheld hsplit (fun _ => by rw [hz,List.nil_append])

theorem Inv.espRcpSessionAck {s : Endpoint} (h : Inv s) (nonce : UInt64) :
    Inv (espRcpSessionAck s nonce) := by
  simp only [Rcp.espRcpSessionAck]
  split
  · rename_i hx
    obtain ⟨hr,ho,ha,hn0,hn,hne⟩ := hx
    have hk : s.acked = false := by
      cases hk : s.acked with
      | false => rfl
      | true =>
        rcases h.nonce ho with ⟨hz,-⟩ | ⟨-,hz⟩
        · exact absurd (hn.trans hz) hn0
        · rw [hk,if_pos rfl] at hz
          exact absurd (hz.trans hn.symm) hne
    obtain ⟨hret,hheld,hq⟩ := h.unacked hk
    have hq := hq ho
    have heq : ∀ rel : List Bytes, s.returned ++ (s.heldBytes ++ rel.flatten) =
        (rel ++ s.handed.drop s.handed.length).flatten := by
      intro rel
      simp [Endpoint.heldBytes,hret,hheld]
    exact { h with
      nonce := fun _ => .inr ⟨hn ▸ hn0,hn⟩
      first := fun _ _ => rfl
      unacked := fun hx => nomatch hx
      early := List.nil_sublist _
      released := fun _ => by
        refine ⟨?_,Nat.le_refl _,fun hf => ?_⟩
        · rw [List.take_length,hq]
          split
          · exact h.early
          · exact List.nil_sublist _
        · change s.firstOpen = false at hf
          simp [h.first ho hf]
      read := fun _ => by
        have : s.returned ++ s.heldBytes = [] := by simp [Endpoint.heldBytes,hret,hheld]
        exact this ▸ List.nil_prefix
      queued := fun _ _ => heq _ ▸ List.prefix_refl _
      complete := fun _ _ _ => heq _ }
  · exact h

theorem Inv.stream_hand {s : Endpoint} (h : Inv s) (skb : Bytes) (hk : s.acked = true) :
    Endpoint.stream {s with handed := s.handed ++ [skb]} = s.stream ++ skb := by
  simp only [Endpoint.stream,List.drop_append_of_le_length (h.released hk).2.1]
  simp

theorem Inv.released_hand {s : Endpoint} (h : Inv s) (skb : Bytes) (hk : s.acked = true) :
    s.released.Sublist ((s.handed ++ [skb]).take s.ackAt) ∧ s.ackAt ≤ (s.handed ++ [skb]).length ∧
      (s.firstOpen = false → s.released = []) := by
  obtain ⟨hsub,hle,hf⟩ := h.released hk
  refine ⟨?_,?_,hf⟩
  · rw [List.take_append_of_le_length hle]
    exact hsub
  · rw [List.length_append]
    exact Nat.le_add_right_of_le hle

theorem Inv.hand {s : Endpoint} (h : Inv s) (skb : Bytes)
    (hlost : s.acked = true → s.opened = true → s.fenced = true) :
    Inv {s with handed := s.handed ++ [skb]} := by
  have hmore : s.acked = true → s.stream <+: Endpoint.stream {s with handed := s.handed ++ [skb]} :=
    fun hk => h.stream_hand skb hk ▸ List.prefix_append _ _
  exact { h with
    early := h.early.trans (List.sublist_append_left _ _)
    released := h.released_hand skb
    read := fun hk => (h.read hk).trans (hmore hk)
    queued := fun hk ho => (h.queued hk ho).trans (hmore hk)
    complete := fun hk ho hf => by
      change s.fenced = false at hf
      rw [hlost hk ho] at hf
      cases hf }

theorem Inv.enqueue {s : Endpoint} (h : Inv s) (skb : Bytes) (hk : s.acked = true)
    (ho : s.opened = true) (hf : s.fenced = false) :
    Inv {s with handed := s.handed ++ [skb], rxQ := s.rxQ ++ [skb]} := by
  have hall := h.complete hk ho hf
  have hstream : Endpoint.stream {s with handed := s.handed ++ [skb], rxQ := s.rxQ ++ [skb]} =
      s.stream ++ skb := h.stream_hand skb hk
  have heq : s.returned ++ (s.heldBytes ++ (s.rxQ ++ [skb]).flatten) = s.stream ++ skb := by
    rw [← hall]
    simp
  exact { h with
    unacked := fun ha => by
      change s.acked = false at ha
      rw [hk] at ha
      cases ha
    early := h.early.trans (List.sublist_append_left _ _)
    released := h.released_hand skb
    read := fun hk => by
      rw [hstream]
      exact (h.read hk).trans (List.prefix_append _ _)
    queued := fun _ _ => by
      rw [hstream,← heq]
      exact List.prefix_refl _
    complete := fun _ _ _ => heq.trans hstream.symm }

theorem fenced_of_failClosed {s : Endpoint} (c : Clock) (now : Nat) (a : Adapter)
    (h : s.adapter = failClosed c now a) : s.fenced = true := by
  rcases failClosed_fences c now a with hx | hx <;> simp [Endpoint.fenced,h,hx]

theorem Inv.purge {s : Endpoint} (h : Inv s) (c : Clock) (now : Nat) :
    Inv {s with rxQ := [], adapter := failClosed c now s.adapter} := by
  have hset := h.setAdapter (raises_failClosed c now s.adapter)
  exact { hset with
    unacked := fun hk => ⟨(h.unacked hk).1,(h.unacked hk).2.1,fun _ => rfl⟩
    queued := fun hk _ => by
      simp only [List.flatten_nil,List.append_nil]
      exact h.read hk
    complete := fun _ _ hf => by
      rw [fenced_of_failClosed c now s.adapter rfl] at hf
      cases hf }

/-- No DATA of an acknowledged session arrives while the session is not ready, unless
a reset is due or the session is being torn down. -/
def Fenced (s : Endpoint) : Action → Prop
  | .packet _ (.data _) =>
    s.acked = true → s.opened = true → espRcpSessionReady s = false → s.fenced = true
  | _ => True

instance (s : Endpoint) (a : Action) : Decidable (Fenced s a) := by
  unfold Fenced
  split <;> infer_instance

theorem Inv.espRcpRx {s : Endpoint} (h : Inv s) (c : Clock) (now : Nat) (skb : Bytes)
    (hok : s.acked = true → s.opened = true → espRcpSessionReady s = false → s.fenced = true) :
    Inv (espRcpRx c now s skb) := by
  have hq : (s.earlyQ ++ [skb]).Sublist (s.handed ++ [skb]) := h.early.append_right [skb]
  have hready : espRcpSessionReady {s with handed := s.handed ++ [skb]} = espRcpSessionReady s := rfl
  simp only [Rcp.espRcpRx,hready]
  split
  · rename_i hb
    have hno := h.opened_eq_false (.inr (h.quarantine hb))
    have hand := h.hand skb (fun _ ho => by rw [hno] at ho; cases ho)
    split
    · exact hand.setQuarantine (List.nil_sublist _) s.bootPending true h.quarantine
    · exact hand.setQuarantine hq s.bootPending s.earlyOverflow h.quarantine
  split
  · rename_i hgate
    refine h.hand skb fun hk ho => ?_
    obtain ⟨hr,ha,-⟩ := h.opened ho
    rcases hgate with hx | hx | hx
    · rw [hr] at hx; cases hx
    · rw [ha] at hx; cases hx
    · exact hok hk ho hx
  rename_i hgate
  simp only [not_or,Bool.not_eq_false] at hgate
  obtain ⟨hi,hf⟩ := ready_flags hgate.2.2
  split
  · rename_i hno
    exact h.hand skb (fun _ ho => by rw [hno] at ho; cases ho)
  rename_i ho
  have ho : s.opened = true := by simpa using ho
  have hnonce := (h.nonce ho).resolve_left (fun hx => by rw [hi] at hx; cases hx.2)
  split
  · rename_i hne
    have hk : s.acked = false := by
      cases hk : s.acked with
      | false => rfl
      | true => exact absurd (by rw [hnonce.2,hk]; rfl) hne
    have hand := h.hand skb (fun hx => by rw [hk] at hx; cases hx)
    split
    · exact hand
    split
    · exact (hand.setQuarantine (List.nil_sublist _) s.bootPending s.earlyOverflow
        h.quarantine).setAdapter (raises_failClosed c now s.adapter)
    · exact hand.setQuarantine hq s.bootPending s.earlyOverflow h.quarantine
  · rename_i heq
    have hk : s.acked = true := by
      cases hk : s.acked with
      | true => rfl
      | false =>
        rw [hk] at hnonce
        exact absurd (not_not.mp heq ▸ hnonce.2) hnonce.1
    split
    · exact (h.purge c now).hand skb (fun _ _ => fenced_of_failClosed c now s.adapter rfl)
    · exact h.enqueue skb hk ho hf

theorem Inv.processRxPacket {s : Endpoint} (h : Inv s) (c : Clock) (now : Nat) (p : Packet)
    (hok : Fenced s (.packet now p)) : Inv (processRxPacket c now s p) := by
  have hfail := h.setAdapter (raises_failClosed c now s.adapter)
  cases p with
  | corrupt =>
    simp only [Rcp.processRxPacket]
    split
    · exact hfail
    · exact h
  | session nonce => exact h.espRcpSessionAck nonce
  | unknown => exact hfail
  | data payload =>
    simp only [Rcp.processRxPacket]
    split
    · exact hfail
    · exact h.espRcpRx c now payload hok
  | boot legacy =>
    simp only [Rcp.processRxPacket]
    split
    · exact h.espRcpNoteBootEvent legacy
    · exact h

theorem Inv.bootStart {s : Endpoint} (h : Inv s) (hp : s.phase = .idle)
    (hd : s.adapter.shuttingDown = false) : Inv (bootStart s) := by
  have hno : (s.adapter.initDone || s.adapter.recoveryPending || s.adapter.resetExpected) = false →
      s.opened = false := by
    intro hx
    simp only [Bool.or_eq_false_iff] at hx
    cases ho : s.opened with
    | false => rfl
    | true =>
      rcases h.stale ho hx.1.1 with hs | hs | hs
      · rw [hx.2] at hs; cases hs
      · rw [hp] at hs; cases hs
      · rw [hd] at hs; cases hs
  exact { h with
    booting := fun _ => rfl
    cleaned := fun hx => by
      simp only [Rcp.bootStart] at hx ⊢
      by_cases hr : (s.adapter.initDone || s.adapter.recoveryPending || s.adapter.resetExpected) = true
      · rw [if_pos hr] at hx
        rcases hx with hx | hx <;> cases hx
      · exact hno (by simpa using hr)
    stale := fun ho _ => by
      simp only [Rcp.bootStart] at ho ⊢
      refine .inr (.inl (if_pos ?_))
      by_contra hr
      rw [hno (by simpa using hr)] at ho
      cases ho
    nonce := fun _ => .inl ⟨rfl,rfl⟩
    complete := fun _ _ hf => by
      rw [fenced_eq_false] at hf
      cases hf.2.2 }

theorem Inv.bootAbort {s : Endpoint} (h : Inv s) (c : Clock) (now : Nat) :
    Inv {s with phase := .idle, adapter := failClosed c now (espClearReconstructFlag s.adapter)} := by
  have hr : Raises s.adapter (failClosed c now (espClearReconstructFlag s.adapter)) :=
    Raises.trans (b := espClearReconstructFlag s.adapter) ⟨id,id,rfl⟩ (raises_failClosed c now _)
  have hset := h.setAdapter hr
  exact { hset with
    booting := fun hx => absurd rfl hx
    cleaned := fun hx => by rcases hx with hx | hx <;> cases hx
    stale := fun _ _ => (failClosed_fences c now _).imp id .inr
    complete := fun _ _ hf => by
      rw [fenced_of_failClosed c now (espClearReconstructFlag s.adapter) rfl] at hf
      cases hf }

theorem espDeinitRcp_setAdapter (s : Endpoint) (a : Adapter)
    (h : a.shuttingDown = s.adapter.shuttingDown) :
    espDeinitRcp {s with adapter := a} = {espDeinitRcp s with adapter := a} := by
  simp only [Rcp.espDeinitRcp]
  split_ifs <;> simp_all [Rcp.dropQuarantine]

theorem espDeinitRcp_frame (s : Endpoint) :
    (espDeinitRcp s).adapter = s.adapter ∧ (espDeinitRcp s).phase = s.phase := by
  simp only [Rcp.espDeinitRcp]
  split_ifs <;> exact ⟨rfl,rfl⟩

theorem step_inv {c : Clock} (s : Endpoint) (a : Action) (s' : Endpoint) (h : Inv s)
    (hok : Fenced s a) (hs : step c s a = some s') : Inv s' := by
  cases a with
  | packet now p => cases hs; exact h.processRxPacket c now p hok
  | «open» sent => cases hs; exact h.espRcpOpen sent
  | openTimeout now => cases hs; exact h.espRcpOpenTimeout c now
  | release now => cases hs; exact h.espRcpRelease c now
  | dequeue => cases hs; exact h.espRcpDequeueCurrent
  | read count fault => cases hs; exact h.espRcpRead count fault
  | request fwReset => cases hs; exact h.setAdapter (raises_schedule _ _)
  | resume now =>
    simp only [step] at hs
    split at hs
    · cases hs
      exact h.setAdapter ⟨id,id,rfl⟩
    · cases hs
  | bootStart =>
    simp only [step] at hs
    split at hs
    · rename_i hx
      cases hs
      exact h.bootStart hx.1 hx.2
    · cases hs
  | bootClean =>
    simp only [step] at hs
    split at hs
    · rename_i hp
      cases hs
      have hi := h.booting (by rw [hp]; decide)
      refine h.espDeinitRcp.closed rfl (espDeinitRcp_opened h) h.espDeinitRcp.active
        h.espDeinitRcp.quarantine (fun _ => ?_) (.inr rfl)
      rw [(espDeinitRcp_frame s).1]
      exact hi
    · cases hs
  | bootBegin rcpAny nonce =>
    simp only [step] at hs
    split at hs
    · rename_i hp
      cases hs
      exact h.closed rfl (h.cleaned (.inl hp)) h.active h.quarantine
        (fun _ => h.booting (by rw [hp]; decide)) (.inr rfl)
    · cases hs
  | bootCommit =>
    simp only [step] at hs
    split at hs
    · rename_i hp
      cases hs
      exact h.closed rfl (h.cleaned (.inr hp)) h.active h.quarantine (fun hx => absurd rfl hx) (.inr rfl)
    · cases hs
  | bootAbort now =>
    simp only [step] at hs
    split at hs
    · cases hs
    · cases hs
      exact h.bootAbort c now
  | failAfterCommit now =>
    simp only [step] at hs
    split at hs
    · rename_i hp
      cases hs
      rw [espDeinitRcp_setAdapter s {s.adapter with cleanupInProgress := true, initDone := false} rfl]
      exact h.espDeinitRcp.closed rfl (espDeinitRcp_opened h) h.espDeinitRcp.active
        h.espDeinitRcp.quarantine (fun hx => absurd ((espDeinitRcp_frame s).2.trans hp) hx) (.inr rfl)
    · cases hs
  | initRcp rcpAny nonce reg => cases hs; exact (h.announce rcpAny nonce).espInitRcp reg
  | deinitRcp =>
    cases hs
    exact h.espDeinitRcp.closed rfl (espDeinitRcp_opened h) h.espDeinitRcp.active
      h.espDeinitRcp.quarantine h.espDeinitRcp.booting (.inr rfl)
  | remove => cases hs; exact h.setAdapter ⟨id,fun _ => rfl,rfl⟩

/-- The reads on one open file return a prefix of the payloads quarantined for the
first open of an incarnation, released by the ACK, and of all DATA after the ACK.
Until a fence is up, what has not been returned is still there. -/
theorem rcp_reads_contiguous (c : Clock) (acts : List Action) (s : Endpoint)
    (hrun : exec (step c) {} acts = some s) (hok : Along (step c) Fenced {} acts) :
    (s.acked = false → s.returned = []) ∧
    (s.acked = true → s.returned <+: s.stream ∧
      s.released.Sublist (s.handed.take s.ackAt) ∧ (s.firstOpen = false → s.released = []) ∧
      (s.opened = true → s.fenced = false →
        s.returned ++ (s.heldBytes ++ s.rxQ.flatten) = s.stream)) := by
  have h : Inv s := exec_invariant_along step_inv hok inv_initial hrun
  refine ⟨fun hk => (h.unacked hk).1,fun hk => ⟨?_,?_,?_,h.complete hk⟩⟩
  · exact (List.prefix_append _ _).trans (h.read hk)
  · exact (h.released hk).1
  · exact (h.released hk).2.2

/-- Boot, first open with a status payload before the ACK, partial and faulting reads. -/
def firstOpenRun : List Action :=
  [.bootStart,.bootBegin true 7,.bootCommit,.initRcp true 7 true,.open true,
   .packet 0 (.data [1,2]),.packet 0 (.session 7),.packet 0 (.data [3]),
   .dequeue,.read 1 false,.dequeue,.read 9 true,.dequeue,.read 9 false,.dequeue,.read 4 false]

theorem rcp_reads_contiguous_first_open :
    ∃ s ∈ exec (step clock32) {} firstOpenRun,
      s.returned = [1,2,3] ∧ s.returned <+: s.stream := by
  have h : ∃ s ∈ exec (step clock32) {} firstOpenRun,
      s.acked = true ∧ s.returned = [1,2,3] := by decide +kernel
  obtain ⟨s,hs,hk,hr⟩ := h
  exact ⟨s,hs,hr,((rcp_reads_contiguous _ _ s hs (by decide +kernel)).2 hk).1⟩

/-- The first open returns DATA from before its ACK: with the session alive and no
reset requested, the bytes read are not a prefix of the DATA handed after the ACK. -/
theorem rcp_first_open_reads_quarantine :
    ∃ s ∈ exec (step clock32) {} firstOpenRun,
      s.acked = true ∧ s.sessionActive = true ∧ s.adapter.resetExpected = false ∧
      ¬s.returned <+: (s.handed.drop s.ackAt).flatten := by decide +kernel

end EspHosted.Rcp
