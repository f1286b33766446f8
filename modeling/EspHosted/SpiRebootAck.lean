import EspHosted.SpiReboot

/-!
What a run of the software reboot keeps: one reset in flight, the count of an epoch, and
the acknowledgement of the attempt under way.
-/

set_option autoImplicit false

namespace EspHosted.SpiReboot
open EspHosted Recovery Run
open EspHosted.SpiHd (hdrPacketType hdrChecksum setChecksum byteSum)

/-! Frames. -/

theorem getD_pad (b : Bytes) (i : Nat) : (pad b).getD i 0 = b.getD i 0 := by
  unfold pad
  by_cases hi : i < b.length
  · exact getD_append_of_lt b _ i hi
  · have hle : b.length ≤ i := by omega
    simp only [List.getD_eq_getElem?_getD,List.getElem?_append_right hle,List.getElem?_eq_none hle,
      List.getElem?_replicate]
    split <;> rfl

theorem isRebootResponse_pad (b : Bytes) : isRebootResponse (pad b) = isRebootResponse b := by
  simp only [isRebootResponse,hdrIfType,hdrPacketType,hdrOffset,cmdCode,getD_pad]
  rfl

theorem cmdSeqNum_pad (b : Bytes) : cmdSeqNum (pad b) (hdrOffset (pad b)) = cmdSeqNum b (hdrOffset b) := by
  simp only [cmdSeqNum,hdrOffset,getD_pad]

theorem hdrOffset_commandFrame (t st : UInt8) (seq : UInt16) : hdrOffset (commandFrame t st seq) = 12 := by
  have h : hdrOffset (commandFrame t st seq) =
      le16ToCpu (UInt8.ofNat ((12 : UInt16).toNat%256)) (UInt8.ofNat ((12 : UInt16).toNat/256)) := rfl
  rw [h,le16ToCpu_htole16]
  rfl

theorem cmdSeqNum_commandFrame (t st : UInt8) (seq : UInt16) :
    cmdSeqNum (commandFrame t st seq) (hdrOffset (commandFrame t st seq)) = seq.toNat := by
  rw [hdrOffset_commandFrame,← le16ToCpu_htole16 seq]
  rfl

theorem cmdSeqNum_rebootCommand (seq : UInt16) :
    cmdSeqNum (rebootCommand seq) (hdrOffset (rebootCommand seq)) = seq.toNat := by
  rw [rebootCommand,cmdSeqNum_pad,cmdSeqNum_commandFrame]

theorem isRebootResponse_dummy : isRebootResponse dummyFrame.bytes = false := by
  rw [dummyFrame,isRebootResponse_pad]
  rfl

theorem isRebootResponse_idle (level : Bool) :
    isRebootResponse (List.replicate SPI_BUF_SIZE (if level then 0xff else 0)) = false := by
  cases level <;> rfl

theorem espCmdDispatch_spec {b b' : Bytes} (h : espCmdDispatch b = some b') :
    cmdSeqNum b' (hdrOffset b') = cmdSeqNum b (hdrOffset b) := by
  simp only [espCmdDispatch] at h
  have hlt : cmdSeqNum b (hdrOffset b) < 65536 := by
    have h1 := (b.getD (hdrOffset b+4) 0).toNat_lt
    have h2 := (b.getD (hdrOffset b+5) 0).toNat_lt
    unfold cmdSeqNum le16ToCpu
    omega
  split at h
  · cases h
    rw [cmdSeqNum_commandFrame,UInt16.toNat_ofNat']
    omega
  · cases h

theorem IsAck.isRebootResponse {rx : Bytes} {seq : UInt16} (h : IsAck rx seq) : isRebootResponse rx = true := by
  simp [SpiReboot.isRebootResponse,h.ifType,h.packetType,h.code]

theorem espSpiBootstrapFrameValid_response {rx : Bytes} {len : Nat}
    (h : espSpiBootstrapFrameValid rx false = some len) :
    espOffsetValid (hdrOffset rx) = true ∧ hdrLen rx = len ∧
    (computeChecksum (setChecksum rx 0) (hdrOffset rx+len)).toNat = hdrChecksum rx := by
  simp only [espSpiBootstrapFrameValid,responseNeedsSum,Bool.false_eq_true,if_false] at h
  by_cases hb : hdrIfType rx ≠ ESP_INTERNAL_IF ∨ espOffsetValid (hdrOffset rx) = false ∨
      SPI_BUF_SIZE < hdrOffset rx ∨ hdrLen rx = 0 ∨ SPI_BUF_SIZE-hdrOffset rx < hdrLen rx
  · rw [if_pos hb] at h
    cases h
  · rw [if_neg hb] at h
    by_cases ht : hdrPacketType rx ≠ PACKET_TYPE_COMMAND_RESPONSE ∨ hdrLen rx < commandHeaderSize
    · rw [if_pos ht] at h
      cases h
    · rw [if_neg ht] at h
      simp only [true_and] at h
      split at h
      · cases h
      · next hsum =>
        cases h
        have ho : espOffsetValid (hdrOffset rx) = true := by
          cases hx : espOffsetValid (hdrOffset rx) with
          | true => rfl
          | false => exact absurd (.inr (.inl hx)) hb
        exact ⟨ho,rfl,by simpa using hsum⟩

theorem EIO_ne : - EIO ≠ (0 : Int) := by decide

/-- Zero is returned for an acknowledgement only. -/
theorem rebootReply_zero {seq : UInt16} {rx : Bytes} (h : rebootReply seq rx = some 0) : IsAck rx seq := by
  unfold rebootReply at h
  by_cases hb : hdrIfType rx ≠ ESP_INTERNAL_IF ∨ hdrPacketType rx ≠ PACKET_TYPE_COMMAND_RESPONSE
  · rw [if_pos hb] at h
    cases h
  · rw [if_neg hb] at h
    obtain ⟨hif,hpt⟩ := not_or.mp hb
    cases hv : espSpiBootstrapFrameValid rx false with
    | none => simp [hv] at h
    | some len =>
      obtain ⟨ho,hlen,hsum⟩ := espSpiBootstrapFrameValid_response hv
      simp only [hv] at h
      split at h
      · next hc =>
        obtain ⟨rfl,hpl,-,-,hcode,hseq⟩ := hc
        by_cases hst : cmdStatus rx (hdrOffset rx) = CMD_RESPONSE_SUCCESS
        · exact ⟨not_not.mp hif,not_not.mp hpt,ho,hlen,hsum,hpl,hcode,hst,hseq⟩
        · rw [if_neg hst] at h
          exact absurd (Option.some.inj h) EIO_ne
      · cases h

/-! Sequence numbers. -/

/-- The sequence number of attempt `k` when the counter stood at `r` before the first. -/
def seqNo (r k : Nat) : Nat := (r+k+65534)%65535+1

theorem seqNo_period {r j k : Nat} (hle : j ≤ k) (h : seqNo r j = seqNo r k) : j = k ∨ j+seqPeriod ≤ k := by
  unfold seqNo at h
  unfold seqPeriod
  omega

/-- The counter, cut to 16 bits, after `k` attempts. -/
def seqAfter (r k : Nat) : Nat := if k = 0 then r else seqNo r k

theorem nextSeq_toNat (c : UInt32) :
    (nextSeq c).toNat%65536 = if c.toNat%65536 = 65535 then 1 else c.toNat%65536+1 := by
  have hlt := c.toNat_lt
  have h16 : ∀ d : UInt32, d.toUInt16 = 0 ↔ d.toNat%65536 = 0 := by
    intro d
    rw [← UInt16.toNat_inj,UInt32.toNat_toUInt16]
    rfl
  have h1 : (c+1).toNat = (c.toNat+1)%2^32 := by rw [UInt32.toNat_add]; rfl
  have h2 : (c+1+1).toNat = ((c+1).toNat+1)%2^32 := by rw [UInt32.toNat_add]; rfl
  unfold nextSeq
  by_cases hz : (c+1).toUInt16 = 0
  · rw [if_pos hz]
    have hz := (h16 _).mp hz
    split_ifs <;> omega
  · rw [if_neg hz]
    have hz : ¬(c+1).toNat%65536 = 0 := fun hx => hz ((h16 _).mpr hx)
    split_ifs <;> omega

theorem seqAfter_succ {r k : Nat} (hr : r < 65536) {c : UInt32} (h : c.toNat%65536 = seqAfter r k) :
    (nextSeq c).toNat%65536 = seqNo r (k+1) := by
  rw [nextSeq_toNat,h]
  unfold seqAfter seqNo
  split_ifs <;> omega

/-! One reset in flight. -/

structure Gate (s : State) : Prop where
  lock : ∀ i, s.targets i = .synced ↔ s.lock = some i
  held : ∀ i e, s.targets i = .charged e →
    s.resetting = true ∧ s.pending = none ∧ s.work.inFlight = false ∧ ∀ j e', s.targets j = .charged e' → j = i
  refused : ∀ i e, s.targets i ≠ .refused e
  pending : ∀ e, s.pending = some e → s.resetting = true ∧ s.work.inFlight = false
  work : s.work.inFlight = true → s.resetting = true

theorem Gate.single {s : State} (h : Gate s) : s.inFlight ≤ 1 := by
  unfold State.inFlight
  cases hp : s.pending with
  | none =>
    simp only [Option.isSome_none,Bool.false_eq_true,if_false]
    split <;> omega
  | some e => simp [(h.pending e hp).2]

/-- The callers, the lock and the queue stay, and the work does not start. -/
theorem Gate.frame {s s' : State} (h : Gate s) (ht : s'.targets = s.targets) (hl : s'.lock = s.lock)
    (hr : s'.resetting = s.resetting) (hp : s'.pending = s.pending)
    (hw : s'.work.inFlight = true → s.work.inFlight = true) : Gate s' := by
  have hoff : s.work.inFlight = false → s'.work.inFlight = false := by
    intro hx
    by_contra hy
    have := hw (by simpa using hy)
    rw [hx] at this
    cases this
  refine ⟨by rw [ht,hl]; exact h.lock,?_,by rw [ht]; exact h.refused,?_,fun hx => hr ▸ h.work (hw hx)⟩
  · intro i e hx
    rw [ht] at hx ⊢
    obtain ⟨h1,h2,h3,h4⟩ := h.held i e hx
    exact ⟨by rw [hr,h1],by rw [hp,h2],hoff h3,h4⟩
  · intro e hx
    rw [hp] at hx
    exact ⟨by rw [hr,(h.pending e hx).1],hoff (h.pending e hx).2⟩

theorem Gate.move {s : State} (h : Gate s) {i : Nat} {pc : TargetPc}
    (hi : s.targets i ≠ .synced ∧ ∀ e, s.targets i ≠ .charged e)
    (hpc : pc = .idle ∨ pc = .called ∨ pc = .entered) : Gate (s.setTarget i pc) := by
  have hn : pc ≠ .synced ∧ (∀ e, pc ≠ .charged e) ∧ ∀ e, pc ≠ .refused e := by
    rcases hpc with rfl | rfl | rfl <;> simp
  have hc : ∀ {j e}, (s.setTarget i pc).targets j = .charged e → s.targets j = .charged e := by
    intro j e hx
    by_cases hj : j = i
    · exact absurd (by simpa [State.setTarget,hj] using hx) (hn.2.1 e)
    · simpa [State.setTarget,hj] using hx
  refine ⟨?_,?_,?_,h.pending,h.work⟩
  · intro j
    by_cases hj : j = i
    · subst hj
      have := h.lock j
      simp only [State.setTarget,if_true,hn.1,false_iff]
      simpa [hi.1] using this
    · simpa [State.setTarget,hj] using h.lock j
  · intro j e hx
    obtain ⟨h1,h2,h3,h4⟩ := h.held j e (hc hx)
    exact ⟨h1,h2,h3,fun k e' hk => h4 k e' (hc hk)⟩
  · intro j e
    by_cases hj : j = i
    · simpa [State.setTarget,hj] using hn.2.2 e
    · simpa [State.setTarget,hj] using h.refused j e

theorem Gate.enter {s s' : State} (h : Gate s) {i : Nat} (hl : s.lock = none)
    (ht : s'.targets = (s.setTarget i .synced).targets) (hl' : s'.lock = some i) (hr : s'.resetting = s.resetting)
    (hp : s'.pending = s.pending) (hw : s'.work = s.work) : Gate s' := by
  have hc : ∀ {j e}, s'.targets j = .charged e → s.targets j = .charged e := by
    intro j e hx
    by_cases hj : j = i
    · simp [ht,State.setTarget,hj] at hx
    · simpa [ht,State.setTarget,hj] using hx
  refine ⟨?_,?_,?_,by rw [hp,hr,hw]; exact h.pending,by rw [hw,hr]; exact h.work⟩
  · intro j
    by_cases hj : j = i
    · simp [ht,State.setTarget,hj,hl']
    · have := h.lock j
      simp only [hl,ht,hl',State.setTarget,hj,if_false] at this ⊢
      simp [this,Ne.symm hj]
  · intro j e hx
    obtain ⟨h1,h2,h3,h4⟩ := h.held j e (hc hx)
    exact ⟨by rw [hr,h1],by rw [hp,h2],by rw [hw,h3],fun k e' hk => h4 k e' (hc hk)⟩
  · intro j e
    by_cases hj : j = i
    · simp [ht,State.setTarget,hj]
    · simpa [ht,State.setTarget,hj] using h.refused j e

theorem Gate.exit {s s' : State} (h : Gate s) {i : Nat} (hi : s.targets i = .synced) {pc : TargetPc}
    (hpc : pc = .idle ∨ ∃ e, pc = .charged e) (hfree : (∃ e, pc = .charged e) → s.resetting = false)
    (ht : s'.targets = (s.setTarget i pc).targets) (hl' : s'.lock = none)
    (hr : s'.resetting = (s.resetting || decide (pc ≠ .idle))) (hp : s'.pending = s.pending)
    (hw : s'.work = s.work) : Gate s' := by
  have hlock := (h.lock i).mp hi
  have hup : s.resetting = true → s'.resetting = true := by
    intro hx
    simp [hr,hx]
  refine ⟨?_,?_,?_,?_,?_⟩
  · intro j
    by_cases hj : j = i
    · rcases hpc with rfl | ⟨e,rfl⟩ <;> simp [ht,State.setTarget,hj,hl']
    · have := h.lock j
      rw [hlock] at this
      simp only [ht,hl',State.setTarget,hj,if_false]
      simpa [Ne.symm hj] using this
  · intro j e hx
    by_cases hj : j = i
    · subst hj
      have hpc' : pc = .charged e := by simpa [ht,State.setTarget] using hx
      have hoff := hfree ⟨e,hpc'⟩
      have hpend : s.pending = none := by
        cases hq : s.pending with
        | none => rfl
        | some e' => simp [(h.pending e' hq).1] at hoff
      have hwork : s.work.inFlight = false := by
        by_contra hx
        simp [h.work (by simpa using hx)] at hoff
      refine ⟨by simp [hr,hpc'],by rw [hp,hpend],by rw [hw,hwork],?_⟩
      intro k e' hk
      by_contra hkj
      have := h.held k e' (by simpa [ht,State.setTarget,hkj] using hk)
      simp [this.1] at hoff
    · have hx : s.targets j = .charged e := by simpa [ht,State.setTarget,hj] using hx
      obtain ⟨h1,h2,h3,h4⟩ := h.held j e hx
      refine ⟨hup h1,by rw [hp,h2],by rw [hw,h3],?_⟩
      intro k e' hk
      by_cases hki : k = i
      · subst hki
        have hpc' : pc = .charged e' := by simpa [ht,State.setTarget] using hk
        have hoff := hfree ⟨e',hpc'⟩
        simp [h1] at hoff
      · exact h4 k e' (by simpa [ht,State.setTarget,hki] using hk)
  · intro j e
    by_cases hj : j = i
    · rcases hpc with rfl | ⟨e',rfl⟩ <;> simp [ht,State.setTarget,hj]
    · simpa [ht,State.setTarget,hj] using h.refused j e
  · intro e hx
    rw [hp] at hx
    exact ⟨hup (h.pending e hx).1,by rw [hw]; exact (h.pending e hx).2⟩
  · rw [hw]
    exact fun hx => hup (h.work hx)

theorem Gate.queue {s s' : State} (h : Gate s) {i e : Nat} (hi : s.targets i = .charged e)
    (ht : s'.targets = (s.setTarget i .idle).targets) (hl : s'.lock = s.lock) (hr : s'.resetting = s.resetting)
    (hw : s'.work = s.work) : Gate s' := by
  obtain ⟨h1,-,h3,h4⟩ := h.held i e hi
  refine ⟨?_,?_,?_,fun _ _ => ⟨by rw [hr,h1],by rw [hw,h3]⟩,by rw [hw,hr]; exact h.work⟩
  · intro j
    have := h.lock j
    by_cases hj : j = i
    · subst hj
      simp only [ht,hl,State.setTarget,if_true]
      simpa [hi] using this
    · simpa [ht,hl,State.setTarget,hj] using this
  · intro j e' hx
    by_cases hj : j = i
    · simp [ht,State.setTarget,hj] at hx
    · exact absurd (h4 j e' (by simpa [ht,State.setTarget,hj] using hx)) hj
  · intro j e'
    by_cases hj : j = i
    · simp [ht,State.setTarget,hj]
    · simpa [ht,State.setTarget,hj] using h.refused j e'

theorem Gate.run {s : State} (h : Gate s) {e : Nat} (hp : s.pending = some e) :
    Gate {s with pending := none, work := .started e} := by
  refine ⟨h.lock,?_,h.refused,by simp,fun _ => (h.pending e hp).1⟩
  intro i e' hx
  have := (h.held i e' hx).2.1
  rw [hp] at this
  cases this

theorem Gate.clear {s : State} (h : Gate s) (hw : s.work.inFlight = true) {ret : Int} {boot : Bool} :
    Gate {s with resetting := false, work := .tail ret boot} := by
  refine ⟨h.lock,?_,h.refused,?_,by simp [WorkPc.inFlight]⟩
  · intro i e hx
    have := (h.held i e hx).2.2.1
    rw [hw] at this
    cases this
  · intro e hx
    have := (h.pending e hx).2
    rw [hw] at this
    cases this

/-! The count of an epoch. -/

structure Budget (cfg : Config) (s : State) : Prop where
  past : s.budgetEpoch ≤ s.epoch
  now : s.attempts = s.log.count (.charged s.budgetEpoch)
  future : ∀ e, s.budgetEpoch < e → s.log.count (.charged e) = 0
  limit : ∀ e, s.log.count (.charged e) ≤ ESP_FW_BOOT_MAX_ATTEMPTS
  reboots : ∀ e, s.log.count (.reboot e) ≤ s.log.count (.charged e)
  -- Wherever a charged attempt waits, it has not been begun.
  called : cfg.resetGpio = false → ∀ i e, s.targets i = .charged e →
    s.log.count (.reboot e) < s.log.count (.charged e)
  queued : cfg.resetGpio = false → ∀ e, s.pending = some e → s.log.count (.reboot e) < s.log.count (.charged e)
  started : cfg.resetGpio = false → ∀ e, s.work = .started e → s.log.count (.reboot e) < s.log.count (.charged e)

theorem Budget.frame {cfg : Config} {s s' : State} (h : Budget cfg s) (he : s'.epoch = s.epoch ∨ s'.epoch = s.epoch+1)
    (hb : s'.budgetEpoch = s.budgetEpoch) (ha : s'.attempts = s.attempts)
    (hc : ∀ e, s'.log.count (.charged e) = s.log.count (.charged e))
    (hr : ∀ e, s'.log.count (.reboot e) = s.log.count (.reboot e))
    (ht : ∀ i e, s'.targets i = .charged e → s.targets i = .charged e)
    (hp : ∀ e, s'.pending = some e → s.pending = some e ∨ ∃ i, s.targets i = .charged e)
    (hw : ∀ e, s'.work = .started e → s.work = .started e ∨ s.pending = some e) : Budget cfg s' where
  past := by have := h.past; omega
  now := by rw [ha,hb,hc,h.now]
  future := fun e hlt => by rw [hc]; exact h.future e (hb ▸ hlt)
  limit := fun e => by rw [hc]; exact h.limit e
  reboots := fun e => by rw [hc,hr]; exact h.reboots e
  called := fun hg i e hx => by rw [hc,hr]; exact h.called hg i e (ht i e hx)
  queued := fun hg e hx => by
    rw [hc,hr]
    rcases hp e hx with hx | ⟨i,hx⟩
    · exact h.queued hg e hx
    · exact h.called hg i e hx
  started := fun hg e hx => by
    rw [hc,hr]
    rcases hw e hx with hx | hx
    · exact h.started hg e hx
    · exact h.queued hg e hx

theorem Budget.sync {cfg : Config} {s : State} (h : Budget cfg s) : Budget cfg s.budgetSync := by
  unfold State.budgetSync
  split
  · next hne =>
    have hpast := h.past
    refine ⟨Nat.le_refl _,?_,?_,h.limit,h.reboots,h.called,h.queued,h.started⟩
    · exact (h.future s.epoch (by omega)).symm
    · intro e hlt
      exact h.future e (Nat.lt_of_le_of_lt hpast hlt)
  · exact h

theorem Budget.charge {cfg : Config} {s s' : State} (h : Budget cfg s) (hlt : s.attempts < ESP_FW_BOOT_MAX_ATTEMPTS)
    {i : Nat} (hlog : s'.log = .charged s.budgetEpoch :: s.log) (he : s'.epoch = s.epoch)
    (hb : s'.budgetEpoch = s.budgetEpoch) (ha : s'.attempts = s.attempts+1)
    (ht : s'.targets = (s.setTarget i (.charged s.budgetEpoch)).targets) (hp : s'.pending = s.pending)
    (hw : s'.work = s.work) : Budget cfg s' := by
  have hle : ∀ e, s.log.count (.charged e) ≤ s'.log.count (.charged e) := by
    intro e
    rw [hlog]
    exact List.count_le_count_cons
  have hreb : ∀ e, s'.log.count (.reboot e) = s.log.count (.reboot e) := by simp [hlog]
  have hself : s'.log.count (.charged s.budgetEpoch) = s.log.count (.charged s.budgetEpoch)+1 := by
    rw [hlog,List.count_cons_self]
  have hother : ∀ e, s.budgetEpoch ≠ e → s'.log.count (.charged e) = s.log.count (.charged e) := by
    intro e hne
    rw [hlog,List.count_cons_of_ne (by simpa using hne)]
  refine ⟨by rw [hb,he]; exact h.past,by rw [ha,hb,hself,h.now],?_,?_,?_,?_,?_,?_⟩
  · intro e hx
    rw [hb] at hx
    rw [hother e (Nat.ne_of_lt hx)]
    exact h.future e hx
  · intro e
    by_cases hx : s.budgetEpoch = e
    · subst hx
      rw [hself,← h.now]
      exact hlt
    · rw [hother e hx]
      exact h.limit e
  · intro e
    rw [hreb]
    exact Nat.le_trans (h.reboots e) (hle e)
  · intro hg j e hx
    rw [hreb]
    by_cases hj : j = i
    · have hx : s.budgetEpoch = e := by simpa [ht,State.setTarget,hj] using hx
      subst hx
      have := h.reboots s.budgetEpoch
      omega
    · exact Nat.lt_of_lt_of_le (h.called hg j e (by simpa [ht,State.setTarget,hj] using hx)) (hle e)
  · intro hg e hx
    rw [hreb]
    exact Nat.lt_of_lt_of_le (h.queued hg e (hp ▸ hx)) (hle e)
  · intro hg e hx
    rw [hreb]
    exact Nat.lt_of_lt_of_le (h.started hg e (hw ▸ hx)) (hle e)

theorem Budget.begin {cfg : Config} {s s' : State} (h : Budget cfg s) (hgate : Gate s) (hg : cfg.resetGpio = false)
    {epoch : Nat} (hw : s.work = .started epoch) (hlog : s'.log = .reboot epoch :: s.log)
    (he : s'.epoch = s.epoch) (hb : s'.budgetEpoch = s.budgetEpoch) (ha : s'.attempts = s.attempts)
    (ht : s'.targets = s.targets) (hp : s'.pending = s.pending) (hw' : ∀ e, s'.work ≠ .started e) :
    Budget cfg s' := by
  have hin : s.work.inFlight = true := by rw [hw]; rfl
  have hc : ∀ e, s'.log.count (.charged e) = s.log.count (.charged e) := by simp [hlog]
  refine ⟨by rw [hb,he]; exact h.past,by rw [ha,hb,hc,h.now],?_,?_,?_,?_,?_,fun _ e hx => absurd hx (hw' e)⟩
  · intro e hlt
    rw [hc]
    exact h.future e (hb ▸ hlt)
  · intro e
    rw [hc]
    exact h.limit e
  · intro e
    rw [hc,hlog]
    by_cases hx : epoch = e
    · subst hx
      rw [List.count_cons_self]
      exact h.started hg epoch hw
    · rw [List.count_cons_of_ne (by simpa using hx)]
      exact h.reboots e
  · intro _ i e hx
    have := (hgate.held i e (ht ▸ hx)).2.2.1
    rw [hin] at this
    cases this
  · intro _ e hx
    have := (hgate.pending e (hp ▸ hx)).2
    rw [hin] at this
    cases this

/-! Commands and answers. -/

/-- A frame the firmware has received: a reboot command is the one of an attempt that was clocked out. -/
def Commands (r : Nat) (log : List Ev) (f : Frame) : Prop :=
  (espCmdDispatch f.bytes).isSome = true →
    ∃ j ∈ f.attempt, .clocked j ∈ log ∧ cmdSeqNum f.bytes (hdrOffset f.bytes) = seqNo r j

def Replies (r : Nat) (log : List Ev) (f : Frame) : Prop :=
  isRebootResponse f.bytes = true →
    ∃ j ∈ f.attempt, .answered j ∈ log ∧ cmdSeqNum f.bytes (hdrOffset f.bytes) = seqNo r j

structure Carries (P Q : Frame → Prop) (s : Slave) : Prop where
  rx : ∀ f ∈ s.rx, P f
  tx : ∀ f ∈ s.tx, Q f
  armed : ∀ f b, s.armed = some (f,b) → Q f

theorem Carries.mono {P Q P' Q' : Frame → Prop} {s : Slave} (h : Carries P Q s) (hP : ∀ f, P f → P' f)
    (hQ : ∀ f, Q f → Q' f) : Carries P' Q' s :=
  ⟨fun f hf => hP f (h.rx f hf),fun f hf => hQ f (h.tx f hf),fun f b hf => hQ f (h.armed f b hf)⟩

theorem Carries.transfer {P Q : Frame → Prop} {s : Slave} (h : Carries P Q s) (checksum : Bool) {tx : Frame}
    (htx : P tx) (ok level : Bool)
    (hidle : Q {bytes := List.replicate SPI_BUF_SIZE (if level then 0xff else 0)}) :
    Carries P Q (s.transfer checksum tx ok level).1 ∧ Q (s.transfer checksum tx ok level).2 := by
  unfold Slave.transfer
  cases ha : s.armed with
  | none => exact ⟨h,hidle⟩
  | some a =>
    obtain ⟨f,b⟩ := a
    have hf := h.armed f b ha
    dsimp only
    split_ifs
    · exact ⟨⟨h.rx,h.tx,by simp⟩,hf⟩
    · refine ⟨⟨?_,h.tx,by simp⟩,hf⟩
      intro g hg
      rcases List.mem_append.mp hg with hg | hg
      · exact h.rx g hg
      · rw [List.mem_singleton.mp hg]
        exact htx
    · exact ⟨⟨h.rx,h.tx,by simp⟩,hf⟩

theorem Carries.arm {P Q : Frame → Prop} {s s' : Slave} (h : Carries P Q s) {i : Option Nat}
    (hdummy : Q dummyFrame) (hpad : ∀ f, Q f → Q {f with bytes := pad f.bytes}) (hs : s.arm i = some s') :
    Carries P Q s' := by
  unfold Slave.arm at hs
  split at hs
  · cases hs
  · cases i with
    | none =>
      cases hs
      refine ⟨h.rx,h.tx,?_⟩
      intro f b hf
      cases hf
      exact hdummy
    | some i =>
      cases hi : s.tx[i]? with
      | none => simp [hi] at hs
      | some g =>
        simp only [hi] at hs
        cases hs
        refine ⟨h.rx,fun f hf => h.tx f (List.mem_of_mem_eraseIdx hf),?_⟩
        intro f b hf
        cases hf
        exact hpad g (h.tx g (List.mem_of_getElem? hi))

/-- Nothing in the log is lost, and nothing about commands and answers is added. -/
structure Quiet (log log' : List Ev) : Prop where
  mem : ∀ e ∈ log, e ∈ log'
  clocked : ∀ j, .clocked j ∈ log' → .clocked j ∈ log
  answers : Answers log → Answers log'

theorem Quiet.refl (log : List Ev) : Quiet log log := ⟨fun _ => id,fun _ => id,id⟩

theorem Quiet.charged (log : List Ev) (e : Nat) : Quiet log (.charged e :: log) :=
  ⟨fun _ hx => List.mem_cons_of_mem _ hx,fun j hx => by simpa using hx,id⟩

theorem Quiet.reboot (log : List Ev) (e : Nat) : Quiet log (.reboot e :: log) :=
  ⟨fun _ hx => List.mem_cons_of_mem _ hx,fun j hx => by simpa using hx,id⟩

theorem Commands.mono {r : Nat} {log log' : List Ev} (h : ∀ e ∈ log, e ∈ log') (f : Frame)
    (hf : Commands r log f) : Commands r log' f := by
  intro hx
  obtain ⟨j,hj,hc,hs⟩ := hf hx
  exact ⟨j,hj,h _ hc,hs⟩

theorem Replies.mono {r : Nat} {log log' : List Ev} (h : ∀ e ∈ log, e ∈ log') (f : Frame)
    (hf : Replies r log f) : Replies r log' f := by
  intro hx
  obtain ⟨j,hj,hc,hs⟩ := hf hx
  exact ⟨j,hj,h _ hc,hs⟩

theorem Replies.of_not {r : Nat} {log : List Ev} {f : Frame} (h : isRebootResponse f.bytes = false) :
    Replies r log f := by
  intro hx
  rw [h] at hx
  cases hx

theorem answered_clocked {log : List Ev} (h : Answers log) {j : Nat} (hj : .answered j ∈ log) :
    .clocked j ∈ log := by
  induction log with
  | nil => cases hj
  | cons e log ih =>
    have htail : Answers log := by
      cases e with
      | answered k => exact h.2
      | acked k seq rx => exact h.2.2.2.2
      | _ => exact h
    rcases List.mem_cons.mp hj with rfl | hj
    · exact List.mem_cons_of_mem _ h.1
    · exact List.mem_cons_of_mem _ (ih htail hj)

structure Link (cfg : Config) (r : Nat) (s : State) : Prop where
  seq : s.cmdSeq.toNat%65536 = seqAfter r s.tries
  checking : ∀ allow sent q n, s.work = .checking allow sent q n →
    allow = !cfg.resetGpio ∧ (sent = true → allow = true ∧ .clocked s.tries ∈ s.log) ∧
    (allow = true → q.toNat = seqNo r s.tries)
  past : ∀ j, .clocked j ∈ s.log → j ≤ s.tries
  slave : Carries (Commands r s.log) (Replies r s.log) s.slave
  answers : Answers s.log
  reported : ∀ boot, cfg.resetGpio = false → s.work = .returned 0 boot → ∃ seq rx, .acked s.tries seq rx ∈ s.log
  pin : s.work = .hwReset → cfg.resetGpio = true

def WorkPc.outside : WorkPc → Bool
  | .idle => true
  | .started _ => true
  | .clearing _ _ => true
  | .tail _ _ => true
  | _ => false

theorem Link.frame {cfg : Config} {r : Nat} {s s' : State} (h : Link cfg r s) (hq : s'.cmdSeq = s.cmdSeq)
    (ht : s'.tries = s.tries) (hl : Quiet s.log s'.log) (hs : s'.slave = s.slave)
    (hw : s'.work = s.work ∨ s'.work.outside = true) : Link cfg r s' where
  seq := by rw [hq,ht]; exact h.seq
  checking := by
    intro allow sent q n hx
    rcases hw with hw | hw
    · obtain ⟨h1,h2,h3⟩ := h.checking allow sent q n (hw ▸ hx)
      rw [ht]
      exact ⟨h1,fun hsent => ⟨(h2 hsent).1,hl.mem _ (h2 hsent).2⟩,h3⟩
    · simp [hx,WorkPc.outside] at hw
  past := fun j hx => by rw [ht]; exact h.past j (hl.clocked j hx)
  slave := by
    rw [hs]
    exact h.slave.mono (fun f hf => hf.mono hl.mem f) (fun f hf => hf.mono hl.mem f)
  answers := hl.answers h.answers
  reported := by
    intro boot hg hx
    rcases hw with hw | hw
    · obtain ⟨seq,rx,hm⟩ := h.reported boot hg (hw ▸ hx)
      rw [ht]
      exact ⟨seq,rx,hl.mem _ hm⟩
    · simp [hx,WorkPc.outside] at hw
  pin := by
    intro hx
    rcases hw with hw | hw
    · exact h.pin (hw ▸ hx)
    · simp [hx,WorkPc.outside] at hw

/-! The check. -/

theorem leave_returned {allow : Bool} {ret : Int} {boot b : Bool} (h : leave allow ret boot = .returned 0 b) :
    ret = 0 := by
  unfold leave at h
  split at h
  · cases h
  · cases h
    rfl

theorem leave_ne_checking (allow : Bool) (ret : Int) (boot : Bool) (allow' sent : Bool) (q : UInt16) (n : Nat) :
    leave allow ret boot ≠ .checking allow' sent q n := by
  unfold leave
  split <;> simp

theorem leave_ne_started (allow : Bool) (ret : Int) (boot : Bool) (e : Nat) : leave allow ret boot ≠ .started e := by
  unfold leave
  split <;> simp

theorem leave_hwReset {allow : Bool} {ret : Int} {boot : Bool} (h : leave allow ret boot = .hwReset) :
    allow = false := by
  unfold leave at h
  split at h
  · next hx => exact hx.1
  · cases h

theorem errno_ne (n : Nat) : errno n ≠ 0 := by
  unfold errno
  omega

theorem Link.setWork {cfg : Config} {r : Nat} {s : State} (h : Link cfg r s) {w : WorkPc}
    (hc : ∀ allow sent q n, w = .checking allow sent q n →
      allow = !cfg.resetGpio ∧ (sent = true → allow = true ∧ .clocked s.tries ∈ s.log) ∧
      (allow = true → q.toNat = seqNo r s.tries))
    (hr : ∀ boot, cfg.resetGpio = false → w = .returned 0 boot → ∃ seq rx, .acked s.tries seq rx ∈ s.log)
    (hp : w = .hwReset → cfg.resetGpio = true) : Link cfg r {s with work := w} :=
  ⟨h.seq,hc,h.past,h.slave,h.answers,hr,hp⟩

theorem Link.leave {cfg : Config} {r : Nat} {s : State} (h : Link cfg r s) {allow : Bool}
    (ha : allow = !cfg.resetGpio) (boot : Bool) {ret : Int} (hne : ret ≠ 0) :
    Link cfg r {s with work := SpiReboot.leave allow ret boot} := by
  refine h.setWork ?_ ?_ ?_
  · intro allow' sent q n hx
    exact absurd hx (leave_ne_checking allow ret boot allow' sent q n)
  · intro b _ hx
    exact absurd (leave_returned hx) hne
  · intro hx
    simpa [leave_hwReset hx] using ha

theorem Link.clock {cfg : Config} {r : Nat} {s : State} (h : Link cfg r s) {inject : Bool} {seq : UInt16}
    (hseq : inject = true → seq.toNat = seqNo r s.tries) (ok level : Bool) {tx : Frame}
    (htx : tx = if inject then {bytes := rebootCommand seq, attempt := some s.tries} else {bytes := pad []}) :
    Link cfg r {s with
      slave := (s.slave.transfer cfg.checksum tx ok level).1
      log := if inject then .clocked s.tries :: s.log else s.log
      work := .idle} ∧
    Replies r (if inject then .clocked s.tries :: s.log else s.log) (s.slave.transfer cfg.checksum tx ok level).2 := by
  have hmem : ∀ e ∈ s.log, e ∈ if inject then .clocked s.tries :: s.log else s.log := by
    intro e he
    cases inject with
    | true => exact List.mem_cons_of_mem _ he
    | false => exact he
  have hcmd : Commands r (if inject then .clocked s.tries :: s.log else s.log) tx := by
    subst htx
    cases inject with
    | true =>
      intro _
      refine ⟨s.tries,rfl,by simp,?_⟩
      rw [← hseq rfl]
      exact cmdSeqNum_rebootCommand seq
    | false =>
      intro hx
      have hif : hdrIfType (pad []) = 0 := by rw [hdrIfType,getD_pad]; rfl
      simp [espCmdDispatch,hif,ESP_INTERNAL_IF] at hx
  obtain ⟨hslave,hreply⟩ := (h.slave.mono (fun f hf => hf.mono hmem f) (fun f hf => hf.mono hmem f)).transfer
    cfg.checksum hcmd ok level (Replies.of_not (isRebootResponse_idle level))
  refine ⟨⟨h.seq,by simp,?_,hslave,?_,by simp,by simp⟩,hreply⟩
  · intro j hj
    cases inject with
    | true =>
      rcases List.mem_cons.mp hj with hj | hj
      · cases hj
        exact Nat.le_refl _
      · exact h.past j hj
    | false => exact h.past j hj
  · cases inject with
    | true => exact h.answers
    | false => exact h.answers

theorem Link.ack {cfg : Config} {r : Nat} {s : State} (h : Link cfg r s) {seq : UInt16} {rx : Frame}
    (hseq : seq.toNat = seqNo r s.tries) (hsent : .clocked s.tries ∈ s.log) (hrx : Replies r s.log rx)
    (hack : IsAck rx.bytes seq) {allow : Bool} (ha : allow = !cfg.resetGpio) :
    Link cfg r {s with log := .acked s.tries seq rx :: s.log, work := SpiReboot.leave allow 0 false} := by
  have hmem : ∀ e ∈ s.log, e ∈ Ev.acked s.tries seq rx :: s.log := fun e => List.mem_cons_of_mem _
  obtain ⟨j,hj,hans,hno⟩ := hrx hack.isRebootResponse
  have hsame : seqNo r j = seqNo r s.tries := by rw [← hno,hack.seq,hseq]
  have hle := h.past j (answered_clocked h.answers hans)
  have hz : seq ≠ 0 := by
    rintro rfl
    have : (0 : UInt16).toNat = 0 := rfl
    unfold seqNo at hseq
    omega
  refine ⟨h.seq,?_,?_,?_,?_,?_,?_⟩
  · intro allow' sent q n hx
    exact absurd hx (leave_ne_checking allow 0 false allow' sent q n)
  · intro k hk
    exact h.past k (by simpa using hk)
  · exact h.slave.mono (fun f hf => hf.mono hmem f) (fun f hf => hf.mono hmem f)
  · exact ⟨hack,hz,hsent,⟨j,hj,hans,seqNo_period hle hsame⟩,h.answers⟩
  · intro boot _ _
    exact ⟨seq,rx,List.mem_cons_self⟩
  · intro hx
    simpa [leave_hwReset hx] using ha

theorem Link.checkBoot {cfg : Config} {r : Nat} {s : State} (h : Link cfg r s) {allow sent : Bool} {seq : UInt16}
    {n : Nat} (hw : s.work = .checking allow sent seq n) (io : Io) :
    Link cfg r (s.checkBoot cfg io allow sent seq n) := by
  obtain ⟨hallow,hsent,hseq⟩ := h.checking allow sent seq n hw
  unfold State.checkBoot
  by_cases he : io.expired = true
  · rw [if_pos he]
    exact h.leave hallow false (by cases allow <;> decide)
  · rw [if_neg he]
    cases hgpio : io.gpio with
    | some e => exact h.leave hallow false (errno_ne e)
    | none =>
      dsimp only
      by_cases hready : io.ready = false
      · rw [if_pos hready]
        exact h
      · rw [if_neg hready]
        generalize hinj : (allow && !sent && (!io.dataReady || decide (8 ≤ n))) = inject
        generalize (if (allow && !sent && io.dataReady) = true then n+1 else n) = n'
        have hallow' : inject = true → allow = true := by
          intro hx
          subst hx
          cases allow with
          | true => rfl
          | false => simp at hinj
        generalize htx : (if inject = true then
          ({bytes := rebootCommand seq, attempt := some s.tries} : Frame) else {bytes := pad []}) = tx
        obtain ⟨hdone,hreply⟩ := h.clock (fun hx => hseq (hallow' hx)) io.ok io.level htx.symm
        cases htr : io.transfer with
        | some e =>
          dsimp only
          split
          · exact hdone.leave hallow false (errno_ne e)
          · exact h.leave hallow false (errno_ne e)
        | none =>
          dsimp only
          by_cases hno : (sent || inject) = false
          · rw [if_pos hno]
            by_cases hb : pendingBoot (s.slave.transfer cfg.checksum tx io.ok io.level).2.bytes = true
            · rw [if_pos hb]
              cases io.noMem with
              | true => exact hdone.leave hallow false (by decide : -ENOMEM ≠ 0)
              | false => exact hdone.leave hallow true (by decide : (1 : Int) ≠ 0)
            · rw [if_neg hb]
              refine hdone.setWork ?_ (by simp) (by simp)
              intro allow' sent' q m hx
              cases hx
              exact ⟨hallow,by simp,hseq⟩
          · rw [if_neg hno]
            have hboth : allow = true ∧
                Ev.clocked s.tries ∈ if inject then Ev.clocked s.tries :: s.log else s.log := by
              cases inject with
              | true => exact ⟨hallow' rfl,by simp⟩
              | false => exact hsent (by simpa using hno)
            cases hrep : rebootReply seq (s.slave.transfer cfg.checksum tx io.ok io.level).2.bytes with
            | none =>
              refine hdone.setWork ?_ (by simp) (by simp)
              intro allow' sent' q m hx
              cases hx
              exact ⟨hallow,fun _ => hboth,hseq⟩
            | some ret =>
              dsimp only
              by_cases hz : ret = 0
              · subst hz
                rw [if_pos rfl]
                exact hdone.ack (hseq hboth.1) hboth.2 hreply (rebootReply_zero hrep) hallow
              · rw [if_neg hz]
                exact hdone.leave hallow false hz

def State.fixed (s : State) : Adapter × Nat × Nat × Option Nat × Bool × Option Nat × (Nat → TargetPc) :=
  (s.adapter,s.budgetEpoch,s.attempts,s.lock,s.resetting,s.pending,s.targets)

theorem checkBoot_fixed (cfg : Config) (s : State) (io : Io) (allow sent : Bool) (seq : UInt16) (n : Nat) :
    (s.checkBoot cfg io allow sent seq n).fixed = s.fixed ∧
    (∀ e, (s.checkBoot cfg io allow sent seq n).log.count (.charged e) = s.log.count (.charged e)) ∧
    (∀ e, (s.checkBoot cfg io allow sent seq n).log.count (.reboot e) = s.log.count (.reboot e)) ∧
    ∀ e, (s.checkBoot cfg io allow sent seq n).work = .started e → s.work = .started e := by
  unfold State.checkBoot
  dsimp only
  generalize (allow && !sent && (!io.dataReady || decide (8 ≤ n))) = inject
  by_cases he : io.expired = true
  · rw [if_pos he]
    exact ⟨rfl,fun _ => rfl,fun _ => rfl,fun e hx => absurd hx (leave_ne_started _ _ _ e)⟩
  · rw [if_neg he]
    cases io.gpio with
    | some e => exact ⟨rfl,fun _ => rfl,fun _ => rfl,fun e hx => absurd hx (leave_ne_started _ _ _ e)⟩
    | none =>
      dsimp only
      by_cases hready : io.ready = false
      · rw [if_pos hready]
        exact ⟨rfl,fun _ => rfl,fun _ => rfl,fun _ => id⟩
      · rw [if_neg hready]
        have hcharged : ∀ e, (if inject = true then Ev.clocked s.tries :: s.log else s.log).count (.charged e) =
            s.log.count (.charged e) := by
          intro e
          cases inject <;> simp
        have hreboot : ∀ e, (if inject = true then Ev.clocked s.tries :: s.log else s.log).count (.reboot e) =
            s.log.count (.reboot e) := by
          intro e
          cases inject <;> simp
        generalize (if inject = true then
          ({bytes := rebootCommand seq, attempt := some s.tries} : Frame) else {bytes := pad []}) = tx
        cases io.transfer with
        | some e =>
          dsimp only
          cases io.clocked with
          | true => exact ⟨rfl,hcharged,hreboot,fun e hx => absurd hx (leave_ne_started _ _ _ e)⟩
          | false => exact ⟨rfl,fun _ => rfl,fun _ => rfl,fun e hx => absurd hx (leave_ne_started _ _ _ e)⟩
        | none =>
          dsimp only
          by_cases hno : (sent || inject) = false
          · rw [if_pos hno]
            by_cases hb : pendingBoot (s.slave.transfer cfg.checksum tx io.ok io.level).2.bytes = true
            · rw [if_pos hb]
              refine ⟨rfl,hcharged,hreboot,?_⟩
              cases io.noMem with
              | true => exact fun e hx => absurd hx (leave_ne_started _ _ _ e)
              | false => exact fun e hx => absurd hx (leave_ne_started _ _ _ e)
            · rw [if_neg hb]
              exact ⟨rfl,hcharged,hreboot,fun e hx => by cases hx⟩
          · rw [if_neg hno]
            cases rebootReply seq (s.slave.transfer cfg.checksum tx io.ok io.level).2.bytes with
            | none => exact ⟨rfl,hcharged,hreboot,fun e hx => by cases hx⟩
            | some ret =>
              refine ⟨rfl,?_,?_,fun e hx => absurd hx (leave_ne_started _ _ _ e)⟩
              · intro e
                by_cases hz : ret = 0
                · simpa [hz] using hcharged e
                · simpa [hz] using hcharged e
              · intro e
                by_cases hz : ret = 0
                · simpa [hz] using hreboot e
                · simpa [hz] using hreboot e

theorem Link.begin {cfg : Config} {r : Nat} {s : State} (h : Link cfg r s) (hr : r < 65536)
    (hg : cfg.resetGpio = false) (epoch : Nat) (noMem : Bool) :
    Link cfg r {s with
      cmdSeq := nextSeq s.cmdSeq
      tries := s.tries+1
      log := .reboot epoch :: s.log
      work := if noMem then SpiReboot.leave true (-ENOMEM) false
        else .checking true false (nextSeq s.cmdSeq).toUInt16 0} := by
  have hnext := seqAfter_succ hr h.seq
  have hq := Quiet.reboot s.log epoch
  refine ⟨?_,?_,fun j hj => Nat.le_succ_of_le (h.past j (hq.clocked j hj)),?_,hq.answers h.answers,?_,?_⟩
  · rw [hnext]
    simp [seqAfter]
  · intro allow sent q n hx
    cases noMem with
    | true => exact absurd hx (leave_ne_checking true (-ENOMEM) false allow sent q n)
    | false =>
      cases hx
      refine ⟨by simp [hg],by simp,fun _ => ?_⟩
      rw [UInt32.toNat_toUInt16]
      exact hnext
  · exact h.slave.mono (fun f hf => hf.mono hq.mem f) (fun f hf => hf.mono hq.mem f)
  · intro boot _ hx
    cases noMem with
    | true =>
      have hx : SpiReboot.leave true (-ENOMEM) false = .returned 0 boot := hx
      exact absurd (leave_returned hx) (by decide)
    | false => cases hx
  · intro hx
    cases noMem with
    | true => cases hx
    | false => cases hx

/-! Steps. -/

structure Inv (cfg : Config) (r : Nat) (s : State) : Prop where
  gate : Gate s
  budget : Budget cfg s
  link : Link cfg r s

theorem inv_bound (cfg : Config) (a : Adapter) (cmdSeq : UInt32) :
    Inv cfg (cmdSeq.toNat%65536) (bound a cmdSeq) where
  gate := ⟨by simp [bound],by simp [bound],by simp [bound],by simp [bound],by simp [bound,WorkPc.inFlight]⟩
  budget := ⟨Nat.le_refl _,rfl,fun _ _ => rfl,fun _ => Nat.zero_le _,fun _ => Nat.le_refl _,by simp [bound],
    by simp [bound],by simp [bound]⟩
  link := ⟨rfl,by simp [bound],by simp [bound],⟨by simp [bound],by simp [bound],by simp [bound]⟩,trivial,
    by simp [bound],by simp [bound]⟩

theorem Inv.safe {cfg : Config} {r : Nat} {s : State} (h : Inv cfg r s) : Safe cfg s where
  charged := h.budget.limit
  reboots := h.budget.reboots
  single := h.gate.single
  kept := by
    intro hx
    have hpos : 0 < s.log.count (.charged s.epoch) := List.count_pos_iff.mpr hx
    have hpast := h.budget.past
    have heq : s.budgetEpoch = s.epoch := by
      by_contra hne
      have := h.budget.future s.epoch (by omega)
      omega
    exact ⟨heq,by rw [← heq]; exact h.budget.now⟩
  answers := h.link.answers
  reported := h.link.reported

theorem Inv.move {cfg : Config} {r : Nat} {s : State} (h : Inv cfg r s) {i : Nat} {p : TargetPc}
    (hi : s.targets i ≠ .synced ∧ ∀ e, s.targets i ≠ .charged e) (hpc : p = .idle ∨ p = .called ∨ p = .entered) :
    Inv cfg r (s.setTarget i p) where
  gate := h.gate.move hi hpc
  budget := by
    refine h.budget.frame (.inl rfl) rfl rfl (fun _ => rfl) (fun _ => rfl) ?_ (fun _ => .inl) (fun _ => .inl)
    intro j e hx
    by_cases hj : j = i
    · rcases hpc with rfl | rfl | rfl <;> simp [State.setTarget,hj] at hx
    · simpa [State.setTarget,hj] using hx
  link := h.link.frame rfl rfl (Quiet.refl _) rfl (.inl rfl)

theorem Inv.aside {cfg : Config} {r : Nat} {s s' : State} (h : Inv cfg r s)
    (he : s'.epoch = s.epoch ∨ s'.epoch = s.epoch+1)
    (hf : (s'.budgetEpoch,s'.attempts,s'.lock,s'.resetting,s'.pending,s'.targets) =
      (s.budgetEpoch,s.attempts,s.lock,s.resetting,s.pending,s.targets))
    (hl : (s'.cmdSeq,s'.tries,s'.slave,s'.work,s'.log) = (s.cmdSeq,s.tries,s.slave,s.work,s.log)) : Inv cfg r s' := by
  simp only [Prod.mk.injEq] at hf hl
  obtain ⟨f1,f2,f3,f4,f5,f6⟩ := hf
  obtain ⟨l1,l2,l3,l4,l5⟩ := hl
  refine ⟨h.gate.frame f6 f3 f4 f5 (by rw [l4]; exact id),?_,?_⟩
  · exact h.budget.frame he f1 f2 (fun _ => by rw [l5]) (fun _ => by rw [l5]) (fun i e hx => by rw [f6] at hx; exact hx)
      (fun e hx => .inl (f5 ▸ hx)) (fun e hx => .inl (l4 ▸ hx))
  · exact h.link.frame l1 l2 (by rw [l5]; exact Quiet.refl _) l3 (.inl l4)

theorem Inv.sync {cfg : Config} {r : Nat} {s : State} (h : Inv cfg r s) : Inv cfg r s.budgetSync where
  gate := by
    have hb := h.gate
    unfold State.budgetSync
    split
    · exact hb.frame rfl rfl rfl rfl id
    · exact hb
  budget := h.budget.sync
  link := by
    have hb := h.link
    unfold State.budgetSync
    split
    · exact hb.frame rfl rfl (Quiet.refl _) rfl (.inl rfl)
    · exact hb

theorem Inv.resetTarget {cfg : Config} {r : Nat} {s s' : State} (h : Inv cfg r s) {i : Nat}
    (hs : s.resetTarget cfg i = some s') : Inv cfg r s' := by
  cases hi : s.targets i with
  | idle => simp [State.resetTarget,hi] at hs
  | called =>
    simp only [State.resetTarget,hi] at hs
    cases hs
    refine h.move (by simp [hi]) ?_
    split <;> simp
  | entered =>
    simp only [State.resetTarget,hi] at hs
    split at hs
    · cases hs
    · next hl =>
      cases hs
      have hl : s.lock = none := by simpa using hl
      have hb := h.sync
      have hsl : s.budgetSync.lock = none := by
        unfold State.budgetSync
        split <;> exact hl
      refine ⟨hb.gate.enter hsl rfl rfl rfl rfl rfl,?_,?_⟩
      · refine hb.budget.frame (.inl rfl) rfl rfl (fun _ => rfl) (fun _ => rfl) ?_ (fun _ => .inl) (fun _ => .inl)
        intro j e hx
        by_cases hj : j = i
        · simp [State.setTarget,hj] at hx
        · simpa [State.setTarget,hj] using hx
      · exact hb.link.frame rfl rfl (Quiet.refl _) rfl (.inl rfl)
  | synced =>
    have hexit : Inv cfg r {s.setTarget i .idle with lock := none} := by
      refine ⟨h.gate.exit hi (.inl rfl) (by simp) rfl rfl (by simp [State.setTarget]) rfl rfl,?_,
        h.link.frame rfl rfl (Quiet.refl _) rfl (.inl rfl)⟩
      refine h.budget.frame (.inl rfl) rfl rfl (fun _ => rfl) (fun _ => rfl) ?_ (fun _ => .inl) (fun _ => .inl)
      intro j e hx
      by_cases hj : j = i
      · simp [State.setTarget,hj] at hx
      · simpa [State.setTarget,hj] using hx
    simp only [State.resetTarget,hi] at hs
    by_cases hres : s.resetting = true
    · rw [if_pos hres] at hs
      cases hs
      exact hexit
    · rw [if_neg hres] at hs
      have hoff : s.resetting = false := by simpa using hres
      by_cases hmax : cfg.resetGpio = false ∧ ESP_FW_BOOT_MAX_ATTEMPTS ≤ s.attempts
      · rw [if_pos hmax] at hs
        cases hs
        exact hexit
      · rw [if_neg hmax] at hs
        have hgate : ∀ {s' : State}, s'.targets = (s.setTarget i (.charged s.budgetEpoch)).targets → s'.lock = none →
            s'.resetting = true → s'.pending = s.pending → s'.work = s.work → Gate s' :=
          fun ht hl hr hp hw => h.gate.exit hi (.inr ⟨_,rfl⟩) (fun _ => hoff) ht hl (by simp [hr]) hp hw
        cases hg : cfg.resetGpio with
        | true =>
          rw [hg,if_pos rfl] at hs
          cases hs
          refine ⟨hgate rfl rfl rfl rfl rfl,?_,h.link.frame rfl rfl (Quiet.refl _) rfl (.inl rfl)⟩
          have hb := h.budget
          exact ⟨hb.past,hb.now,hb.future,hb.limit,hb.reboots,by simp [hg],hb.queued,hb.started⟩
        | false =>
          rw [hg,if_neg (by simp)] at hs
          cases hs
          have hlt : s.attempts < ESP_FW_BOOT_MAX_ATTEMPTS := by
            by_contra hx
            exact hmax ⟨hg,by omega⟩
          exact ⟨hgate rfl rfl rfl rfl rfl,h.budget.charge hlt rfl rfl rfl rfl rfl rfl rfl,
            h.link.frame rfl rfl (Quiet.charged _ _) rfl (.inl rfl)⟩
  | charged e =>
    have hp := (h.gate.held i e hi).2.1
    simp only [State.resetTarget,hi,hp] at hs
    cases hs
    refine ⟨h.gate.queue hi rfl rfl rfl rfl,?_,h.link.frame rfl rfl (Quiet.refl _) rfl (.inl rfl)⟩
    refine h.budget.frame (.inl rfl) rfl rfl (fun _ => rfl) (fun _ => rfl) ?_ ?_ (fun _ => .inl)
    · intro j e' hx
      by_cases hj : j = i
      · simp [State.setTarget,hj] at hx
      · simpa [State.setTarget,hj] using hx
    · intro e' hx
      cases hx
      exact .inr ⟨i,hi⟩
  | refused e => exact absurd hi (h.gate.refused i e)

theorem Inv.setWork {cfg : Config} {r : Nat} {s s' : State} (h : Inv cfg r s) (he : s'.epoch = s.epoch)
    (hf : (s'.budgetEpoch,s'.attempts,s'.lock,s'.resetting,s'.pending,s'.targets) =
      (s.budgetEpoch,s.attempts,s.lock,s.resetting,s.pending,s.targets))
    (hl : (s'.cmdSeq,s'.tries,s'.slave,s'.log) = (s.cmdSeq,s.tries,s.slave,s.log))
    (hw : s'.work.inFlight = true → s.work.inFlight = true) (hs : ∀ e, s'.work ≠ .started e)
    (hc : ∀ allow sent q n, s'.work = .checking allow sent q n → allow = false ∧ sent = false)
    (hr : s'.work.outside = true ∨ cfg.resetGpio = true) : Inv cfg r s' := by
  simp only [Prod.mk.injEq] at hf hl
  obtain ⟨f1,f2,f3,f4,f5,f6⟩ := hf
  obtain ⟨l1,l2,l3,l4⟩ := hl
  refine ⟨h.gate.frame f6 f3 f4 f5 hw,?_,?_⟩
  · exact h.budget.frame (.inl he) f1 f2 (fun _ => by rw [l4]) (fun _ => by rw [l4])
      (fun i e hx => by rw [f6] at hx; exact hx) (fun e hx => .inl (f5 ▸ hx)) (fun e hx => absurd hx (hs e))
  · rcases hr with hr | hr
    · exact h.link.frame l1 l2 (by rw [l4]; exact Quiet.refl _) l3 (.inr hr)
    · have hl := h.link.setWork (w := s'.work) (by
        intro allow sent q n hx
        obtain ⟨rfl,rfl⟩ := hc allow sent q n hx
        simp [hr]) (by simp [hr]) (fun _ => hr)
      exact hl.frame l1 l2 (by rw [l4]; exact Quiet.refl _) l3 (.inl rfl)

theorem Inv.resetWork {cfg : Config} {r : Nat} (hr : r < 65536) {s s' : State} (h : Inv cfg r s) {io : Io}
    (hs : s.resetWork cfg io = some s') : Inv cfg r s' := by
  cases hw : s.work with
  | idle => simp [State.resetWork,hw] at hs
  | started epoch =>
    have hin : s.work.inFlight = true := by rw [hw]; rfl
    simp only [State.resetWork,hw] at hs
    cases hg : cfg.resetGpio with
    | true =>
      rw [hg,if_pos rfl] at hs
      split at hs
      · cases hs
      · cases hs
        have hpc : ∀ w, w = (if s.rescue = false then WorkPc.hwReset
            else if io.noMem = true then leave false (-ENOMEM) false else .checking false false 0 0) →
            w = .hwReset ∨ w = .checking false false 0 0 := by
          intro w hx
          split_ifs at hx
          · exact .inl hx
          · exact .inl hx
          · exact .inr hx
        rcases hpc _ rfl with hx | hx
        · rw [hx]
          exact h.setWork rfl rfl rfl (fun _ => hin) (by simp) (by simp) (.inr hg)
        · rw [hx]
          refine h.setWork rfl rfl rfl (fun _ => hin) (by simp) ?_ (.inr hg)
          intro allow sent q n hx
          cases hx
          exact ⟨rfl,rfl⟩
    | false =>
      rw [hg,if_neg (by simp)] at hs
      cases hs
      refine ⟨h.gate.frame rfl rfl rfl rfl (fun _ => hin),?_,h.link.begin hr hg epoch io.noMem⟩
      refine h.budget.begin h.gate hg hw rfl rfl rfl rfl rfl rfl ?_
      intro e
      dsimp only
      split
      · exact leave_ne_started _ _ _ e
      · simp
  | checking allow sent seq n =>
    have hin : s.work.inFlight = true := by rw [hw]; rfl
    simp only [State.resetWork,hw] at hs
    cases hs
    obtain ⟨hfix,hc,hre,hst⟩ := checkBoot_fixed cfg s io allow sent seq n
    simp only [State.fixed,Prod.mk.injEq] at hfix
    obtain ⟨f1,f2,f3,f4,f5,f6,f7⟩ := hfix
    refine ⟨h.gate.frame f7 f4 f5 f6 (fun _ => hin),?_,h.link.checkBoot hw io⟩
    exact h.budget.frame (.inl (by rw [State.epoch,f1]; rfl)) f2 f3 hc hre (fun i e hx => by rw [f7] at hx; exact hx)
      (fun e hx => .inl (f6 ▸ hx)) (fun e hx => .inl (hst e hx))
  | hwReset =>
    have hin : s.work.inFlight = true := by rw [hw]; rfl
    simp only [State.resetWork,hw] at hs
    cases hs
    exact h.setWork rfl rfl rfl (fun _ => hin) (by simp) (by simp) (.inr (h.link.pin hw))
  | returned ret boot =>
    have hin : s.work.inFlight = true := by rw [hw]; rfl
    simp only [State.resetWork,hw] at hs
    cases hs
    exact h.setWork rfl rfl rfl (fun _ => hin) (by simp) (by simp) (.inl rfl)
  | clearing ret boot =>
    have hin : s.work.inFlight = true := by rw [hw]; rfl
    simp only [State.resetWork,hw] at hs
    cases hs
    exact ⟨h.gate.clear hin,
      h.budget.frame (.inl rfl) rfl rfl (fun _ => rfl) (fun _ => rfl) (fun _ _ => id) (fun _ => .inl) (by simp),
      h.link.frame rfl rfl (Quiet.refl _) rfl (.inr rfl)⟩
  | tail ret boot =>
    simp only [State.resetWork,hw] at hs
    cases hs
    exact h.setWork rfl rfl rfl (by simp [WorkPc.inFlight]) (by simp) (by simp) (.inl rfl)

theorem Inv.slave {cfg : Config} {r : Nat} {s : State} (h : Inv cfg r s) {slave : Slave}
    (hs : Carries (Commands r s.log) (Replies r s.log) slave) : Inv cfg r {s with slave := slave} where
  gate := h.gate.frame rfl rfl rfl rfl id
  budget := h.budget.frame (.inl rfl) rfl rfl (fun _ => rfl) (fun _ => rfl) (fun _ _ => id) (fun _ => .inl) (fun _ => .inl)
  link := ⟨h.link.seq,h.link.checking,h.link.past,hs,h.link.answers,h.link.reported,h.link.pin⟩

theorem Inv.answer {cfg : Config} {r : Nat} {s : State} (h : Inv cfg r s) {f : Frame} {rest : List Frame} {b : Bytes}
    (hrx : s.slave.rx = f :: rest) (hb : espCmdDispatch f.bytes = some b) :
    Inv cfg r {s with
      slave := {s.slave with rx := rest, tx := s.slave.tx ++ [{bytes := b, attempt := f.attempt}]}
      log := f.attempt.toList.map .answered ++ s.log} := by
  have hc := h.link.slave
  obtain ⟨j,hj,hclk,hseq⟩ := hc.rx f (by simp [hrx]) (by simp [hb])
  have hlog : f.attempt.toList.map Ev.answered ++ s.log = .answered j :: s.log := by
    rw [Option.mem_def.mp hj]
    rfl
  have hmem : ∀ e ∈ s.log, e ∈ Ev.answered j :: s.log := fun e => List.mem_cons_of_mem _
  rw [hlog]
  refine ⟨h.gate.frame rfl rfl rfl rfl id,?_,?_⟩
  · exact h.budget.frame (.inl rfl) rfl rfl (by simp) (by simp) (fun _ _ => id) (fun _ => .inl) (fun _ => .inl)
  · refine ⟨h.link.seq,?_,?_,⟨?_,?_,?_⟩,⟨hclk,h.link.answers⟩,?_,h.link.pin⟩
    · intro allow sent q n hx
      obtain ⟨h1,h2,h3⟩ := h.link.checking allow sent q n hx
      exact ⟨h1,fun hs => ⟨(h2 hs).1,hmem _ (h2 hs).2⟩,h3⟩
    · intro k hk
      exact h.link.past k (by simpa using hk)
    · intro g hg
      exact (hc.rx g (by simp [hrx,show g ∈ rest from hg])).mono hmem g
    · intro g hg
      rcases List.mem_append.mp hg with hg | hg
      · exact (hc.tx g hg).mono hmem g
      · rw [List.mem_singleton.mp hg]
        intro _
        refine ⟨j,hj,List.mem_cons_self,?_⟩
        rw [espCmdDispatch_spec hb]
        exact hseq
    · intro g b' hg
      exact (hc.armed g b' hg).mono hmem g
    · intro boot hgp hx
      obtain ⟨seq,rx,hm⟩ := h.link.reported boot hgp hx
      exact ⟨seq,rx,hmem _ hm⟩

theorem espFinishReconstruction_epoch (a : Adapter) :
    (espFinishReconstruction a).1.bootCommitEpoch = a.bootCommitEpoch ∨
    (espFinishReconstruction a).1.bootCommitEpoch = a.bootCommitEpoch+1 := by
  unfold espFinishReconstruction
  split <;> simp

theorem espRequestFirmwareRestart_epoch (c : Clock) (now : Nat) (a : Adapter) :
    (espRequestFirmwareRestart c now a).1.bootCommitEpoch = a.bootCommitEpoch := by
  unfold espRequestFirmwareRestart
  split_ifs <;> rfl

theorem Inv.firmware {cfg : Config} {r : Nat} {s s' : State} (h : Inv cfg r s) {a : Action}
    (ha : (∃ tx ok level, a = .transfer tx ok level) ∨ (∃ alloc, a = .dispatch alloc) ∨ (∃ b, a = .send b) ∨
      (∃ i, a = .arm i) ∨ a = .restart) (hs : step cfg s a = some s') : Inv cfg r s' := by
  have hc := h.link.slave
  rcases ha with ⟨tx,ok,level,rfl⟩ | ⟨alloc,rfl⟩ | ⟨b,rfl⟩ | ⟨i,rfl⟩ | rfl
  · simp only [step] at hs
    split at hs
    · cases hs
    · next hg =>
      cases hs
      have hno : (espCmdDispatch tx).isSome = false := by simpa using (not_or.mp hg).2
      refine h.slave (hc.transfer cfg.checksum ?_ ok level (Replies.of_not (isRebootResponse_idle level))).1
      intro hx
      rw [hno] at hx
      cases hx
  · simp only [step] at hs
    cases hrx : s.slave.rx with
    | nil => simp [hrx] at hs
    | cons f rest =>
      have hdrop : Inv cfg r {s with slave := {s.slave with rx := rest}} :=
        h.slave ⟨fun g hg => hc.rx g (by simp [hrx,show g ∈ rest from hg]),hc.tx,hc.armed⟩
      simp only [hrx] at hs
      cases hb : espCmdDispatch f.bytes with
      | none =>
        simp only [hb] at hs
        cases hs
        exact hdrop
      | some b =>
        cases alloc with
        | true =>
          simp only [hb] at hs
          cases hs
          exact h.answer hrx hb
        | false =>
          simp only [hb] at hs
          cases hs
          exact hdrop
  · simp only [step] at hs
    split at hs
    · cases hs
    · next hno =>
      cases hs
      refine h.slave ⟨hc.rx,?_,hc.armed⟩
      intro g hg
      rcases List.mem_append.mp hg with hg | hg
      · exact hc.tx g hg
      · rw [List.mem_singleton.mp hg]
        exact Replies.of_not (by simpa using hno)
  · simp only [step] at hs
    cases hx : s.slave.arm i with
    | none => simp [hx] at hs
    | some slave =>
      simp only [hx] at hs
      cases hs
      refine h.slave (hc.arm (Replies.of_not isRebootResponse_dummy) ?_ hx)
      intro f hf hy
      rw [isRebootResponse_pad] at hy
      obtain ⟨j,hj,hans,hseq⟩ := hf hy
      exact ⟨j,hj,hans,by rw [cmdSeqNum_pad]; exact hseq⟩
  · simp only [step] at hs
    cases hs
    exact h.slave ⟨by simp,by simp,by simp⟩

theorem step_inv {cfg : Config} {r : Nat} (hr : r < 65536) {s s' : State} {a : Action} (hs : step cfg s a = some s')
    (h : Inv cfg r s) : Inv cfg r s' := by
  cases a with
  | request i now =>
    have he := espRequestFirmwareRestart_epoch cfg.clock now s.adapter
    simp only [step] at hs
    split at hs
    · cases hs
    · next hi =>
      have hi : s.targets i = .idle := by simpa using hi
      split at hs
      · next a ha =>
        rw [ha] at he
        cases hs
        exact (h.move (p := .called) (by simp [hi]) (by simp)).aside (.inl he) rfl rfl
      · next a _ ha =>
        rw [ha] at he
        cases hs
        exact h.aside (.inl he) rfl rfl
  | recover i =>
    simp only [step] at hs
    split at hs
    · cases hs
    · next hi =>
      have hi : s.targets i = .idle := by simpa using hi
      cases hs
      unfold State.recoverTransport
      split_ifs
      · exact h
      · exact h.move (by simp [hi]) (by simp)
      · exact h.aside (.inl rfl) rfl rfl
  | target i => exact h.resetTarget hs
  | run =>
    simp only [step] at hs
    cases hp : s.pending with
    | none => simp [hp] at hs
    | some epoch =>
      simp only [hp] at hs
      split at hs
      · cases hs
      · cases hs
        refine ⟨h.gate.run hp,?_,h.link.frame rfl rfl (Quiet.refl _) rfl (.inr rfl)⟩
        refine h.budget.frame (.inl rfl) rfl rfl (fun _ => rfl) (fun _ => rfl) (fun _ _ => id) (by simp) ?_
        intro e hx
        cases hx
        exact .inr hp
  | work io => exact h.resetWork hr hs
  | commit =>
    have he := espFinishReconstruction_epoch s.adapter
    simp only [step] at hs
    split at hs
    · next a ha =>
      rw [ha] at he
      cases hs
      exact h.aside he rfl rfl
    · next a ha =>
      rw [ha] at he
      cases hs
      exact h.aside he rfl rfl
  | callback =>
    simp only [step] at hs
    split at hs
    · cases hs
    · cases hs
      exact h.sync.aside (.inl rfl) rfl rfl
  | retire =>
    simp only [step] at hs
    split at hs
    · cases hs
    · cases hs
      exact h.aside (.inl rfl) rfl rfl
  | adapter a =>
    simp only [step] at hs
    split at hs
    · cases hs
    · next he =>
      cases hs
      exact h.aside (.inl (not_not.mp he)) rfl rfl
  | transfer tx ok level => exact h.firmware (.inl ⟨tx,ok,level,rfl⟩) hs
  | dispatch alloc => exact h.firmware (.inr (.inl ⟨alloc,rfl⟩)) hs
  | send b => exact h.firmware (.inr (.inr (.inl ⟨b,rfl⟩))) hs
  | arm i => exact h.firmware (.inr (.inr (.inr (.inl ⟨i,rfl⟩)))) hs
  | restart => exact h.firmware (.inr (.inr (.inr (.inr rfl)))) hs

/-- Every run of a binding. -/
theorem reboots_safe (cfg : Config) (a : Adapter) (cmdSeq : UInt32) (acts : List Action) (s : State)
    (hs : exec (step cfg) (bound a cmdSeq) acts = some s) : Safe cfg s :=
  (exec_invariant (fun _ _ _ h hx => step_inv (Nat.mod_lt _ (by decide)) hx h) (inv_bound cfg a cmdSeq) hs).safe

/-- `i` asks for a reset that is charged, queued and begun. -/
def attemptRun (i : Nat) : List Action := (List.replicate 4 (.target i) : List Action) ++ ([.run,.work {}] : List Action)

/-- The first attempt ends before its answer is clocked. Its answer comes up in the second
attempt, in a transaction that fails on the slave, and then the answer to the second. -/
def retainedAckRun : List Action :=
  .request 0 1000 :: attemptRun 0 ++
    ([.arm none,.work {},.dispatch true,.work {expired := true},.work {},.work {},.work {},.recover 1] : List Action) ++
    attemptRun 1 ++
    ([.arm none,.work {},.arm (some 0),.work {ok := false},.dispatch true,.arm (some 0),
      .work {dataReady := true}] : List Action)

def softConfig : Config := {clock := clock32, resetGpio := false, checksum := true}

def firstBinding : State := bound {} 0

theorem reboots_safe_retained :
    ∃ s ∈ exec (step softConfig) firstBinding retainedAckRun,
      (s.work = .returned 0 false ∧ s.tries = 2 ∧ s.log.count (.answered 1) = 1) ∧ Safe softConfig s := by
  have hrun : (exec (step softConfig) firstBinding retainedAckRun).any
      (fun s => s.work = .returned 0 false ∧ s.tries = 2 ∧ s.log.count (.answered 1) = 1) = true := by decide +kernel
  cases hs : exec (step softConfig) firstBinding retainedAckRun with
  | none => simp [hs] at hrun
  | some s => exact ⟨s,rfl,by simpa [hs] using hrun,reboots_safe softConfig {} 0 _ s hs⟩

end EspHosted.SpiReboot
