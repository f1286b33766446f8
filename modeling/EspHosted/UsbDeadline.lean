import EspHosted.UsbDevice

/-!
The transmit timeout of `usb_write_all`. Ticks are counted without a bound here; the
counter that the code reads keeps 32 bits of them.
-/

set_option autoImplicit false

namespace EspHosted.Usb
open EspHosted

/-- The answers to one pass, with the tick at which `xTaskGetTickCount` is read in it. -/
structure Pass where
  mounted : Bool := true
  available : Nat
  written : Nat
  time : Nat
  deriving DecidableEq, Repr

def Pass.reply (p : Pass) : TudReply :=
  {mounted := p.mounted, available := p.available, written := p.written, tick := UInt32.ofNat p.time}

/-- No byte can be sent in this pass. -/
def Pass.Stuck (u : UsbDev) (p : Pass) : Prop := (u.txBuffered = true ∧ p.available = 0) ∨ p.written = 0

abbrev Call := List Pass → WriteResult

/-- A timeout comes at or after `due`. -/
def NotEarly (due : Nat) (call : Call) (env : List Pass) : Prop :=
  ∀ before p after sent, env = before ++ p :: after →
    call env = some (.timeout,sent,after.map Pass.reply) → due ≤ p.time

/-- The call is over after a pass at or after `due` in which nothing could be sent. -/
def NotLate (u : UsbDev) (due : Nat) (call : Call) (env : List Pass) : Prop :=
  ∀ before p after, env = before ++ p :: after → p.Stuck u → due ≤ p.time → call (before ++ [p]) ≠ none

/-! When the counter is read, as availability and write results alone decide it. -/

def padWaits (u : UsbDev) : List Pass → List Nat
  | [] => []
  | p :: env => if u.txBuffered && p.available = 0 then p.time :: padWaits u env else []

/-- Ticks of the passes that send nothing, if none of them ended the call; `left` bytes are to be sent. -/
def waits (u : UsbDev) (pads : Bool) : Nat → List Pass → List Nat
  | 0,env => if pads then padWaits u env else []
  | _+1,[] => []
  | left+1,p :: env =>
    if p.mounted = false then []
    else
      let available := writeAvailable u p.reply (left+1)
      let written := min p.written (min (left+1) available)
      if available = 0 ∨ written = 0 then p.time :: waits u pads (left+1) env
      else waits u pads (left+1-written) env

/-- A read in the period of the deadline, or after it at a value that has passed the deadline's. -/
def Clear (due time : Nat) : Prop :=
  time/2^32 = due/2^32 ∨ (due/2^32 < time/2^32 ∧ due%2^32 ≤ time%2^32)

instance (due time : Nat) : Decidable (Clear due time) := inferInstanceAs (Decidable (_ ∨ _))

/-- Every read up to the first one at or past the deadline is clear. -/
def AllClear (due : Nat) : List Nat → Prop
  | [] => True
  | t :: ts => Clear due t ∧ (t < due → AllClear due ts)

theorem clear_iff {start due time : Nat} {ticks : UInt32} (hd : due = start+ticks.toNat) (ht : start ≤ time) :
    ((UInt32.ofNat start+ticks ≤ UInt32.ofNat time) ↔ due ≤ time) ↔ Clear due time := by
  have htl := ticks.toNat_lt
  rw [UInt32.le_iff_toNat_le,UInt32.toNat_add,UInt32.toNat_ofNat',UInt32.toNat_ofNat',Clear]
  omega

/-! One pass of a call. -/

def OnTime (u : UsbDev) (due : Nat) (call : Call) (env : List Pass) : Prop :=
  NotEarly due call env ∧ NotLate u due call env

/-- A timeout is the answer to some pass. -/
def Reads (call : Call) : Prop :=
  ∀ env sent rest, call env = some (.timeout,sent,rest) → rest.length < env.length

section pass
variable {u : UsbDev} {due : Nat} {call call' : Call} {p : Pass} {env : List Pass}

theorem onTime_nil : OnTime u due call [] := by
  constructor
  · intro before p after sent he
    cases before <;> cases he
  · intro before p after he
    cases before <;> cases he

theorem onTime_ends (h : ∀ env, ∃ e sent rest, call (p :: env) = some (e,sent,rest) ∧ e ≠ .timeout) :
    OnTime u due call (p :: env) := by
  constructor
  · intro before p' after sent _ ht
    obtain ⟨e,s,r,he,hne⟩ := h env
    rw [he] at ht
    cases ht
    exact absurd rfl hne
  · intro before p' after he _ _ hn
    cases before with
    | nil =>
      cases he
      obtain ⟨e,s,r,hc,-⟩ := h []
      exact absurd (hc.symm.trans hn) (by simp)
    | cons q before =>
      cases he
      obtain ⟨e,s,r,hc,-⟩ := h (before ++ [p'])
      exact absurd (hc.symm.trans hn) (by simp)

theorem onTime_timeout (h : ∀ env, call (p :: env) = some (.timeout,[],env.map Pass.reply)) :
    OnTime u due call (p :: env) ↔ due ≤ p.time := by
  constructor
  · intro ho
    exact ho.1 [] p env [] rfl (h env)
  · intro hd
    constructor
    · intro before p' after sent he ht
      rw [h env] at ht
      cases before with
      | nil => cases he; exact hd
      | cons q before =>
        cases he
        have hl := congrArg (Option.map fun r => r.2.2.length) ht
        simp at hl
        omega
    · intro before p' after he _ _ hn
      cases before with
      | nil => cases he; exact absurd ((h []).symm.trans hn) (by simp)
      | cons q before => cases he; exact absurd ((h (before ++ [p'])).symm.trans hn) (by simp)

theorem onTime_retry (h : ∀ env, call (p :: env) = call env) (h0 : call [] = none) (hr : Reads call)
    (hs : p.Stuck u) : OnTime u due call (p :: env) ↔ p.time < due ∧ OnTime u due call env := by
  constructor
  · intro ho
    refine ⟨Nat.lt_of_not_le fun hd => ho.2 [] p env rfl hs hd ((h []).trans h0),?_,?_⟩
    · intro before p' after sent he ht
      exact ho.1 (p :: before) p' after sent (by rw [he]; rfl) ((h env).trans ht)
    · intro before p' after he hst hd hn
      exact ho.2 (p :: before) p' after (by rw [he]; rfl) hst hd ((h (before ++ [p'])).trans hn)
  · rintro ⟨hlt,ho⟩
    constructor
    · intro before p' after sent he ht
      rw [h env] at ht
      cases before with
      | nil =>
        cases he
        have hl := hr env sent _ ht
        simp at hl
      | cons q before => cases he; exact ho.1 before p' after sent rfl ht
    · intro before p' after he hst hd
      cases before with
      | nil => cases he; omega
      | cons q before =>
        cases he
        rw [List.cons_append,h]
        exact ho.2 before p' after rfl hst hd

theorem onTime_progress (f : Bytes → Bytes)
    (h : ∀ env, call (p :: env) = (call' env).map fun r => (r.1,f r.2.1,r.2.2)) (hr : Reads call')
    (hs : ¬p.Stuck u) : OnTime u due call (p :: env) ↔ OnTime u due call' env := by
  constructor
  · intro ho
    constructor
    · intro before p' after sent he ht
      refine ho.1 (p :: before) p' after (f sent) (by rw [he]; rfl) ?_
      rw [h env,ht]
      rfl
    · intro before p' after he hst hd hn
      refine ho.2 (p :: before) p' after (by rw [he]; rfl) hst hd ?_
      rw [List.cons_append,h,hn]
      rfl
  · intro ho
    constructor
    · intro before p' after sent he ht
      rw [h env] at ht
      obtain ⟨⟨e,s,rest⟩,hc,heq⟩ := Option.map_eq_some_iff.mp ht
      simp only [Prod.mk.injEq] at heq
      obtain ⟨rfl,-,rfl⟩ := heq
      cases before with
      | nil =>
        cases he
        have hl := hr env s _ hc
        simp at hl
      | cons q before => cases he; exact ho.1 before p' after s rfl hc
    · intro before p' after he hst hd hn
      cases before with
      | nil => cases he; exact hs hst
      | cons q before =>
        cases he
        rw [List.cons_append,h] at hn
        exact ho.2 before p' after rfl hst hd (Option.map_eq_none_iff.mp hn)

end pass

/-! The two loops. -/

def padCall (u : UsbDev) (deadline : UInt32) : Call := fun env => usbWritePad u deadline (env.map Pass.reply)

/-- `usb_write_all` from the data that is left. -/
def writeFrom (u : UsbDev) (deadline : UInt32) (pads : Bool) (data : Bytes) : Call := fun env =>
  match usbWriteLoop u deadline (env.map Pass.reply) data with
  | none => none
  | some (.ok,sent,rest) =>
    if pads then
      match usbWritePad u deadline rest with
      | none => none
      | some (e,pad,rest) => some (e,sent ++ pad,rest)
    else some (.ok,sent,rest)
  | some (e,sent,rest) => some (e,sent,rest)

theorem usbWriteAll_eq (u : UsbDev) (start : UInt32) {data : Bytes} (hd : data ≠ []) (env : List Pass) :
    usbWriteAll u start data (env.map Pass.reply) =
      writeFrom u (start+u.timeoutTicks) (padsAfter u.epMps data.length) data env := by
  rw [usbWriteAll,if_neg hd]
  rfl

theorem writeFrom_nil (u : UsbDev) (deadline : UInt32) (pads : Bool) (env : List Pass) :
    writeFrom u deadline pads [] env =
      if pads then padCall u deadline env else some (.ok,[],env.map Pass.reply) := by
  simp only [writeFrom,usbWriteLoop,padCall,List.nil_append]
  split
  · split <;> simp_all
  · rfl

theorem writeFrom_nil_pads (u : UsbDev) (deadline : UInt32) :
    writeFrom u deadline true [] = padCall u deadline := by
  funext env
  rw [writeFrom_nil,if_pos rfl]

theorem usbWriteLoop_cons (u : UsbDev) (deadline : UInt32) (b : UInt8) (data : Bytes) (p : Pass) (env : List Pass) :
    usbWriteLoop u deadline ((p :: env).map Pass.reply) (b :: data) =
      if p.mounted = false then some (.invalidState,[],env.map Pass.reply)
      else
        let available := writeAvailable u p.reply (data.length+1)
        let written := min p.written (min (data.length+1) available)
        if available = 0 ∨ written = 0 then
          if deadline ≤ UInt32.ofNat p.time then some (.timeout,[],env.map Pass.reply)
          else usbWriteLoop u deadline (env.map Pass.reply) (b :: data)
        else (usbWriteLoop u deadline (env.map Pass.reply) ((b :: data).drop written)).map fun r =>
          (r.1,(b :: data).take written ++ r.2.1,r.2.2) := by
  have hm : p.reply.mounted = p.mounted := rfl
  have hw : p.reply.written = p.written := rfl
  have ht : p.reply.tick = UInt32.ofNat p.time := rfl
  rw [List.map_cons,usbWriteLoop,hm,hw,ht,List.length_cons]
  by_cases hmt : p.mounted = false
  · rw [if_pos hmt,if_pos hmt]
  · rw [if_neg hmt,if_neg hmt]
    simp only
    generalize writeAvailable u p.reply (data.length+1) = available
    generalize min p.written (min (data.length+1) available) = written
    by_cases ha : available = 0
    · have hs : available = 0 ∨ written = 0 := .inl ha
      rw [if_pos ha,if_pos hs]
    · rw [if_neg ha]
      by_cases hz : written = 0
      · have hs : available = 0 ∨ written = 0 := .inr hz
        rw [if_pos hz,if_pos hs]
      · have hs : ¬(available = 0 ∨ written = 0) := not_or.mpr ⟨ha,hz⟩
        rw [if_neg hz,if_neg hs]
        cases usbWriteLoop u deadline (env.map Pass.reply) ((b :: data).drop written) <;> rfl

theorem writeFrom_cons (u : UsbDev) (deadline : UInt32) (pads : Bool) (b : UInt8) (data : Bytes) (p : Pass)
    (env : List Pass) : writeFrom u deadline pads (b :: data) (p :: env) =
      if p.mounted = false then some (.invalidState,[],env.map Pass.reply)
      else
        let available := writeAvailable u p.reply (data.length+1)
        let written := min p.written (min (data.length+1) available)
        if available = 0 ∨ written = 0 then
          if deadline ≤ UInt32.ofNat p.time then some (.timeout,[],env.map Pass.reply)
          else writeFrom u deadline pads (b :: data) env
        else (writeFrom u deadline pads ((b :: data).drop written) env).map fun r =>
          (r.1,(b :: data).take written ++ r.2.1,r.2.2) := by
  rw [writeFrom,usbWriteLoop_cons]
  by_cases hm : p.mounted = false
  · simp only [if_pos hm]
  · simp only [if_neg hm]
    generalize writeAvailable u p.reply (data.length+1) = available
    generalize min p.written (min (data.length+1) available) = written
    by_cases hs : available = 0 ∨ written = 0
    · simp only [if_pos hs]
      by_cases hd : deadline ≤ UInt32.ofNat p.time
      · simp only [if_pos hd]
      · simp only [if_neg hd,writeFrom]
    · simp only [if_neg hs,writeFrom]
      cases usbWriteLoop u deadline (env.map Pass.reply) ((b :: data).drop written) with
      | none => rfl
      | some r =>
        obtain ⟨e,sent,rest⟩ := r
        cases e with
        | ok =>
          simp only [Option.map_some]
          cases pads with
          | false => rfl
          | true =>
            simp only [if_true]
            cases usbWritePad u deadline rest with
            | none => rfl
            | some q => simp
        | _ => rfl

theorem padCall_cons (u : UsbDev) (deadline : UInt32) (p : Pass) (env : List Pass) :
    padCall u deadline (p :: env) =
      if u.txBuffered && p.available = 0 then
        if deadline ≤ UInt32.ofNat p.time then some (.timeout,[],env.map Pass.reply) else padCall u deadline env
      else if p.written = 0 then some (.fail,[],env.map Pass.reply)
      else some (.ok,[0],env.map Pass.reply) := rfl

theorem reads_pad (u : UsbDev) (deadline : UInt32) : Reads (padCall u deadline) := by
  intro env
  induction env with
  | nil => intro sent rest h; cases h
  | cons p env ih =>
    intro sent rest h
    rw [padCall_cons] at h
    split at h
    · split at h
      · cases h
        simp
      · have := ih sent rest h
        simp only [List.length_cons]
        omega
    · split at h <;> cases h

theorem reads_writeFrom (u : UsbDev) (deadline : UInt32) (pads : Bool) (env : List Pass) : ∀ (data sent : Bytes)
    (rest : List TudReply), writeFrom u deadline pads data env = some (.timeout,sent,rest) →
    rest.length < env.length := by
  induction env with
  | nil =>
    intro data sent rest h
    cases data with
    | nil =>
      rw [writeFrom_nil] at h
      split at h
      · exact reads_pad u deadline [] sent rest h
      · cases h
    | cons b data => cases h
  | cons p env ih =>
    intro data sent rest h
    cases data with
    | nil =>
      rw [writeFrom_nil] at h
      split at h
      · exact reads_pad u deadline (p :: env) sent rest h
      · cases h
    | cons b data =>
      rw [writeFrom_cons] at h
      simp only [List.length_cons] at h ⊢
      split at h
      · cases h
      · split at h
        · split at h
          · cases h
            simp
          · have := ih _ sent rest h
            omega
        · obtain ⟨⟨e,s,r⟩,hc,heq⟩ := Option.map_eq_some_iff.mp h
          simp only [Prod.mk.injEq] at heq
          obtain ⟨rfl,-,rfl⟩ := heq
          have := ih _ s r hc
          omega

theorem onTime_stuck {u : UsbDev} {start due : Nat} {ts : List Nat} {p : Pass} {env : List Pass} {call : Call}
    (hd : due = start+u.timeoutTicks.toNat) (ht : start ≤ p.time)
    (h : ∀ env, call (p :: env) =
      if UInt32.ofNat start+u.timeoutTicks ≤ UInt32.ofNat p.time then some (.timeout,[],env.map Pass.reply)
      else call env)
    (h0 : call [] = none) (hr : Reads call) (hs : p.Stuck u)
    (ih : OnTime u due call env ↔ AllClear due ts) :
    OnTime u due call (p :: env) ↔ AllClear due (p.time :: ts) := by
  rw [AllClear,← clear_iff hd ht]
  by_cases hc : UInt32.ofNat start+u.timeoutTicks ≤ UInt32.ofNat p.time
  · rw [onTime_timeout fun env => by rw [h,if_pos hc]]
    constructor
    · intro hle
      exact ⟨⟨fun _ => hle,fun _ => hc⟩,fun hlt => by omega⟩
    · exact fun hcl => hcl.1.mp hc
  · rw [onTime_retry (fun env => by rw [h,if_neg hc]) h0 hr hs,ih]
    constructor
    · rintro ⟨hlt,ha⟩
      exact ⟨⟨fun h => absurd h hc,fun h => by omega⟩,fun _ => ha⟩
    · rintro ⟨hcl,ha⟩
      have hlt : p.time < due := Nat.lt_of_not_le fun hle => hc (hcl.mpr hle)
      exact ⟨hlt,ha hlt⟩

section loops
variable {u : UsbDev} {start due : Nat}

theorem onTime_pad (hd : due = start+u.timeoutTicks.toNat) (env : List Pass) (ht : ∀ p ∈ env, start ≤ p.time) :
    OnTime u due (padCall u (UInt32.ofNat start+u.timeoutTicks)) env ↔ AllClear due (padWaits u env) := by
  induction env with
  | nil =>
    simp only [padWaits,AllClear,iff_true]
    exact onTime_nil
  | cons p env ih =>
    have ih := ih fun q hq => ht q (List.mem_cons_of_mem _ hq)
    rw [padWaits]
    by_cases hs : (u.txBuffered && decide (p.available = 0)) = true
    · rw [if_pos hs]
      refine onTime_stuck hd (ht p List.mem_cons_self) (fun env => ?_) rfl (reads_pad u _) ?_ ih
      · rw [padCall_cons,if_pos hs]
      · exact .inl (by simpa using hs)
    · rw [if_neg hs]
      simp only [AllClear,iff_true]
      apply onTime_ends
      intro env
      rw [padCall_cons,if_neg hs]
      split
      · exact ⟨_,_,_,rfl,by decide⟩
      · exact ⟨_,_,_,rfl,by decide⟩

theorem onTime_writeFrom (hd : due = start+u.timeoutTicks.toNat) (pads : Bool) (env : List Pass) :
    ∀ data : Bytes, (∀ p ∈ env, start ≤ p.time) →
    (OnTime u due (writeFrom u (UInt32.ofNat start+u.timeoutTicks) pads data) env ↔
      AllClear due (waits u pads data.length env)) := by
  induction env with
  | nil =>
    intro data ht
    cases data with
    | nil =>
      cases pads with
      | false =>
        simp only [List.length_nil,waits,Bool.false_eq_true,if_false,AllClear,iff_true]
        exact onTime_nil
      | true =>
        rw [writeFrom_nil_pads]
        exact onTime_pad hd [] ht
    | cons b data =>
      simp only [List.length_cons,waits,AllClear,iff_true]
      exact onTime_nil
  | cons p env ih =>
    intro data ht
    have hte : ∀ q ∈ env, start ≤ q.time := fun q hq => ht q (List.mem_cons_of_mem _ hq)
    cases data with
    | nil =>
      cases pads with
      | false =>
        simp only [List.length_nil,waits,Bool.false_eq_true,if_false,AllClear,iff_true]
        exact onTime_ends fun env => ⟨_,_,_,by rw [writeFrom_nil,if_neg Bool.false_ne_true],by decide⟩
      | true =>
        rw [writeFrom_nil_pads]
        exact onTime_pad hd (p :: env) ht
    | cons b data =>
      rw [List.length_cons,waits]
      by_cases hm : p.mounted = false
      · rw [if_pos hm]
        simp only [AllClear,iff_true]
        exact onTime_ends fun env => ⟨_,_,_,by rw [writeFrom_cons,if_pos hm],by decide⟩
      · rw [if_neg hm]
        simp only
        have hc := fun env => writeFrom_cons u (UInt32.ofNat start+u.timeoutTicks) pads b data p env
        simp only [if_neg hm] at hc
        have hav : writeAvailable u p.reply (data.length+1) =
          if u.txBuffered then p.available else data.length+1 := rfl
        by_cases hs : writeAvailable u p.reply (data.length+1) = 0 ∨
            min p.written (min (data.length+1) (writeAvailable u p.reply (data.length+1))) = 0
        · simp only [if_pos hs] at hc
          rw [if_pos hs]
          refine onTime_stuck hd (ht p List.mem_cons_self) hc rfl (fun env => reads_writeFrom u _ pads env _) ?_
            (ih (b :: data) hte)
          rw [hav] at hs
          unfold Pass.Stuck
          cases hb : u.txBuffered <;> simp only [hb] at hs ⊢ <;> simp at hs ⊢ <;> omega
        · simp only [if_neg hs] at hc
          rw [if_neg hs]
          refine (onTime_progress _ hc (fun env => reads_writeFrom u _ pads env _) ?_).trans ?_
          · rw [hav] at hs
            unfold Pass.Stuck
            cases hb : u.txBuffered <;> simp only [hb] at hs ⊢ <;> simp at hs ⊢ <;> omega
          · have h := ih ((b :: data).drop
              (min p.written (min (data.length+1) (writeAvailable u p.reply (data.length+1))))) hte
            rwa [List.length_drop,List.length_cons] at h

end loops

/-! `usb_write_all` -/

def callWaits (u : UsbDev) (data : Bytes) (env : List Pass) : List Nat :=
  if data = [] then [] else waits u (padsAfter u.epMps data.length) data.length env

/-- The call, from a start tick that is not wrapped. -/
def timedCall (u : UsbDev) (start : Nat) (data : Bytes) : Call := fun env =>
  usbWriteAll u (UInt32.ofNat start) data (env.map Pass.reply)

theorem timedCall_onTime_iff (u : UsbDev) (start : Nat) (data : Bytes) {env : List Pass}
    (ht : ∀ p ∈ env, start ≤ p.time) :
    NotEarly (start+u.timeoutTicks.toNat) (timedCall u start data) env ∧
      NotLate u (start+u.timeoutTicks.toNat) (timedCall u start data) env ↔
    AllClear (start+u.timeoutTicks.toNat) (callWaits u data env) := by
  by_cases hd : data = []
  · rw [callWaits,if_pos hd]
    simp only [AllClear,iff_true]
    have hc (env : List Pass) : timedCall u start data env = some (.invalidArg,[],env.map Pass.reply) := by
      rw [timedCall,usbWriteAll,if_pos hd]
    cases env with
    | nil => exact onTime_nil
    | cons p env => exact onTime_ends fun env => ⟨_,_,_,hc (p :: env),by decide⟩
  · rw [callWaits,if_neg hd]
    have hc : timedCall u start data =
        writeFrom u (UInt32.ofNat start+u.timeoutTicks) (padsAfter u.epMps data.length) data := by
      funext env
      exact usbWriteAll_eq u _ hd env
    rw [hc]
    exact onTime_writeFrom rfl _ env data ht

/-- A call over the wrap of the counter whose deadline is after the wrap, read after it. -/
theorem timedCall_onTime_some :
    NotEarly (4294967290+1000) (timedCall (espUsbInit true 1000) 4294967290 [1])
        [{available := 0, written := 0, time := 4294967900},{available := 0, written := 0, time := 4294968290}] ∧
      NotLate (espUsbInit true 1000) (4294967290+1000) (timedCall (espUsbInit true 1000) 4294967290 [1])
        [{available := 0, written := 0, time := 4294967900},{available := 0, written := 0, time := 4294968290}] :=
  (timedCall_onTime_iff (espUsbInit true 1000) 4294967290 [1] (by decide)).mpr
    ⟨by decide,fun _ => ⟨by decide,fun h => absurd h (by decide)⟩⟩

/-- Ten ticks before the wrap the first pass with a full buffer ends the call. -/
theorem usbWriteAll_early :
    let env : List Pass := [{available := 0, written := 0, time := 4294967286}]
    (∀ p ∈ env, 4294967286 ≤ p.time) ∧
    ¬NotEarly (4294967286+1000) (timedCall (espUsbInit true 1000) 4294967286 [1]) env := by
  refine ⟨by decide,fun h => ?_⟩
  have hd := h [] _ [] [] rfl rfl
  revert hd
  decide

end EspHosted.Usb
