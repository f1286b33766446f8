import EspHosted.Ota
import EspHosted.Lib.Packed

/-!
An update from the file on the host to the partition of the next boot: the commands `esp_start_ota` sends,
as `cmd_process_ota_write` lays them out, to the firmware that acknowledges them.
-/

set_option autoImplicit false

namespace EspHosted.Ota
open EspHosted Packed

/-- `struct cmd_ota_update_request` -/
def otaUpdateRequest (header : Block 8) (chunk : Bytes) : Bytes := header.bytes ++ leBytes 2 chunk.length ++ chunk

theorem getD_behind {a b : Bytes} {n : Nat} (i : Nat) (h : a.length = n) : (a ++ b).getD (n+i) 0 = b.getD i 0 := by
  rw [List.getD_eq_getElem?_getD,List.getD_eq_getElem?_getD,List.getElem?_append_right (by omega),h,Nat.add_sub_cancel_left]

theorem otaUpdateRequest_len (header : Block 8) {chunk : Bytes} (h : chunk.length ≤ OTA_CHUNK_SIZE) :
    otaBinaryLen (otaUpdateRequest header chunk) = chunk.length := by
  have h8 : (otaUpdateRequest header chunk).getD 8 0 = UInt8.ofNat chunk.length := by
    rw [otaUpdateRequest,List.append_assoc]
    exact getD_behind 0 header.width
  have h9 : (otaUpdateRequest header chunk).getD 9 0 = UInt8.ofNat (chunk.length/256) := by
    rw [otaUpdateRequest,List.append_assoc]
    exact getD_behind 1 header.width
  simp only [OTA_CHUNK_SIZE] at h
  simp only [otaBinaryLen,h8,h9,le16ToCpu,UInt8.toNat_ofNat']
  omega

theorem otaBinary_request (header : Block 8) {chunk : Bytes} (h : chunk.length ≤ OTA_CHUNK_SIZE) :
    otaBinary (otaUpdateRequest header chunk) = chunk := by
  have hoff : otaBinaryOffset = (header.bytes ++ leBytes 2 chunk.length).length := by simp [otaBinaryOffset]
  rw [otaBinary,otaUpdateRequest_len header h,otaUpdateRequest,hoff,List.drop_left,List.take_length]

section
variable {Part : Type}

/-- The firmware takes the commands one by one and answers each with `CMD_RESPONSE_SUCCESS`. -/
inductive Acks [DecidableEq Part] (chipId : Nat) : Fw Part → List Sent → Fw Part → Prop where
  | done (s : Fw Part) : Acks chipId s [] s
  | start {s s₁ s₂ : Fw Part} {cs : List Sent} (next : Option Part) (begun : Bool)
      (h : processOtaStart s next begun = (s₁,.success)) (rest : Acks chipId s₁ cs s₂) : Acks chipId s (.start :: cs) s₂
  | write {s s₁ s₂ : Fw Part} {cs : List Sent} {chunk : Bytes} (header : Block 8) (r : WriteReply)
      (h : processOtaWrite chipId s (otaUpdateRequest header chunk) r = (s₁,.success)) (rest : Acks chipId s₁ cs s₂) :
      Acks chipId s (.write chunk :: cs) s₂
  | finish {s s₁ s₂ : Fw Part} {cs : List Sent} (r : EndReply) (p : Part)
      (h : processOtaEnd s r = (s₁,.rebooting p)) (rest : Acks chipId s₁ cs s₂) : Acks chipId s (.finish :: cs) s₂

/-- In the middle of an update of `p`: `done` is in the flash, and nothing else has changed since `f`. -/
structure Writing (chipId : Nat) (f : Idf Part) (s : Fw Part) (p : Part) (done : Bytes) : Prop where
  handle : s.handle ≠ 0
  part : s.updatePartition = some p
  entries : s.idf.entries = [⟨s.handle,p,done.length⟩]
  filled : done ≠ [] → s.idf.written p = done
  frame : ∀ q, q ≠ p → s.idf.written q = f.written q
  fresh : s.verifyOta = false ↔ done = []
  chip : done ≠ [] → imageHeaderSize ≤ done.length ∧ verifyOtaImageHeader chipId done = true

theorem Writing.owned {chipId : Nat} {f : Idf Part} {s : Fw Part} {p : Part} {done : Bytes} (h : Writing chipId f s p done) :
    s.Owned := .inr ⟨p,done.length,h.handle,h.part,h.entries⟩

theorem start_writing {chipId : Nat} {s s' : Fw Part} {next : Option Part} {begun : Bool} (hs : s.Owned)
    (h : processOtaStart s next begun = (s',.success)) : ∃ p, next = some p ∧ Writing chipId s.idf s' p [] := by
  have he := hs.aborted
  cases next with
  | none => simp [processOtaStart] at h
  | some p =>
    cases begun with
    | false => simp [processOtaStart] at h
    | true =>
      simp only [processOtaStart,if_true,Prod.mk.injEq,and_true] at h
      subst h
      refine ⟨p,rfl,by simp,rfl,?_,by simp,fun q _ => ?_,by simp,by simp⟩
      · simp [espOtaBegin,he]
      · simp only [espOtaBegin]
        split <;> rfl

theorem verify_append {chipId : Nat} {a : Bytes} (b : Bytes) (h : imageHeaderSize ≤ a.length) :
    verifyOtaImageHeader chipId (a ++ b) = verifyOtaImageHeader chipId a := by
  simp only [imageHeaderSize] at h
  simp only [verifyOtaImageHeader,getD_append_of_lt a b 12 (by omega),getD_append_of_lt a b 13 (by omega)]

theorem otaWriteCheck_success {chipId : Nat} {verified : Bool} {chunk : Bytes} {header : Block 8}
    (hlen : chunk.length ≤ OTA_CHUNK_SIZE) (h : otaWriteCheck chipId verified (otaUpdateRequest header chunk) = .success) :
    chunk ≠ [] ∧ (verified = false → imageHeaderSize ≤ chunk.length ∧ verifyOtaImageHeader chipId chunk = true) := by
  rw [otaWriteCheck,otaUpdateRequest_len header hlen,otaBinary_request header hlen] at h
  split at h
  · cases h
  · split at h
    · cases h
    next hshort =>
      split at h
      · cases h
      next hchip =>
        simp only [Bool.or_eq_true,Bool.and_eq_true,Bool.not_eq_true',decide_eq_true_eq,not_or,not_and] at hshort hchip
        refine ⟨fun hnil => hshort.1.1 (by simp [hnil]),fun hv => ⟨?_,?_⟩⟩
        · have := hshort.2 hv
          omega
        · simpa using hchip hv

theorem write_writing [DecidableEq Part] {chipId : Nat} {f : Idf Part} {s s' : Fw Part} {p : Part} {done chunk : Bytes}
    {header : Block 8} {r : WriteReply} (hw : Writing chipId f s p done) (hlen : chunk.length ≤ OTA_CHUNK_SIZE)
    (h : processOtaWrite chipId s (otaUpdateRequest header chunk) r = (s',.success)) :
    Writing chipId f s' p (done ++ chunk) := by
  have hbin := otaBinary_request header hlen
  rcases processOtaWrite_cases chipId hw.owned (otaUpdateRequest header chunk) r with hc | ⟨hc,-⟩ | ⟨q,n,-,hq,he,hcheck,hc⟩
  · simp [hc] at h
  · simp [h] at hc
  · obtain ⟨rfl,rfl⟩ : p = q ∧ done.length = n := by simpa [hw.entries] using he
    obtain ⟨hne,hfirst⟩ := otaWriteCheck_success hlen hcheck
    rw [hc,Prod.mk.injEq] at h
    obtain ⟨rfl,-⟩ := h
    rw [hbin]
    refine ⟨hw.handle,hw.part,by simp,fun _ => ?_,fun q hq => ?_,by simp [hne],fun _ => ?_⟩
    · have hfill := @program_filled Part _ s.idf s.handle done.length p [done] chunk (by simp) fun hn => by
        simpa using hw.filled (List.ne_nil_of_length_pos (by omega))
      simpa using hfill
    · simpa [Idf.program,Function.update_of_ne hq] using hw.frame q hq
    · cases hv : s.verifyOta with
      | false =>
        rw [hw.fresh.mp hv,List.nil_append]
        exact hfirst hv
      | true =>
        have hdone : done ≠ [] := fun hd => by simp [hw.fresh.mpr hd] at hv
        obtain ⟨hsize,hchip⟩ := hw.chip hdone
        exact ⟨by rw [List.length_append]; omega,by rw [verify_append chunk hsize,hchip]⟩

/-- What is left of an update whose last command has been acknowledged. -/
structure Selected (chipId : Nat) (f : Idf Part) (s : Fw Part) (p : Part) (image : Bytes) : Prop where
  boot : s.idf.boot = p
  holds : s.idf.written p = image
  frame : ∀ q, q ≠ p → s.idf.written q = f.written q
  chip : imageHeaderSize ≤ image.length ∧ verifyOtaImageHeader chipId image = true
  reset : s.resetTimer = true
  closed : s.handle = 0 ∧ s.idf.entries = []

theorem finish_selected {chipId : Nat} {f : Idf Part} {s s' : Fw Part} {p q : Part} {done : Bytes} {r : EndReply}
    (hw : Writing chipId f s p done) (h : processOtaEnd s r = (s',.rebooting q)) : Selected chipId f s' p done := by
  have hn : espOtaEnd s.idf s.handle r.valid = (espOtaAbort s.idf s.handle,done.length ≠ 0 && r.valid) := by
    simp [espOtaEnd,hw.entries]
  have ha : (espOtaAbort s.idf s.handle).entries = [] := by simp [espOtaAbort,hw.entries]
  simp only [processOtaEnd,hn,hw.part] at h
  split at h
  · simp at h
  next hgo =>
    have hdone : done ≠ [] := by
      rintro rfl
      simp at hgo
    split at h
    · simp at h
    · split at h
      · simp only [Prod.mk.injEq] at h
        obtain ⟨rfl,-⟩ := h
        exact ⟨rfl,hw.filled hdone,hw.frame,hw.chip hdone,rfl,rfl,ha⟩
      · split at h
        · simp at h
        · split at h
          · simp at h
          · simp at h

/-- Induction on the chunks: each goes behind what is in the flash. -/
theorem acks_writes [DecidableEq Part] {chipId : Nat} {f : Idf Part} {s s' : Fw Part} {p : Part} {chunks : List Bytes}
    {done : Bytes} (hlen : ∀ c ∈ chunks, c.length ≤ OTA_CHUNK_SIZE) (hw : Writing chipId f s p done)
    (h : Acks chipId s (chunks.map .write ++ [.finish]) s') : Selected chipId f s' p (done ++ chunks.flatten) := by
  induction chunks generalizing s done with
  | nil =>
    cases h with
    | finish r q hend rest =>
      cases rest
      simpa using finish_selected hw hend
  | cons c chunks ih =>
    cases h with
    | write header r hwrite rest =>
      have hnext := write_writing hw (hlen c (by simp)) hwrite
      simpa using ih (fun d hd => hlen d (by simp [hd])) hnext rest

theorem acks_update [DecidableEq Part] {chipId : Nat} {s s' : Fw Part} {chunks : List Bytes}
    (hlen : ∀ c ∈ chunks, c.length ≤ OTA_CHUNK_SIZE) (hs : s.Owned)
    (h : Acks chipId s (.start :: (chunks.map .write ++ [.finish])) s') :
    ∃ p, Selected chipId s.idf s' p chunks.flatten := by
  cases h with
  | start next begun hstart rest =>
    obtain ⟨p,-,hw⟩ := start_writing hs hstart
    exact ⟨p,by simpa using acks_writes hlen hw rest⟩

/-! The commands of a successful `esp_start_ota`. -/

theorem cmdProcessOtaEnd_ok {r : CmdReply} (h : (cmdProcessOtaEnd r).ret = 0) : (cmdProcessOtaEnd r).sent = [.finish] := by
  unfold cmdProcessOtaEnd at h ⊢
  cases hp : r.priv with
  | false => simp [hp,EINVAL] at h
  | true =>
    cases he : r.prepareErr with
    | none => simp
    | some e =>
      simp [hp,he] at h
      omega

theorem cmdProcessOtaStart_ok {r : CmdReply} (h : (cmdProcessOtaStart r).ret = 0) : (cmdProcessOtaStart r).sent = [.start] := by
  unfold cmdProcessOtaStart at h ⊢
  cases hp : r.priv with
  | false => simp [hp,EINVAL] at h
  | true =>
    cases he : r.prepareErr with
    | none => simp
    | some e =>
      simp [hp,he] at h
      omega

theorem cmdProcessOtaWrite_ok {r : CmdReply} {chunk : Bytes} (h : (cmdProcessOtaWrite r chunk).ret = 0) :
    (cmdProcessOtaWrite r chunk).sent = [.write chunk] := by
  unfold cmdProcessOtaWrite at h ⊢
  cases hp : r.priv with
  | false => simp [hp,EINVAL] at h
  | true =>
    by_cases hc : OTA_CHUNK_SIZE < chunk.length
    · simp [hp,hc,EINVAL] at h
    · cases he : r.prepareErr with
      | none => simp [hc]
      | some e =>
        simp [hp,hc,he] at h
        omega

/-- Reads are short at the end of the file only. -/
def FullReads (turns : Nat → Turn) (file : Bytes) : Prop :=
  ∀ i n, (turns i).read = .ok n → min OTA_CHUNK_SIZE (file.length-OTA_CHUNK_SIZE*i) ≤ n

/-- Induction on the turns: the chunks behind `sent` make up what is left of the file. -/
theorem otaLoop_sent {turns : Nat → Turn} {last : CmdReply} {file : Bytes} (hfull : FullReads turns file) {fuel i : Nat}
    {rest : Bytes} {sent : List Sent} {r : HostRun} (hlen : rest.length = file.length-OTA_CHUNK_SIZE*i)
    (h : otaLoop turns last fuel i rest sent = some r) (hret : r.ret = 0) :
    ∃ chunks : List Bytes, r.sent = sent ++ (chunks.map .write ++ [.finish]) ∧ chunks.flatten = rest ∧
      ∀ c ∈ chunks, c.length ≤ OTA_CHUNK_SIZE := by
  induction fuel generalizing i rest sent with
  | zero => simp [otaLoop] at h
  | succ fuel ih =>
    unfold otaLoop at h
    cases hr : (turns i).read with
    | error e =>
      simp only [hr,Option.some.injEq] at h
      subst h
      simp only at hret
      omega
    | ok n =>
      have hn : min n (min OTA_CHUNK_SIZE rest.length) = min OTA_CHUNK_SIZE rest.length := by
        have := hfull i n hr
        rw [hlen]
        omega
      simp only [hr,hn] at h
      by_cases h0 : min OTA_CHUNK_SIZE rest.length = 0
      · have hnil : rest = [] := List.length_eq_zero_iff.mp (by simp only [OTA_CHUNK_SIZE] at h0; omega)
        rw [if_pos h0,Option.some.injEq] at h
        subst h
        exact ⟨[],by simp [cmdProcessOtaEnd_ok hret],by simp [hnil],by simp⟩
      · rw [if_neg h0] at h
        have hchunk : (rest.take (min OTA_CHUNK_SIZE rest.length)).length ≤ OTA_CHUNK_SIZE := by
          rw [List.length_take]
          omega
        by_cases hw : (cmdProcessOtaWrite (turns i).cmd (rest.take (min OTA_CHUNK_SIZE rest.length))).ret = 0
        · have hsent := cmdProcessOtaWrite_ok hw
          rw [if_neg (not_not.mpr hw),hsent] at h
          by_cases hshort : min OTA_CHUNK_SIZE rest.length < OTA_CHUNK_SIZE
          · rw [if_pos hshort,Option.some.injEq] at h
            subst h
            have hall : min OTA_CHUNK_SIZE rest.length = rest.length := by omega
            rw [hall,List.take_length] at hchunk
            exact ⟨[rest],by simp [cmdProcessOtaEnd_ok hret,hall],by simp,by simpa using hchunk⟩
          · rw [if_neg hshort] at h
            have hrest : (rest.drop (min OTA_CHUNK_SIZE rest.length)).length = file.length-OTA_CHUNK_SIZE*(i+1) := by
              rw [List.length_drop]
              simp only [OTA_CHUNK_SIZE] at *
              omega
            obtain ⟨chunks,hs,hflat,hle⟩ := ih hrest h
            refine ⟨rest.take (min OTA_CHUNK_SIZE rest.length) :: chunks,by simp [hs],?_,?_⟩
            · rw [List.flatten_cons,hflat,List.take_append_drop]
            · intro c hc
              rcases List.mem_cons.mp hc with rfl | hc
              · exact hchunk
              · exact hle c hc
        · rw [if_pos hw,Option.some.injEq] at h
          subst h
          exact absurd hret hw

theorem espStartOta_sent {env : HostEnv} {file : Bytes} {r : HostRun} (hfull : FullReads env.turns file)
    (h : espStartOta env file = some r) (hret : r.ret = 0) :
    ∃ chunks : List Bytes, r.sent = .start :: (chunks.map .write ++ [.finish]) ∧ chunks.flatten = file ∧
      ∀ c ∈ chunks, c.length ≤ OTA_CHUNK_SIZE := by
  unfold espStartOta at h
  cases hc : env.chunkAllocated with
  | false =>
    simp only [hc,Bool.not_false,if_true,Option.some.injEq] at h
    subst h
    simp [ENOMEM] at hret
  | true =>
    cases hf : env.fileOpened with
    | false =>
      simp only [hc,hf,Bool.not_true,Bool.not_false,Bool.false_eq_true,if_false,if_true,Option.some.injEq] at h
      subst h
      simp [EINVAL] at hret
    | true =>
      simp only [hc,hf,Bool.not_true,Bool.false_eq_true,if_false] at h
      by_cases hs : (cmdProcessOtaStart env.start).ret = 0
      · rw [if_neg (not_not.mpr hs),cmdProcessOtaStart_ok hs] at h
        exact otaLoop_sent hfull (by simp) h hret
      · rw [if_pos hs,Option.some.injEq] at h
        subst h
        exact absurd hret hs

/-- When `esp_start_ota` returns 0 and the firmware has acknowledged what was sent, the next boot is from a partition
that holds the file, made for this chip, and every other partition is as it was. -/
theorem update_arrives {Part : Type} [DecidableEq Part] {chipId : Nat} {env : HostEnv} {file : Bytes} {r : HostRun}
    {s s' : Fw Part} (hfull : FullReads env.turns file) (h : espStartOta env file = some r) (hret : r.ret = 0)
    (hs : s.Owned) (hacks : Acks chipId s r.sent s') : Selected chipId s.idf s' s'.idf.boot file := by
  obtain ⟨chunks,hsent,hflat,hle⟩ := espStartOta_sent hfull h hret
  rw [hsent] at hacks
  obtain ⟨p,hp⟩ := acks_update hle hs hacks
  rw [← hflat,hp.boot]
  exact hp

end

def noHeader : Block 8 := ⟨List.replicate 8 0,rfl⟩

/-- The firmware behind `OTA_START`, behind the one chunk of a small image, and behind `OTA_END`. -/
def begunSmall : Fw Bool := (processOtaStart (boot flash0).fw (some true) true).1
def writtenSmall : Fw Bool := (processOtaWrite 5 begunSmall (otaUpdateRequest noHeader smallImage) .ok).1
def endedSmall : Fw Bool := (processOtaEnd writtenSmall {}).1

theorem update_arrives_small : endedSmall.idf.boot = true ∧
    Selected 5 (boot flash0).fw.idf endedSmall endedSmall.idf.boot smallImage := by
  refine ⟨by decide +kernel,?_⟩
  refine @update_arrives Bool _ 5 (allRead smallImage) smallImage ⟨0,[.start,.write smallImage,.finish],.none⟩
    (boot flash0).fw endedSmall ?_ (by decide +kernel) rfl (.inl ⟨rfl,rfl⟩) ?_
  · intro i n h
    simp only [allRead,ReadReply.ok.injEq] at h
    omega
  · exact .start (some true) true (Prod.ext rfl (by decide +kernel))
      (.write noHeader .ok (Prod.ext rfl (by decide +kernel))
        (.finish {} true (Prod.ext rfl (by decide +kernel)) (.done _)))

end EspHosted.Ota
