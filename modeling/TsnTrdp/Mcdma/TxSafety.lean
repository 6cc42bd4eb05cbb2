import TsnTrdp.Mcdma.TxRun

/-! The transmit queue is safe in every run in which recovery finds the status of every
descriptor clear. Free-running indices count the descriptors since the last recovery; the
cursors are such indices modulo the size of the ring.
-/

namespace TsnTrdp.Mcdma

open TsnTrdp.Run TsnTrdp.Ring
open TsnTrdp.Tadma (U32)

variable {cfg : TxConfig} {s : TxSys}

/-- The invariant: the cursors are the indices modulo the size of the ring, descriptors have
a status from completion to reaping, and carry their packets from the transmit to reaping.
-/
structure TxInv (cfg : TxConfig) (s : TxSys) : Prop where
  tail : s.q.txBdTail = (s.descs cfg).length % txBdNum
  ci : s.q.txBdCi = s.reaped.length % txBdNum
  cur : s.q.curDesc = s.completed % txBdNum
  tailDesc
    : ∀ last ∈ s.q.tailDesc,
        (last + 1) % txBdNum = (s.descs cfg).length % txBdNum
  reapedCompleted : s.reaped.length ≤ s.completed
  completedQueued : s.completed ≤ (s.descs cfg).length
  room : (s.descs cfg).length < s.reaped.length + txBdNum
  complete : Holds txBdNum s.q.txqBdV (fun _ bd => bd.Complete) s.reaped.length s.completed
  clear
    : Holds txBdNum s.q.txqBdV (fun _ bd => bd.sbandStats &&& xmcdmaBdStsAllMask = 0) s.completed
        (s.reaped.length + txBdNum)
  loaded
    : Holds txBdNum s.q.txqBdV (fun i bd => (s.descs cfg)[i]? = some bd.txSkb) s.reaped.length
        (s.descs cfg).length
  empty
    : Holds txBdNum s.q.txqBdV (fun _ bd => bd.txSkb = none) (s.descs cfg).length
        (s.reaped.length + txBdNum)
  done : s.reaped.map AximcdmaBd.txSkb = (s.descs cfg).take s.reaped.length
  past : s.pastFreed.Perm s.past

theorem TxInv.init : TxInv cfg .init where
  tail := rfl
  ci := rfl
  cur := rfl
  tailDesc := by rintro last ⟨⟩
  reapedCompleted := Nat.le_refl 0
  completedQueued := Nat.le_refl 0
  room := by simp [TxSys.descs, TxSys.init, txBdNum]
  complete := fun i low high => absurd high (Nat.not_lt_zero i)
  clear := fun i _ _ => BitVec.zero_and
  loaded := fun i low high => absurd high (Nat.not_lt_zero i)
  empty := fun i _ _ => rfl
  done := rfl
  past := .refl []

/-- A descriptor without status bits is not complete. -/
theorem not_complete_clear {bd : AximcdmaBd} (clear : bd.sbandStats &&& xmcdmaBdStsAllMask = 0)
    : ¬ bd.Complete := by
  intro complete
  apply complete
  have within : xaxidmaBdStsCompleteMask = xmcdmaBdStsAllMask &&& xaxidmaBdStsCompleteMask := by
    decide
  rw [within, ← BitVec.and_assoc, clear]
  exact BitVec.zero_and

theorem complete_set (bd : AximcdmaBd) (status : U32)
    : ({ bd with sbandStats := status ||| xaxidmaBdStsCompleteMask } : AximcdmaBd).Complete := by
  rw [AximcdmaBd.Complete, Field.or_and_self]
  decide

/-- `CIRC_SPACE` leaves one descriptor free. -/
theorem circSpace_toNat {tail ci : Nat} (tailRange : tail < txBdNum) (ciRange : ci < txBdNum)
    : (circSpace tail ci txBdNum).toNat
      = txBdNum - 1 - (tail + txBdNum - ci) % txBdNum := by
  have mask : (BitVec.ofNat 32 (txBdNum - 1)).toNat = 2 ^ 6 - 1 := by decide
  rw [circSpace, circCnt, BitVec.toNat_and, mask, Nat.and_two_pow_sub_one_eq_mod,
    BitVec.toNat_sub, BitVec.toNat_ofNat, BitVec.toNat_ofNat]
  unfold txBdNum at *
  omega

theorem TxInv.used (inv : TxInv cfg s)
    : (s.q.txBdTail + txBdNum - s.q.txBdCi) % txBdNum = s.outstanding cfg := by
  have order := Nat.le_trans inv.reapedCompleted inv.completedQueued
  rw [inv.tail, inv.ci]
  exact used_eq order inv.room

/-- The space test counts the outstanding descriptors. -/
theorem TxInv.space (inv : TxInv cfg s)
    : (circSpace s.q.txBdTail s.q.txBdCi txBdNum).toNat = txBdNum - 1 - s.outstanding cfg := by
  rw [circSpace_toNat, inv.used]
  · rw [inv.tail]
    exact Nat.mod_lt _ (by decide)
  · rw [inv.ci]
    exact Nat.mod_lt _ (by decide)

theorem SkBuff.descs_length (skb : SkBuff)
    : (skb.descs cfg).length = (skb.mapped cfg).length + 1 := by
  simp [SkBuff.descs]

theorem SkBuff.mapped_le (skb : SkBuff) : (skb.mapped cfg).length ≤ skb.frags.length := by
  unfold SkBuff.mapped
  split <;> simp

-----------------------------------------------------------------------------------------
-- The steps
-----------------------------------------------------------------------------------------

section Accepted

variable {skb : SkBuff} {q : TxQueue} {last : Nat}

/-- The space test leaves a descriptor free behind the packet. -/
theorem TxInv.fits (inv : TxInv cfg s) (accepted : TxAccepted cfg s.q skb q last)
    : (s.descs cfg).length + (skb.mapped cfg).length + 1 < s.reaped.length + txBdNum := by
  have order := Nat.le_trans inv.reapedCompleted inv.completedQueued
  have room := inv.room
  have space := accepted.space
  have mapped : (skb.mapped cfg).length ≤ skb.frags.length := skb.mapped_le
  rw [axienetCheckTxBdSpace, inv.space] at space
  split at space
  · cases space
  · rename_i enough
    rw [TxSys.outstanding] at enough
    omega

/-- The packet's last descriptor, by its free-running index. -/
theorem TxInv.last_eq (inv : TxInv cfg s) (accepted : TxAccepted cfg s.q skb q last)
    : last = ((s.descs cfg).length + (skb.mapped cfg).length) % txBdNum := by
  rw [accepted.at', inv.tail, Ring.advance]

/-- The other descriptors of the round are apart from the packet's last. -/
theorem TxInv.last_ne (inv : TxInv cfg s) (accepted : TxAccepted cfg s.q skb q last) {i : Nat}
    (low : s.reaped.length ≤ i) (high : i < s.reaped.length + txBdNum)
    (other : i ≠ (s.descs cfg).length + (skb.mapped cfg).length)
    : i % txBdNum ≠ last := by
  have order := Nat.le_trans inv.reapedCompleted inv.completedQueued
  have fits := inv.fits accepted
  rw [inv.last_eq accepted]
  intro same
  exact other (slot_inj low high (by omega) (by omega) same)

/-- The descriptors that are not reaped carry their packets, the new one included. -/
theorem TxInv.carries (inv : TxInv cfg s) (accepted : TxAccepted cfg s.q skb q last)
    : Holds txBdNum q.txqBdV (fun i bd => (s.descs cfg ++ skb.descs cfg)[i]? = some bd.txSkb)
        s.reaped.length ((s.descs cfg).length + (skb.mapped cfg).length + 1) := by
  have fits := inv.fits accepted
  intro i low high
  rcases Nat.lt_or_eq_of_le (Nat.le_of_lt_succ high) with before | rfl
  · rw [accepted.others _ (inv.last_ne accepted low (by omega) (by omega))]
    rcases Nat.lt_or_ge i (s.descs cfg).length with old | new
    · rw [List.getElem?_append_left old]
      exact inv.loaded i low old
    · rw [List.getElem?_append_right new, inv.empty i new (by omega), SkBuff.descs,
        List.getElem?_append_left (by simp; omega), List.getElem?_replicate_of_lt (by omega)]
  · rw [← inv.last_eq accepted, accepted.carrier, List.getElem?_append_right (by omega),
      SkBuff.descs, List.getElem?_append_right (by simp)]
    simp

/-- An accepted packet fills the next descriptors; only the last one carries it. -/
theorem TxInv.accepted (inv : TxInv cfg s) (accepted : TxAccepted cfg s.q skb q last)
    : TxInv cfg { s with q, queued := s.queued ++ [skb] } := by
  have order := Nat.le_trans inv.reapedCompleted inv.completedQueued
  have fits := inv.fits accepted
  have slot := inv.last_eq accepted
  have all : TxSys.descs cfg { s with q, queued := s.queued ++ [skb] }
      = s.descs cfg ++ skb.descs cfg := by
    simp [TxSys.descs]
  have sent : (s.descs cfg ++ skb.descs cfg).length
      = (s.descs cfg).length + (skb.mapped cfg).length + 1 := by
    rw [List.length_append, skb.descs_length]
    omega
  refine { inv with
    tail := ?_
    ci := accepted.ci.trans inv.ci
    cur := accepted.curDesc.trans inv.cur
    tailDesc := ?_
    completedQueued := ?_
    room := ?_
    complete := ?_
    clear := ?_
    loaded := ?_
    empty := ?_
    done := ?_ }
  · dsimp only
    rw [accepted.tail, slot, Nat.mod_add_mod, all, sent]
  · intro last' member
    dsimp only at member
    rw [accepted.tailDesc] at member
    cases member
    rw [slot, Nat.mod_add_mod, all, sent]
  · rw [all, List.length_append]
    exact Nat.le_add_right_of_le inv.completedQueued
  · rw [all, sent]
    exact fits
  · intro i low high
    have before := inv.complete i low high
    simp only [AximcdmaBd.Complete, accepted.status] at before ⊢
    exact before
  · intro i low high
    have before := inv.clear i low high
    simp only [accepted.status]
    exact before
  · rw [all, sent]
    exact inv.carries accepted
  · intro i low high
    rw [all, sent] at low
    dsimp only at high ⊢
    rw [accepted.others _ (inv.last_ne accepted (by omega) high (by omega))]
    exact inv.empty i (by omega) high
  · rw [all, List.take_append_of_le_length order]
    exact inv.done

end Accepted

/-- The engine completes the next descriptor. -/
theorem TxInv.completes (inv : TxInv cfg s) (busy : s.q.Busy) (status : U32)
    : TxInv cfg { s with q := s.q.complete status, completed := s.completed + 1 } := by
  obtain ⟨last, given, unfinished⟩ := busy
  have order := inv.reapedCompleted
  have queued := inv.completedQueued
  have room := inv.room
  have more : s.completed < (s.descs cfg).length := by
    apply Nat.lt_of_le_of_ne queued
    intro all
    rw [inv.cur, inv.tailDesc last given, all] at unfinished
    exact unfinished rfl
  have packets : ∀ i, ((s.q.complete status).txqBdV i).txSkb = (s.q.txqBdV i).txSkb := by
    intro i
    by_cases same : i = s.q.curDesc
    · subst same
      simp [TxQueue.complete]
    · simp [TxQueue.complete, Function.update_of_ne same]
  refine { inv with
    cur := ?_
    reapedCompleted := Nat.le_succ_of_le order
    completedQueued := more
    complete := ?_
    clear := ?_
    loaded := ?_
    empty := ?_ }
  · simp only [TxQueue.complete, inv.cur, Nat.mod_add_mod]
  · have pushed := inv.complete.push order (by omega)
      (complete_set (s.q.txqBdV s.q.curDesc) status)
    rw [← inv.cur] at pushed
    exact pushed
  · simp only [TxQueue.complete]
    rw [inv.cur]
    exact inv.clear.behind (Nat.le_succ _) (Nat.lt_succ_self _) (by omega)
  · intro i low high
    simp only [packets]
    exact inv.loaded i low high
  · intro i low high
    simp only [packets]
    exact inv.empty i low high

/-- The loop reaps one complete descriptor. -/
theorem TxInv.reapOne (inv : TxInv cfg s) (more : s.reaped.length < s.completed)
    : TxInv cfg
        { s with
          q := { s.q with
            txqBdV := Function.update s.q.txqBdV s.q.txBdCi (s.q.txqBdV s.q.txBdCi).reaped
            txBdCi := (s.q.txBdCi + 1) % txBdNum }
          reaped := s.reaped ++ [s.q.txqBdV s.q.txBdCi] } := by
  have queued := inv.completedQueued
  have room := inv.room
  have next : (s.reaped ++ [s.q.txqBdV s.q.txBdCi]).length = s.reaped.length + 1 :=
    List.length_append
  have passed := Nat.lt_succ_self s.reaped.length
  refine { inv with
    ci := ?_
    reapedCompleted := ?_
    room := ?_
    complete := ?_
    clear := ?_
    loaded := ?_
    empty := ?_
    done := ?_ }
  · rw [next, inv.ci, Nat.mod_add_mod]
  · rw [next]
    exact more
  · rw [next]
    exact Nat.lt_of_lt_of_le room (by omega)
  · rw [next, inv.ci]
    exact inv.complete.behind (Nat.le_succ _) passed (by omega)
  · rw [next, inv.ci]
    exact inv.clear.recycle more (by omega) BitVec.zero_and
  · rw [next, inv.ci]
    exact inv.loaded.behind (Nat.le_succ _) passed (Nat.le_of_lt room)
  · rw [next, inv.ci]
    exact inv.empty.recycle (Nat.lt_of_lt_of_le more queued) (Nat.le_of_lt room) rfl
  · have here := inv.loaded s.reaped.length (Nat.le_refl _) (by omega)
    rw [← inv.ci] at here
    simp only [List.map_append, List.length_append, List.length_singleton, List.map_singleton]
    rw [inv.done, List.take_add_one]
    exact congrArg (_ ++ ·) (congrArg Option.toList here).symm

/-- The loop reaps every complete descriptor and no other. Induction on the rounds. -/
theorem TxInv.reaps {fuel : Nat} (inv : TxInv cfg s)
    (enough : s.completed ≤ s.reaped.length + fuel)
    : TxInv cfg
        { s with
          q := (xmitDoneLoop fuel s.q).1
          reaped := s.reaped ++ (xmitDoneLoop fuel s.q).2 }
      ∧ (s.reaped ++ (xmitDoneLoop fuel s.q).2).length = s.completed := by
  have order := inv.reapedCompleted
  induction fuel generalizing s with
  | zero =>
      simp only [xmitDoneLoop, List.append_nil]
      exact ⟨inv, by omega⟩
  | succ fuel ih =>
      rcases Nat.lt_or_eq_of_le order with more | level
      · have complete : (s.q.txqBdV s.q.txBdCi).Complete := by
          rw [inv.ci]
          exact inv.complete _ (Nat.le_refl _) more
        have next := inv.reapOne more
        have rest := ih next (by simp; omega) next.reapedCompleted
        simp only [xmitDoneLoop, if_pos complete]
        simpa only [List.append_assoc, List.singleton_append] using rest
      · have clear : ¬ (s.q.txqBdV s.q.txBdCi).Complete := by
          rw [inv.ci, level]
          exact not_complete_clear (inv.clear _ (Nat.le_refl _) (by unfold txBdNum; omega))
        simp only [xmitDoneLoop, if_neg clear, List.append_nil]
        exact ⟨inv, level⟩

theorem TxInv.xmitDone (inv : TxInv cfg s)
    : TxInv cfg (txStep cfg s .xmitDone)
      ∧ (txStep cfg s .xmitDone).reaped.length = s.completed :=
  inv.reaps (by have := inv.completedQueued; have := inv.room; omega)

theorem descs_framed (cfg : TxConfig) (skb : SkBuff)
    : Frames.IsFrame id (skb.descs cfg) skb.addr :=
  ⟨_, _, rfl, fun _ member => List.eq_of_mem_replicate member, rfl⟩

/-- The reaped descriptors carried the packets that their entries carried. -/
theorem TxInv.freed_eq (inv : TxInv cfg s)
    : s.freed = ((s.descs cfg).take s.reaped.length).filterMap id := by
  rw [← inv.done, List.filterMap_map]
  rfl

/-- The ring carries the packets that have not been freed, each once, whatever entry the
window starts at.
-/
theorem TxInv.carried (inv : TxInv cfg s)
    : (((List.range txBdNum).map s.q.txqBdV).filterMap AximcdmaBd.txSkb).Perm
        (((s.descs cfg).drop s.reaped.length).filterMap id) := by
  have order := Nat.le_trans inv.reapedCompleted inv.completedQueued
  have room := inv.room
  have window : List.range' s.reaped.length txBdNum
      = List.range' s.reaped.length ((s.descs cfg).length - s.reaped.length)
        ++ List.range' (s.descs cfg).length
          (s.reaped.length + txBdNum - (s.descs cfg).length) := by
    have split := List.range'_append_1 (s := s.reaped.length)
      (m := (s.descs cfg).length - s.reaped.length)
      (n := s.reaped.length + txBdNum - (s.descs cfg).length)
    rw [Nat.add_sub_cancel' order] at split
    rw [split]
    congr 1
    omega
  have vacant : (List.range' (s.descs cfg).length
        (s.reaped.length + txBdNum - (s.descs cfg).length)).filterMap
      (fun i => (s.q.txqBdV (i % txBdNum)).txSkb) = [] := by
    apply List.filterMap_eq_nil_iff.mpr
    intro i member
    obtain ⟨low, high⟩ := List.mem_range'_1.mp member
    exact inv.empty i low (by omega)
  have rotated := ((window_perm s.reaped.length (by decide : 0 < txBdNum)).symm.map
    s.q.txqBdV).filterMap AximcdmaBd.txSkb
  refine rotated.trans (List.Perm.of_eq ?_)
  rw [List.map_map, List.filterMap_map, window, List.filterMap_append, ← inv.loaded.read,
    List.filterMap_map]
  exact (congrArg (_ ++ ·) vacant).trans (List.append_nil _)

/-- Recovery frees the packets of the whole ring, and with them every packet accepted. -/
theorem TxInv.recovers (inv : TxInv cfg s)
    (clear : ∀ i < txBdNum, (s.q.txqBdV i).sbandStats &&& xmcdmaBdStsAllMask = 0)
    : TxInv cfg (txStep cfg s .errHandler) where
  tail := rfl
  ci := rfl
  cur := rfl
  tailDesc := by simp [txStep, axienetMcdmaErrHandler]
  reapedCompleted := Nat.le_refl 0
  completedQueued := Nat.le_refl 0
  room := by simp [TxSys.descs, txStep, txBdNum]
  complete := fun i _ high => absurd high (Nat.not_lt_zero i)
  clear := fun i _ _ => clear _ (Nat.mod_lt i (by decide))
  loaded := fun i _ high => absurd high (Nat.not_lt_zero i)
  empty := fun i _ _ => rfl
  done := rfl
  past := by
    have queued : s.freed ++ ((s.descs cfg).drop s.reaped.length).filterMap id
        = s.queued.map SkBuff.addr := by
      rw [inv.freed_eq, ← List.filterMap_append, List.take_append_drop]
      exact Frames.marks_all (descs_framed cfg) s.queued
    have all : (s.freed ++ (axienetMcdmaErrHandler s.q).2.filterMap AximcdmaBd.txSkb).Perm
        (s.queued.map SkBuff.addr) :=
      (inv.carried.append_left s.freed).trans (.of_eq queued)
    simp only [txStep, List.append_assoc]
    exact inv.past.append all

/-- Every step keeps the invariant, where recovery finds the status clear. -/
theorem txStep_keeps (inv : TxInv cfg s) {event : TxEvent} (clear : RecoversClear s event)
    : TxInv cfg (txStep cfg s event) := by
  cases event with
  | queueXmit skb =>
      rcases sent : axienetQueueXmit cfg s.q skb with ⟨answer, q⟩
      cases answer with
      | ok =>
          have range : s.q.txBdTail < txBdNum := by
            rw [inv.tail]
            exact Nat.mod_lt _ (by decide)
          obtain ⟨last, accepted⟩ := axienetQueueXmit_accepted range sent
          simp only [txStep, sent]
          exact inv.accepted accepted
      | busy =>
          have same : q = s.q := by
            unfold axienetQueueXmit at sent
            cases space : axienetCheckTxBdSpace s.q skb.frags.length with
            | busy =>
                rw [space] at sent
                exact (Prod.mk.inj sent).2.symm
            | ok =>
                rw [space] at sent
                cases sent
          simp only [txStep, sent, same]
          exact inv
  | complete status =>
      by_cases busy : s.q.Busy
      · simp only [txStep, if_pos busy]
        exact inv.completes busy status
      · simp only [txStep, if_neg busy]
        exact inv
  | xmitDone => exact inv.xmitDone.1
  | errHandler => exact inv.recovers clear

/-- With nothing outstanding, the space test finds every descriptor free. -/
theorem TxInv.accepts (inv : TxInv cfg s) (idle : s.outstanding cfg = 0) {skb : SkBuff}
    (fits : skb.frags.length < txBdNum - 1)
    : (axienetQueueXmit cfg s.q skb).1 = .ok := by
  have order := Nat.le_trans inv.reapedCompleted inv.completedQueued
  have level : s.reaped.length = (s.descs cfg).length := by
    rw [TxSys.outstanding] at idle
    omega
  have free : (s.q.txqBdV ((s.q.txBdTail + skb.frags.length) % txBdNum)).sbandStats
      &&& xmcdmaBdStsAllMask = 0 := by
    rw [inv.tail, Ring.advance]
    refine inv.clear _ ?_ ?_
    · exact Nat.le_add_right_of_le inv.completedQueued
    · omega
  have space : axienetCheckTxBdSpace s.q skb.frags.length = .ok := by
    rw [axienetCheckTxBdSpace, inv.space, idle, if_neg (by omega), if_neg (not_not.mpr free)]
  unfold axienetQueueXmit
  rw [space]

theorem TxInv.right (inv : TxInv cfg s) : TxRight cfg s where
  window := by
    refine ⟨inv.used, ?_⟩
    have room := inv.room
    rw [TxSys.outstanding]
    omega
  past := inv.past
  freed := by
    have order := Nat.le_trans inv.reapedCompleted inv.completedQueued
    obtain ⟨count, bound, marks, fits, -⟩ :=
      Frames.marks_take (descs_framed cfg) s.queued order
    exact ⟨count, bound, inv.freed_eq.trans marks, Nat.le_trans fits inv.reapedCompleted⟩
  accepts := fun idle _ fits => inv.accepts idle fits

/-- A completion run frees every packet of which all descriptors are complete. -/
theorem TxInv.frees (inv : TxInv cfg s) {count : Nat} (bound : count ≤ s.queued.length)
    (complete : ((s.queued.take count).flatMap (SkBuff.descs cfg)).length ≤ s.completed)
    : count ≤ (txStep cfg s .xmitDone).freed.length := by
  obtain ⟨after, all⟩ := inv.xmitDone
  obtain ⟨most, _, marks, -, maximal⟩ :=
    Frames.marks_take (descs_framed cfg) s.queued inv.completedQueued
  have freed : (txStep cfg s .xmitDone).freed = (s.queued.take most).map SkBuff.addr := by
    rw [after.freed_eq, all]
    exact marks
  rw [freed, List.length_map, List.length_take]
  exact Nat.le_min.mpr ⟨maximal count bound complete, bound⟩

/-- The queue is safe in every run in which recovery finds the status of every descriptor
clear.
-/
theorem tx_queue_safe (cfg : TxConfig) (events : List TxEvent)
    (clears : Along (txStep cfg) RecoversClear .init events)
    : Along (txStep cfg) (TxStepRight cfg) .init events := by
  have keeps : ∀ state event, TxInv cfg state → RecoversClear state event
      → TxInv cfg (txStep cfg state event) :=
    fun _ _ inv clear => txStep_keeps inv clear
  refine Along.of_invariant keeps ?_ .init clears
  intro state event inv clear
  refine ⟨(txStep_keeps inv clear).right, ?_⟩
  rintro rfl count bound complete
  exact inv.frees bound complete

/-- A device with a realignment engine, and packets for it. -/
def plainTx : TxConfig := ⟨.xaxienet1G, 0, false, true, 0⟩

def plainSkb (addr : Nat) (frags : List Tadma.SkbFrag) : SkBuff :=
  ⟨addr, 0x1000, 100, 0x1000, frags, .checksumNone, 0, 0⟩

theorem tx_queue_safe_recovered
    : Along (txStep plainTx) (TxStepRight plainTx) .init
        [.queueXmit (plainSkb 1 [⟨40, 0x2000⟩]), .complete 0, .complete 0, .xmitDone,
          .queueXmit (plainSkb 2 []), .errHandler, .queueXmit (plainSkb 3 []), .complete 0,
          .xmitDone] :=
  tx_queue_safe plainTx _ (by decide +kernel)

/-- A recovery between completion and reaping leaves the status, and the queue refuses every
packet from then on.
-/
theorem tx_queue_stuck
    : ¬ Along (txStep plainTx) (TxStepRight plainTx) .init
        [.queueXmit (plainSkb 1 []), .complete 0, .errHandler] := by
  rintro ⟨-, -, last, -⟩
  have refused := last.right.accepts (by decide) (plainSkb 2 []) (by decide)
  revert refused
  decide +kernel

end TsnTrdp.Mcdma
