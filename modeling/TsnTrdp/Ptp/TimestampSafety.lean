import TsnTrdp.Ptp.Transmit
import TsnTrdp.Lib.Run

/-! Frames and their time stamps. The slot index of a frame tells whether it was sent only as
long as no slot is filled again while its frame is queued, and the slots have not begun again from
the first one when the packet field is read. In the runs that keep to this, frames leave the queue
in order, once they were sent, with their own time stamps.
-/

namespace TsnTrdp.Ptp

open TsnTrdp.Run

variable {tsType : HwtstampTxType} {s : PtpSys}

/-- The frame that a transmit call has sent and not queued yet. -/
def XmitCall.queued : XmitCall → List TxqEntry
  | .queueing entry => [entry]
  | .idle | .chosen _ _ => []

/-- The frames that were freed, that are queued, and that are about to be queued. -/
def PtpSys.numbers (s : PtpSys) : List Nat :=
  s.freed.map (·.entry.number) ++ (s.ptpTxq ++ s.call.queued).map TxqEntry.number

/-- What is asked of a step to `next`: the driver leaves waiting buffers alone; a frame that it frees
has left its buffer, and is stamped with the time of its own transmission where it asked for one;
and the accepted frames are those that were freed and those in the queue, in order.
-/
structure LeavesInOrder (s next : PtpSys) (event : PtpEvent) : Prop where
  kept
    : (∀ time, event ≠ .transmit time)
      → ∀ i, s.block.waiting.getLsbD i → next.block.buffers i = s.block.buffers i
  sent
    : ∀ skb, next.freed = s.freed ++ [skb]
      → s.block.waiting.getLsbD skb.entry.index = false
        ∧ skb.tstamp.isSome = skb.entry.inProgress
        ∧ ∀ tstamp ∈ skb.tstamp, (skb.entry.number, tstamp) ∈ s.sent
  ordered : next.numbers = List.range next.accepted

/-- The step writes within its buffer, and is right. -/
def PtpStepRight (tsType : HwtstampTxType) (s : PtpSys) (event : PtpEvent) : Prop :=
  ∃ next, ptpStep tsType s event = some next ∧ LeavesInOrder s next event

/-- A work run that reads `txPacket` finds every frame up to that slot sent, and no frame above
it but the last.
-/
structure PacketTells (waiting : BitVec 8) (ptpTxq : List TxqEntry) (txPacket : Nat) : Prop where
  sent : ∀ skb ∈ ptpTxq, skb.index ≤ txPacket → waiting.getLsbD skb.index = false
  last : ∀ skb ∈ ptpTxq.dropLast, skb.index ≤ txPacket

/-- No frame is sent that does not fit its buffer or that the hardware stamps on the wire, none is put
into the slot of a frame that is still queued, and a work run starts only where the first buffer does
not wait and no queued frame but the last has a slot above the packet field.
-/
def IndexTells (tsType : HwtstampTxType) (s : PtpSys) : PtpEvent → Prop
  | .send =>
      match s.call with
      | .chosen skb freeIndex =>
          skb.len.toNat ≤ 240 ∧ oneStep tsType skb = false
          ∧ ∀ entry ∈ s.ptpTxq, entry.index ≠ freeIndex
      | .idle | .queueing _ => True
  | .txTstamp =>
      s.work = none
      → s.block.waiting.getLsbD 0 = false
        ∧ ∀ skb ∈ s.ptpTxq.dropLast, skb.index ≤ txPacket s.block
  | .xmit _ | .queue | .transmit _ | .irq | .next => True

instance (tsType : HwtstampTxType) (s : PtpSys)
    : (event : PtpEvent) → Decidable (IndexTells tsType s event)
  | .send => by
      unfold IndexTells
      cases s.call <;> infer_instance
  | .txTstamp => inferInstanceAs (Decidable (_ → _))
  | .xmit _ | .queue | .transmit _ | .irq | .next => inferInstanceAs (Decidable True)

/-- What holds in every state of such a run. Slots are filled upwards from the packet field on, unless
they have begun again from the first one, which then waits.
-/
structure PtpInv (s : PtpSys) : Prop where
  recorded
    : ∀ i number, (s.block.buffers i).frame = some number → s.block.waiting.getLsbD i = false
      → (number, (s.block.buffers i).tstamp) ∈ s.sent
  upwards
    : s.block.waiting.getLsbD 0 ∨ ∀ i, s.block.waiting.getLsbD i → s.block.packet.toNat < i
  chosen
    : ∀ skb freeIndex, s.call = .chosen skb freeIndex
      → freeIndex < 8
        ∧ (∀ i, s.block.waiting.getLsbD i → i < freeIndex)
        ∧ (freeIndex = 0 ∨ s.block.waiting.getLsbD 0 ∨ s.block.packet.toNat < freeIndex)
  holds : ∀ entry ∈ s.ptpTxq ++ s.call.queued,
    (s.block.buffers entry.index).frame = some entry.number
  working
    : ∀ txPacket, s.work = some txPacket → PacketTells s.block.waiting s.ptpTxq txPacket
  ordered : s.numbers = List.range s.accepted

theorem PtpInv.reset : PtpInv .reset where
  recorded := by
    intro i number held
    cases held
  upwards := by
    right
    intro i bit
    simp [PtpSys.reset] at bit
  chosen := by
    intro skb freeIndex called
    cases called
  holds := by
    intro entry member
    cases member
  working := by
    intro txPacket running
    cases running
  ordered := rfl

-----------------------------------------------------------------------------------------
-- The hardware
-----------------------------------------------------------------------------------------

theorem lowest_spec {block : Block} {i : Nat} (found : block.lowest = some i)
    : i < 8 ∧ block.waiting.getLsbD i ∧ ∀ j, block.waiting.getLsbD j → i ≤ j := by
  obtain ⟨bit, member, below⟩ := List.find?_range_eq_some.mp found
  refine ⟨List.mem_range.mp member, bit, fun j waiting => ?_⟩
  by_contra less
  have clear := below j (by omega)
  rw [waiting] at clear
  cases clear

theorem cleared_getLsbD (waiting : BitVec 8) {i : Nat} (range : i < 8) (j : Nat)
    : (waiting &&& ~~~((1 : BitVec 8) <<< i)).getLsbD j
      = (waiting.getLsbD j && !decide (j = i)) := by
  by_cases low : j < 8
  · interval_cases i <;> interval_cases j <;> simp
  · have high : waiting.getLsbD j = false := BitVec.getLsbD_of_ge waiting j (by omega)
    simp [high]

theorem added_getLsbD (waiting : BitVec 8) {i : Nat} (range : i < 8) (j : Nat)
    : (waiting ||| ((1 : BitVec 32) <<< i).setWidth 8).getLsbD j
      = (waiting.getLsbD j || decide (j = i)) := by
  by_cases low : j < 8
  · interval_cases i <;> interval_cases j <;> simp
  · have high : waiting.getLsbD j = false := BitVec.getLsbD_of_ge waiting j (by omega)
    have other : j ≠ i := by omega
    simp [high, other]
    omega

/-- Sending clears one waiting bit and stamps that buffer. -/
theorem PtpInv.transmit (inv : PtpInv s) (time : Tstamp) : PtpInv (transmit time s) := by
  unfold Ptp.transmit
  cases found : s.block.lowest with
  | none => exact inv
  | some i =>
      obtain ⟨range, waiting, lowest⟩ := lowest_spec found
      have still : ∀ j, (s.block.sendBuffer i time).waiting.getLsbD j
          → s.block.waiting.getLsbD j := by
        intro j bit
        simp only [Block.sendBuffer, cleared_getLsbD _ range, Bool.and_eq_true] at bit
        exact bit.1
      have packet : (s.block.sendBuffer i time).packet.toNat = i := by
        simp only [Block.sendBuffer, BitVec.toNat_ofNat]
        exact Nat.mod_eq_of_lt range
      have frames : ∀ j, ((s.block.sendBuffer i time).buffers j).frame
          = (s.block.buffers j).frame := by
        intro j
        by_cases same : j = i
        · subst same
          simp [Block.sendBuffer]
        · simp [Block.sendBuffer, same]
      refine { inv with recorded := ?_, upwards := ?_, chosen := ?_, holds := ?_, working := ?_ }
      · intro j number held clear
        simp only [frames] at held
        simp only [List.mem_append]
        by_cases same : j = i
        · subst same
          right
          simp [Block.sendBuffer, held]
        · left
          simp only [Block.sendBuffer, cleared_getLsbD _ range, same, decide_false, Bool.not_false,
            Bool.and_true] at clear
          simpa [Block.sendBuffer, same] using inv.recorded j number held clear
      · right
        intro j bit
        dsimp only at bit ⊢
        have above := lowest j (still j bit)
        simp only [Block.sendBuffer, cleared_getLsbD _ range, Bool.and_eq_true, Bool.not_eq_true',
          decide_eq_false_iff_not] at bit
        rw [packet]
        omega
      · intro skb freeIndex called
        obtain ⟨low, above, -⟩ := inv.chosen skb freeIndex called
        refine ⟨low, fun j bit => above j (still j bit), .inr (.inr ?_)⟩
        exact packet.symm ▸ above i waiting
      · intro entry member
        simpa only [frames] using inv.holds entry member
      · intro txPacket running
        obtain ⟨sent, last⟩ := inv.working txPacket running
        refine ⟨?_, last⟩
        intro skb member reached
        have clear := sent skb member reached
        by_contra bit
        rw [still skb.index (Bool.not_eq_false _ ▸ bit)] at clear
        cases clear

-----------------------------------------------------------------------------------------
-- The driver
-----------------------------------------------------------------------------------------

theorem PtpInv.choose (inv : PtpInv s) (skb : SkBuff) (idle : s.call = .idle)
    : PtpInv (xmitChoose skb s) := by
  unfold xmitChoose
  rw [txFrameWaiting_eq]
  split
  · exact { inv with }
  · rename_i last
    have last := of_not_not last
    have nothing : s.call.queued = [] := by
      rw [idle]
      rfl
    refine { inv with chosen := ?_, holds := ?_, ordered := ?_ }
    · intro skb' freeIndex called
      obtain ⟨-, rfl⟩ := XmitCall.chosen.inj called
      refine ⟨fls_lt_eight s.block.waiting.isLt last, fun i bit => ?_, ?_⟩
      · exact lt_fls (by rwa [BitVec.testBit_toNat])
      · by_cases drained : fls s.block.waiting.toNat = 0
        · exact .inl drained
        · have highest := testBit_fls drained
          rw [BitVec.testBit_toNat] at highest
          rcases inv.upwards with first | above
          · exact .inr (.inl first)
          · have below := above _ highest
            exact .inr (.inr (by dsimp only; omega))
    · intro entry member
      apply inv.holds entry
      rwa [nothing]
    · have ordered := inv.ordered
      rw [PtpSys.numbers, nothing] at ordered
      exact ordered

/-- The buffer that is filled was free, and no queued frame refers to it. -/
theorem PtpInv.send (inv : PtpInv s) {next : PtpSys} {skb : SkBuff} {freeIndex : Nat}
    (called : s.call = .chosen skb freeIndex) (twoStep : oneStep tsType skb = false)
    (apart : ∀ entry ∈ s.ptpTxq, entry.index ≠ freeIndex)
    (stepped : xmitSend tsType skb freeIndex s = some next)
    : PtpInv next := by
  obtain ⟨range, above, upwards⟩ := inv.chosen skb freeIndex called
  obtain ⟨-, written⟩ := Option.ite_none_left_eq_some.mp stepped
  obtain rfl := Option.some.inj written
  have bits : ∀ j, ((s.block.setBuffer freeIndex (filled tsType skb s.accepted
        (s.block.buffers freeIndex))).writeControl (1 <<< freeIndex)).waiting.getLsbD j
      = (s.block.waiting.getLsbD j || decide (j = freeIndex)) := added_getLsbD _ range
  have others : ∀ j, j ≠ freeIndex
      → ((s.block.setBuffer freeIndex (filled tsType skb s.accepted
          (s.block.buffers freeIndex))).writeControl (1 <<< freeIndex)).buffers j
        = s.block.buffers j := by
    intro j other
    exact Function.update_of_ne other ..
  have own : (((s.block.setBuffer freeIndex (filled tsType skb s.accepted
        (s.block.buffers freeIndex))).writeControl (1 <<< freeIndex)).buffers freeIndex).frame
      = some s.accepted := by
    simp [Block.writeControl, Block.setBuffer, filled]
  rw [twoStep]
  refine ⟨?_, ?_, ?_, ?_, ?_, ?_⟩
  · intro j number held clear
    rw [bits] at clear
    have other : j ≠ freeIndex := by
      rintro rfl
      simp at clear
    rw [others j other] at held ⊢
    exact inv.recorded j number held (by simpa [other] using clear)
  · dsimp only
    simp only [bits, Bool.or_eq_true, decide_eq_true_eq]
    rcases upwards with first | first | below
    · exact .inl (.inr first.symm)
    · exact .inl (.inl first)
    · refine inv.upwards.imp .inl fun all j bit => ?_
      rcases bit with old | rfl
      · exact all j old
      · exact below
  · intro skb' freeIndex' chosen
    cases chosen
  · intro entry member
    rcases List.mem_append.mp member with old | new
    · rw [others _ (apart entry old)]
      exact inv.holds entry (List.mem_append_left _ old)
    · rw [List.mem_singleton.mp new]
      exact own
  · intro txPacket running
    obtain ⟨sent, last⟩ := inv.working txPacket running
    refine ⟨?_, last⟩
    intro entry member reached
    rw [bits, sent entry member reached]
    simpa using apart entry member
  · have ordered := inv.ordered
    rw [PtpSys.numbers, called] at ordered
    simp only [XmitCall.queued, List.append_nil] at ordered
    simp only [PtpSys.numbers, XmitCall.queued, Bool.false_eq_true, if_false, List.map_append,
      ← List.append_assoc]
    rw [ordered]
    exact List.range_succ.symm

theorem PtpInv.queue (inv : PtpInv s) {entry : TxqEntry} (called : s.call = .queueing entry)
    (idle : s.work = none)
    : PtpInv { s with ptpTxq := s.ptpTxq ++ [entry], call := .idle } := by
  have holds := inv.holds
  have ordered := inv.ordered
  rw [called] at holds
  rw [PtpSys.numbers, called] at ordered
  refine { inv with chosen := ?_, holds := ?_, working := ?_, ordered := ?_ }
  · intro skb freeIndex chosen
    cases chosen
  · intro queued member
    exact holds queued (by simpa [XmitCall.queued] using member)
  · intro txPacket running
    rw [idle] at running
    cases running
  · rw [← ordered]
    simp [PtpSys.numbers, XmitCall.queued]

/-- A turn of the work loop frees the first frame, which was sent, or finds it alone. -/
theorem PtpInv.next (inv : PtpInv s) {txPacket : Nat} (running : s.work = some txPacket)
    : PtpInv (txTstampNext txPacket s) := by
  obtain ⟨sent, last⟩ := inv.working txPacket running
  unfold txTstampNext
  cases txq : s.ptpTxq with
  | nil =>
      have holds := inv.holds
      have ordered := inv.ordered
      rw [txq] at holds
      rw [PtpSys.numbers, txq] at ordered
      refine ⟨inv.recorded, inv.upwards, inv.chosen, holds, ?_, ordered⟩
      intro txPacket' running'
      cases running'
  | cons skb rest =>
      have holds := inv.holds
      have ordered := inv.ordered
      rw [txq] at holds last sent
      rw [PtpSys.numbers, txq] at ordered
      dsimp only
      split
      · rename_i above
        have alone : rest = [] := by
          cases rest with
          | nil => rfl
          | cons second rest =>
              have reached := last skb List.mem_cons_self
              omega
        subst alone
        refine { inv with holds := ?_, working := ?_, ordered := ?_ }
        · exact holds
        · intro txPacket' running'
          cases running'
        · exact ordered
      · refine { inv with holds := ?_, working := ?_, ordered := ?_ }
        · intro entry member
          exact holds entry (List.mem_cons_of_mem skb member)
        · intro txPacket' running'
          obtain rfl := Option.some.inj (running.symm.trans running')
          refine ⟨fun entry member => sent entry (List.mem_cons_of_mem skb member), ?_⟩
          intro entry member
          cases rest with
          | nil => cases member
          | cons second rest => exact last entry (List.mem_cons_of_mem skb member)
        · rw [← ordered]
          simp [PtpSys.numbers]

/-- A work run that starts finds the packet field to tell what was sent. -/
theorem PtpInv.txTstamp (inv : PtpInv s) (first : s.block.waiting.getLsbD 0 = false)
    (last : ∀ skb ∈ s.ptpTxq.dropLast, skb.index ≤ txPacket s.block)
    : PtpInv { s with work := some (txPacket s.block) } := by
  have above := inv.upwards.resolve_left (by rw [first]; exact Bool.false_ne_true)
  refine { inv with working := ?_ }
  intro read same
  obtain rfl := Option.some.inj same
  refine ⟨fun skb member reached => ?_, last⟩
  by_contra bit
  have beyond := above skb.index (Bool.not_eq_false _ ▸ bit)
  rw [txPacket_eq] at reached
  omega

/-- What a step can do. -/
inductive PtpMove (tsType : HwtstampTxType) (s : PtpSys) : PtpEvent → PtpSys → Prop
  | stay (event : PtpEvent) : PtpMove tsType s event s
  | choose (skb : SkBuff) (idle : s.call = .idle) : PtpMove tsType s (.xmit skb) (xmitChoose skb s)
  | send (skb : SkBuff) (freeIndex : Nat) (next : PtpSys) (called : s.call = .chosen skb freeIndex)
    (sent : xmitSend tsType skb freeIndex s = some next)
    : PtpMove tsType s .send next
  | queue (entry : TxqEntry) (called : s.call = .queueing entry) (resting : s.work = none)
    : PtpMove tsType s .queue { s with ptpTxq := s.ptpTxq ++ [entry], call := .idle }
  | transmit (time : Tstamp) : PtpMove tsType s (.transmit time) (transmit time s)
  | irq : PtpMove tsType s .irq { s with queueStopped := false }
  | txTstamp (resting : s.work = none)
    : PtpMove tsType s .txTstamp { s with work := some (txPacket s.block) }
  | next (read : Nat) (running : s.work = some read) : PtpMove tsType s .next (txTstampNext read s)

theorem ptpStep_moves {event : PtpEvent} {next : PtpSys}
    (stepped : ptpStep tsType s event = some next)
    : PtpMove tsType s event next := by
  cases event with
  | xmit skb =>
      unfold ptpStep at stepped
      cases called : s.call with
      | idle =>
          rw [called] at stepped
          exact Option.some.inj stepped ▸ .choose skb called
      | chosen _ _ | queueing _ =>
          rw [called] at stepped
          exact Option.some.inj stepped ▸ .stay _
  | send =>
      unfold ptpStep at stepped
      cases called : s.call with
      | idle | queueing _ =>
          rw [called] at stepped
          exact Option.some.inj stepped ▸ .stay _
      | chosen skb freeIndex =>
          rw [called] at stepped
          exact .send skb freeIndex next called stepped
  | queue =>
      unfold ptpStep at stepped
      cases called : s.call with
      | idle | chosen _ _ =>
          rw [called] at stepped
          exact Option.some.inj stepped ▸ .stay _
      | queueing entry =>
          cases running : s.work with
          | none =>
              rw [called, running] at stepped
              rw [← Option.some.inj stepped, ← running]
              exact .queue entry called running
          | some _ =>
              rw [called, running] at stepped
              exact Option.some.inj stepped ▸ .stay _
  | transmit time => exact Option.some.inj stepped ▸ .transmit time
  | irq => exact Option.some.inj stepped ▸ .irq
  | txTstamp =>
      unfold ptpStep at stepped
      cases running : s.work with
      | none =>
          rw [running] at stepped
          exact Option.some.inj stepped ▸ .txTstamp running
      | some _ =>
          rw [running] at stepped
          exact Option.some.inj stepped ▸ .stay _
  | next =>
      unfold ptpStep at stepped
      cases running : s.work with
      | none =>
          rw [running] at stepped
          exact Option.some.inj stepped ▸ .stay _
      | some read =>
          rw [running] at stepped
          exact Option.some.inj stepped ▸ .next read running

theorem ptpStep_keeps (event : PtpEvent) {next : PtpSys} (inv : PtpInv s)
    (tells : IndexTells tsType s event) (stepped : ptpStep tsType s event = some next)
    : PtpInv next := by
  cases ptpStep_moves stepped with
  | stay => exact inv
  | choose skb idle => exact inv.choose skb idle
  | send skb freeIndex _ called sent =>
      unfold IndexTells at tells
      rw [called] at tells
      exact inv.send called tells.2.1 tells.2.2 sent
  | queue entry called resting => exact inv.queue called resting
  | transmit time => exact inv.transmit time
  | irq => exact { inv with }
  | txTstamp resting =>
      obtain ⟨first, last⟩ := tells resting
      exact inv.txTstamp first last
  | next read running => exact inv.next running

/-- Only a turn of the work loop frees a frame: the first of the queue, which lies at or below
the packet field that was read.
-/
theorem ptpStep_freed {event : PtpEvent} {skb : FreedSkb} {next : PtpSys}
    (stepped : ptpStep tsType s event = some next) (freed : next.freed = s.freed ++ [skb])
    : ∃ read, s.work = some read ∧ skb.entry ∈ s.ptpTxq ∧ skb.entry.index ≤ read
        ∧ skb.tstamp = axienetSetTimestamp s.block skb.entry := by
  have nothing : s.freed ≠ s.freed ++ [skb] := by simp
  cases ptpStep_moves stepped with
  | stay | queue | irq | txTstamp => exact absurd freed nothing
  | choose packet =>
      unfold xmitChoose at freed
      split at freed <;> exact absurd freed nothing
  | send packet freeIndex _ _ sent =>
      obtain ⟨-, written⟩ := Option.ite_none_left_eq_some.mp sent
      obtain rfl := Option.some.inj written
      exact absurd freed nothing
  | transmit time =>
      unfold Ptp.transmit at freed
      split at freed <;> exact absurd freed nothing
  | next read running =>
      unfold txTstampNext at freed
      cases txq : s.ptpTxq with
      | nil =>
          rw [txq] at freed
          exact absurd freed nothing
      | cons entry rest =>
          rw [txq] at freed
          dsimp only at freed
          split at freed
          · exact absurd freed nothing
          · rename_i reached
            obtain rfl := List.singleton_inj.mp (List.append_cancel_left freed)
            exact ⟨read, running, List.mem_cons_self, Nat.le_of_not_lt reached, rfl⟩

/-- The driver writes no buffer but the one it has chosen. -/
theorem ptpStep_kept (inv : PtpInv s) {event : PtpEvent} {next : PtpSys}
    (stepped : ptpStep tsType s event = some next) (driver : ∀ time, event ≠ .transmit time)
    {i : Nat} (waiting : s.block.waiting.getLsbD i)
    : next.block.buffers i = s.block.buffers i := by
  cases ptpStep_moves stepped with
  | stay | queue | irq | txTstamp => rfl
  | choose skb =>
      unfold xmitChoose
      split <;> rfl
  | send skb freeIndex _ called sent =>
      have below := (inv.chosen skb freeIndex called).2.1 i waiting
      obtain ⟨-, written⟩ := Option.ite_none_left_eq_some.mp sent
      obtain rfl := Option.some.inj written
      exact Function.update_of_ne (by omega) ..
  | transmit time => exact absurd rfl (driver time)
  | next read =>
      unfold txTstampNext
      repeat' split
      all_goals rfl

/-- Only a frame that is too long is a fault. -/
theorem ptpStep_isSome (event : PtpEvent) (tells : IndexTells tsType s event)
    : ∃ next, ptpStep tsType s event = some next := by
  cases event with
  | send =>
      unfold IndexTells at tells
      unfold ptpStep
      cases called : s.call with
      | idle | queueing _ => exact ⟨_, rfl⟩
      | chosen skb freeIndex =>
          rw [called] at tells
          exact ⟨_, if_neg (Nat.not_lt.mpr tells.1)⟩
  | xmit _ | queue | transmit _ | irq | txTstamp | next =>
      dsimp only [ptpStep]
      repeat' split
      all_goals exact ⟨_, rfl⟩

theorem ptpStep_right (event : PtpEvent) (inv : PtpInv s) (tells : IndexTells tsType s event)
    : PtpStepRight tsType s event := by
  obtain ⟨next, stepped⟩ := ptpStep_isSome event tells
  refine ⟨next, stepped, ?_, ?_, ?_⟩
  · exact fun driver _ waiting => ptpStep_kept inv stepped driver waiting
  · intro skb freed
    obtain ⟨read, running, member, reached, stamped⟩ := ptpStep_freed stepped freed
    have clear := (inv.working read running).sent skb.entry member reached
    have held := inv.holds skb.entry (List.mem_append_left _ member)
    have recorded := inv.recorded skb.entry.index skb.entry.number held clear
    refine ⟨clear, ?_, ?_⟩
    · rw [stamped, axienetSetTimestamp]
      cases skb.entry.inProgress <;> rfl
    · intro tstamp attached
      rw [stamped, axienetSetTimestamp] at attached
      cases due : skb.entry.inProgress with
      | false =>
          rw [due] at attached
          cases attached
      | true =>
          rw [due] at attached
          cases attached
          exact recorded
  · exact (ptpStep_keeps event inv tells stepped).ordered

/-- From reset, in every run in which no frame is too long or stamped on the wire, no slot is filled
before its last frame has left the queue, and a work run starts only where the first buffer does not
wait and the packet field has passed all queued frames but the last: frames are freed in order, after
they were sent and with their own time stamps, and nothing is written but the chosen buffer.
-/
theorem timestamps_own (tsType : HwtstampTxType) {events : List PtpEvent}
    (tells
      : Along (faulting (ptpStep tsType)) (BeforeFault (IndexTells tsType)) (some .reset) events)
    : Along (faulting (ptpStep tsType)) (BeforeFault (PtpStepRight tsType)) (some .reset) events :=
  Along.of_faulting (fun _ event _ inv tells stepped => ptpStep_keeps event inv tells stepped)
    (fun _ event inv tells => ptpStep_right event inv tells) PtpInv.reset tells

/-- A peer delay request that asks for its time stamp. -/
def pdelayReq : SkBuff := ⟨68, 0x2, true⟩

/-- Two frames are sent, stamped and freed, one of them while the other still waits. -/
theorem timestamps_own_two
    : Along (faulting (ptpStep .on)) (BeforeFault (PtpStepRight .on)) (some .reset)
        [.xmit pdelayReq, .send, .queue, .xmit pdelayReq, .send, .transmit ⟨1, 500⟩, .irq, .queue,
          .txTstamp, .next, .next, .transmit ⟨1, 900⟩, .irq, .txTstamp, .next, .next] :=
  timestamps_own .on (by decide +kernel)

/-- A work run is late: the second frame has taken slot 0 again, and is freed before it is sent,
since the packet field still names slot 0.
-/
theorem timestamp_of_unsent
    : ¬ Along (faulting (ptpStep .on)) (BeforeFault (PtpStepRight .on)) (some .reset)
        [.xmit pdelayReq, .send, .queue, .transmit ⟨1, 500⟩, .irq, .xmit pdelayReq, .send, .queue,
          .txTstamp, .next, .next] := by
  rintro ⟨-, -, -, -, -, -, -, -, -, -, last, -⟩
  obtain ⟨next, stepped, right⟩ := last _ rfl
  obtain ⟨clear, -⟩ := right.sent ⟨⟨1, 68, 0, true⟩, some ⟨1, 500⟩⟩ (by
    obtain rfl := Option.some.inj stepped
    decide +kernel)
  revert clear
  decide +kernel

end TsnTrdp.Ptp
