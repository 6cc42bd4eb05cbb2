import TsnTrdp.Qbv.Shaper

/-! A gate schedule that is programmed, taken into operation and read back. It comes back as
it was written, but for entries that open the best-effort and the scheduled gate together on
a port with two queues.
-/

namespace TsnTrdp.Qbv

open TsnTrdp

/-- The gates of a design. -/
def designGates (numTc : BitVec 16) : U32 :=
  if numTc = 2 then gsBeOpen ||| gsStOpen else gsBeOpen ||| gsReOpen ||| gsStOpen

/-- A schedule within the ranges of its fields, for the queues of the design. -/
structure Schedulable (numTc : BitVec 16) (qbv : QbvInfo) : Prop where
  cyclic : qbv.cycleTime ≠ 0
  cycleTime : qbv.cycleTime.toNat < 2 ^ 30
  listLength : qbv.listLength.toNat ≤ qbvMaxEntries
  ptpTimeNs : qbv.ptpTimeNs.toNat < 10 ^ 9
  ptpTimeSec : qbv.ptpTimeSec.toNat < 2 ^ 48
  gateTime : ∀ i < qbv.listLength.toNat, (qbv.aclGateTime i).toNat < 2 ^ 20
  gateState : ∀ i < qbv.listLength.toNat, qbv.aclGateState i &&& ~~~designGates numTc = 0

/-- A change takes effect: the core copies the admin registers to the operational ones and
reports the list length, and the gates stay enabled.
-/
structure TakesEffect (before after : QbvRegs) : Prop where
  enabled
    : after configChange &&& ccAdminGateEnableBit
      = before configChange &&& ccAdminGateEnableBit
  listLength
    : (after gateState >>> ccAdminCtrlListLengthShift) &&& ccAdminCtrlListLengthMask
      = (before configChange >>> ccAdminCtrlListLengthShift) &&& ccAdminCtrlListLengthMask
  cycleTime : after operCycleTimeDenominator = before adminCycleTimeDenominator
  ptpTimeNs : after operBaseTimeNs = before adminBaseTimeNs
  ptpTimeSec : after operBaseTimeSec = before adminBaseTimeSec
  ptpTimeSecs : after operBaseTimeSecs = before adminBaseTimeSecs
  entries
    : ∀ i < qbvMaxEntries,
        after (operCtrlList i) = before (adminCtrlList i)
        ∧ after (operCtrlListTime i) = before (adminCtrlListTime i)

/-- The same schedule: cycle time, base time and list. -/
structure SameSchedule (read written : QbvInfo) : Prop where
  cycleTime : read.cycleTime = written.cycleTime
  ptpTimeSec : read.ptpTimeSec = written.ptpTimeSec
  ptpTimeNs : read.ptpTimeNs = written.ptpTimeNs
  listLength : read.listLength = written.listLength
  gateState : ∀ i < written.listLength.toNat, read.aclGateState i = written.aclGateState i
  gateTime : ∀ i < written.listLength.toNat, read.aclGateTime i = written.aclGateTime i

/-- What the list registers make of a gate state. -/
def gateReadBack (numTc : BitVec 16) (gs : U32) : U32 :=
  readGateState numTc ((axienetMapGsToHw numTc gs &&& aclGateStateMask) <<< aclGateStateShift)

/-- A state made of the design's gates comes back exactly if it is not the state of two
queues that has both gates open.
-/
theorem gateReadBack_eq_iff {numTc : BitVec 16} (queues : numTc = 2 ∨ numTc = 3) {gs : U32}
    (gates : gs &&& ~~~designGates numTc = 0)
    : gateReadBack numTc gs = gs ↔ numTc = 3 ∨ gs ≠ gsBeOpen ||| gsStOpen := by
  have small : gs.toNat < 2 ^ 3 := by
    have within : gs = gs &&& 7 := by
      have cover : designGates numTc &&& 7 = designGates numTc := by
        rcases queues with rfl | rfl <;> decide
      rw [← Field.and_of_clear gates, BitVec.and_assoc, cover]
    rw [within, BitVec.toNat_and]
    exact Nat.lt_of_le_of_lt Nat.and_le_right (by decide)
  obtain ⟨k, rfl⟩ : ∃ k : Fin 8, gs = BitVec.ofNat 32 k :=
    ⟨⟨gs.toNat, small⟩, by simp⟩
  rcases queues with rfl | rfl <;> revert k <;> decide

/-- The list length that the change word carries. -/
theorem changeWord_length (word listLength : U32)
    : (changeWord word listLength >>> ccAdminCtrlListLengthShift) &&& ccAdminCtrlListLengthMask
      = listLength &&& ccAdminCtrlListLengthMask := by
  simp only [changeWord, ccAdminCtrlListLengthShift, ccAdminCtrlListLengthMask,
    ccAdminConfigChangeBit, ccAdminGateEnableBit, BitVec.ushiftRight_or_distrib,
    BitVec.ushiftRight_and_distrib]
  ext i hi
  simp only [BitVec.getElem_and, BitVec.getElem_or]
  simp
  interval_cases i <;> simp

/-- The change word enables the gates. -/
theorem changeWord_enabled (word listLength : U32)
    : changeWord word listLength &&& ccAdminGateEnableBit = ccAdminGateEnableBit :=
  Field.or_and_self

/-- The base time is split over two registers and comes back. -/
theorem ptpTimeSec_joined {sec : BitVec 64} (fits : sec.toNat < 2 ^ 48)
    : ((sec &&& 0xFFFFFFFF).setWidth 32).setWidth 64
        ||| ((((sec >>> 32).setWidth 32 &&& baseTimeSecsMask) &&& baseTimeSecsMask).setWidth 64
          <<< 32)
      = sec := by
  have high : ∀ (i : Nat) (bound : i < 64), 48 ≤ i → sec[i] = false := by
    intro i bound le
    apply Nat.testBit_lt_two_pow
    exact Nat.lt_of_lt_of_le fits (Nat.pow_le_pow_right Nat.two_pos le)
  apply BitVec.eq_of_getLsbD_eq
  intro i bound
  simp only [baseTimeSecsMask, BitVec.getLsbD_or, BitVec.getLsbD_setWidth, BitVec.getLsbD_and,
    BitVec.getLsbD_shiftLeft, BitVec.getLsbD_ushiftRight]
  interval_cases i <;> simp [high]

/-- What an accepted schedule leaves in the admin registers. -/
structure Programmed (numTc : BitVec 16) (qbv : QbvInfo) (regs : QbvRegs) : Prop where
  change : ∃ word, regs configChange = changeWord word qbv.listLength
  cycleTime : regs adminCycleTimeDenominator = qbv.cycleTime &&& cycleTimeDenominatorMask
  ptpTimeNs : regs adminBaseTimeNs = qbv.ptpTimeNs
  ptpTimeSec : regs adminBaseTimeSec = (qbv.ptpTimeSec &&& 0xFFFFFFFF).setWidth 32
  ptpTimeSecs
    : regs adminBaseTimeSecs = (qbv.ptpTimeSec >>> 32).setWidth 32 &&& baseTimeSecsMask
  entries
    : ∀ i < qbv.listLength.toNat,
        regs (adminCtrlList i)
          = (axienetMapGsToHw numTc (qbv.aclGateState i) &&& aclGateStateMask)
            <<< aclGateStateShift
        ∧ regs (adminCtrlListTime i) = qbv.aclGateTime i &&& ctrlListTimeIntervalMask

theorem axienetSetSchedule_programs {numTc : BitVec 16} {regs : QbvRegs} {qbv : QbvInfo}
    (cyclic : qbv.cycleTime ≠ 0) (short : qbv.listLength.toNat ≤ qbvMaxEntries)
    (accepted : regs portStatus &&& 1 = 0 ∨ qbv.force ≠ 0)
    : ∃ regs', axienetSetSchedule numTc regs qbv = some (.ok (), regs')
        ∧ Programmed numTc qbv regs' := by
  have notRefused : ¬ (regs portStatus &&& 1 ≠ 0 ∧ qbv.force = 0) := by
    rintro ⟨pending, unforced⟩
    exact accepted.elim pending fun force => force unforced
  have returns : ¬ 2 ^ 16 ≤ qbv.listLength.toNat := by
    unfold qbvMaxEntries at short
    omega
  unfold axienetSetSchedule
  rw [if_neg cyclic, if_neg notRefused, if_neg returns]
  generalize (if regs portStatus &&& 1 ≠ 0 then axienetQbvIow regs configChange 0 else regs)
    = unlocked
  obtain ⟨others, entries⟩ :=
    setEntries_regs numTc qbv (setTimes qbv unlocked) qbv.listLength.toNat
  have behind : ∀ i, adminCtrlList i ≠ configChange ∧ adminCtrlList i ≠ intStatus := by
    intro i
    simp only [adminCtrlList, ctrlListBase, configChange, intStatus]
    omega
  have behind' : ∀ i, adminCtrlListTime i ≠ configChange ∧ adminCtrlListTime i ≠ intStatus := by
    intro i
    simp only [adminCtrlListTime, adminCtrlList, ctrlListBase, configChange, intStatus]
    omega
  -- What follows the times stores the list, behind all other registers, and two of these.
  have kept : ∀ offset < ctrlListBase, offset ≠ intStatus → offset ≠ configChange → ∀ word,
      axienetQbvIow (axienetQbvIow
          ((List.range qbv.listLength.toNat).foldl (setEntry numTc qbv) (setTimes qbv unlocked))
          intStatus 0) configChange word offset
        = setTimes qbv unlocked offset := by
    intro offset low status change word
    exact (Function.update_of_ne change ..).trans
      ((Function.update_of_ne status ..).trans (others offset low))
  refine ⟨_, rfl, ⟨_, Function.update_self ..⟩, ?_, ?_, ?_, ?_, ?_⟩
  · exact kept adminCycleTimeDenominator (by decide) (by decide) (by decide) _
  · exact kept adminBaseTimeNs (by decide) (by decide) (by decide) _
  · exact kept adminBaseTimeSec (by decide) (by decide) (by decide) _
  · exact kept adminBaseTimeSecs (by decide) (by decide) (by decide) _
  · intro i low
    simp only [axienetQbvIow, Function.update_of_ne (behind i).1,
      Function.update_of_ne (behind i).2, Function.update_of_ne (behind' i).1,
      Function.update_of_ne (behind' i).2]
    exact entries i low

/-- What reading back a programmed schedule that has taken effect gives: every field as it
was written, and each gate state as the list registers keep it.
-/
theorem axienetGetSchedule_programmed {numTc : BitVec 16} {qbv old : QbvInfo}
    {before after : QbvRegs} (valid : Schedulable numTc qbv)
    (programmed : Programmed numTc qbv before) (effect : TakesEffect before after)
    : ∃ states times,
        axienetGetSchedule numTc after old
          = { old with
              cycleTime := qbv.cycleTime
              ptpTimeSec := qbv.ptpTimeSec
              ptpTimeNs := qbv.ptpTimeNs
              listLength := qbv.listLength
              aclGateState := states
              aclGateTime := times }
        ∧ ∀ i < qbv.listLength.toNat,
          states i = gateReadBack numTc (qbv.aclGateState i)
          ∧ times i = qbv.aclGateTime i := by
  obtain ⟨word, change⟩ := programmed.change
  have enabled : ¬ after configChange &&& ccAdminGateEnableBit = 0 := by
    rw [effect.enabled, change, changeWord_enabled]
    decide
  have short := valid.listLength
  have length : (after gateState >>> ccAdminCtrlListLengthShift) &&& ccAdminCtrlListLengthMask
      = qbv.listLength := by
    rw [effect.listLength, change, changeWord_length]
    refine Field.and_of_lt (k := 9) (by decide) (by decide) ?_
    unfold qbvMaxEntries at short
    omega
  have cycle : after operCycleTimeDenominator &&& cycleTimeDenominatorMask = qbv.cycleTime := by
    have fits : qbv.cycleTime &&& cycleTimeDenominatorMask = qbv.cycleTime :=
      Field.and_of_lt (k := 30) (by decide) (by decide) valid.cycleTime
    rw [effect.cycleTime, programmed.cycleTime, fits, fits]
  have ns : after operBaseTimeNs &&& operBaseTimeNsMask = qbv.ptpTimeNs := by
    rw [effect.ptpTimeNs, programmed.ptpTimeNs]
    exact Field.and_of_lt (k := 30) (by decide) (by decide)
      (Nat.lt_trans valid.ptpTimeNs (by decide))
  have sec : (after operBaseTimeSec).setWidth 64
      ||| ((after operBaseTimeSecs &&& baseTimeSecsMask).setWidth 64 <<< 32)
      = qbv.ptpTimeSec := by
    rw [effect.ptpTimeSec, effect.ptpTimeSecs, programmed.ptpTimeSec, programmed.ptpTimeSecs]
    exact ptpTimeSec_joined valid.ptpTimeSec
  unfold axienetGetSchedule
  rw [if_neg enabled, length, cycle, ns, sec]
  obtain ⟨states, times, read, entries⟩ := getEntries_info numTc after
    { old with
      listLength := qbv.listLength
      cycleTime := qbv.cycleTime
      ptpTimeNs := qbv.ptpTimeNs
      ptpTimeSec := qbv.ptpTimeSec }
    qbv.listLength.toNat
  refine ⟨states, times, read, ?_⟩
  intro i low
  obtain ⟨state, time⟩ := entries i low
  obtain ⟨copied, copied'⟩ := effect.entries i (Nat.lt_of_lt_of_le low short)
  obtain ⟨written, written'⟩ := programmed.entries i low
  have fits : qbv.aclGateTime i &&& ctrlListTimeIntervalMask = qbv.aclGateTime i :=
    Field.and_of_lt (k := 20) (by decide) (by decide) (valid.gateTime i low)
  constructor
  · rw [state, copied, written]
    rfl
  · rw [time, copied', written', fits, fits]

/-- An accepted schedule that takes effect reads back as it was written exactly if the port
has three queues or no entry opens the best-effort and the scheduled gate together.
-/
theorem schedule_round_trip {numTc : BitVec 16} (queues : numTc = 2 ∨ numTc = 3)
    {regs : QbvRegs} {qbv : QbvInfo} (valid : Schedulable numTc qbv)
    (accepted : regs portStatus &&& 1 = 0 ∨ qbv.force ≠ 0)
    : ∃ regs', axienetSetSchedule numTc regs qbv = some (.ok (), regs')
        ∧ ∀ after, TakesEffect regs' after
          → ∀ old,
            SameSchedule (axienetGetSchedule numTc after old) qbv
            ↔ numTc = 3
              ∨ ∀ i < qbv.listLength.toNat, qbv.aclGateState i ≠ gsBeOpen ||| gsStOpen := by
  obtain ⟨regs', set, programmed⟩ :=
    axienetSetSchedule_programs valid.cyclic valid.listLength accepted
  refine ⟨regs', set, ?_⟩
  intro after effect old
  obtain ⟨states, times, read, entries⟩ :=
    axienetGetSchedule_programmed valid programmed effect
  have state_iff : ∀ i < qbv.listLength.toNat,
      states i = qbv.aclGateState i
      ↔ numTc = 3 ∨ qbv.aclGateState i ≠ gsBeOpen ||| gsStOpen := by
    intro i low
    rw [(entries i low).1]
    exact gateReadBack_eq_iff queues (valid.gateState i low)
  rw [read]
  constructor
  · intro same
    by_cases three : numTc = 3
    · exact .inl three
    · exact .inr fun i low => ((state_iff i low).mp (same.gateState i low)).resolve_left three
  · intro fine
    exact {
      cycleTime := rfl
      ptpTimeSec := rfl
      ptpTimeNs := rfl
      listLength := rfl
      gateState := fun i low => (state_iff i low).mpr (fine.imp_right fun apart => apart i low)
      gateTime := fun i low => (entries i low).2
    }

/-- The core's effect as a function. -/
def applyChange (regs : QbvRegs) : QbvRegs := fun offset =>
  if offset = configChange then regs configChange &&& ~~~ccAdminConfigChangeBit
  else if offset = gateState then
    regs configChange &&& (ccAdminCtrlListLengthMask <<< ccAdminCtrlListLengthShift)
  else if offset = operCycleTimeDenominator then regs adminCycleTimeDenominator
  else if offset = operBaseTimeNs then regs adminBaseTimeNs
  else if offset = operBaseTimeSec then regs adminBaseTimeSec
  else if offset = operBaseTimeSecs then regs adminBaseTimeSecs
  else if ctrlListBase + 0x800 ≤ offset then regs (offset - 0x800)
  else regs offset

theorem applyChange_takesEffect (regs : QbvRegs) : TakesEffect regs (applyChange regs) where
  enabled := Field.clear_and (by decide)
  listLength := by
    simp only [applyChange, if_pos, if_neg (by decide : gateState ≠ configChange),
      BitVec.ushiftRight_and_distrib, BitVec.and_assoc]
    congr 1
  cycleTime := rfl
  ptpTimeNs := rfl
  ptpTimeSec := rfl
  ptpTimeSecs := rfl
  entries := by
    intro i _
    have behind : ∀ offset, ctrlListBase + 0x800 ≤ offset
        → applyChange regs offset = regs (offset - 0x800) := by
      intro offset le
      have apart : ∀ low < ctrlListBase, offset ≠ low := by
        intro low bound
        omega
      unfold applyChange
      rw [if_neg (apart _ (by decide)), if_neg (apart _ (by decide)),
        if_neg (apart _ (by decide)), if_neg (apart _ (by decide)),
        if_neg (apart _ (by decide)), if_neg (apart _ (by decide)), if_pos le]
    have list : ctrlListBase + 0x800 ≤ operCtrlList i := Nat.le_add_right _ _
    have entry : operCtrlList i - 0x800 = adminCtrlList i := by
      unfold operCtrlList adminCtrlList
      omega
    have time : operCtrlListTime i - 0x800 = adminCtrlListTime i := by
      rw [operCtrlListTime, adminCtrlListTime, ← entry,
        Nat.sub_add_comm (Nat.le_trans (Nat.le_add_left _ _) list)]
    constructor
    · rw [behind _ list, entry]
    · rw [behind (operCtrlListTime i) (Nat.le_add_right_of_le list), time]

/-- A schedule of one millisecond that opens one gate after the other, or both at first. -/
def twoSlots (first : U32) : QbvInfo where
  port := 1
  force := 0
  cycleTime := 1000000
  ptpTimeSec := 100
  ptpTimeNs := 500
  listLength := 2
  aclGateState := fun i => if i = 0 then first else gsStOpen
  aclGateTime := fun _ => 500000

theorem twoSlots_schedulable {first : U32} (gates : first &&& ~~~designGates 2 = 0)
    : Schedulable 2 (twoSlots first) where
  cyclic := show (1000000 : U32) ≠ 0 by decide
  cycleTime := show (1000000 : U32).toNat < 2 ^ 30 by decide
  listLength := show (2 : U32).toNat ≤ qbvMaxEntries by decide
  ptpTimeNs := show (500 : U32).toNat < 10 ^ 9 by decide
  ptpTimeSec := show (100 : BitVec 64).toNat < 2 ^ 48 by decide
  gateTime := fun _ _ => show (500000 : U32).toNat < 2 ^ 20 by decide
  gateState := by
    intro i _
    by_cases head : i = 0
    · simp only [twoSlots, if_pos head]
      exact gates
    · simp only [twoSlots, if_neg head]
      decide

/-- The registers of a shaper that is not in use. -/
def idleRegs : QbvRegs := fun _ => 0

theorem schedule_round_trip_two_slots
    : ∃ regs', axienetSetSchedule 2 idleRegs (twoSlots gsBeOpen) = some (.ok (), regs')
        ∧ SameSchedule (axienetGetSchedule 2 (applyChange regs') (twoSlots 0))
          (twoSlots gsBeOpen) := by
  obtain ⟨regs', set, same⟩ := schedule_round_trip (.inl rfl)
    (twoSlots_schedulable (by decide : gsBeOpen &&& ~~~designGates 2 = 0))
    (.inl (by decide : idleRegs portStatus &&& 1 = 0))
  exact ⟨regs', set, (same _ (applyChange_takesEffect regs') _).mpr (.inr (by decide))⟩

/-- Both gates open on two queues come back as the reserved and the best-effort gate. -/
theorem schedule_misread
    : ∃ regs',
        axienetSetSchedule 2 idleRegs (twoSlots (gsBeOpen ||| gsStOpen))
          = some (.ok (), regs')
        ∧ ¬ SameSchedule (axienetGetSchedule 2 (applyChange regs') (twoSlots 0))
          (twoSlots (gsBeOpen ||| gsStOpen)) := by
  refine ⟨_, rfl, ?_⟩
  intro same
  have first := same.gateState 0 (by decide)
  revert first
  decide

end TsnTrdp.Qbv
