import TsnTrdp.Lib.Field
import Mathlib.Logic.Function.Basic

/-! The time-aware shaper of a port: its registers, and the driver's calls that program a gate
schedule and read back the one in operation.
-/

namespace TsnTrdp.Qbv

abbrev U32 := BitVec 32
abbrev Byte := BitVec 8

def ctrlListBase : Nat := 0x1000
def adminCtrlList (n : Nat) : Nat := ctrlListBase + n * 8
def aclGateStateShift : Nat := 8
def aclGateStateMask : U32 := 0x7
def adminCtrlListTime (n : Nat) : Nat := adminCtrlList n + 4
def operCtrlList (n : Nat) : Nat := ctrlListBase + 0x800 + n * 8
def operCtrlListTime (n : Nat) : Nat := operCtrlList n + 4
def ctrlListTimeIntervalMask : U32 := 0xFFFFF

def configChange : Nat := 0x0
def ccAdminGateStateShift : U32 := 0x7
def ccAdminCtrlListLengthShift : Nat := 8
def ccAdminCtrlListLengthMask : U32 := 0x1FF
def ccAdminConfigChangeBit : U32 := 1 <<< 30
def ccAdminGateEnableBit : U32 := 1 <<< 31

def gateState : Nat := 0x8
def adminCycleTimeDenominator : Nat := 0x18
def adminBaseTimeNs : Nat := 0x20
def adminBaseTimeSec : Nat := 0x24
def adminBaseTimeSecs : Nat := 0x28
def intStatus : Nat := 0x30
def portStatus : Nat := 0x3c
def operCycleTimeDenominator : Nat := 0x58
def cycleTimeDenominatorMask : U32 := 0x3FFFFFFF
def operBaseTimeNs : Nat := 0x60
def operBaseTimeNsMask : U32 := 0x3FFFFFFF
def operBaseTimeSec : Nat := 0x64
def operBaseTimeSecs : Nat := 0x68
def baseTimeSecsMask : U32 := 0xFFFF

def gsBeOpen : U32 := 1 <<< 0
def gsReOpen : U32 := 1 <<< 1
def gsStOpen : U32 := 1 <<< 2
def qbvMaxEntries : Nat := 256

/-- `struct qbv_info`. The arrays have `QBV_MAX_ENTRIES` entries. -/
structure QbvInfo where
  port : Byte
  force : Byte
  cycleTime : U32
  ptpTimeSec : BitVec 64
  ptpTimeNs : U32
  listLength : U32
  aclGateState : Nat → U32
  aclGateTime : Nat → U32

/-- The shaper's registers by offset. -/
abbrev QbvRegs := Nat → U32

/-- `axienet_qbv_iow`. -/
def axienetQbvIow (regs : QbvRegs) (offset : Nat) (value : U32) : QbvRegs :=
  Function.update regs offset value

inductive Errno
  | ealready
  deriving DecidableEq, Repr

/-- `axienet_map_gs_to_hw`. -/
def axienetMapGsToHw (numTc : BitVec 16) (gs : U32) : U32 :=
  let beQueue := 0
  let reQueue := 1
  let stQueue := if numTc = 2 then 1 else 2
  let aclBitMap : U32 := 0
  let aclBitMap := if gs &&& gsBeOpen ≠ 0 then aclBitMap ||| (1 <<< beQueue) else aclBitMap
  let aclBitMap := if gs &&& gsStOpen ≠ 0 then aclBitMap ||| (1 <<< stQueue) else aclBitMap
  if numTc = 3 ∧ gs &&& gsReOpen ≠ 0 then aclBitMap ||| (1 <<< reQueue) else aclBitMap

/-- One round of the loop that programs the list. -/
def setEntry (numTc : BitVec 16) (qbv : QbvInfo) (regs : QbvRegs) (i : Nat) : QbvRegs :=
  let aclBitMap := axienetMapGsToHw numTc (qbv.aclGateState i)
  let regs := axienetQbvIow regs (adminCtrlList i)
    ((aclBitMap &&& aclGateStateMask) <<< aclGateStateShift)
  axienetQbvIow regs (adminCtrlListTime i) (qbv.aclGateTime i &&& ctrlListTimeIntervalMask)

/-- The base and cycle time. -/
def setTimes (qbv : QbvInfo) (regs : QbvRegs) : QbvRegs :=
  let regs := axienetQbvIow regs adminCycleTimeDenominator
    (qbv.cycleTime &&& cycleTimeDenominatorMask)
  let regs := axienetQbvIow regs adminBaseTimeNs qbv.ptpTimeNs
  let regs := axienetQbvIow regs adminBaseTimeSec
    ((qbv.ptpTimeSec &&& 0xFFFFFFFF).setWidth 32)
  axienetQbvIow regs adminBaseTimeSecs
    ((qbv.ptpTimeSec >>> 32).setWidth 32 &&& baseTimeSecsMask)

/-- The word that starts the change: the word found, with the new list length. -/
def changeWord (word : U32) (listLength : U32) : U32 :=
  let word := word &&& ~~~(ccAdminCtrlListLengthMask <<< ccAdminCtrlListLengthShift)
  let word := word
    ||| ((listLength &&& ccAdminCtrlListLengthMask) <<< ccAdminCtrlListLengthShift)
  word ||| ccAdminConfigChangeBit ||| ccAdminGateEnableBit

/-- `__axienet_set_schedule`; `none` is a call that does not return, since the counter of its
loop has 16 bits.
-/
def axienetSetSchedule (numTc : BitVec 16) (regs : QbvRegs) (qbv : QbvInfo)
    : Option (Except Errno Unit × QbvRegs) :=
  if qbv.cycleTime = 0 then
    some (.ok (), axienetQbvIow regs configChange ccAdminGateStateShift)
  else if regs portStatus &&& 1 ≠ 0 ∧ qbv.force = 0 then some (.error .ealready, regs)
  else if 2 ^ 16 ≤ qbv.listLength.toNat then none
  else
    let regs := if regs portStatus &&& 1 ≠ 0 then axienetQbvIow regs configChange 0 else regs
    let regs := setTimes qbv regs
    let uConfigChange := changeWord (regs configChange) qbv.listLength
    let regs := (List.range qbv.listLength.toNat).foldl (setEntry numTc qbv) regs
    let regs := axienetQbvIow regs intStatus 0
    some (.ok (), axienetQbvIow regs configChange uConfigChange)

/-- The gate state of an entry, as the user gets it. -/
def readGateState (numTc : BitVec 16) (uValue : U32) : U32 :=
  let state := (uValue >>> aclGateStateShift) &&& aclGateStateMask
  if numTc = 2 ∧ state = 2 then 4 else state

/-- One round of the loop that reads the list. -/
def getEntry (numTc : BitVec 16) (regs : QbvRegs) (qbv : QbvInfo) (i : Nat) : QbvInfo :=
  { qbv with
    aclGateState := Function.update qbv.aclGateState i
      (readGateState numTc (regs (operCtrlList i)))
    aclGateTime := Function.update qbv.aclGateTime i
      (regs (operCtrlListTime i) &&& ctrlListTimeIntervalMask) }

/-- `__axienet_get_schedule`, which fills in the structure that it is given. -/
def axienetGetSchedule (numTc : BitVec 16) (regs : QbvRegs) (qbv : QbvInfo) : QbvInfo :=
  if regs configChange &&& ccAdminGateEnableBit = 0 then { qbv with cycleTime := 0 }
  else
    let listLength := (regs gateState >>> ccAdminCtrlListLengthShift)
      &&& ccAdminCtrlListLengthMask
    (List.range listLength.toNat).foldl (getEntry numTc regs) { qbv with
      listLength
      cycleTime := regs operCycleTimeDenominator &&& cycleTimeDenominatorMask
      ptpTimeNs := regs operBaseTimeNs &&& operBaseTimeNsMask
      ptpTimeSec := (regs operBaseTimeSec).setWidth 64
        ||| ((regs operBaseTimeSecs &&& baseTimeSecsMask).setWidth 64 <<< 32) }

/-- The list's registers are behind all others, and each entry has its own. -/
theorem setEntries_regs (numTc : BitVec 16) (qbv : QbvInfo) (regs : QbvRegs) (n : Nat)
    : (∀ offset < ctrlListBase,
        (List.range n).foldl (setEntry numTc qbv) regs offset = regs offset)
      ∧ ∀ i < n,
        (List.range n).foldl (setEntry numTc qbv) regs (adminCtrlList i)
          = (axienetMapGsToHw numTc (qbv.aclGateState i) &&& aclGateStateMask)
            <<< aclGateStateShift
        ∧ (List.range n).foldl (setEntry numTc qbv) regs (adminCtrlListTime i)
          = qbv.aclGateTime i &&& ctrlListTimeIntervalMask := by
  induction n with
  | zero => exact ⟨fun _ _ => rfl, fun i low => absurd low (Nat.not_lt_zero i)⟩
  | succ n ih =>
      obtain ⟨others, entries⟩ := ih
      simp only [List.range_succ, List.foldl_append, List.foldl_cons, List.foldl_nil, setEntry,
        axienetQbvIow]
      generalize (List.range n).foldl (setEntry numTc qbv) regs = before at others entries ⊢
      refine ⟨?_, ?_⟩
      · intro offset low
        rw [Function.update_of_ne, Function.update_of_ne]
        · exact others offset low
        · unfold adminCtrlList
          omega
        · unfold adminCtrlListTime adminCtrlList
          omega
      · intro i low
        rcases Nat.lt_or_eq_of_le (Nat.le_of_lt_succ low) with old | rfl
        · rw [Function.update_of_ne, Function.update_of_ne, Function.update_of_ne,
            Function.update_of_ne]
          · exact entries i old
          all_goals
            simp only [adminCtrlListTime, adminCtrlList]
            omega
        · rw [Function.update_self, Function.update_of_ne, Function.update_self]
          · exact ⟨rfl, rfl⟩
          · unfold adminCtrlListTime
            omega

/-- The loop that reads the list fills in its entries and nothing else. -/
theorem getEntries_info (numTc : BitVec 16) (regs : QbvRegs) (qbv : QbvInfo) (n : Nat)
    : ∃ states times,
        (List.range n).foldl (getEntry numTc regs) qbv
          = { qbv with aclGateState := states, aclGateTime := times }
        ∧ ∀ i < n,
          states i = readGateState numTc (regs (operCtrlList i))
          ∧ times i = regs (operCtrlListTime i) &&& ctrlListTimeIntervalMask := by
  induction n with
  | zero => exact ⟨_, _, rfl, fun i low => absurd low (Nat.not_lt_zero i)⟩
  | succ n ih =>
      obtain ⟨states, times, read, entries⟩ := ih
      rw [List.range_succ, List.foldl_append, read]
      refine ⟨_, _, rfl, ?_⟩
      intro i low
      rcases Nat.lt_or_eq_of_le (Nat.le_of_lt_succ low) with old | rfl
      · rw [Function.update_of_ne (Nat.ne_of_lt old), Function.update_of_ne (Nat.ne_of_lt old)]
        exact entries i old
      · rw [Function.update_self, Function.update_self]
        exact ⟨rfl, rfl⟩

end TsnTrdp.Qbv
