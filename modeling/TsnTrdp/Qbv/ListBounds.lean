import TsnTrdp.Lib.Counted
import TsnTrdp.Qbv.Shaper

/-! What the shaper's two calls reach for: the entries of the user's arrays, and the registers of
the control lists. Neither call compares the length of the list with the size of either.
-/

namespace TsnTrdp.Qbv

/-- What a round of a loop reaches for outside the call's own variables. -/
inductive Access
  | aclGateState (i : Nat)
  | aclGateTime (i : Nat)
  | register (offset : Nat)
  deriving DecidableEq, Repr

/-- A table of the control lists: where it begins, and where it has ended. -/
structure Table where
  first : Nat
  limit : Nat

def adminTable : Table := ⟨adminCtrlList 0, operCtrlList 0⟩
def operTable : Table := ⟨operCtrlList 0, operCtrlList qbvMaxEntries⟩

/-- The arrays have the entry, or the table has the register. -/
def Access.InBounds (table : Table) : Access → Prop
  | .aclGateState i => i < qbvMaxEntries
  | .aclGateTime i => i < qbvMaxEntries
  | .register offset => table.first ≤ offset ∧ offset < table.limit

/-- The accesses of `setEntry`. -/
def setAccesses (i : Nat) : List Access :=
  [.aclGateState i, .register (adminCtrlList i), .aclGateTime i, .register (adminCtrlListTime i)]

/-- The accesses of `getEntry`. -/
def getAccesses (i : Nat) : List Access :=
  [.register (operCtrlList i), .aclGateState i, .register (operCtrlListTime i), .aclGateTime i]

/-- A loop with the driver's 16-bit counter ends, and what its rounds reach for is there. -/
structure LoopInBounds {σ : Type} (bound : Nat) (body : σ → Nat → σ) (start : σ)
    (accesses : Nat → List Access) (table : Table)
    : Prop where
  terminates : ∃ final, Counted.Exits 16 bound body start final
  inBounds
    : ∀ i, Counted.Visits 16 bound body start i
      → ∀ access ∈ accesses i, access.InBounds table

/-- The call gets to the loop that programs the list. -/
def ListProgrammed (regs : QbvRegs) (qbv : QbvInfo) : Prop :=
  qbv.cycleTime ≠ 0 ∧ ¬ (regs portStatus &&& 1 ≠ 0 ∧ qbv.force = 0)

/-- The registers when it gets there. -/
def setStart (regs : QbvRegs) (qbv : QbvInfo) : QbvRegs :=
  setTimes qbv (if regs portStatus &&& 1 ≠ 0 then axienetQbvIow regs configChange 0 else regs)

/-- The registers after the loop and what follows it. -/
def setFinish (regs : QbvRegs) (qbv : QbvInfo) (programmed : QbvRegs) : QbvRegs :=
  axienetQbvIow (axienetQbvIow programmed intStatus 0) configChange
    (changeWord (setStart regs qbv configChange) qbv.listLength)

/-- The call gets to the loop that reads the list. -/
def ListRead (regs : QbvRegs) : Prop := regs configChange &&& ccAdminGateEnableBit ≠ 0

/-- The length of the list in operation, from the hardware. -/
def operListLength (regs : QbvRegs) : U32 :=
  (regs gateState >>> ccAdminCtrlListLengthShift) &&& ccAdminCtrlListLengthMask

/-- What the call has filled in when it gets there. -/
def getStart (regs : QbvRegs) (qbv : QbvInfo) : QbvInfo :=
  { qbv with
    listLength := operListLength regs
    cycleTime := regs operCycleTimeDenominator &&& cycleTimeDenominatorMask
    ptpTimeNs := regs operBaseTimeNs &&& operBaseTimeNsMask
    ptpTimeSec := (regs operBaseTimeSec).setWidth 64
      ||| ((regs operBaseTimeSecs &&& baseTimeSecsMask).setWidth 64 <<< 32) }

/-- `axienet_set_schedule` with a structure that a user has passed. -/
def SetInBounds (numTc : BitVec 16) (regs : QbvRegs) (qbv : QbvInfo) : Prop :=
  ListProgrammed regs qbv
    → LoopInBounds qbv.listLength.toNat (setEntry numTc qbv) (setStart regs qbv) setAccesses
        adminTable

/-- `axienet_get_schedule` with the registers that it finds. -/
def GetInBounds (numTc : BitVec 16) (regs : QbvRegs) (qbv : QbvInfo) : Prop :=
  ListRead regs
    → LoopInBounds (operListLength regs).toNat (getEntry numTc regs) (getStart regs qbv)
        getAccesses operTable

variable {numTc : BitVec 16} {regs : QbvRegs} {qbv : QbvInfo}

/-- The call that programs a list returns what the loop's exit leaves, and does not return if the
loop has none.
-/
theorem axienetSetSchedule_loop (reached : ListProgrammed regs qbv)
    (result : Except Errno Unit × QbvRegs)
    : axienetSetSchedule numTc regs qbv = some result
      ↔ ∃ programmed,
          Counted.Exits 16 qbv.listLength.toNat (setEntry numTc qbv) (setStart regs qbv) programmed
          ∧ result = (.ok (), setFinish regs qbv programmed) := by
  obtain ⟨cycle, free⟩ := reached
  rw [axienetSetSchedule, if_neg cycle, if_neg free]
  by_cases wide : 2 ^ 16 ≤ qbv.listLength.toNat
  · rw [if_pos wide]
    constructor
    · rintro ⟨⟩
    · rintro ⟨programmed, exits, -⟩
      exact absurd exits (Counted.not_exits wide)
  · rw [if_neg wide]
    simp only [Counted.exits_iff (Nat.not_le.mp wide), exists_eq_left, Option.some.injEq]
    exact eq_comm

/-- The call that reads a list is its counted loop, which always ends: the length has 9 bits. -/
theorem axienetGetSchedule_loop (reached : ListRead regs) (filled : QbvInfo)
    : axienetGetSchedule numTc regs qbv = filled
      ↔ Counted.Exits 16 (operListLength regs).toNat (getEntry numTc regs) (getStart regs qbv)
          filled := by
  have narrow : (operListLength regs).toNat < 2 ^ 16 := by
    have masked : (operListLength regs).toNat ≤ 0x1FF := Nat.and_le_right
    omega
  rw [axienetGetSchedule, if_neg reached, Counted.exits_iff narrow]
  exact eq_comm

/-- A round of the programming loop depends on the entries that it reaches for, and changes no other
registers.
-/
theorem setEntry_accesses {other : QbvInfo} {i : Nat}
    (states : ∀ j, Access.aclGateState j ∈ setAccesses i
      → qbv.aclGateState j = other.aclGateState j)
    (times : ∀ j, Access.aclGateTime j ∈ setAccesses i → qbv.aclGateTime j = other.aclGateTime j)
    : setEntry numTc qbv regs i = setEntry numTc other regs i
      ∧ ∀ offset, Access.register offset ∉ setAccesses i
        → setEntry numTc qbv regs i offset = regs offset := by
  refine ⟨?_, ?_⟩
  · simp only [setEntry, states i (by simp [setAccesses]), times i (by simp [setAccesses])]
  · intro offset outside
    simp only [setAccesses, List.mem_cons, reduceCtorEq, false_or, Access.register.injEq,
      List.not_mem_nil, or_false, not_or] at outside
    simp only [setEntry, axienetQbvIow]
    rw [Function.update_of_ne outside.2, Function.update_of_ne outside.1]

/-- A round of the reading loop depends on the registers that it reaches for, and changes no other
entries.
-/
theorem getEntry_accesses {other : QbvRegs} {i : Nat}
    (same : ∀ offset, Access.register offset ∈ getAccesses i → regs offset = other offset)
    : getEntry numTc regs qbv i = getEntry numTc other qbv i
      ∧ (∀ j, Access.aclGateState j ∉ getAccesses i
        → (getEntry numTc regs qbv i).aclGateState j = qbv.aclGateState j)
      ∧ ∀ j, Access.aclGateTime j ∉ getAccesses i
        → (getEntry numTc regs qbv i).aclGateTime j = qbv.aclGateTime j := by
  refine ⟨?_, ?_, ?_⟩
  · simp only [getEntry, same (operCtrlList i) (by simp [getAccesses]),
      same (operCtrlListTime i) (by simp [getAccesses])]
  · intro j outside
    have apart : j ≠ i := by
      rintro rfl
      simp [getAccesses] at outside
    exact Function.update_of_ne apart _ _
  · intro j outside
    have apart : j ≠ i := by
      rintro rfl
      simp [getAccesses] at outside
    exact Function.update_of_ne apart _ _

/-- The arrays and the table of a control list have room for as many entries. -/
theorem setAccesses_inBounds (i : Nat)
    : (∀ access ∈ setAccesses i, access.InBounds adminTable) ↔ i < qbvMaxEntries := by
  simp only [setAccesses, List.forall_mem_cons, Access.InBounds, adminTable, adminCtrlListTime,
    adminCtrlList, operCtrlList, ctrlListBase, qbvMaxEntries]
  constructor
  · rintro ⟨low, -⟩
    exact low
  · intro low
    refine ⟨low, by omega, low, by omega, ?_⟩
    exact fun _ member => absurd member List.not_mem_nil

theorem getAccesses_inBounds (i : Nat)
    : (∀ access ∈ getAccesses i, access.InBounds operTable) ↔ i < qbvMaxEntries := by
  simp only [getAccesses, List.forall_mem_cons, Access.InBounds, operTable, operCtrlListTime,
    operCtrlList, ctrlListBase, qbvMaxEntries]
  constructor
  · rintro ⟨-, low, -⟩
    exact low
  · intro low
    refine ⟨by omega, low, by omega, low, ?_⟩
    exact fun _ member => absurd member List.not_mem_nil

/-- A loop whose rounds fit one by one, as the arrays do, is in bounds up to their size. -/
theorem loopInBounds_iff {σ : Type} {bound : Nat} {body : σ → Nat → σ} {start : σ}
    {accesses : Nat → List Access} {table : Table}
    (each : ∀ i, (∀ access ∈ accesses i, access.InBounds table) ↔ i < qbvMaxEntries)
    : LoopInBounds bound body start accesses table ↔ bound ≤ qbvMaxEntries := by
  have counted : qbvMaxEntries < 2 ^ 16 := by decide
  constructor
  · rintro ⟨-, inBounds⟩
    by_contra long
    -- The first round too many is made, whatever the length: the counter can say its number.
    have visits : Counted.Visits 16 bound body start qbvMaxEntries :=
      Counted.visits_iff.mpr ⟨Nat.not_le.mp long, counted⟩
    exact absurd ((each qbvMaxEntries).mp (inBounds _ visits)) (Nat.lt_irrefl _)
  · intro short
    refine ⟨Counted.terminates_iff.mpr (Nat.lt_of_le_of_lt short counted), ?_⟩
    intro i visits
    exact (each i).mpr (Nat.lt_of_lt_of_le (Counted.visits_iff.mp visits).1 short)

/-- Both calls end and stay in bounds exactly if they do not get to their loops, or the list has no
more entries than the arrays.
-/
theorem list_accesses_inBounds (numTc : BitVec 16) (regs : QbvRegs) (qbv : QbvInfo)
    : (SetInBounds numTc regs qbv
        ↔ qbv.cycleTime = 0 ∨ (regs portStatus &&& 1 ≠ 0 ∧ qbv.force = 0)
          ∨ qbv.listLength.toNat ≤ qbvMaxEntries)
      ∧ (GetInBounds numTc regs qbv
        ↔ regs configChange &&& ccAdminGateEnableBit = 0
          ∨ (operListLength regs).toNat ≤ qbvMaxEntries) := by
  constructor
  · rw [SetInBounds, loopInBounds_iff setAccesses_inBounds, ListProgrammed]
    tauto
  · rw [GetInBounds, loopInBounds_iff getAccesses_inBounds, ListRead]
    tauto

/-- A schedule of one entry too many. -/
def longSchedule : QbvInfo where
  port := 0
  force := 0
  cycleTime := 1000000
  ptpTimeSec := 0
  ptpTimeNs := 0
  listLength := 257
  aclGateState := fun _ => gsBeOpen
  aclGateTime := fun _ => 1000

/-- On an idle shaper its last round writes the first register of the operational table. -/
theorem list_accesses_inBounds_long
    : ¬ SetInBounds 3 (fun _ => 0) longSchedule
      ∧ Access.register (operCtrlList 0) ∈ setAccesses 256 := by
  refine ⟨?_, by decide⟩
  rw [SetInBounds, loopInBounds_iff setAccesses_inBounds]
  intro short
  exact absurd (short ⟨by decide, by decide⟩) (by decide)

end TsnTrdp.Qbv
