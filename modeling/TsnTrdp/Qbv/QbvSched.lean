import TsnTrdp.Qbv.RoundTrip

/-! The tool that reads a gate schedule from its configuration file and hands it to the driver. What
reaches the admin registers against what the file says: the list's times are cut to twenty bits.
-/

namespace TsnTrdp.Qbv

open TsnTrdp

-----------------------------------------------------------------------------------------
-- The configuration and the tool
-----------------------------------------------------------------------------------------

/-- An entry of `gate_list`, of two `int`s. -/
structure GateEntry where
  state : U32
  time : U32
  deriving DecidableEq, Repr

/-- The group of a port, `qbv.<port>`. -/
structure PortConfig where
  cycleTime : U32
  startSec : BitVec 64
  startNs : U32
  gateList : Option (List GateEntry)
  deriving DecidableEq, Repr

def maxCycleTime : U32 := 1000000000

/-- `MAX_ENTRIES`. -/
def maxEntries : Nat := 256

/-- What the call of the driver meets on its way: an interface that runs and has a shaper, memory,
and the copy of the structure.
-/
structure IoctlPath where
  reaches : Bool
  kmalloc : Bool
  copied : Bool
  deriving DecidableEq, Repr

inductive SetError
  | unreached
  | enomem
  | efault
  | driver (errno : Errno)
  deriving DecidableEq, Repr

/-- `axienet_set_schedule`, as it is reached through `ioctl`. -/
def axienetSetScheduleIoctl (numTc : BitVec 16) (regs : QbvRegs) (path : IoctlPath)
    (qbv : QbvInfo)
    : Option (Except SetError Unit × QbvRegs) :=
  if !path.reaches then some (.error .unreached, regs)
  else if !path.kmalloc then some (.error .enomem, regs)
  else if !path.copied then some (.error .efault, regs)
  else (axienetSetSchedule numTc regs qbv).map fun out => (out.1.mapError .driver, out.2)

/-- The loop over the list, which fills in the arrays from `j` on. -/
def fillGates (prog : QbvInfo) : Nat → List GateEntry → QbvInfo
  | _, [] => prog
  | j, entry :: rest =>
      let prog := { prog with
        aclGateState := Function.update prog.aclGateState j entry.state
        aclGateTime := Function.update prog.aclGateTime j (entry.time.sdiv 8) }
      fillGates prog (j + 1) rest

/-- What a run of the tool comes to: it prints that the list is invalid, finds no list, prints that
programming failed, or has programmed the registers.
-/
inductive SchedOutcome
  | invalidLength
  | noList
  | progFailed (err : SetError)
  | programmed (regs : QbvRegs)

/-- The structure as `main` fills it in ahead of the list. `off` turns the port off, `force`
replaces a pending schedule; `prog` is what the stack holds, and `now` is the clock's second.
-/
def fillTimes (port : Fin 3) (off force : Bool) (now : BitVec 64) (prog : QbvInfo)
    (cfg : PortConfig)
    : QbvInfo :=
  let cycleTime := if off then 0 else cfg.cycleTime
  { prog with
    force := if force then 1 else 0
    cycleTime := if cycleTime > maxCycleTime then maxCycleTime else cycleTime
    port := BitVec.ofNat 8 port
    ptpTimeSec := if cfg.startSec = 0 then now + 1 else cfg.startSec
    ptpTimeNs := if cfg.startSec = 0 then 0 else cfg.startNs }

/-- `main` from the options on. -/
def qbvSched (numTc : BitVec 16) (regs : QbvRegs) (path : IoctlPath) (port : Fin 3)
    (off force : Bool) (now : BitVec 64) (prog : QbvInfo) (cfg : PortConfig)
    : Option SchedOutcome :=
  let prog := fillTimes port off force now prog cfg
  match cfg.gateList with
  | none => some .noList
  | some gates =>
      if gates.length > maxEntries then some .invalidLength
      else
        let prog := fillGates { prog with listLength := BitVec.ofNat 32 gates.length } 0 gates
        (axienetSetScheduleIoctl numTc regs path prog).map fun
          | (.error err, _) => .progFailed err
          | (.ok _, regs) => .programmed regs

-----------------------------------------------------------------------------------------
-- What is asked
-----------------------------------------------------------------------------------------

inductive Gate
  | be
  | re
  | st
  deriving DecidableEq, Repr

/-- The bit of a gate in the configuration. -/
def Gate.bit : Gate → Nat
  | .be => 0
  | .re => 1
  | .st => 2

/-- The queue behind a gate. With two queues there is no reserved one. -/
def Gate.queue (numTc : Nat) : Gate → Option Nat
  | .be => some 0
  | .re => if numTc = 3 then some 1 else none
  | .st => if numTc = 3 then some 2 else some 1

/-- A list entry of the registers opens the gate of a queue. -/
def OpensQueue (word : U32) (queue : Nat) : Prop :=
  ((word >>> aclGateStateShift) &&& aclGateStateMask).getLsbD queue = true

instance (word : U32) (queue : Nat) : Decidable (OpensQueue word queue) :=
  inferInstanceAs (Decidable (_ = _))

/-- The nanoseconds of a list entry of the registers, which counts ticks of eight. -/
def entryNs (word : U32) : Nat := 8 * (word &&& ctrlListTimeIntervalMask).toNat

/-- The admin registers hold the configured schedule. -/
structure AsWritten (numTc : BitVec 16) (cfg : PortConfig) (gates : List GateEntry)
    (regs : QbvRegs)
    : Prop where
  length
    : ((regs configChange >>> ccAdminCtrlListLengthShift) &&& ccAdminCtrlListLengthMask).toNat
      = gates.length
  opens
    : ∀ i entry, gates[i]? = some entry → ∀ queue,
        OpensQueue (regs (adminCtrlList i)) queue
        ↔ ∃ gate : Gate, entry.state.getLsbD gate.bit = true
            ∧ gate.queue numTc.toNat = some queue
  lasts
    : ∀ i entry, gates[i]? = some entry
      → entryNs (regs (adminCtrlListTime i)) = entry.time.toNat / 8 * 8
  cycleTime
    : (regs adminCycleTimeDenominator &&& cycleTimeDenominatorMask).toNat = cfg.cycleTime.toNat

/-- The run has reported an error, or it has programmed the schedule as it is written. -/
def ReportedOrAsWritten (numTc : BitVec 16) (cfg : PortConfig) (gates : List GateEntry)
    : Option SchedOutcome → Prop
  | some .invalidLength | some (.progFailed _) => True
  | some (.programmed regs) => AsWritten numTc cfg gates regs
  | some .noList | none => False

/-- A gate list whose states are made of the three bits, and whose times are not negative. -/
structure GatesValid (gates : List GateEntry) : Prop where
  state : ∀ entry ∈ gates, entry.state &&& ~~~(gsBeOpen ||| gsReOpen ||| gsStOpen) = 0
  time : ∀ entry ∈ gates, 0 ≤ entry.time.toInt

instance (gates : List GateEntry) : Decidable (GatesValid gates) :=
  decidable_of_iff (_ ∧ _) ⟨fun valid => ⟨valid.1, valid.2⟩, fun valid => ⟨valid.state, valid.time⟩⟩

-----------------------------------------------------------------------------------------
-- Entries
-----------------------------------------------------------------------------------------

/-- The loop fills in the list's entries and nothing else, by induction on the list. -/
theorem fillGates_info (prog : QbvInfo) (j : Nat) (gates : List GateEntry)
    : ∃ states times,
        fillGates prog j gates = { prog with aclGateState := states, aclGateTime := times }
        ∧ (∀ i < j, states i = prog.aclGateState i ∧ times i = prog.aclGateTime i)
        ∧ ∀ i entry, gates[i]? = some entry
          → states (j + i) = entry.state ∧ times (j + i) = entry.time.sdiv 8 := by
  induction gates generalizing prog j with
  | nil => exact ⟨_, _, rfl, fun _ _ => ⟨rfl, rfl⟩, fun i entry found => by simp at found⟩
  | cons first rest ih =>
      obtain ⟨states, times, same, before, entries⟩ := ih { prog with
        aclGateState := Function.update prog.aclGateState j first.state
        aclGateTime := Function.update prog.aclGateTime j (first.time.sdiv 8) } (j + 1)
      refine ⟨states, times, same, fun i low => ?_, fun i entry found => ?_⟩
      · obtain ⟨state, time⟩ := before i (Nat.lt_succ_of_lt low)
        exact ⟨state.trans (Function.update_of_ne (Nat.ne_of_lt low) ..),
          time.trans (Function.update_of_ne (Nat.ne_of_lt low) ..)⟩
      · cases i with
        | zero =>
            obtain rfl := Option.some.inj found
            obtain ⟨state, time⟩ := before j (Nat.lt_succ_self j)
            exact ⟨state.trans (Function.update_self ..), time.trans (Function.update_self ..)⟩
        | succ i =>
            have rest := entries i entry found
            rwa [Nat.add_right_comm] at rest

theorem exists_gate {P : Gate → Prop} : (∃ gate, P gate) ↔ P .be ∨ P .re ∨ P .st := by
  constructor
  · rintro ⟨gate, holds⟩
    cases gate with
    | be => exact .inl holds
    | re => exact .inr (.inl holds)
    | st => exact .inr (.inr holds)
  · rintro (holds | holds | holds) <;> exact ⟨_, holds⟩

/-- A gate word of the registers opens the queues of the configured gates that exist. There are
eight states and three queues, and no gate has a queue behind these.
-/
theorem gateWord_opens {numTc : BitVec 16} (queues : numTc = 2 ∨ numTc = 3) {state : U32}
    (bits : state &&& ~~~(gsBeOpen ||| gsReOpen ||| gsStOpen) = 0) (queue : Nat)
    : OpensQueue ((axienetMapGsToHw numTc state &&& aclGateStateMask) <<< aclGateStateShift) queue
      ↔ ∃ gate : Gate, state.getLsbD gate.bit = true ∧ gate.queue numTc.toNat = some queue := by
  obtain ⟨k, rfl⟩ : ∃ k : Fin 8, state = BitVec.ofNat 32 k := by
    have small : state.toNat < 8 := by
      rw [← Field.and_of_clear bits, BitVec.toNat_and]
      exact Nat.lt_of_le_of_lt Nat.and_le_right (by decide)
    exact ⟨⟨state.toNat, small⟩, by simp⟩
  rw [exists_gate]
  by_cases known : queue < 3
  · obtain ⟨q, rfl⟩ : ∃ q : Fin 3, queue = q := ⟨⟨queue, known⟩, rfl⟩
    rcases queues with rfl | rfl <;> revert k q <;> decide
  · refine iff_of_false (fun opens => ?_) (fun gate => ?_)
    · have small : ∀ word : U32, (word &&& aclGateStateMask).toNat < 2 ^ queue := by
        intro word
        rw [BitVec.toNat_and]
        refine Nat.lt_of_le_of_lt Nat.and_le_right (Nat.lt_of_lt_of_le ?_
          (Nat.pow_le_pow_right Nat.two_pos (Nat.le_of_not_lt known)))
        decide
      rw [OpensQueue, BitVec.getLsbD, Nat.testBit_lt_two_pow (small _)] at opens
      cases opens
    · have named : queue = 0 ∨ queue = 1 ∨ queue = 2 := by
        rcases queues with rfl | rfl <;> simp [Gate.queue] at gate <;> omega
      omega

/-- A time of the list comes through the register exactly if its ticks fit into twenty bits. -/
theorem entryNs_iff {time : U32} (valid : 0 ≤ time.toInt)
    : entryNs (time.sdiv 8 &&& ctrlListTimeIntervalMask) = time.toNat / 8 * 8
      ↔ time.toNat < 2 ^ 23 := by
  have positive : time.msb = false := by
    by_contra negative
    have below := BitVec.toInt_neg_of_msb_true (Bool.eq_true_of_not_eq_false negative)
    omega
  have ticks : (time.sdiv 8).toNat = time.toNat / 8 := by
    rw [BitVec.sdiv_eq, positive]
    rfl
  have mask : ctrlListTimeIntervalMask.toNat = 2 ^ 20 - 1 := by decide
  rw [entryNs, BitVec.and_assoc, BitVec.and_self, BitVec.toNat_and, ticks, mask,
    Nat.and_two_pow_sub_one_eq_mod]
  omega

-----------------------------------------------------------------------------------------
-- The schedule
-----------------------------------------------------------------------------------------

/-- The fields ahead of the list are wide enough. -/
theorem Programmed.list_length {numTc : BitVec 16} {qbv : QbvInfo} {regs : QbvRegs}
    (programmed : Programmed numTc qbv regs) (short : qbv.listLength.toNat ≤ maxEntries)
    : ((regs configChange >>> ccAdminCtrlListLengthShift) &&& ccAdminCtrlListLengthMask).toNat
      = qbv.listLength.toNat := by
  obtain ⟨word, change⟩ := programmed.change
  have fits : qbv.listLength.toNat < 2 ^ 9 := Nat.lt_of_le_of_lt short (by decide)
  rw [change, changeWord_length, Field.and_of_lt (k := 9) (by decide) (by decide) fits]

theorem Programmed.cycle_time {numTc : BitVec 16} {qbv : QbvInfo} {regs : QbvRegs}
    (programmed : Programmed numTc qbv regs) (fits : qbv.cycleTime.toNat < 2 ^ 30)
    : (regs adminCycleTimeDenominator &&& cycleTimeDenominatorMask).toNat
      = qbv.cycleTime.toNat := by
  rw [programmed.cycleTime, BitVec.and_assoc, BitVec.and_self,
    Field.and_of_lt (k := 30) (by decide) (by decide) fits]

/-- Nothing refuses the schedule on its way to the registers. -/
structure Passes (path : IoctlPath) (gates : List GateEntry) : Prop where
  reaches : path.reaches = true
  kmalloc : path.kmalloc = true
  copied : path.copied = true
  length : gates.length ≤ maxEntries

instance (path : IoctlPath) (gates : List GateEntry) : Decidable (Passes path gates) :=
  decidable_of_iff (_ ∧ _ ∧ _ ∧ _)
    ⟨fun ⟨reaches, kmalloc, copied, length⟩ => ⟨reaches, kmalloc, copied, length⟩,
      fun passes => ⟨passes.reaches, passes.kmalloc, passes.copied, passes.length⟩⟩

variable {numTc : BitVec 16} {regs : QbvRegs} {path : IoctlPath} {port : Fin 3} {force : Bool}
  {now : BitVec 64} {prog : QbvInfo} {cfg : PortConfig} {gates : List GateEntry}

/-- What is refused is reported. -/
theorem qbvSched_refused (listed : cfg.gateList = some gates) (refused : ¬ Passes path gates)
    : ReportedOrAsWritten numTc cfg gates
        (qbvSched numTc regs path port false force now prog cfg) := by
  simp only [qbvSched, listed]
  split
  · trivial
  · rename_i short
    have fails : ∀ qbv, ∃ err, axienetSetScheduleIoctl numTc regs path qbv
        = some (.error err, regs) := by
      intro qbv
      unfold axienetSetScheduleIoctl
      by_cases reaches : path.reaches = true
      · by_cases kmalloc : path.kmalloc = true
        · by_cases copied : path.copied = true
          · exact absurd ⟨reaches, kmalloc, copied, Nat.le_of_not_lt short⟩ refused
          · exact ⟨.efault, by simp [reaches, kmalloc, copied]⟩
        · exact ⟨.enomem, by simp [reaches, kmalloc]⟩
      · exact ⟨.unreached, by simp [reaches]⟩
    obtain ⟨err, failed⟩ := fails _
    rw [failed]
    trivial

variable (numTc port now prog) in
/-- What is not refused is programmed, from a structure that holds the configuration. -/
theorem qbvSched_programs (listed : cfg.gateList = some gates) (passes : Passes path gates)
    (cycle : 1 ≤ cfg.cycleTime.toNat ∧ cfg.cycleTime.toNat ≤ 10 ^ 9)
    (accepted : regs portStatus &&& 1 = 0 ∨ force = true)
    : ∃ regs' qbv, qbvSched numTc regs path port false force now prog cfg
          = some (.programmed regs')
        ∧ Programmed numTc qbv regs'
        ∧ qbv.cycleTime = cfg.cycleTime ∧ qbv.listLength.toNat = gates.length
        ∧ ∀ i entry, gates[i]? = some entry
          → qbv.aclGateState i = entry.state ∧ qbv.aclGateTime i = entry.time.sdiv 8 := by
  have within : ¬ cfg.cycleTime > maxCycleTime := by
    rw [gt_iff_lt, BitVec.lt_def, show maxCycleTime.toNat = 10 ^ 9 by decide]
    omega
  have length : (BitVec.ofNat 32 gates.length).toNat = gates.length := by
    have short := passes.length
    unfold maxEntries at short
    rw [BitVec.toNat_ofNat, Nat.mod_eq_of_lt (by omega)]
  let times := { fillTimes port false force now prog cfg with
    listLength := BitVec.ofNat 32 gates.length }
  let qbv := fillGates times 0 gates
  obtain ⟨states, ticks, filled, -, entries⟩ := fillGates_info times 0 gates
  have filled : qbv = { times with aclGateState := states, aclGateTime := ticks } := filled
  have cycleTime : qbv.cycleTime = cfg.cycleTime := by
    rw [filled]
    exact if_neg within
  have listLength : qbv.listLength.toNat = gates.length := by
    rw [filled]
    exact length
  have cyclic : qbv.cycleTime ≠ 0 := by
    rw [cycleTime]
    rintro zero
    rw [zero] at cycle
    exact absurd cycle.1 (by decide)
  have forced : regs portStatus &&& 1 = 0 ∨ qbv.force ≠ 0 := by
    rw [filled]
    refine accepted.imp_right fun force => ?_
    simp [times, fillTimes, force]
  obtain ⟨regs', set, programmed⟩ :=
    axienetSetSchedule_programs cyclic (listLength.trans_le passes.length) forced
  refine ⟨regs', qbv, ?_, programmed, cycleTime, listLength, fun i entry found => ?_⟩
  · have called : axienetSetScheduleIoctl numTc regs path qbv = some (.ok (), regs') := by
      simp only [axienetSetScheduleIoctl, passes.reaches, passes.kmalloc, passes.copied, set]
      rfl
    simp only [qbvSched, listed, if_neg (Nat.not_lt.mpr passes.length)]
    exact congrArg (Option.map _) called
  · have entry := entries i entry found
    rw [Nat.zero_add] at entry
    rw [filled]
    exact entry

/-- A configured schedule is programmed as it is written or an error is reported exactly if it is
refused on its way or each of its times is below 2^23 nanoseconds.
-/
theorem qbv_sched_as_written (queues : numTc = 2 ∨ numTc = 3)
    (listed : cfg.gateList = some gates) (valid : GatesValid gates)
    (cycle : 1 ≤ cfg.cycleTime.toNat ∧ cfg.cycleTime.toNat ≤ 10 ^ 9)
    (accepted : regs portStatus &&& 1 = 0 ∨ force = true)
    : ReportedOrAsWritten numTc cfg gates
        (qbvSched numTc regs path port false force now prog cfg)
      ↔ ¬ Passes path gates ∨ ∀ entry ∈ gates, entry.time.toNat < 2 ^ 23 := by
  by_cases passes : Passes path gates
  · obtain ⟨regs', qbv, run, programmed, cycleTime, listLength, filled⟩ :=
      qbvSched_programs numTc port now prog listed passes cycle accepted
    have entries : ∀ i entry, gates[i]? = some entry
        → regs' (adminCtrlList i)
            = (axienetMapGsToHw numTc entry.state &&& aclGateStateMask) <<< aclGateStateShift
          ∧ (entryNs (regs' (adminCtrlListTime i)) = entry.time.toNat / 8 * 8
            ↔ entry.time.toNat < 2 ^ 23) := by
      intro i entry found
      obtain ⟨low, rfl⟩ := List.getElem?_eq_some_iff.mp found
      obtain ⟨state, time⟩ := filled i _ found
      obtain ⟨opens, lasts⟩ := programmed.entries i (listLength.symm ▸ low)
      refine ⟨state ▸ opens, ?_⟩
      rw [lasts, time]
      exact entryNs_iff (valid.time _ (List.getElem_mem low))
    rw [run]
    constructor
    · intro written
      refine .inr fun entry member => ?_
      obtain ⟨i, found⟩ := List.mem_iff_getElem?.mp member
      exact (entries i entry found).2.mp (written.lasts i entry found)
    · rintro (refused | fits)
      · exact absurd passes refused
      · refine ⟨?_, fun i entry found queue => ?_, fun i entry found => ?_, ?_⟩
        · exact (programmed.list_length (listLength.trans_le passes.length)).trans listLength
        · rw [(entries i entry found).1]
          exact gateWord_opens queues (valid.state entry (List.mem_of_getElem? found)) queue
        · exact (entries i entry found).2.mpr (fits entry (List.mem_of_getElem? found))
        · have bound := Nat.lt_of_le_of_lt cycle.2 (by decide : 10 ^ 9 < 2 ^ 30)
          rw [← cycleTime] at bound ⊢
          exact programmed.cycle_time bound
  · exact iff_of_true (qbvSched_refused listed passes) (.inl passes)

def openPath : IoctlPath := ⟨true, true, true⟩

/-- A schedule of ten milliseconds: all gates for two of them, and then the scheduled gate. -/
def tenMs (first last : U32) : PortConfig :=
  ⟨10000000, 0, 0, some [⟨7, first⟩, ⟨4, last⟩]⟩

theorem qbv_sched_as_written_ten_ms
    : ReportedOrAsWritten 3 (tenMs 2000000 8000000) [⟨7, 2000000⟩, ⟨4, 8000000⟩]
        (qbvSched 3 idleRegs openPath 0 false false 100 (twoSlots 0)
          (tenMs 2000000 8000000)) := by
  refine (qbv_sched_as_written (.inr rfl) rfl ?_ ?_ (.inl ?_)).mpr (.inr ?_) <;> decide

def wholeCycle : PortConfig := ⟨10000000, 0, 0, some [⟨1, 10000000⟩]⟩

/-- The only entry is to last for the whole cycle, and does so for 1.6 milliseconds of it. -/
theorem qbv_sched_cut
    : ¬ ReportedOrAsWritten 3 wholeCycle [⟨1, 10000000⟩]
        (qbvSched 3 idleRegs openPath 0 false false 100 (twoSlots 0) wholeCycle)
      ∧ ∃ regs', qbvSched 3 idleRegs openPath 0 false false 100 (twoSlots 0) wholeCycle
            = some (.programmed regs')
          ∧ entryNs (regs' (adminCtrlListTime 0)) = 1611392 := by
  have cut : ∀ regs', qbvSched 3 idleRegs openPath 0 false false 100 (twoSlots 0) wholeCycle
        = some (.programmed regs')
      → entryNs (regs' (adminCtrlListTime 0)) = 1611392 := by
    intro regs' run
    obtain rfl := SchedOutcome.programmed.inj (Option.some.inj run)
    decide +kernel
  refine ⟨fun written => ?_, _, rfl, cut _ rfl⟩
  have lasts := AsWritten.lasts written 0 ⟨1, 10000000⟩ rfl
  rw [cut _ rfl] at lasts
  exact absurd lasts (by decide)

end TsnTrdp.Qbv
