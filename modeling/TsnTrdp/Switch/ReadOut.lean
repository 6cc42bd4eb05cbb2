import TsnTrdp.Switch.Settings
import TsnTrdp.Lib.Image

/-! The ioctls that read out settings and status. Each fills in a structure on the kernel stack,
field by field, and copies the whole structure to the caller; the fields that it leaves out, and the
padding between fields, show the caller what stood on the stack.
-/

namespace TsnTrdp.Switch.Settings

open TsnTrdp Image

/-- The registers of the memory static counters, in the order of `struct mem_static_arr_cntr`. -/
def xasMemStcntr : List Nat :=
  [0x00400, 0x00408, 0x00410, 0x00418,
    0x00420, 0x00428, 0x00430, 0x00438, 0x00440, 0x00448,
    0x00458, 0x00460, 0x00468, 0x00470, 0x00478, 0x00480,
    0x00490, 0x00498, 0x004A0, 0x004A8, 0x004B0, 0x004B8,
    0x004C0, 0x004C8, 0x004D0, 0x004D8, 0x004E0, 0x004E8,
    0x004F0, 0x004F8, 0x00500, 0x00508, 0x00510, 0x00518,
    0x00520, 0x00528, 0x00530, 0x00538, 0x00540, 0x00548]

/-- `get_memory_static_counter`, where the counters stand in `struct switch_data`. -/
def getMemoryStaticCounter (regs : Regs) : List Assigned :=
  (xasMemStcntr.zipIdx 0).flatMap fun (offset, i) =>
    [atByte (64 + 8 * i + 4) (regs offset), atByte (64 + 8 * i) (regs (offset + 4))]

/-- The two words of each threshold in an array of three. -/
def thersholdsAssigned (place : Nat) (thlds : Vector Thershold 3) : List Assigned :=
  (List.finRange 3).flatMap fun i =>
    [atByte (place + 4 * i.val) (thlds.get i).t1, atByte (place + 4 * i.val + 2) (thlds.get i).t2]

/-- What `get_switch_regs` assigns, where it stands in `struct switch_data`. -/
def SwitchData.assigned (data : SwitchData) : List Assigned :=
  [atByte 0 data.switchStatus, atByte 4 data.switchCtrl, atByte 8 data.switchPrt]
    ++ ((List.finRange 6).map fun i => atByte (12 + i.val) (data.swMacAddr.get i))
    ++ thersholdsAssigned 18 data.thldEpMac ++ thersholdsAssigned 30 data.thldMacMac
    ++ [atByte 44 data.epVlan, atByte 48 data.macVlan,
      atByte 52 data.maxFrameScQue, atByte 56 data.maxFrameResQue, atByte 60 data.maxFrameBeQue,
      -- there is no assignment to `typefield.type1`, at 412
      atByte 414 data.typefield.type2, atByte 416 data.mac1Config, atByte 420 data.mac2Config,
      atByte 424 data.portVlanMemCtrl, atByte 428 data.portVlanMemData]

/-- A `bool` in memory. -/
def boolByte (b : Bool) : Byte := (BitVec.ofBool b).setWidth 8

/-- What `get_mac_addr_learn` assigns in `struct mac_addr_learn`. -/
def MacAddrLearn.assigned (macLearn : MacAddrLearn) : List Assigned :=
  [atByte 8 macLearn.agingTime, atByte 0 (boolByte macLearn.aging),
    atByte 2 (boolByte macLearn.learning), atByte 4 (boolByte macLearn.learnUntag)]

/-- What `get_meter_reg` assigns in `struct qci`. -/
def MeterConfig.assigned (data : MeterConfig) : List Assigned :=
  [atByte 0 data.cir, atByte 4 data.eir, atByte 8 data.cbr, atByte 12 data.ebr, atByte 16 data.mode]

/-- What `get_stream_filter_config` assigns in `struct qci`. -/
def StreamFilter.assigned (data : StreamFilter) : List Assigned :=
  [atByte 22 data.maxFrSize, atByte 20 data.inPid]

/-- What `get_member_reg` assigns in `struct cb`. -/
def FrerMembConfig.assigned (data : FrerMembConfig) : List Assigned :=
  [atByte 16 data.remTicks, atByte 12 data.seqRecHistLen, atByte 13 data.splitStrmEgportId,
    atByte 14 data.splitStrmVlanId]

/-- What `get_ingress_filter_config` assigns in `struct cb`. -/
def InFltr.assigned (data : InFltr) : List Assigned :=
  [atByte 10 data.maxSeqId, atByte 8 data.inPortId]

def preemptionEnableReg : Nat := 0x440
def preemptionCtrlStsReg : Nat := 0x444
def qbuUserOverrideReg : Nat := 0x448
def qbuCoreStsReg : Nat := 0x44c
def xaeTsnAblOffset : Nat := 0x4FC
def txHoldReg : Nat := 0x910
def rxBytesEmacReg : Nat := 0x200
def rxBytesPmacReg : Nat := 0x800

/-- One bit of a register. -/
def bit (value : U32) (i : Nat) : Bool := value.getLsbD i

/-- What `axienet_preemption_sts` assigns in `struct preempt_status`. -/
def preemptionStsAssigned (regs : Regs) : List Assigned :=
  let value := regs preemptionCtrlStsReg
  [atByte 0 (boolByte (bit (regs preemptionEnableReg) 0)),
    atByte 1 (boolByte (bit (regs xaeTsnAblOffset) 15)),
    atByte 2 (boolByte (bit value 31)),
    atByte 3 (((value >>> 24) &&& 0x7).setWidth 8),
    atByte 4 (((value >>> 8) &&& 0x7F).setWidth 8),
    atByte 5 (((value >>> 4) &&& 0x3).setWidth 8),
    atByte 6 (boolByte (bit value 0))]

/-- `statistic_cnts`, which fills words from a place in the structure on. -/
def statisticCnts (regs : Regs) (place count addrOff : Nat) : List Assigned :=
  (List.range count).map fun i => atByte (place + 4 * i) (regs (addrOff + 4 * i))

/-- What `axienet_preemption_cnt` assigns in `struct emac_pmac_stats`; the counters of 64 bits start
at its byte 8.
-/
def preemptionCntAssigned (regs : Regs) : List Assigned :=
  let preempEn : Byte := (regs preemptionEnableReg).setWidth 8
  statisticCnts regs 8 68 rxBytesEmacReg ++ [atByte 0 preempEn]
    ++ if preempEn ≠ 0 then
        statisticCnts regs 280 68 rxBytesPmacReg ++ statisticCnts regs 552 12 txHoldReg
      else []

/-- What `axienet_qbu_sts` assigns in `struct qbu_all_status`: bit fields of
`struct qbu_prog_override`, which has the first three bytes, and the core status in the other four.
-/
def qbuStsAssigned (regs : Regs) : List Assigned :=
  let value := regs qbuUserOverrideReg
  let core := regs qbuCoreStsReg
  [⟨17, 1, BitVec.ofBool (bit value 31)⟩, ⟨16, 1, BitVec.ofBool (bit value 3)⟩,
    ⟨1, 9, ((value >>> 16) &&& 0x1FF).setWidth 9⟩, ⟨10, 6, ((value >>> 8) &&& 0x3F).setWidth 6⟩,
    atByte 3 (((core >>> 16) &&& 0x1FF).setWidth 16), atByte 5 (((core >>> 8) &&& 0x3F).setWidth 8),
    ⟨48, 1, BitVec.ofBool (bit core 31)⟩, ⟨49, 1, BitVec.ofBool (bit core 0)⟩]

inductive ReadOut
  | getStatusSwitch
  | getMacAddrLearnConfig
  | getMeterReg
  | getStreamFltrConfig
  | getMemberReg
  | getIngressFltr
  | axienetPreemptionSts
  | axienetPreemptionCnt
  | axienetQbuSts
  deriving DecidableEq, Repr

/-- The fields that a command assigns. What the getters assign does not depend on what they find. -/
def ReadOut.assigned (regs : Regs) : ReadOut → List Assigned
  | .getStatusSwitch => (getSwitchRegs regs default).assigned ++ getMemoryStaticCounter regs
  | .getMacAddrLearnConfig => (getMacAddrLearn regs default).assigned
  | .getMeterReg => (Settings.getMeterReg regs).assigned
  | .getStreamFltrConfig => (getStreamFilterConfig regs).assigned
  | .getMemberReg => (Settings.getMemberReg regs).assigned
  | .getIngressFltr => (getIngressFilterConfig regs).assigned
  | .axienetPreemptionSts => preemptionStsAssigned regs
  | .axienetPreemptionCnt => preemptionCntAssigned regs
  | .axienetQbuSts => qbuStsAssigned regs

/-- The size of the structure that is copied, in bytes. -/
def ReadOut.size : ReadOut → Nat
  | .getStatusSwitch => 432
  | .getMacAddrLearnConfig => 12
  | .getMeterReg | .getStreamFltrConfig => 68
  | .getMemberReg | .getIngressFltr => 88
  | .axienetPreemptionSts | .axienetQbuSts => 7
  | .axienetPreemptionCnt => 600

/-- The bits that a command copies to user space, given what stood where its structure lies; `none`
where it copies nothing.
-/
def ReadOut.copied (enHwAddrLearning : Bool) (regs : Regs) (stack : Bits) (command : ReadOut)
    : Option (List Bool) :=
  if command = .getMacAddrLearnConfig ∧ enHwAddrLearning = false then none
  else some (copyOut (8 * command.size) (fill (command.assigned regs) stack))

/-- The caller's bytes do not depend on what stood on the stack. -/
def ReadOut.Clean (enHwAddrLearning : Bool) (regs : Regs) (command : ReadOut) : Prop :=
  ∀ stack stack',
    command.copied enHwAddrLearning regs stack = command.copied enHwAddrLearning regs stack'

variable {en : Bool} {regs : Regs} {command : ReadOut}

/-- A command that copies its structure is clean exactly if it assigns every bit of it. -/
theorem clean_iff_covered (copies : ¬ (command = .getMacAddrLearnConfig ∧ en = false))
    : command.Clean en regs
      ↔ ∀ i < 8 * command.size, ∃ field ∈ command.assigned regs, field.Covers i := by
  rw [← copyOut_fill_iff]
  simp only [ReadOut.Clean, ReadOut.copied, if_neg copies, Option.some_inj]

/-- One bit that is left out is enough. -/
theorem not_clean_of_bare (copies : ¬ (command = .getMacAddrLearnConfig ∧ en = false)) {i : Nat}
    (bound : i < 8 * command.size)
    (bare : ∀ extent ∈ extents (command.assigned regs), ¬ (extent.1 ≤ i ∧ i < extent.1 + extent.2))
    : ¬ command.Clean en regs := by
  intro clean
  obtain ⟨extent, member, covers⟩ :=
    covered_iff_extents.mp ((clean_iff_covered copies).mp clean i bound)
  exact bare extent member covers

/-- The words of counters lie behind the first word. -/
theorem statisticCnts_bare {place count addrOff : Nat} (behind : 2 ≤ place)
    : ∀ extent ∈ extents (statisticCnts regs place count addrOff),
        ¬ (extent.1 ≤ 8 ∧ 8 < extent.1 + extent.2) := by
  intro extent member
  obtain ⟨field, known, rfl⟩ := List.mem_map.mp member
  obtain ⟨i, -, rfl⟩ := List.mem_map.mp known
  simp only [atByte]
  omega

/-- The padding after the first byte of the counters is never assigned. -/
theorem preemptionCnt_bare
    : ∀ extent ∈ extents (preemptionCntAssigned regs),
        ¬ (extent.1 ≤ 8 ∧ 8 < extent.1 + extent.2) := by
  intro extent member
  obtain ⟨field, known, rfl⟩ := List.mem_map.mp member
  rcases List.mem_append.mp known with always | preempted
  · rcases List.mem_append.mp always with emac | first
    · exact statisticCnts_bare (by decide) _ (List.mem_map_of_mem emac)
    · rw [List.mem_singleton.mp first]
      simp [atByte]
  · split at preempted
    case isTrue =>
      rcases List.mem_append.mp preempted with sts | merge
      · exact statisticCnts_bare (by decide) _ (List.mem_map_of_mem sts)
      · exact statisticCnts_bare (by decide) _ (List.mem_map_of_mem merge)
    case isFalse => cases preempted

/-- A bit that each leaking structure leaves out: of the first frame type, of a mark of the learning
flags, of the settings that the command is not about, of padding, of an unused bit field.
-/
def ReadOut.leak : ReadOut → Nat
  | .getStatusSwitch => 8 * 412
  | .getMacAddrLearnConfig => 8 * 1
  | .getMeterReg => 8 * 20
  | .getStreamFltrConfig | .getMemberReg | .getIngressFltr => 0
  | .axienetPreemptionSts => 0
  | .axienetPreemptionCnt => 8 * 1
  | .axienetQbuSts => 0

/-- It is assigned by the status of preemption only. -/
theorem leak_bare (leaks : command ≠ .axienetPreemptionSts)
    : ∀ extent ∈ extents (command.assigned regs),
        ¬ (extent.1 ≤ command.leak ∧ command.leak < extent.1 + extent.2) := by
  cases command with
  | axienetPreemptionSts => exact absurd rfl leaks
  | axienetPreemptionCnt => exact preemptionCnt_bare
  | getStatusSwitch =>
      have bare
          : ∀ extent ∈ extents (ReadOut.getStatusSwitch.assigned fun _ => 0),
            ¬ (extent.1 ≤ 8 * 412 ∧ 8 * 412 < extent.1 + extent.2) := by
        decide
      exact bare
  | getMacAddrLearnConfig =>
      simp [ReadOut.assigned, MacAddrLearn.assigned, extents, atByte, ReadOut.leak]
  | getMeterReg => simp [ReadOut.assigned, MeterConfig.assigned, extents, atByte, ReadOut.leak]
  | getStreamFltrConfig =>
      simp [ReadOut.assigned, StreamFilter.assigned, extents, atByte, ReadOut.leak]
  | getMemberReg => simp [ReadOut.assigned, FrerMembConfig.assigned, extents, atByte, ReadOut.leak]
  | getIngressFltr => simp [ReadOut.assigned, InFltr.assigned, extents, atByte, ReadOut.leak]
  | axienetQbuSts => simp [ReadOut.assigned, qbuStsAssigned, extents, atByte, ReadOut.leak]

/-- The status of preemption is seven bytes, each assigned. -/
theorem preemptionSts_covered
    : ∀ i < 8 * ReadOut.axienetPreemptionSts.size,
        ∃ field ∈ ReadOut.axienetPreemptionSts.assigned regs, field.Covers i := by
  have covered
      : ∀ i < 8 * 7,
        ∃ extent ∈ extents (preemptionStsAssigned fun _ => 0),
          extent.1 ≤ i ∧ i < extent.1 + extent.2 := by
    decide
  exact fun i bound => covered_iff_extents.mpr (covered i bound)

/-- What a read-out reveals: for every register contents, a command gives the caller the same bytes
whatever stood on the stack exactly if it is the status of preemption, or if it copies nothing
because learning is disabled.
-/
theorem read_out_clean (command : ReadOut) (en : Bool) (regs : Regs)
    : command.Clean en regs
      ↔ command = .axienetPreemptionSts ∨ (command = .getMacAddrLearnConfig ∧ en = false) := by
  by_cases copies : command = .getMacAddrLearnConfig ∧ en = false
  · have none : ∀ stack, command.copied en regs stack = none := fun stack => if_pos copies
    constructor
    · exact fun _ => .inr copies
    · exact fun _ stack stack' => (none stack).trans (none stack').symm
  · constructor
    · intro clean
      by_contra other
      have leaks : command ≠ .axienetPreemptionSts := fun same => other (.inl same)
      have bound : command.leak < 8 * command.size := by cases command <;> decide
      exact not_clean_of_bare copies bound (leak_bare leaks) clean
    · intro covered
      rcases covered with rfl | none
      · exact (clean_iff_covered copies).mpr preemptionSts_covered
      · exact absurd none copies

/-- The status of preemption windows, read over two stacks: its first bit is what stood there. -/
theorem read_out_clean_qbu
    : (ReadOut.axienetQbuSts.copied true (fun _ => 0) fun _ => false).map (·.head?)
        = some (some false)
      ∧ (ReadOut.axienetQbuSts.copied true (fun _ => 0) fun _ => true).map (·.head?)
        = some (some true)
      ∧ ¬ ReadOut.axienetQbuSts.Clean true (fun _ => 0) := by
  have first
      : (ReadOut.axienetQbuSts.copied true (fun _ => 0) fun _ => false).map (·.head?)
        = some (some false) := by
    decide
  have second
      : (ReadOut.axienetQbuSts.copied true (fun _ => 0) fun _ => true).map (·.head?)
        = some (some true) := by
    decide
  refine ⟨first, second, ?_⟩
  intro clean
  rw [clean _ fun _ => true, second] at first
  cases first

end TsnTrdp.Switch.Settings
