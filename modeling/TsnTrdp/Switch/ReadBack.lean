import TsnTrdp.Switch.Settings
import TsnTrdp.Lib.Slice

/-! The settings read back as they were set. A setting is a run of bits of one register: the setters
write the runs of the settings that they are asked for and leave the others, and the getters report
the runs. They part at one frame type, which is never reported, and at two flags that are stored
and reported with opposite senses.
-/

namespace TsnTrdp.Switch.Settings

open TsnTrdp Slice

/-- The fields that a getter shares with a setter. -/
inductive Setting
  | switchCtrl
  | switchPrt
  | swMacAddr (i : Fin 6)
  | thldEpMacT1 (i : Fin 3)
  | thldEpMacT2 (i : Fin 3)
  | thldMacMacT1 (i : Fin 3)
  | thldMacMacT2 (i : Fin 3)
  | epVlan
  | macVlan
  | maxFrameScQue
  | maxFrameResQue
  | maxFrameBeQue
  | type1
  | type2
  | mac1Config
  | mac2Config
  | aging
  | learning
  | learnUntag
  | agingTime
  | cir
  | eir
  | cbr
  | ebr
  | mode
  | inPid
  | maxFrSize
  | seqRecHistLen
  | splitStrmEgportId
  | splitStrmVlanId
  | remTicks
  | inPortId
  | maxSeqId
  deriving DecidableEq, Repr

/-- The width of the field in its register. -/
def Setting.width : Setting → Nat
  | .switchCtrl | .switchPrt | .epVlan | .macVlan | .mac1Config | .mac2Config | .cir | .eir => 32
  | .cbr | .ebr => 24
  | .agingTime => 20
  | .thldEpMacT1 _ | .thldEpMacT2 _ | .thldMacMacT1 _ | .thldMacMacT2 _ | .maxFrameScQue
  | .maxFrameResQue | .maxFrameBeQue | .type1 | .type2 | .remTicks | .maxSeqId => 16
  | .maxFrSize | .splitStrmVlanId => 12
  | .swMacAddr _ | .seqRecHistLen => 8
  | .mode => 4
  | .inPid | .splitStrmEgportId | .inPortId => 2
  | .aging | .learning | .learnUntag => 1

/-- A value reduced to the field's width. -/
def Setting.reduce (setting : Setting) (value : U32) : U32 :=
  (value.setWidth setting.width).setWidth 32

-----------------------------------------------------------------------------------------
-- What is asked for
-----------------------------------------------------------------------------------------

def flag (b : Bool) : U32 := (BitVec.ofBool b).setWidth 32

/-- What `SET_STATUS_SWITCH` sets. -/
def SwitchData.status (data : SwitchData) : Setting → Option U32
  | .switchCtrl => some data.switchCtrl
  | .switchPrt => some data.switchPrt
  | .swMacAddr i => some ((data.swMacAddr.get i).setWidth 32)
  | .thldEpMacT1 i => some ((data.thldEpMac.get i).t1.setWidth 32)
  | .thldEpMacT2 i => some ((data.thldEpMac.get i).t2.setWidth 32)
  | .thldMacMacT1 i => some ((data.thldMacMac.get i).t1.setWidth 32)
  | .thldMacMacT2 i => some ((data.thldMacMac.get i).t2.setWidth 32)
  | .epVlan => some data.epVlan
  | .macVlan => some data.macVlan
  | .maxFrameScQue => some data.maxFrameScQue
  | .maxFrameResQue => some data.maxFrameResQue
  | .maxFrameBeQue => some data.maxFrameBeQue
  | _ => none

/-- What `SET_FRAME_TYPE_FIELD` sets: a type of 0 is kept. -/
def FfType.types (typefield : FfType) : Setting → Option U32
  | .type1 => if typefield.type1 ≠ 0 then some (typefield.type1.setWidth 32) else none
  | .type2 => if typefield.type2 ≠ 0 then some (typefield.type2.setWidth 32) else none
  | _ => none

/-- What `SET_MAC_ADDR_LEARN_CONFIG` sets: an ageing time of 0 is kept, and so are the flags without
their marks.
-/
def MacAddrLearn.config (macLearn : MacAddrLearn) : Setting → Option U32
  | .agingTime => if macLearn.agingTime ≠ 0 then some macLearn.agingTime else none
  | .aging => if macLearn.isAge then some (flag macLearn.aging) else none
  | .learning => if macLearn.isLearn then some (flag macLearn.learning) else none
  | .learnUntag => if macLearn.isUntag then some (flag macLearn.learnUntag) else none
  | _ => none

def MeterConfig.meter (data : MeterConfig) : Setting → Option U32
  | .cir => some data.cir
  | .eir => some data.eir
  | .cbr => some data.cbr
  | .ebr => some data.ebr
  | .mode => some (data.mode.setWidth 32)
  | _ => none

def StreamFilter.filter (data : StreamFilter) : Setting → Option U32
  | .inPid => some (data.inPid.setWidth 32)
  | .maxFrSize => some (data.maxFrSize.setWidth 32)
  | _ => none

/-- What `CONFIG_MEMBER_MEM` sets. -/
def Cb.member (data : Cb) : Setting → Option U32
  | .splitStrmEgportId => some (data.frerMembConfigData.splitStrmEgportId.setWidth 32)
  | .splitStrmVlanId => some (data.frerMembConfigData.splitStrmVlanId.setWidth 32)
  | .remTicks => some (data.frerMembConfigData.remTicks.setWidth 32)
  | .maxSeqId => some (data.inFltrData.maxSeqId.setWidth 32)
  | _ => none

/-- What `CONFIG_INGRESS_FLTR` sets. -/
def Cb.ingress (data : Cb) : Setting → Option U32
  | .inPortId => some (data.inFltrData.inPortId.setWidth 32)
  | .seqRecHistLen => some (data.frerMembConfigData.seqRecHistLen.setWidth 32)
  | .remTicks => some (data.frerMembConfigData.remTicks.setWidth 32)
  | _ => none

/-- The value that a request sets a field to, if it does. -/
def Request.asks (enHwAddrLearning : Bool) (setting : Setting) : Request → Option U32
  | .setStatusSwitch data => data.bind (·.status setting)
  | .setFrameTypeField data => data.bind (·.typefield.types setting)
  | .setMac1MngmntQConfig data => data.bind fun data =>
      if setting = .mac1Config then some data.mac1Config else none
  | .setMac2MngmntQConfig data => data.bind fun data =>
      if setting = .mac2Config then some data.mac2Config else none
  | .setMacAddrLearnConfig macLearn =>
      if enHwAddrLearning then macLearn.bind (·.config setting) else none
  | .configMeterMem qciData => qciData.bind (·.meterConfigData.meter setting)
  | .configGateMem qciData => qciData.bind (·.streamConfigData.filter setting)
  | .configMemberMem cbData => cbData.bind (·.member setting)
  | .configIngressFltr cbData => cbData.bind (·.ingress setting)

-----------------------------------------------------------------------------------------
-- What is reported
-----------------------------------------------------------------------------------------

/-- What stands on the stack where the getters fill in their structures. -/
structure Stack where
  data : SwitchData
  macLearn : MacAddrLearn
  deriving Inhabited

/-- What the getters report of a field. -/
def report (stack : Stack) (regs : Regs) : Setting → U32
  | .switchCtrl => (getSwitchRegs regs stack.data).switchCtrl
  | .switchPrt => (getSwitchRegs regs stack.data).switchPrt
  | .swMacAddr i => ((getSwitchRegs regs stack.data).swMacAddr.get i).setWidth 32
  | .thldEpMacT1 i => ((getSwitchRegs regs stack.data).thldEpMac.get i).t1.setWidth 32
  | .thldEpMacT2 i => ((getSwitchRegs regs stack.data).thldEpMac.get i).t2.setWidth 32
  | .thldMacMacT1 i => ((getSwitchRegs regs stack.data).thldMacMac.get i).t1.setWidth 32
  | .thldMacMacT2 i => ((getSwitchRegs regs stack.data).thldMacMac.get i).t2.setWidth 32
  | .epVlan => (getSwitchRegs regs stack.data).epVlan
  | .macVlan => (getSwitchRegs regs stack.data).macVlan
  | .maxFrameScQue => (getSwitchRegs regs stack.data).maxFrameScQue
  | .maxFrameResQue => (getSwitchRegs regs stack.data).maxFrameResQue
  | .maxFrameBeQue => (getSwitchRegs regs stack.data).maxFrameBeQue
  | .type1 => (getSwitchRegs regs stack.data).typefield.type1.setWidth 32
  | .type2 => (getSwitchRegs regs stack.data).typefield.type2.setWidth 32
  | .mac1Config => (getSwitchRegs regs stack.data).mac1Config
  | .mac2Config => (getSwitchRegs regs stack.data).mac2Config
  | .aging => flag (getMacAddrLearn regs stack.macLearn).aging
  | .learning => flag (getMacAddrLearn regs stack.macLearn).learning
  | .learnUntag => flag (getMacAddrLearn regs stack.macLearn).learnUntag
  | .agingTime => (getMacAddrLearn regs stack.macLearn).agingTime
  | .cir => (getMeterReg regs).cir
  | .eir => (getMeterReg regs).eir
  | .cbr => (getMeterReg regs).cbr
  | .ebr => (getMeterReg regs).ebr
  | .mode => (getMeterReg regs).mode.setWidth 32
  | .inPid => (getStreamFilterConfig regs).inPid.setWidth 32
  | .maxFrSize => (getStreamFilterConfig regs).maxFrSize.setWidth 32
  | .seqRecHistLen => (getMemberReg regs).seqRecHistLen.setWidth 32
  | .splitStrmEgportId => (getMemberReg regs).splitStrmEgportId.setWidth 32
  | .splitStrmVlanId => (getMemberReg regs).splitStrmVlanId.setWidth 32
  | .remTicks => (getMemberReg regs).remTicks.setWidth 32
  | .inPortId => (getIngressFilterConfig regs).inPortId.setWidth 32
  | .maxSeqId => (getIngressFilterConfig regs).maxSeqId.setWidth 32

/-- The registers after some requests. -/
def runIoctls (enHwAddrLearning : Bool) (regs : Regs) (requests : List Request) : Regs :=
  requests.foldl (fun regs request => (switchIoctl enHwAddrLearning regs request).2) regs

/-- The value that the last of the requests to set a field asked for. -/
def lastAsked (enHwAddrLearning : Bool) (requests : List Request) (setting : Setting)
    : Option U32 :=
  (requests.filterMap (·.asks enHwAddrLearning setting)).getLast?

/-- Every field is reported as the last request to set it asked for, reduced to its width, or as it
was before the requests, where none of them has set it; whatever stands on the stack.
-/
def ReadsBack (enHwAddrLearning : Bool) (regs : Regs) (requests : List Request) : Prop :=
  ∀ stack setting,
    report stack (runIoctls enHwAddrLearning regs requests) setting
      = (lastAsked enHwAddrLearning requests setting).elim (report stack regs setting)
          setting.reduce

/-- The request does not set the first frame type, nor the flags of ageing and of learning. -/
def Request.Plain (enHwAddrLearning : Bool) (request : Request) : Prop :=
  request.asks enHwAddrLearning .type1 = none
    ∧ request.asks enHwAddrLearning .aging = none
    ∧ request.asks enHwAddrLearning .learning = none

instance (enHwAddrLearning : Bool) (request : Request)
    : Decidable (request.Plain enHwAddrLearning) :=
  inferInstanceAs (Decidable (_ ∧ _))

-----------------------------------------------------------------------------------------
-- Fields as runs of bits
-----------------------------------------------------------------------------------------

/-- The register of a field. -/
def Setting.offset : Setting → Nat
  | .switchCtrl => xasControlOffset
  | .switchPrt => xasPmapOffset
  | .swMacAddr i => if i.val < 4 then xasMacLsbOffset else xasMacMsbOffset
  | .thldEpMacT1 i | .thldEpMacT2 i =>
      if i.val = 0 then xasEp2macStFifotOffset
      else if i.val = 1 then xasEp2macReFifotOffset
      else xasEp2macBeFifotOffset
  | .thldMacMacT1 i | .thldMacMacT2 i =>
      if i.val = 0 then xasMac2macStFifotOffset
      else if i.val = 1 then xasMac2macReFifotOffset
      else xasMac2macBeFifotOffset
  | .epVlan => xasEpPortVlanOffset
  | .macVlan => xasMacPortVlanOffset
  | .maxFrameScQue => xasStMaxFrameSizeOffset
  | .maxFrameResQue => xasReMaxFrameSizeOffset
  | .maxFrameBeQue => xasBeMaxFrameSizeOffset
  | .type1 | .type2 => xasFrmFltrTypeFieldOptOffset
  | .mac1Config => xasMac1MngQOptionOffset
  | .mac2Config => xasMngQCtrlOffset
  | .aging | .learning | .learnUntag | .agingTime => xasHwAddrLearnCtrlOffset
  | .cir => streamMeterCirOffset
  | .eir => streamMeterEirOffset
  | .cbr => streamMeterCbrOffset
  | .ebr | .mode => streamMeterEbrOffset
  | .inPid | .maxFrSize => streamFilterConfigOffset
  | .seqRecHistLen | .splitStrmEgportId | .splitStrmVlanId => frerConfigReg1
  | .remTicks => frerConfigReg2
  | .inPortId | .maxSeqId => ingressFilterOffset

/-- Its first bit there. -/
def Setting.start : Setting → Nat
  | .swMacAddr i => if i.val < 4 then 24 - 8 * i else 40 - 8 * i
  | .thldEpMacT1 _ | .thldMacMacT1 _ | .type1 | .seqRecHistLen => 16
  | .aging => 2
  | .learnUntag => 1
  | .agingTime => hwAddrAgingTimeShift
  | .mode => smcModeShift
  | .inPid => inPortShift
  | .splitStrmEgportId => splitStreamInportidShift
  | .inPortId => inPortidShift
  | _ => 0

/-- The field in the registers. -/
def Setting.read (setting : Setting) (regs : Regs) : BitVec setting.width :=
  (regs setting.offset).extractLsb' setting.start setting.width

variable {stack : Stack} {regs : Regs} {setting : Setting} {word mask : U32} {s n m : Nat}

/-- A value of few bits passes through a narrower type. -/
theorem setWidth_through {b : BitVec n} (narrow : n ≤ m)
    : ((b.setWidth 32).setWidth m).setWidth 32 = b.setWidth 32 := by
  apply BitVec.eq_of_getLsbD_eq
  intro i hi
  simp only [BitVec.getLsbD_setWidth]
  rcases Nat.lt_or_ge i n with inside | outside
  · have inPart : i < m := by omega
    simp [hi, inPart]
  · simp [BitVec.getLsbD_of_ge b i outside]

/-- A field that is masked in place and shifted down. -/
theorem read_masked (fits : s + n ≤ 32) (narrow : n ≤ m) (is : mask = low 32 n <<< s)
    : (((word &&& mask) >>> s).setWidth m).setWidth 32
      = (word.extractLsb' s n).setWidth 32 := by
  rw [is, masked_shift fits, setWidth_through narrow]

/-- One that is shifted down and masked. -/
theorem read_shift (is : mask = low 32 n)
    : (word >>> s) &&& mask = (word.extractLsb' s n).setWidth 32 := by
  rw [is, shift_masked]

theorem read_shifted (narrow : n ≤ m) (is : mask = low 32 n)
    : (((word >>> s) &&& mask).setWidth m).setWidth 32
      = (word.extractLsb' s n).setWidth 32 := by
  rw [read_shift is, setWidth_through narrow]

/-- The lowest field. -/
theorem read_low (is : mask = low 32 n) : word &&& mask = (word.extractLsb' 0 n).setWidth 32 := by
  rw [is, ← shift_masked, BitVec.ushiftRight_zero]

theorem read_lowest (narrow : n ≤ m) (is : mask = low 32 n)
    : ((word &&& mask).setWidth m).setWidth 32 = (word.extractLsb' 0 n).setWidth 32 := by
  rw [read_low is, setWidth_through narrow]

/-- A whole register. -/
theorem read_whole : word = (word.extractLsb' 0 32).setWidth 32 := by simp

/-- A flag. -/
theorem read_flag (bound : s < 32) (is : mask = (1 : U32) <<< s)
    : flag (word &&& mask ≠ 0) = (word.extractLsb' s 1).setWidth 32 := by
  have bit : word.extractLsb' s 1 = BitVec.ofBool (word.getLsbD s) := by
    apply BitVec.eq_of_getLsbD_eq
    intro i hi
    obtain rfl : i = 0 := by omega
    simp
  rw [is, flag, bit]
  congr 2
  cases set : word.getLsbD s with
  | false => simpa using (and_bit_eq_zero bound).mpr set
  | true =>
      have nonzero : word &&& (1 : U32) <<< s ≠ 0 := by
        intro zero
        exact absurd ((and_bit_eq_zero bound).mp zero) (by simp [set])
      simpa using nonzero

/-- The getters report the fields, but for the first frame type: by the field, each with the mask
and the shift that its getter has.
-/
theorem report_eq (reported : setting ≠ .type1)
    : report stack regs setting = (setting.read regs).setWidth 32 := by
  cases setting with
  | type1 => exact absurd rfl reported
  | switchCtrl | switchPrt | epVlan | macVlan | mac1Config | mac2Config | cir | eir =>
      exact read_whole
  | swMacAddr i =>
      fin_cases i
      · exact read_masked (by decide) (by decide) rfl
      · exact read_masked (by decide) (by decide) rfl
      · exact read_masked (by decide) (by decide) rfl
      · exact read_lowest (by decide) rfl
      · exact read_masked (by decide) (by decide) rfl
      · exact read_lowest (by decide) rfl
  | thldEpMacT1 i | thldMacMacT1 i =>
      fin_cases i <;> exact read_shifted (by decide) rfl
  | thldEpMacT2 i | thldMacMacT2 i =>
      fin_cases i <;> exact read_lowest (by decide) rfl
  | maxFrameScQue | maxFrameResQue | maxFrameBeQue | cbr | ebr => exact read_low rfl
  | type2 | maxFrSize | splitStrmVlanId | maxSeqId => exact read_lowest (by decide) rfl
  | aging | learning | learnUntag => exact read_flag (by decide) rfl
  | agingTime => exact read_shift rfl
  | mode => exact read_masked (by decide) (by decide) rfl
  | inPid | seqRecHistLen | splitStrmEgportId | inPortId => exact read_shifted (by decide) rfl
  | remTicks =>
      exact congrArg (BitVec.setWidth 32)
        (BitVec.setWidth_eq_extractLsb' (x := regs frerConfigReg2) (by decide : 16 ≤ 32))

-----------------------------------------------------------------------------------------
-- What the setters store
-----------------------------------------------------------------------------------------

/-- A field after a setter: what was asked for it, or what it was. -/
def Setting.after (setting : Setting) (asked : Option U32) (regs : Regs) : BitVec setting.width :=
  asked.elim (setting.read regs) (·.setWidth setting.width)

/-- The four bytes of a word, by the place of the one that is read. -/
theorem extract_bytes (x y z : Byte) (last : Byte)
    : let word : U32 := (x.setWidth 32 <<< 24) ||| (y.setWidth 32 <<< 16) ||| (z.setWidth 32 <<< 8)
        ||| last.setWidth 32
      word.extractLsb' 24 8 = (x.setWidth 32).setWidth 8
        ∧ word.extractLsb' 16 8 = (y.setWidth 32).setWidth 8
        ∧ word.extractLsb' 8 8 = (z.setWidth 32).setWidth 8
        ∧ word.extractLsb' 0 8 = (last.setWidth 32).setWidth 8 := by
  have other : ∀ (b : Byte) (s t : Nat), Apart s 8 t 8
      → ((b.setWidth 32 : U32) <<< t).extractLsb' s 8 = 0 := fun b s t apart =>
    extract_shift_setWidth apart
  have above : ∀ s, 8 ≤ s → (last.setWidth 32 : U32).extractLsb' s 8 = 0 := fun s above =>
    extract_setWidth above
  have here : ∀ (b : Byte) (s : Nat), s + 8 ≤ 32
      → ((b.setWidth 32 : U32) <<< s).extractLsb' s 8 = (b.setWidth 32).setWidth 8 :=
    fun b s fits => extract_shift fits
  intro word
  simp only [word, BitVec.extractLsb'_or]
  refine ⟨?_, ?_, ?_, ?_⟩
  · simp [here x, other y 24 16 (by decide), other z 24 8 (by decide), above 24]
  · simp [here y, other x 16 24 (by decide), other z 16 8 (by decide), above 16]
  · simp [here z, other x 8 24 (by decide), other y 8 16 (by decide), above 8]
  · rw [other x 0 24 (by decide), other y 0 16 (by decide), other z 0 8 (by decide)]
    simp [BitVec.setWidth_eq_extractLsb']

theorem read_setSwitchRegs (data : SwitchData)
    : setting.read (setSwitchRegs data regs) = setting.after (data.status setting) regs := by
  cases setting with
  | switchCtrl | switchPrt | epVlan | macVlan | maxFrameScQue | maxFrameResQue
  | maxFrameBeQue => exact extract_low (by decide)
  | swMacAddr i =>
      obtain ⟨first, second, third, fourth⟩ :=
        extract_bytes data.swMacAddr[0] data.swMacAddr[1] data.swMacAddr[2] data.swMacAddr[3]
      fin_cases i
      · exact first
      · exact second
      · exact third
      · exact fourth
      · exact extract_higher (by decide) (by decide)
      · exact extract_lower (by decide) (by decide)
  | thldEpMacT1 i | thldMacMacT1 i =>
      fin_cases i <;> exact extract_higher (by decide) (by decide)
  | thldEpMacT2 i | thldMacMacT2 i =>
      fin_cases i <;> exact extract_lower (by decide) (by decide)
  | _ => rfl

/-- The register that was written is read. -/
theorem read_iow_self {offset : Nat} {value : U32} (here : setting.offset = offset)
    : setting.read (iow regs offset value)
      = value.extractLsb' setting.start setting.width := by
  rw [Setting.read, iow_apply, if_pos here]

/-- Any other register is read as before. -/
theorem read_iow_of_ne {offset : Nat} {value : U32} (other : setting.offset ≠ offset)
    : setting.read (iow regs offset value) = setting.read regs := by
  rw [Setting.read, Setting.read, iow_apply, if_neg other]

/-- The first frame type stays if it is not asked for. -/
theorem read_setFrameFilterOpt {typefield : FfType} (kept : typefield.type1 = 0)
    : setting.read (setFrameFilterOpt typefield.type1 typefield.type2 regs)
      = setting.after (typefield.types setting) regs := by
  obtain ⟨type1, type2⟩ := typefield
  obtain rfl : type1 = 0 := kept
  by_cases kept2 : type2 = 0
  · subst kept2
    cases setting with
    | swMacAddr i | thldEpMacT1 i | thldEpMacT2 i | thldMacMacT1 i | thldMacMacT2 i =>
        fin_cases i <;> rfl
    | _ => rfl
  · have written : setFrameFilterOpt 0 type2 regs
        = iow regs xasFrmFltrTypeFieldOptOffset
          (store (regs xasFrmFltrTypeFieldOptOffset) (type2.setWidth 32) 0 16) := by
      rw [store_zero, setWidth_and_low]
      simp only [setFrameFilterOpt, ne_eq, not_true_eq_false, kept2, not_false_eq_true, if_true,
        if_false]
      rfl
    rw [written]
    cases setting with
    | type1 =>
        exact (read_iow_self rfl).trans (extract_store_other (by decide))
    | type2 =>
        have asked : (FfType.mk 0 type2).types .type2 = some (type2.setWidth 32) := if_pos kept2
        rw [asked]
        exact (read_iow_self rfl).trans (extract_store (by decide))
    | swMacAddr i | thldEpMacT1 i | thldEpMacT2 i | thldMacMacT1 i | thldMacMacT2 i =>
        fin_cases i <;> rfl
    | _ => rfl

theorem read_setMac1Mngmntq (config : U32)
    : setting.read (setMac1Mngmntq config regs)
      = setting.after (if setting = .mac1Config then some config else none) regs := by
  cases setting with
  | mac1Config => exact extract_low (by decide)
  | swMacAddr i | thldEpMacT1 i | thldEpMacT2 i | thldMacMacT1 i | thldMacMacT2 i =>
      fin_cases i <;> rfl
  | _ => rfl

theorem read_setMac2Mngmntq (config : U32)
    : setting.read (setMac2Mngmntq config regs)
      = setting.after (if setting = .mac2Config then some config else none) regs := by
  cases setting with
  | mac2Config => exact extract_low (by decide)
  | swMacAddr i | thldEpMacT1 i | thldEpMacT2 i | thldMacMacT1 i | thldMacMacT2 i =>
      fin_cases i <;> rfl
  | _ => rfl

theorem read_programMeterReg (data : MeterConfig)
    : setting.read (programMeterReg data regs) = setting.after (data.meter setting) regs := by
  cases setting with
  | cir | eir => exact extract_low (by decide)
  | cbr => exact (extract_low (by decide)).trans setWidth_masked
  | ebr =>
      have below : ((data.mode.setWidth 32 : U32) <<< 28).extractLsb' 0 24 = 0 :=
        extract_shift_above (by decide)
      have whole : (data.ebr &&& low 32 24).extractLsb' 0 24 = data.ebr.setWidth 24 :=
        (extract_low (by decide)).trans setWidth_masked
      exact (extract_or_of_zero below).trans whole
  | mode =>
      have above : (data.ebr &&& low 32 24).extractLsb' 28 4 = 0 :=
        extract_masked_above (by decide)
      have higher
          : ((data.ebr &&& low 32 24) ||| (data.mode.setWidth 32 <<< 28)).extractLsb' 28 4
            = (data.mode.setWidth 32).setWidth 4 := by
        rw [BitVec.or_comm, extract_or_of_zero above, extract_shift (by decide)]
      exact (read_iow_self rfl).trans higher
  | swMacAddr i | thldEpMacT1 i | thldEpMacT2 i | thldMacMacT1 i | thldMacMacT2 i =>
      fin_cases i <;> rfl
  | _ => rfl

theorem read_configStreamFilter (data : StreamFilter)
    : setting.read (configStreamFilter data regs) = setting.after (data.filter setting) regs := by
  let inPid : U32 := (data.inPid.setWidth 32 &&& low 32 2) <<< 14
  let maxFrSize : U32 := data.maxFrSize.setWidth 32 &&& low 32 12
  cases setting with
  | inPid =>
      have above : maxFrSize.extractLsb' 14 2 = 0 := extract_masked_above (by decide)
      have higher
          : (inPid ||| maxFrSize).extractLsb' 14 2 = (data.inPid.setWidth 32).setWidth 2 := by
        rw [extract_or_of_zero above, extract_shift (by decide), setWidth_masked]
      exact (read_iow_self rfl).trans higher
  | maxFrSize =>
      have below : inPid.extractLsb' 0 12 = 0 := extract_masked (by decide)
      have lower
          : (inPid ||| maxFrSize).extractLsb' 0 12 = (data.maxFrSize.setWidth 32).setWidth 12 := by
        rw [BitVec.or_comm, extract_or_of_zero below, extract_low (by decide), setWidth_masked]
      exact (read_iow_self rfl).trans lower
  | swMacAddr i | thldEpMacT1 i | thldEpMacT2 i | thldMacMacT1 i | thldMacMacT2 i =>
      fin_cases i <;> rfl
  | _ => rfl

/-- The registers of the members, as fields that are stored. -/
theorem programMemberReg_eq (data : Cb)
    : programMemberReg data regs
      = iow
          (iow
            (iow regs frerConfigReg1
              (store
                (store (regs frerConfigReg1)
                  (data.frerMembConfigData.splitStrmEgportId.setWidth 32) 12 2)
                (data.frerMembConfigData.splitStrmVlanId.setWidth 32) 0 12))
            frerConfigReg2 (data.frerMembConfigData.remTicks.setWidth 32))
          ingressFilterOffset
          (store (regs ingressFilterOffset) (data.inFltrData.maxSeqId.setWidth 32) 0 16) := by
  rw [store_store (by decide), store_zero, BitVec.shiftLeft_zero, BitVec.shiftLeft_zero]
  rfl

/-- The registers of the ingress filter. -/
theorem configIngressFilter_eq (data : Cb)
    : configIngressFilter data regs
      = iow
          (iow
            (iow regs ingressFilterOffset
              (store (regs ingressFilterOffset) (data.inFltrData.inPortId.setWidth 32) 24 2))
            frerConfigReg1
            (store (regs frerConfigReg1) (data.frerMembConfigData.seqRecHistLen.setWidth 32) 16 8))
          frerConfigReg2
          (store (regs frerConfigReg2) (data.frerMembConfigData.remTicks.setWidth 32) 0 16) := by
  rw [store_zero, setWidth_and_low]
  rfl

/-- The register that was written first, of three. -/
theorem read_first {first second third : Nat} {x y z : U32} (here : setting.offset = first)
    (apart : first ≠ second ∧ first ≠ third)
    : setting.read (iow (iow (iow regs first x) second y) third z)
      = x.extractLsb' setting.start setting.width := by
  rw [read_iow_of_ne, read_iow_of_ne, read_iow_self here]
  · rw [here]
    exact apart.1
  · rw [here]
    exact apart.2

/-- The one that was written next. -/
theorem read_second {second third : Nat} {y z : U32} (here : setting.offset = second)
    (apart : second ≠ third)
    : setting.read (iow (iow regs second y) third z)
      = y.extractLsb' setting.start setting.width := by
  rw [read_iow_of_ne, read_iow_self here]
  rw [here]
  exact apart

theorem read_programMemberReg (data : Cb)
    : setting.read (programMemberReg data regs) = setting.after (data.member setting) regs := by
  rw [programMemberReg_eq]
  cases setting with
  | seqRecHistLen =>
      refine (read_first rfl (by decide)).trans ?_
      exact (extract_store_other (by decide)).trans (extract_store_other (by decide))
  | splitStrmEgportId =>
      refine (read_first rfl (by decide)).trans ?_
      exact (extract_store_other (by decide)).trans (extract_store (by decide))
  | splitStrmVlanId => exact (read_first rfl (by decide)).trans (extract_store (by decide))
  | remTicks => exact (read_second rfl (by decide)).trans (extract_low (by decide))
  | inPortId => exact (read_iow_self rfl).trans (extract_store_other (by decide))
  | maxSeqId => exact (read_iow_self rfl).trans (extract_store (by decide))
  | swMacAddr i | thldEpMacT1 i | thldEpMacT2 i | thldMacMacT1 i | thldMacMacT2 i =>
      fin_cases i <;> rfl
  | _ => rfl

theorem read_configIngressFilter (data : Cb)
    : setting.read (configIngressFilter data regs) = setting.after (data.ingress setting) regs := by
  rw [configIngressFilter_eq]
  cases setting with
  | seqRecHistLen => exact (read_second rfl (by decide)).trans (extract_store (by decide))
  | splitStrmEgportId | splitStrmVlanId =>
      exact (read_second rfl (by decide)).trans (extract_store_other (by decide))
  | remTicks => exact (read_iow_self rfl).trans (extract_store (by decide))
  | inPortId => exact (read_first rfl (by decide)).trans (extract_store (by decide))
  | maxSeqId => exact (read_first rfl (by decide)).trans (extract_store_other (by decide))
  | swMacAddr i | thldEpMacT1 i | thldEpMacT2 i | thldMacMacT1 i | thldMacMacT2 i =>
      fin_cases i <;> rfl
  | _ => rfl

-----------------------------------------------------------------------------------------
-- Learning
-----------------------------------------------------------------------------------------

/-- A word with one bit set or cleared, where that is asked for. -/
def markBit (mark set : Bool) (i : Nat) (word : U32) : U32 :=
  if mark then
    if set then word ||| (low 32 1 <<< i) else word &&& ~~~(low 32 1 <<< i)
  else word

theorem extract_markBit (mark set : Bool) (bound : s < 32)
    : (markBit mark set s word).extractLsb' s 1
      = if mark then BitVec.ofBool set else word.extractLsb' s 1 := by
  cases mark with
  | false => rfl
  | true =>
      cases set with
      | false => exact extract_clear_self
      | true => exact extract_or_self (by omega)

/-- Other bits are left as they are. -/
theorem extract_markBit_other (mark set : Bool) {t : Nat} (apart : Apart s n t 1)
    : (markBit mark set t word).extractLsb' s n = word.extractLsb' s n := by
  cases mark with
  | false => rfl
  | true =>
      cases set with
      | false => exact extract_clear apart
      | true =>
          have bit : (low 32 1 <<< t).extractLsb' s n = 0 := by
            have masked : ((low 32 1 &&& low 32 1) <<< t).extractLsb' s n = 0 :=
              extract_masked apart
            rwa [BitVec.and_self] at masked
          exact extract_or_of_zero bit

/-- The word with a new ageing time, where one is asked for. The time is not masked. -/
def timeWord (agingTime word : U32) : U32 :=
  if agingTime ≠ 0 then (word &&& ~~~(low 32 20 <<< 8)) ||| (agingTime <<< 8) else word

theorem extract_timeWord (agingTime : U32)
    : (timeWord agingTime word).extractLsb' 8 20
      = if agingTime ≠ 0 then agingTime.setWidth 20 else word.extractLsb' 8 20 := by
  rw [timeWord]
  split
  · exact extract_put (by decide)
  · rfl

theorem extract_timeWord_below (agingTime : U32) (below : s + n ≤ 8)
    : (timeWord agingTime word).extractLsb' s n = word.extractLsb' s n := by
  rw [timeWord]
  split
  · rw [extract_or_of_zero (extract_shift_above below), extract_clear (.inl below)]
  · rfl

/-- The control word, mark by mark. -/
theorem macLearnWord_eq (macLearn : MacAddrLearn)
    : macLearnWord macLearn word
      = markBit macLearn.isUntag macLearn.learnUntag 1
          (markBit macLearn.isLearn (!macLearn.learning) 0
            (markBit macLearn.isAge (!macLearn.aging) 2 (timeWord macLearn.agingTime word))) := by
  rfl

/-- The fields of the control word. Ageing and learning are stored with the opposite sense. -/
theorem extract_macLearnWord (macLearn : MacAddrLearn) (word : U32)
    : (macLearnWord macLearn word).extractLsb' 8 20
        = (if macLearn.agingTime ≠ 0 then macLearn.agingTime.setWidth 20
          else word.extractLsb' 8 20)
      ∧ (macLearnWord macLearn word).extractLsb' 1 1
        = (if macLearn.isUntag then BitVec.ofBool macLearn.learnUntag else word.extractLsb' 1 1)
      ∧ (macLearnWord macLearn word).extractLsb' 2 1
        = (if macLearn.isAge then BitVec.ofBool (!macLearn.aging) else word.extractLsb' 2 1)
      ∧ (macLearnWord macLearn word).extractLsb' 0 1
        = (if macLearn.isLearn then BitVec.ofBool (!macLearn.learning)
          else word.extractLsb' 0 1) := by
  rw [macLearnWord_eq]
  refine ⟨?_, ?_, ?_, ?_⟩
  · simp (disch := decide) only [extract_markBit_other, extract_timeWord]
  · simp (disch := decide) only [extract_markBit, extract_markBit_other, extract_timeWord_below]
  · simp (disch := decide) only [extract_markBit, extract_markBit_other, extract_timeWord_below]
  · simp (disch := decide) only [extract_markBit, extract_markBit_other, extract_timeWord_below]

/-- A flag in a word of one bit. -/
theorem setWidth_flag (b : Bool) : (flag b).setWidth 1 = BitVec.ofBool b := by
  cases b <;> rfl

theorem read_setMacAddrLearn {macLearn : MacAddrLearn} (noAge : macLearn.isAge = false)
    (noLearn : macLearn.isLearn = false)
    : setting.read (setMacAddrLearn macLearn regs)
      = setting.after (macLearn.config setting) regs := by
  obtain ⟨time, untag, age, learn⟩ :=
    extract_macLearnWord macLearn (regs xasHwAddrLearnCtrlOffset)
  cases setting with
  | agingTime =>
      refine (read_iow_self rfl).trans (time.trans ?_)
      rw [MacAddrLearn.config]
      split <;> rfl
  | learnUntag =>
      refine (read_iow_self rfl).trans (untag.trans ?_)
      rw [MacAddrLearn.config, ← setWidth_flag]
      split <;> rfl
  | aging =>
      rw [noAge] at age
      refine (read_iow_self rfl).trans (age.trans ?_)
      rw [MacAddrLearn.config, noAge]
      rfl
  | learning =>
      rw [noLearn] at learn
      refine (read_iow_self rfl).trans (learn.trans ?_)
      rw [MacAddrLearn.config, noLearn]
      rfl
  | swMacAddr i | thldEpMacT1 i | thldEpMacT2 i | thldMacMacT1 i | thldMacMacT2 i =>
      fin_cases i <;> rfl
  | _ => rfl

-----------------------------------------------------------------------------------------
-- Whole runs
-----------------------------------------------------------------------------------------

/-- A request stores what it asks for, and leaves the other fields: one setter a command. -/
theorem read_switchIoctl {en : Bool} {request : Request} (plain : request.Plain en)
    : setting.read (switchIoctl en regs request).2
      = setting.after (request.asks en setting) regs := by
  cases request with
  | setStatusSwitch data =>
      cases data with
      | none => rfl
      | some data => exact read_setSwitchRegs data
  | setFrameTypeField data =>
      cases data with
      | none => rfl
      | some data =>
          have kept : data.typefield.type1 = 0 := by
            by_contra set
            have asked
                : (Request.setFrameTypeField (some data)).asks en .type1
                  = some (data.typefield.type1.setWidth 32) := if_pos set
            exact absurd (asked.symm.trans plain.1) (by simp)
          exact read_setFrameFilterOpt kept
  | setMac1MngmntQConfig data =>
      cases data with
      | none => rfl
      | some data => exact read_setMac1Mngmntq data.mac1Config
  | setMac2MngmntQConfig data =>
      cases data with
      | none => rfl
      | some data => exact read_setMac2Mngmntq data.mac2Config
  | setMacAddrLearnConfig macLearn =>
      cases en with
      | false => rfl
      | true =>
          cases macLearn with
          | none => rfl
          | some macLearn =>
              have noAge : macLearn.isAge = false := by
                by_contra set
                have asked
                    : (Request.setMacAddrLearnConfig (some macLearn)).asks true .aging
                      = some (flag macLearn.aging) := if_pos (by simpa using set)
                exact absurd (asked.symm.trans plain.2.1) (by simp)
              have noLearn : macLearn.isLearn = false := by
                by_contra set
                have asked
                    : (Request.setMacAddrLearnConfig (some macLearn)).asks true .learning
                      = some (flag macLearn.learning) := if_pos (by simpa using set)
                exact absurd (asked.symm.trans plain.2.2) (by simp)
              exact read_setMacAddrLearn noAge noLearn
  | configMeterMem qciData =>
      cases qciData with
      | none => rfl
      | some qciData => exact read_programMeterReg qciData.meterConfigData
  | configGateMem qciData =>
      cases qciData with
      | none => rfl
      | some qciData => exact read_configStreamFilter qciData.streamConfigData
  | configMemberMem cbData =>
      cases cbData with
      | none => rfl
      | some cbData => exact read_programMemberReg cbData
  | configIngressFltr cbData =>
      cases cbData with
      | none => rfl
      | some cbData => exact read_configIngressFilter cbData

variable {en : Bool} {requests : List Request} {request : Request} {value : U32}

theorem runIoctls_concat
    : runIoctls en regs (requests ++ [request])
      = (switchIoctl en (runIoctls en regs requests) request).2 := by
  simp [runIoctls]

theorem lastAsked_concat
    : lastAsked en (requests ++ [request]) setting
      = (request.asks en setting).or (lastAsked en requests setting) := by
  rw [lastAsked, lastAsked, List.filterMap_append, List.getLast?_append]
  cases asked : request.asks en setting <;> simp [asked]

/-- The fields after a run: by induction on the requests, from the last one. -/
theorem read_runIoctls (plain : ∀ request ∈ requests, request.Plain en)
    : setting.read (runIoctls en regs requests)
      = setting.after (lastAsked en requests setting) regs := by
  induction requests using List.reverseRecOn with
  | nil => rfl
  | append_singleton requests request ih =>
      have earlier := ih fun r member => plain r (List.mem_append_left _ member)
      rw [runIoctls_concat, lastAsked_concat, read_switchIoctl (plain request (by simp))]
      cases request.asks en setting with
      | none => exact earlier
      | some value => rfl

/-- What no request asks for has no last value. -/
theorem lastAsked_eq_none (silent : ∀ request ∈ requests, request.asks en setting = none)
    : lastAsked en requests setting = none := by
  rw [lastAsked, List.getLast?_eq_none_iff, List.filterMap_eq_nil_iff]
  exact silent

theorem readsBack_of_plain (plain : ∀ request ∈ requests, request.Plain en)
    : ReadsBack en regs requests := by
  intro stack setting
  by_cases reported : setting = .type1
  · subst reported
    rw [lastAsked_eq_none fun request member => (plain request member).1]
    rfl
  · rw [report_eq reported, report_eq reported, read_runIoctls plain]
    cases lastAsked en requests setting <;> rfl

/-- Only one command sets a flag of ageing or learning. -/
theorem learnConfig_of_asks (flags : setting = .aging ∨ setting = .learning)
    (asked : request.asks en setting = some value)
    : en = true ∧ ∃ macLearn, request = .setMacAddrLearnConfig (some macLearn) := by
  cases request with
  | setStatusSwitch data | setFrameTypeField data | setMac1MngmntQConfig data
  | setMac2MngmntQConfig data | configMeterMem data | configGateMem data | configMemberMem data
  | configIngressFltr data =>
      obtain ⟨d, -, asked⟩ := Option.bind_eq_some_iff.mp asked
      rcases flags with rfl | rfl <;> cases asked
  | setMacAddrLearnConfig macLearn =>
      cases en with
      | false => cases asked
      | true =>
          obtain ⟨m, rfl, -⟩ := Option.bind_eq_some_iff.mp asked
          exact ⟨rfl, m, rfl⟩

/-- A flag that a request sets is stored with the opposite sense. -/
theorem read_of_asks (regs : Regs) (flags : setting = .aging ∨ setting = .learning)
    (asked : request.asks en setting = some value)
    : ∃ b : Bool, value = flag b
        ∧ (setting.read (switchIoctl en regs request).2).setWidth 32 = flag (!b) := by
  obtain ⟨rfl, macLearn, rfl⟩ := learnConfig_of_asks flags asked
  obtain ⟨-, -, age, learn⟩ :=
    extract_macLearnWord macLearn (regs xasHwAddrLearnCtrlOffset)
  rcases flags with rfl | rfl
  · obtain ⟨marked, ⟨⟩⟩ := Option.ite_none_right_eq_some.mp asked
    rw [if_pos marked] at age
    refine ⟨macLearn.aging, rfl, ?_⟩
    exact congrArg (BitVec.setWidth 32) ((read_iow_self rfl).trans age)
  · obtain ⟨marked, ⟨⟩⟩ := Option.ite_none_right_eq_some.mp asked
    rw [if_pos marked] at learn
    refine ⟨macLearn.learning, rfl, ?_⟩
    exact congrArg (BitVec.setWidth 32) ((read_iow_self rfl).trans learn)

/-- A type that a request asks for has at most 16 bits. -/
theorem type1_of_asks (asked : request.asks en .type1 = some value)
    : ∃ type1 : U16, value = type1.setWidth 32 := by
  cases request with
  | setFrameTypeField data =>
      obtain ⟨data, rfl, asked⟩ := Option.bind_eq_some_iff.mp asked
      obtain ⟨-, ⟨⟩⟩ := Option.ite_none_right_eq_some.mp asked
      exact ⟨data.typefield.type1, rfl⟩
  | setMacAddrLearnConfig macLearn =>
      cases en with
      | false => cases asked
      | true =>
          obtain ⟨m, -, asked⟩ := Option.bind_eq_some_iff.mp asked
          cases asked
  | setStatusSwitch data | setMac1MngmntQConfig data | setMac2MngmntQConfig data
  | configMeterMem data | configGateMem data | configMemberMem data | configIngressFltr data =>
      obtain ⟨d, -, asked⟩ := Option.bind_eq_some_iff.mp asked
      cases asked

/-- The first frame type is not reported as it was asked for: what stands on the stack is. -/
theorem not_readsBack_type1 (asked : request.asks en .type1 = some value)
    : ¬ ReadsBack en regs (requests ++ [request]) := by
  intro back
  obtain ⟨type1, rfl⟩ := type1_of_asks asked
  let stale : SwitchData := { (default : SwitchData) with typefield := ⟨type1 + 1, 0⟩ }
  have reported := back ⟨stale, default⟩ .type1
  rw [lastAsked_concat, asked] at reported
  have narrow := congrArg (BitVec.setWidth 16) reported
  simp [report, getSwitchRegs, stale, Setting.reduce, Setting.width] at narrow

/-- The two flags are not read back: their opposite is. -/
theorem not_readsBack_flag (flags : setting = .aging ∨ setting = .learning)
    (asked : request.asks en setting = some value)
    : ¬ ReadsBack en regs (requests ++ [request]) := by
  intro back
  obtain ⟨b, rfl, stored⟩ := read_of_asks (runIoctls en regs requests) flags asked
  have other : setting ≠ .type1 := by
    rcases flags with rfl | rfl <;> exact Setting.noConfusion
  have width : setting.reduce (flag b) = flag b := by
    rcases flags with rfl | rfl <;> cases b <;> rfl
  have reported := back default setting
  rw [report_eq other, runIoctls_concat, stored, lastAsked_concat, asked, Option.some_or,
    Option.elim_some, width] at reported
  revert reported
  cases b <;> decide

/-- The settings read back as they were set: after every first part of a run, whatever the registers
held and whatever stands on the stack, every field is reported as its last request asked, and those
without one as they were, exactly if no request of the run sets the first frame type or a flag of
ageing or of learning.
-/
theorem settings_read_back (en : Bool) (regs : Regs) (requests : List Request)
    : (∀ before, before <+: requests → ReadsBack en regs before)
      ↔ ∀ request ∈ requests, request.Plain en := by
  constructor
  · intro all request member
    obtain ⟨before, after, rfl⟩ := List.append_of_mem member
    have start : before ++ [request] <+: before ++ request :: after := ⟨after, by simp⟩
    have back := all _ start
    refine ⟨?_, ?_, ?_⟩
    · exact Option.eq_none_iff_forall_ne_some.mpr fun value asked =>
        not_readsBack_type1 asked back
    · exact Option.eq_none_iff_forall_ne_some.mpr fun value asked =>
        not_readsBack_flag (.inl rfl) asked back
    · exact Option.eq_none_iff_forall_ne_some.mpr fun value asked =>
        not_readsBack_flag (.inr rfl) asked back
  · intro plain before start
    exact readsBack_of_plain fun request member => plain request (start.subset member)

/-- The first frame type is set, and ageing is turned on. -/
def typeAndAgeing : List Request :=
  [.setFrameTypeField (some { (default : SwitchData) with typefield := ⟨0x88B5, 0⟩ }),
    .setMacAddrLearnConfig (some ⟨true, true, false, false, false, false, 0⟩)]

/-- Ageing is reported as turned off, and the frame type as whatever stands on the stack. -/
theorem settings_read_back_flags
    : report ⟨default, default⟩ (runIoctls true (fun _ => 0) typeAndAgeing) .aging = 0
      ∧ lastAsked true typeAndAgeing .aging = some 1
      ∧ report ⟨default, default⟩ (runIoctls true (fun _ => 0) typeAndAgeing) .type1 = 0
      ∧ lastAsked true typeAndAgeing .type1 = some 0x88B5
      ∧ ¬ ReadsBack true (fun _ => 0) typeAndAgeing := by
  have reported
      : report ⟨default, default⟩ (runIoctls true (fun _ => 0) typeAndAgeing) .aging = 0 := by
    decide
  have asked : lastAsked true typeAndAgeing .aging = some 1 := by decide
  refine ⟨reported, asked, by decide, by decide, ?_⟩
  intro back
  have same := back ⟨default, default⟩ .aging
  rw [reported, asked] at same
  exact absurd same (by decide)

end TsnTrdp.Switch.Settings
