import TsnTrdp.Switch.VlanMemory

/-! The settings of the switch: the structures that its ioctls exchange with user space, the
registers that hold the settings, and the functions that write and read these.
-/

namespace TsnTrdp.Switch.Settings

open TsnTrdp

abbrev U16 := BitVec 16

-----------------------------------------------------------------------------------------
-- Structures
-----------------------------------------------------------------------------------------

structure Thershold where
  t1 : U16
  t2 : U16
  deriving DecidableEq, Inhabited, Repr

structure FfType where
  type1 : U16
  type2 : U16
  deriving DecidableEq, Inhabited, Repr

/-- A 64 bit counter. -/
structure StaticCntr where
  msb : U32
  lsb : U32
  deriving DecidableEq, Inhabited, Repr

structure CamStruct where
  srcAddr : Vector Byte 6
  destAddr : Vector Byte 6
  vlanid : U16
  tvVlanid : U16
  fwdPort : Byte
  gateId : Byte
  ipv : Byte
  flags : U32
  epPortAct : Byte
  macPortAct : Byte
  deriving DecidableEq, Inhabited, Repr

/-- `struct switch_data`; the counters of `struct mem_static_arr_cntr` stand in its order. -/
structure SwitchData where
  switchStatus : U32
  switchCtrl : U32
  switchPrt : U32
  swMacAddr : Vector Byte 6
  thldEpMac : Vector Thershold 3
  thldMacMac : Vector Thershold 3
  epVlan : U32
  macVlan : U32
  maxFrameScQue : U32
  maxFrameResQue : U32
  maxFrameBeQue : U32
  memArrCnt : Vector StaticCntr 40
  camData : CamStruct
  typefield : FfType
  mac1Config : U32
  mac2Config : U32
  portVlanMemCtrl : U32
  portVlanMemData : Byte
  deriving DecidableEq, Inhabited, Repr

structure MacAddrLearn where
  aging : Bool
  isAge : Bool
  learning : Bool
  isLearn : Bool
  learnUntag : Bool
  isUntag : Bool
  agingTime : U32
  deriving DecidableEq, Inhabited, Repr

structure MeterConfig where
  cir : U32
  eir : U32
  cbr : U32
  ebr : U32
  mode : Byte
  deriving DecidableEq, Inhabited, Repr

structure StreamFilter where
  inPid : Byte
  maxFrSize : U16
  deriving DecidableEq, Inhabited, Repr

structure PsfpConfig where
  gateId : Byte
  meterId : Byte
  enMeter : Bool
  allowStream : Bool
  enPsfp : Bool
  wrOpType : Byte
  opType : Bool
  deriving DecidableEq, Inhabited, Repr

/-- `struct psfp_static_counter`, its counters in its order. -/
structure PsfpStaticCounter where
  counters : Vector StaticCntr 4
  num : Byte
  deriving DecidableEq, Inhabited, Repr

structure Qci where
  meterConfigData : MeterConfig
  streamConfigData : StreamFilter
  psfpConfigData : PsfpConfig
  psfpCounterData : PsfpStaticCounter
  deriving DecidableEq, Inhabited, Repr

structure FrerCtrl where
  gateId : Byte
  membId : Byte
  seqReset : Bool
  gateState : Bool
  rcvryTmout : Bool
  frerValid : Bool
  wrOpType : Byte
  opType : Bool
  deriving DecidableEq, Inhabited, Repr

structure InFltr where
  inPortId : Byte
  maxSeqId : U16
  deriving DecidableEq, Inhabited, Repr

structure FrerMembConfig where
  seqRecHistLen : Byte
  splitStrmEgportId : Byte
  splitStrmVlanId : U16
  remTicks : U16
  deriving DecidableEq, Inhabited, Repr

/-- `struct frer_static_counter`, its counters in its order. -/
structure FrerStaticCounter where
  counters : Vector StaticCntr 8
  num : Byte
  deriving DecidableEq, Inhabited, Repr

structure Cb where
  frerCtrlData : FrerCtrl
  inFltrData : InFltr
  frerMembConfigData : FrerMembConfig
  frerCounterData : FrerStaticCounter
  deriving DecidableEq, Inhabited, Repr

-----------------------------------------------------------------------------------------
-- Registers
-----------------------------------------------------------------------------------------

def xasStatusOffset : Nat := 0x00000
def xasControlOffset : Nat := 0x00004
def xasPmapOffset : Nat := 0x00008
def xasMacLsbOffset : Nat := 0x0000C
def xasMacMsbOffset : Nat := 0x00010
def xasEp2macStFifotOffset : Nat := 0x00020
def xasEp2macReFifotOffset : Nat := 0x00024
def xasEp2macBeFifotOffset : Nat := 0x00028
def xasMac2macStFifotOffset : Nat := 0x00030
def xasMac2macReFifotOffset : Nat := 0x00034
def xasMac2macBeFifotOffset : Nat := 0x00038
def xasEpPortVlanOffset : Nat := 0x00040
def xasMacPortVlanOffset : Nat := 0x00044
def xasHwAddrLearnCtrlOffset : Nat := 0x00048
def xasFrmFltrTypeFieldOptOffset : Nat := 0x00050
def xasMngQCtrlOffset : Nat := 0x00054
def xasMac1MngQOptionOffset : Nat := 0x00058
def xasStMaxFrameSizeOffset : Nat := 0x00060
def xasReMaxFrameSizeOffset : Nat := 0x00064
def xasBeMaxFrameSizeOffset : Nat := 0x00068
def xasVlanMembCtrlReg : Nat := 0x1100
def xasVlanMembDataReg : Nat := 0x1104
def streamFilterConfigOffset : Nat := 0x1204
def streamMeterCirOffset : Nat := 0x1208
def streamMeterEirOffset : Nat := 0x120C
def streamMeterCbrOffset : Nat := 0x1210
def streamMeterEbrOffset : Nat := 0x1214
def ingressFilterOffset : Nat := 0x1304
def frerConfigReg1 : Nat := 0x1308
def frerConfigReg2 : Nat := 0x130C

def hwAddrAgingTimeShift : Nat := 8
def hwAddrAgingTimeMask : U32 := 0xFFFFF
def hwAddrAgingBit : U32 := 1 <<< 2
def hwAddrLearnUntagBit : U32 := 1 <<< 1
def hwAddrLearnBit : U32 := 1 <<< 0
def smcModeShift : Nat := 28
def smcCbrMask : U32 := 0x00FFFFFF
def smcEbrMask : U32 := 0x00FFFFFF
def inPortidMask : U32 := 0x3
def inPortShift : Nat := 14
def maxFrSizeMask : U32 := 0x00000FFF
def inPortidShift : Nat := 24
def maxSeqidMask : U32 := 0x0000FFFF
def remainingTicksMask : U32 := 0x0000FFFF
def seqRecHistLenMask : U32 := 0x000000FF
def seqRecHistLenShift : Nat := 16
def splitStreamInportidShift : Nat := 12
def splitStreamInportidMask : U32 := 0x3
def splitStreamVlanidMask : U32 := 0x00000FFF

/-- The registers by their offsets, each with the value that was last written. -/
abbrev Regs := Nat → U32

/-- `axienet_iow`; `axienet_ior` is the application of the registers. -/
def iow (regs : Regs) (offset : Nat) (value : U32) : Regs := Function.update regs offset value

theorem iow_apply (regs : Regs) (offset other : Nat) (value : U32)
    : iow regs offset value other = if other = offset then value else regs other :=
  Function.update_apply _ _ _ _

-----------------------------------------------------------------------------------------
-- Setters
-----------------------------------------------------------------------------------------

/-- `set_frame_filter_opt`. -/
def setFrameFilterOpt (type1 type2 : U16) (regs : Regs) : Regs :=
  let type := regs xasFrmFltrTypeFieldOptOffset
  let type :=
    if type1 ≠ 0 then (type &&& 0x0000FFFF) ||| (type1.setWidth 32 <<< 16) else type
  let type := if type2 ≠ 0 then (type &&& 0xFFFF0000) ||| type2.setWidth 32 else type
  iow regs xasFrmFltrTypeFieldOptOffset type

/-- `set_mac1_mngmntq`. -/
def setMac1Mngmntq (config : U32) (regs : Regs) : Regs := iow regs xasMac1MngQOptionOffset config

/-- `set_mac2_mngmntq`. -/
def setMac2Mngmntq (config : U32) (regs : Regs) : Regs := iow regs xasMngQCtrlOffset config

def Thershold.word (thld : Thershold) : U32 := (thld.t1.setWidth 32 <<< 16) ||| thld.t2.setWidth 32

/-- `set_switch_regs`. -/
def setSwitchRegs (data : SwitchData) (regs : Regs) : Regs :=
  let regs := iow regs xasControlOffset data.switchCtrl
  let regs := iow regs xasPmapOffset data.switchPrt
  let byte := fun i : Fin 6 => data.swMacAddr[i].setWidth 32
  let regs := iow regs xasMacLsbOffset
    ((byte 0 <<< 24) ||| (byte 1 <<< 16) ||| (byte 2 <<< 8) ||| byte 3)
  let regs := iow regs xasMacMsbOffset ((byte 4 <<< 8) ||| byte 5)
  let regs := iow regs xasEp2macStFifotOffset data.thldEpMac[0].word
  let regs := iow regs xasEp2macReFifotOffset data.thldEpMac[1].word
  let regs := iow regs xasEp2macBeFifotOffset data.thldEpMac[2].word
  let regs := iow regs xasMac2macStFifotOffset data.thldMacMac[0].word
  let regs := iow regs xasMac2macReFifotOffset data.thldMacMac[1].word
  let regs := iow regs xasMac2macBeFifotOffset data.thldMacMac[2].word
  let regs := iow regs xasEpPortVlanOffset data.epVlan
  let regs := iow regs xasMacPortVlanOffset data.macVlan
  let regs := iow regs xasStMaxFrameSizeOffset data.maxFrameScQue
  let regs := iow regs xasReMaxFrameSizeOffset data.maxFrameResQue
  iow regs xasBeMaxFrameSizeOffset data.maxFrameBeQue

/-- The control word as `set_mac_addr_learn` changes it. -/
def macLearnWord (macLearn : MacAddrLearn) (uValue : U32) : U32 :=
  let uValue :=
    if macLearn.agingTime ≠ 0 then
      (uValue &&& ~~~(hwAddrAgingTimeMask <<< hwAddrAgingTimeShift))
        ||| (macLearn.agingTime <<< hwAddrAgingTimeShift)
    else uValue
  let uValue :=
    if macLearn.isAge then
      if !macLearn.aging then uValue ||| hwAddrAgingBit else uValue &&& ~~~hwAddrAgingBit
    else uValue
  let uValue :=
    if macLearn.isLearn then
      if !macLearn.learning then uValue ||| hwAddrLearnBit else uValue &&& ~~~hwAddrLearnBit
    else uValue
  if macLearn.isUntag then
    if macLearn.learnUntag then uValue ||| hwAddrLearnUntagBit
    else uValue &&& ~~~hwAddrLearnUntagBit
  else uValue

/-- `set_mac_addr_learn`, once the request is copied. -/
def setMacAddrLearn (macLearn : MacAddrLearn) (regs : Regs) : Regs :=
  iow regs xasHwAddrLearnCtrlOffset (macLearnWord macLearn (regs xasHwAddrLearnCtrlOffset))

/-- `program_meter_reg`. -/
def programMeterReg (data : MeterConfig) (regs : Regs) : Regs :=
  let regs := iow regs streamMeterCirOffset data.cir
  let regs := iow regs streamMeterEirOffset data.eir
  let regs := iow regs streamMeterCbrOffset (data.cbr &&& smcCbrMask)
  iow regs streamMeterEbrOffset
    ((data.ebr &&& smcEbrMask) ||| (data.mode.setWidth 32 <<< smcModeShift))

/-- `config_stream_filter`. -/
def configStreamFilter (data : StreamFilter) (regs : Regs) : Regs :=
  iow regs streamFilterConfigOffset
    (((data.inPid.setWidth 32 &&& inPortidMask) <<< inPortShift)
      ||| (data.maxFrSize.setWidth 32 &&& maxFrSizeMask))

/-- `program_member_reg`. -/
def programMemberReg (data : Cb) (regs : Regs) : Regs :=
  let confR1 := regs frerConfigReg1
  let confR1 := confR1 &&& ~~~(splitStreamInportidMask <<< splitStreamInportidShift)
  let confR1 := confR1 &&& ~~~splitStreamVlanidMask
  let confR1 := confR1
    ||| ((data.frerMembConfigData.splitStrmEgportId.setWidth 32 &&& splitStreamInportidMask)
      <<< splitStreamInportidShift)
  let confR1 := confR1
    ||| (data.frerMembConfigData.splitStrmVlanId.setWidth 32 &&& splitStreamVlanidMask)
  let regs := iow regs frerConfigReg1 confR1
  let regs := iow regs frerConfigReg2 (data.frerMembConfigData.remTicks.setWidth 32)
  let confR1 := regs ingressFilterOffset
  let confR1 := confR1 &&& ~~~maxSeqidMask
  let confR1 := confR1 ||| (data.inFltrData.maxSeqId.setWidth 32 &&& maxSeqidMask)
  iow regs ingressFilterOffset confR1

/-- `config_ingress_filter`. -/
def configIngressFilter (data : Cb) (regs : Regs) : Regs :=
  let confR1 := regs ingressFilterOffset
  let confR1 := confR1 &&& ~~~(inPortidMask <<< inPortidShift)
  let confR1 := confR1
    ||| ((data.inFltrData.inPortId.setWidth 32 &&& inPortidMask) <<< inPortidShift)
  let regs := iow regs ingressFilterOffset confR1
  let confR1 := regs frerConfigReg1
  let confR1 := confR1 &&& ~~~(seqRecHistLenMask <<< seqRecHistLenShift)
  let confR1 := confR1
    ||| ((data.frerMembConfigData.seqRecHistLen.setWidth 32 &&& seqRecHistLenMask)
      <<< seqRecHistLenShift)
  let regs := iow regs frerConfigReg1 confR1
  let confR1 := regs frerConfigReg2
  let confR1 := confR1 &&& ~~~remainingTicksMask
  let confR1 := confR1 ||| data.frerMembConfigData.remTicks.setWidth 32
  iow regs frerConfigReg2 confR1

-----------------------------------------------------------------------------------------
-- Getters, each on the structure that it fills in
-----------------------------------------------------------------------------------------

def Thershold.ofWord (tmp : U32) : Thershold where
  t1 := ((tmp >>> 16) &&& 0xFFFF).setWidth 16
  t2 := (tmp &&& 0xFFFF).setWidth 16

/-- `get_switch_regs`. The first of the two frame types is assigned to the second. -/
def getSwitchRegs (regs : Regs) (data : SwitchData) : SwitchData :=
  let lsb := regs xasMacLsbOffset
  let msb := regs xasMacMsbOffset
  let tmp := regs xasFrmFltrTypeFieldOptOffset
  let typefield := { data.typefield with type2 := ((tmp &&& 0xFFFF0000) >>> 16).setWidth 16 }
  let typefield := { typefield with type2 := (tmp &&& 0x0000FFFF).setWidth 16 }
  { data with
    switchStatus := regs xasStatusOffset
    switchCtrl := regs xasControlOffset
    switchPrt := regs xasPmapOffset
    swMacAddr := #v[((lsb &&& 0xFF000000) >>> 24).setWidth 8,
      ((lsb &&& 0xFF0000) >>> 16).setWidth 8, ((lsb &&& 0xFF00) >>> 8).setWidth 8,
      (lsb &&& 0xFF).setWidth 8,
      ((msb &&& 0xFF00) >>> 8).setWidth 8, (msb &&& 0xFF).setWidth 8]
    thldEpMac := #v[.ofWord (regs xasEp2macStFifotOffset), .ofWord (regs xasEp2macReFifotOffset),
      .ofWord (regs xasEp2macBeFifotOffset)]
    thldMacMac := #v[.ofWord (regs xasMac2macStFifotOffset),
      .ofWord (regs xasMac2macReFifotOffset), .ofWord (regs xasMac2macBeFifotOffset)]
    epVlan := regs xasEpPortVlanOffset
    macVlan := regs xasMacPortVlanOffset
    maxFrameScQue := regs xasStMaxFrameSizeOffset &&& 0xFFFF
    maxFrameResQue := regs xasReMaxFrameSizeOffset &&& 0xFFFF
    maxFrameBeQue := regs xasBeMaxFrameSizeOffset &&& 0xFFFF
    typefield
    mac1Config := regs xasMac1MngQOptionOffset
    mac2Config := regs xasMngQCtrlOffset
    portVlanMemCtrl := regs xasVlanMembCtrlReg
    portVlanMemData := (regs xasVlanMembDataReg).setWidth 8 }

/-- `get_mac_addr_learn`, on the structure that it copies out. -/
def getMacAddrLearn (regs : Regs) (macLearn : MacAddrLearn) : MacAddrLearn :=
  let uValue := regs xasHwAddrLearnCtrlOffset
  { macLearn with
    agingTime := (uValue >>> hwAddrAgingTimeShift) &&& hwAddrAgingTimeMask
    aging := uValue &&& hwAddrAgingBit ≠ 0
    learning := uValue &&& hwAddrLearnBit ≠ 0
    learnUntag := uValue &&& hwAddrLearnUntagBit ≠ 0 }

/-- `get_meter_reg`. -/
def getMeterReg (regs : Regs) : MeterConfig :=
  let confR4 := regs streamMeterEbrOffset
  { cir := regs streamMeterCirOffset
    eir := regs streamMeterEirOffset
    cbr := regs streamMeterCbrOffset &&& smcCbrMask
    ebr := confR4 &&& smcEbrMask
    mode := ((confR4 &&& 0xF0000000) >>> smcModeShift).setWidth 8 }

/-- `get_stream_filter_config`. -/
def getStreamFilterConfig (regs : Regs) : StreamFilter :=
  let regVal := regs streamFilterConfigOffset
  { maxFrSize := (regVal &&& maxFrSizeMask).setWidth 16
    inPid := ((regVal >>> inPortShift) &&& inPortidMask).setWidth 8 }

/-- `get_member_reg`. -/
def getMemberReg (regs : Regs) : FrerMembConfig :=
  let confR1 := regs frerConfigReg1
  { remTicks := (regs frerConfigReg2).setWidth 16
    seqRecHistLen := ((confR1 >>> seqRecHistLenShift) &&& seqRecHistLenMask).setWidth 8
    splitStrmEgportId
      := ((confR1 >>> splitStreamInportidShift) &&& splitStreamInportidMask).setWidth 8
    splitStrmVlanId := (confR1 &&& splitStreamVlanidMask).setWidth 16 }

/-- `get_ingress_filter_config`. -/
def getIngressFilterConfig (regs : Regs) : InFltr :=
  let regVal := regs ingressFilterOffset
  { maxSeqId := (regVal &&& maxSeqidMask).setWidth 16
    inPortId := ((regVal >>> inPortidShift) &&& inPortidMask).setWidth 8 }

-----------------------------------------------------------------------------------------
-- The setting ioctls
-----------------------------------------------------------------------------------------

inductive Errno
  | einval
  | eperm
  deriving DecidableEq, Repr

/-- A setting ioctl with what it copies from user space, `none` where that fails. -/
inductive Request
  | setStatusSwitch (data : Option SwitchData)
  | setFrameTypeField (data : Option SwitchData)
  | setMac1MngmntQConfig (data : Option SwitchData)
  | setMac2MngmntQConfig (data : Option SwitchData)
  | setMacAddrLearnConfig (macLearn : Option MacAddrLearn)
  | configMeterMem (qciData : Option Qci)
  | configGateMem (qciData : Option Qci)
  | configMemberMem (cbData : Option Cb)
  | configIngressFltr (cbData : Option Cb)
  deriving DecidableEq, Repr

/-- `copy_from_user`, and the setter if it succeeds. -/
def copied {α : Type} (arg : Option α) (set : α → Regs → Regs) (regs : Regs)
    : Except Errno Unit × Regs :=
  match arg with
  | none => (.error .einval, regs)
  | some data => (.ok (), set data regs)

/-- The setting commands of `switch_ioctl`; the probe reads `enHwAddrLearning` from the device
tree.
-/
def switchIoctl (enHwAddrLearning : Bool) (regs : Regs) : Request → Except Errno Unit × Regs
  | .setStatusSwitch data => copied data setSwitchRegs regs
  | .setFrameTypeField data =>
      copied data (fun data => setFrameFilterOpt data.typefield.type1 data.typefield.type2) regs
  | .setMac1MngmntQConfig data => copied data (fun data => setMac1Mngmntq data.mac1Config) regs
  | .setMac2MngmntQConfig data => copied data (fun data => setMac2Mngmntq data.mac2Config) regs
  | .setMacAddrLearnConfig macLearn =>
      if enHwAddrLearning then copied macLearn setMacAddrLearn regs else (.error .eperm, regs)
  | .configMeterMem qciData =>
      copied qciData (fun qciData => programMeterReg qciData.meterConfigData) regs
  | .configGateMem qciData =>
      copied qciData (fun qciData => configStreamFilter qciData.streamConfigData) regs
  | .configMemberMem cbData => copied cbData programMemberReg regs
  | .configIngressFltr cbData => copied cbData configIngressFilter regs

end TsnTrdp.Switch.Settings
