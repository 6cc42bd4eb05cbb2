import TsnTrdp.Lib.Field
import TsnTrdp.Lib.Run

/-! Frame preemption of the MAC: its control register, into which whole bytes of the request are
shifted, and the register with which a user overrides the settings of the core one by one.
-/

namespace TsnTrdp.Mac

open TsnTrdp.Run TsnTrdp.Field

abbrev U8 : Type := BitVec 8
abbrev U16 : Type := BitVec 16
abbrev U32 : Type := BitVec 32

def efault : Int := 14

/-- The registers of frame preemption, and the one that tells what the MAC is able to do. -/
structure PreemptionRegs where
  enable : U32
  ctrlSts : U32
  userOverride : U32
  coreSts : U32
  abl : U32
  deriving DecidableEq, Repr

-----------------------------------------------------------------------------------------
-- The control register
-----------------------------------------------------------------------------------------

def preemptionEnable : U32 := 1#32
def preemptionSupport : U32 := 1#32 <<< 15

def txPreemptionSts : U32 := 1#32 <<< 31
def macMergeTxVerifyStsMask : U32 := 0x7
def macMergeTxVerifyStsShift : Nat := 24
def verifyTimerValueMask : U32 := 0x7f
def verifyTimerValueShift : Nat := 8
def additionalFragSizeMask : U32 := 0x3
def additionalFragSizeShift : Nat := 4
def disablePreemptionVerify : U32 := 1#32

structure PreemptCtrlSts where
  txPreempSts : U8
  macTxVerifySts : U8
  verifyTimerValue : U8
  additionalFragSize : U8
  disablePreempVerify : U8
  deriving DecidableEq, Repr

structure PreemptStatus where
  preempEn : U8
  preempSup : U8
  ctrl : PreemptCtrlSts
  deriving DecidableEq, Repr

/-- The bits of the control register that only the hardware writes. -/
def ctrlStatusBits : U32 :=
  txPreemptionSts ||| (macMergeTxVerifyStsMask <<< macMergeTxVerifyStsShift)

/-- `axienet_iow` of the control register. -/
def iowCtrlSts (value : U32) (regs : PreemptionRegs) : PreemptionRegs :=
  { regs with ctrlSts := (value &&& ~~~ctrlStatusBits) ||| (regs.ctrlSts &&& ctrlStatusBits) }

/-- `axienet_preemption_ctrl`: the word that is written. -/
def preemptionCtrlWord (data : PreemptCtrlSts) (value : U32) : U32 :=
  let value := value &&& ~~~(verifyTimerValueMask <<< verifyTimerValueShift)
  let value := value ||| (data.verifyTimerValue.setWidth 32 <<< verifyTimerValueShift)
  let value := value &&& ~~~(additionalFragSizeMask <<< additionalFragSizeShift)
  let value := value ||| (data.additionalFragSize.setWidth 32 <<< additionalFragSizeShift)
  let value := value &&& ~~~disablePreemptionVerify
  value ||| data.disablePreempVerify.setWidth 32

/-- `axienet_preemption_ctrl`, where `data` is what could be copied from the user. -/
def axienetPreemptionCtrl (data : Option PreemptCtrlSts) (regs : PreemptionRegs)
    : Int × PreemptionRegs :=
  match data with
  | none => (-efault, regs)
  | some data => (0, iowCtrlSts (preemptionCtrlWord data regs.ctrlSts) regs)

/-- `axienet_preemption_sts`: the structure that is copied to the user. -/
def axienetPreemptionSts (regs : PreemptionRegs) : PreemptStatus where
  preempEn := (regs.enable &&& preemptionEnable).setWidth 8
  preempSup := if regs.abl &&& preemptionSupport ≠ 0 then 1 else 0
  ctrl :=
    { txPreempSts := if regs.ctrlSts &&& txPreemptionSts ≠ 0 then 1 else 0
      macTxVerifySts :=
        ((regs.ctrlSts >>> macMergeTxVerifyStsShift) &&& macMergeTxVerifyStsMask).setWidth 8
      verifyTimerValue :=
        ((regs.ctrlSts >>> verifyTimerValueShift) &&& verifyTimerValueMask).setWidth 8
      additionalFragSize :=
        ((regs.ctrlSts >>> additionalFragSizeShift) &&& additionalFragSizeMask).setWidth 8
      disablePreempVerify := (regs.ctrlSts &&& disablePreemptionVerify).setWidth 8 }

/-- The bits of the control register that hold what a request asks for. -/
def ctrlFields : U32 :=
  (verifyTimerValueMask <<< verifyTimerValueShift)
    ||| (additionalFragSizeMask <<< additionalFragSizeShift) ||| disablePreemptionVerify

/-- The three bytes of a request at their places in the control register. -/
def ctrlPlaced (data : PreemptCtrlSts) : U32 :=
  (data.verifyTimerValue.setWidth 32 <<< verifyTimerValueShift)
    ||| (data.additionalFragSize.setWidth 32 <<< additionalFragSizeShift)
    ||| data.disablePreempVerify.setWidth 32

/-- The fields of a request at their places in the control register. -/
def ctrlAsked (data : PreemptCtrlSts) : U32 :=
  ((data.verifyTimerValue.setWidth 32 <<< verifyTimerValueShift)
      &&& (verifyTimerValueMask <<< verifyTimerValueShift))
    ||| ((data.additionalFragSize.setWidth 32 <<< additionalFragSizeShift)
      &&& (additionalFragSizeMask <<< additionalFragSizeShift))
    ||| (data.disablePreempVerify.setWidth 32 &&& disablePreemptionVerify)

/-- The request is taken: the status tells its verify timer, fragment size and verify-disable flag,
as far as the register has bits for them, and no other bit of the register has changed.
-/
structure CtrlRight (regs : PreemptionRegs) (data : PreemptCtrlSts) : Prop where
  ret : (axienetPreemptionCtrl (some data) regs).1 = 0
  verifyTimerValue
    : (axienetPreemptionSts (axienetPreemptionCtrl (some data) regs).2).ctrl.verifyTimerValue.toNat
      = data.verifyTimerValue.toNat % 2 ^ 7
  additionalFragSize
    : (axienetPreemptionSts
        (axienetPreemptionCtrl (some data) regs).2).ctrl.additionalFragSize.toNat
      = data.additionalFragSize.toNat % 4
  disablePreempVerify
    : (axienetPreemptionSts
        (axienetPreemptionCtrl (some data) regs).2).ctrl.disablePreempVerify.toNat
      = data.disablePreempVerify.toNat % 2
  others
    : (axienetPreemptionCtrl (some data) regs).2.ctrlSts &&& ~~~ctrlFields
      = regs.ctrlSts &&& ~~~ctrlFields

/-- A bit of the request that lies beyond its field is one that another field asks for, or that the
register has set outside the fields.
-/
def CtrlFits (regs : PreemptionRegs) (data : PreemptCtrlSts) : Prop :=
  ctrlPlaced data &&& ~~~((regs.ctrlSts &&& ~~~ctrlFields) ||| ctrlAsked data) = 0

instance (regs : PreemptionRegs) (data : PreemptCtrlSts) : Decidable (CtrlFits regs data) :=
  inferInstanceAs (Decidable (_ = _))

variable {regs : PreemptionRegs} {data : PreemptCtrlSts}

/-- No byte reaches the bits of the fields that are cleared after it, nor the status bits. -/
theorem placed_disjoint (byte : U8)
    : Field.Disjoint (byte.setWidth 32 <<< verifyTimerValueShift)
        (additionalFragSizeMask <<< additionalFragSizeShift)
      ∧ Field.Disjoint (byte.setWidth 32 <<< verifyTimerValueShift) disablePreemptionVerify
      ∧ Field.Disjoint (byte.setWidth 32 <<< additionalFragSizeShift) disablePreemptionVerify
      ∧ Field.Disjoint (byte.setWidth 32 <<< verifyTimerValueShift) ctrlStatusBits
      ∧ Field.Disjoint (byte.setWidth 32 <<< additionalFragSizeShift) ctrlStatusBits
      ∧ Field.Disjoint (byte.setWidth 32) ctrlStatusBits := by
  revert byte
  decide +kernel

/-- The word that is written: the register outside the fields, and the three bytes at their places.
-/
theorem preemptionCtrlWord_eq (data : PreemptCtrlSts) (value : U32)
    : preemptionCtrlWord data value = (value &&& ~~~ctrlFields) ||| ctrlPlaced data := by
  obtain ⟨frag, disable, -⟩ := placed_disjoint data.verifyTimerValue
  obtain ⟨-, -, disable', -⟩ := placed_disjoint data.additionalFragSize
  have both : Field.Disjoint ((data.verifyTimerValue.setWidth 32 <<< verifyTimerValueShift)
      ||| (data.additionalFragSize.setWidth 32 <<< additionalFragSizeShift) : U32)
      disablePreemptionVerify := by
    unfold Field.Disjoint at disable disable' ⊢
    rw [or_and disable', disable]
  unfold preemptionCtrlWord ctrlPlaced ctrlFields
  dsimp only
  rw [or_and_not frag, BitVec.or_assoc, or_and_not both]
  simp only [BitVec.not_or, BitVec.and_assoc, BitVec.or_assoc]


/-- The register keeps its status bits, which the request does not reach. -/
theorem ctrlSts_axienetPreemptionCtrl (regs : PreemptionRegs) (data : PreemptCtrlSts)
    : (axienetPreemptionCtrl (some data) regs).2.ctrlSts
      = (regs.ctrlSts &&& ~~~ctrlFields) ||| ctrlPlaced data := by
  obtain ⟨-, -, -, timer, -⟩ := placed_disjoint data.verifyTimerValue
  obtain ⟨-, -, -, -, frag, -⟩ := placed_disjoint data.additionalFragSize
  obtain ⟨-, -, -, -, -, disable⟩ := placed_disjoint data.disablePreempVerify
  have beyond : Field.Disjoint (ctrlPlaced data) ctrlStatusBits := by
    unfold ctrlPlaced
    unfold Field.Disjoint at timer frag disable ⊢
    rw [or_and disable, or_and frag, timer]
  have kept : regs.ctrlSts &&& ctrlStatusBits
      = (regs.ctrlSts &&& ~~~ctrlFields) &&& ctrlStatusBits := (clear_and (by decide)).symm
  change (preemptionCtrlWord data regs.ctrlSts &&& ~~~ctrlStatusBits)
    ||| (regs.ctrlSts &&& ctrlStatusBits) = _
  rw [preemptionCtrlWord_eq, or_and_not beyond, kept, BitVec.or_assoc,
    BitVec.or_comm (ctrlPlaced data), ← BitVec.or_assoc, not_and_or_and]

/-- What is asked for is a part of what is put. -/
theorem asked_or_placed (data : PreemptCtrlSts)
    : ctrlAsked data ||| ctrlPlaced data = ctrlPlaced data := by
  unfold ctrlAsked ctrlPlaced
  ext i within
  simp only [BitVec.getElem_or, BitVec.getElem_and]
  generalize (data.verifyTimerValue.setWidth 32 <<< verifyTimerValueShift : U32)[i] = timer
  generalize (data.additionalFragSize.setWidth 32 <<< additionalFragSizeShift : U32)[i] = frag
  generalize (data.disablePreempVerify.setWidth 32 : U32)[i] = disable
  cases timer <;> cases frag <;> cases disable <;> simp

/-- The fields of bytes as their remainders. -/
theorem toNat_fields (byte : U8)
    : (byte &&& 0x7f).toNat = byte.toNat % 2 ^ 7 ∧ (byte &&& 3).toNat = byte.toNat % 4
      ∧ (byte &&& 1).toNat = byte.toNat % 2 := by
  revert byte
  decide +kernel

/-- The status tells the fields of a request exactly if the control register has them. -/
theorem told_iff (regs : PreemptionRegs) (data : PreemptCtrlSts)
    : ((axienetPreemptionSts regs).ctrl.verifyTimerValue.toNat
          = data.verifyTimerValue.toNat % 2 ^ 7
        ↔ regs.ctrlSts &&& (verifyTimerValueMask <<< verifyTimerValueShift)
          = (data.verifyTimerValue.setWidth 32 <<< verifyTimerValueShift)
            &&& (verifyTimerValueMask <<< verifyTimerValueShift))
      ∧ ((axienetPreemptionSts regs).ctrl.additionalFragSize.toNat
          = data.additionalFragSize.toNat % 4
        ↔ regs.ctrlSts &&& (additionalFragSizeMask <<< additionalFragSizeShift)
          = (data.additionalFragSize.setWidth 32 <<< additionalFragSizeShift)
            &&& (additionalFragSizeMask <<< additionalFragSizeShift))
      ∧ ((axienetPreemptionSts regs).ctrl.disablePreempVerify.toNat
          = data.disablePreempVerify.toNat % 2
        ↔ regs.ctrlSts &&& disablePreemptionVerify
          = data.disablePreempVerify.setWidth 32 &&& disablePreemptionVerify) := by
  refine ⟨?_, ?_, ?_⟩
  · rw [← (toNat_fields _).1, BitVec.toNat_inj]
    exact read_eq_iff regs.ctrlSts data.verifyTimerValue 0x7f
      (show verifyTimerValueShift + 8 ≤ 32 by decide)
  · rw [← (toNat_fields _).2.1, BitVec.toNat_inj]
    exact read_eq_iff regs.ctrlSts data.additionalFragSize 3
      (show additionalFragSizeShift + 8 ≤ 32 by decide)
  · have read := read_eq_iff regs.ctrlSts data.disablePreempVerify 1 (show 0 + 8 ≤ 32 by decide)
    rw [← (toNat_fields _).2.2, BitVec.toNat_inj]
    simp only [BitVec.ushiftRight_zero, BitVec.shiftLeft_zero] at read
    exact read

/-- A request is taken exactly if no bit of it that lies beyond its field makes a difference. -/
theorem ctrlRight_iff (regs : PreemptionRegs) (data : PreemptCtrlSts)
    : CtrlRight regs data ↔ CtrlFits regs data := by
  have written := ctrlSts_axienetPreemptionCtrl regs data
  have asked : (axienetPreemptionCtrl (some data) regs).2.ctrlSts
      = ((regs.ctrlSts &&& ~~~ctrlFields) ||| ctrlAsked data) ||| ctrlPlaced data := by
    rw [written, BitVec.or_assoc, asked_or_placed]
  have fits : CtrlFits regs data
      ↔ (axienetPreemptionCtrl (some data) regs).2.ctrlSts
        = (regs.ctrlSts &&& ~~~ctrlFields) ||| ctrlAsked data := by
    rw [asked, or_eq_self_iff]
    rfl
  obtain ⟨timer, frag, disable⟩ := told_iff (axienetPreemptionCtrl (some data) regs).2 data
  rw [fits, ctrlAsked, ctrlFields, eq_fields_iff (by decide) (by decide) (by decide)]
  constructor
  · intro right
    exact ⟨timer.mp right.verifyTimerValue, frag.mp right.additionalFragSize,
      disable.mp right.disablePreempVerify, right.others⟩
  · rintro ⟨timerKept, fragKept, disableKept, others⟩
    exact ⟨rfl, timer.mpr timerKept, frag.mpr fragKept, disable.mpr disableKept, others⟩

-----------------------------------------------------------------------------------------
-- The settings that a user overrides
-----------------------------------------------------------------------------------------

def userHoldRelEnableValue : U32 := 1#32 <<< 31
def userHoldTimeMask : U32 := 0x1ff
def userHoldTimeShift : Nat := 16
def userRelTimeMask : U32 := 0x3f
def userRelTimeShift : Nat := 8
def guardBandOverrunCntIncOverride : U32 := 1#32 <<< 3
def holdRelWindowOverride : U32 := 1#32 <<< 2
def holdTimeOverride : U32 := 1#32 <<< 1
def relTimeOverride : U32 := 1#32

def holdRelEnableSts : U32 := 1#32 <<< 31
def holdTimeStsMask : U32 := 0x1ff
def holdTimeStsShift : Nat := 16
def relTimeStsMask : U32 := 0x3f
def relTimeStsShift : Nat := 8
def pmacHoldReqSts : U32 := 1#32

/-- `struct qbu_prog_override`, with the widths of its bit fields. -/
structure QbuProgOverride where
  enableValue : BitVec 1
  userHoldTime : BitVec 9
  userRelTime : BitVec 6
  guardBand : BitVec 1
  holdRelWindow : BitVec 1
  holdTimeOverride : BitVec 1
  relTimeOverride : BitVec 1
  deriving DecidableEq, Repr

structure QbuProg where
  user : QbuProgOverride
  set : U8
  deriving DecidableEq, Repr

def qbuWindow : U8 := 1#8
def qbuGuardBand : U8 := 1#8 <<< 1
def qbuHoldTime : U8 := 1#8 <<< 2
def qbuRelTime : U8 := 1#8 <<< 3

structure QbuCoreStatus where
  holdTime : U16
  relTime : U8
  holdRelEn : BitVec 1
  pmacHoldReq : BitVec 1
  deriving DecidableEq, Repr

structure QbuAllStatus where
  prog : QbuProgOverride
  core : QbuCoreStatus
  deriving DecidableEq, Repr

/-- `axienet_qbu_user_override`: a flag of one or more bits, set or cleared. -/
def overrideFlag (mask : U32) (on : Bool) (value : U32) : U32 :=
  if on then value ||| mask else value &&& ~~~mask

/-- `axienet_qbu_user_override`: a time with its flag, which is cleared where it is withdrawn. -/
def overrideTime (flag mask : U32) (shift : Nat) (on : Bool) (time value : U32) : U32 :=
  if on then ((value ||| flag) &&& ~~~(mask <<< shift)) ||| (time <<< shift)
  else (value &&& ~~~flag) &&& ~~~(mask <<< shift)

def overrideWindow (data : QbuProg) (value : U32) : U32 :=
  if data.set &&& qbuWindow ≠ 0 then
    overrideFlag holdRelWindowOverride (data.user.holdRelWindow ≠ 0)
      (overrideFlag userHoldRelEnableValue (data.user.holdRelWindow ≠ 0) value)
  else value

def overrideGuardBand (data : QbuProg) (value : U32) : U32 :=
  if data.set &&& qbuGuardBand ≠ 0 then
    overrideFlag guardBandOverrunCntIncOverride (data.user.guardBand ≠ 0) value
  else value

def overrideHoldTime (data : QbuProg) (value : U32) : U32 :=
  if data.set &&& qbuHoldTime ≠ 0 then
    overrideTime holdTimeOverride userHoldTimeMask userHoldTimeShift
      (data.user.holdTimeOverride ≠ 0) (data.user.userHoldTime.setWidth 32) value
  else value

def overrideRelTime (data : QbuProg) (value : U32) : U32 :=
  if data.set &&& qbuRelTime ≠ 0 then
    overrideTime relTimeOverride userRelTimeMask userRelTimeShift (data.user.relTimeOverride ≠ 0)
      (data.user.userRelTime.setWidth 32) value
  else value

/-- `axienet_qbu_user_override`: the word that is written. -/
def qbuOverrideWord (data : QbuProg) (value : U32) : U32 :=
  overrideRelTime data (overrideHoldTime data (overrideGuardBand data (overrideWindow data value)))

/-- `axienet_qbu_user_override`, where `data` is what could be copied from the user. -/
def axienetQbuUserOverride (data : Option QbuProg) (regs : PreemptionRegs)
    : Int × PreemptionRegs :=
  match data with
  | none => (-efault, regs)
  | some data => (0, { regs with userOverride := qbuOverrideWord data regs.userOverride })

/-- `axienet_qbu_sts`: the structure that is copied to the user. Its other fields are what `stack`
has there.
-/
def axienetQbuSts (stack : QbuAllStatus) (regs : PreemptionRegs) : QbuAllStatus where
  prog :=
    { stack.prog with
      holdRelWindow := if regs.userOverride &&& userHoldRelEnableValue ≠ 0 then 1 else 0
      guardBand := if regs.userOverride &&& guardBandOverrunCntIncOverride ≠ 0 then 1 else 0
      userHoldTime := ((regs.userOverride >>> userHoldTimeShift) &&& userHoldTimeMask).setWidth 9
      userRelTime := ((regs.userOverride >>> userRelTimeShift) &&& userRelTimeMask).setWidth 6 }
  core :=
    { holdTime := ((regs.coreSts >>> holdTimeStsShift) &&& holdTimeStsMask).setWidth 16
      relTime := ((regs.coreSts >>> relTimeStsShift) &&& relTimeStsMask).setWidth 8
      holdRelEn := if regs.coreSts &&& holdRelEnableSts ≠ 0 then 1 else 0
      pmacHoldReq := (regs.coreSts &&& pmacHoldReqSts).setWidth 1 }

/-- The settings that a request may select. -/
inductive QbuSetting
  | window
  | guardBand
  | holdTime
  | relTime
  deriving DecidableEq, Repr

namespace QbuSetting

/-- The bit that selects a setting. -/
def selection : QbuSetting → U8
  | window => qbuWindow
  | guardBand => qbuGuardBand
  | holdTime => qbuHoldTime
  | relTime => qbuRelTime

/-- What a request makes of a setting that it selects, 0 where it withdraws it. -/
def asked (user : QbuProgOverride) : QbuSetting → Nat
  | window => user.holdRelWindow.toNat
  | guardBand => user.guardBand.toNat
  | holdTime => if user.holdTimeOverride ≠ 0 then user.userHoldTime.toNat else 0
  | relTime => if user.relTimeOverride ≠ 0 then user.userRelTime.toNat else 0

/-- What the status tells of a setting. -/
def told (status : QbuAllStatus) : QbuSetting → Nat
  | window => status.prog.holdRelWindow.toNat
  | guardBand => status.prog.guardBand.toNat
  | holdTime => status.prog.userHoldTime.toNat
  | relTime => status.prog.userRelTime.toNat

end QbuSetting

/-- A request that arrives and selects a setting. -/
def Selects (setting : QbuSetting) : Option QbuProg → Prop
  | none => False
  | some data => data.set &&& setting.selection ≠ 0

/-- One request after the other. -/
def overrideStep (regs : PreemptionRegs) (request : Option QbuProg) : PreemptionRegs :=
  (axienetQbuUserOverride request regs).2

/-- Each setting is told as the last request that selected it asked, or as it was before if none
did.
-/
def SettingsTold (stack : QbuAllStatus) (regs : PreemptionRegs) (requests : List (Option QbuProg))
    : Prop :=
  ∀ setting : QbuSetting,
    (∀ before data after, requests = before ++ some data :: after → Selects setting (some data)
      → (∀ later ∈ after, ¬ Selects setting later)
      → setting.told (axienetQbuSts stack (run overrideStep regs requests))
        = setting.asked data.user)
    ∧ ((∀ request ∈ requests, ¬ Selects setting request)
      → setting.told (axienetQbuSts stack (run overrideStep regs requests))
        = setting.told (axienetQbuSts stack regs))

/-- The bits of the override register by which a setting is told. -/
def QbuSetting.bits : QbuSetting → U32
  | window => userHoldRelEnableValue
  | guardBand => guardBandOverrunCntIncOverride
  | holdTime => userHoldTimeMask <<< userHoldTimeShift
  | relTime => userRelTimeMask <<< userRelTimeShift

/-- What a request puts there. -/
def QbuSetting.placed (user : QbuProgOverride) : QbuSetting → U32
  | window => if user.holdRelWindow ≠ 0 then userHoldRelEnableValue else 0
  | guardBand => if user.guardBand ≠ 0 then guardBandOverrunCntIncOverride else 0
  | holdTime =>
      if user.holdTimeOverride ≠ 0 then
        (user.userHoldTime.setWidth 32 <<< userHoldTimeShift)
          &&& (userHoldTimeMask <<< userHoldTimeShift)
      else 0
  | relTime =>
      if user.relTimeOverride ≠ 0 then
        (user.userRelTime.setWidth 32 <<< userRelTimeShift)
          &&& (userRelTimeMask <<< userRelTimeShift)
      else 0

variable {mask flag other time value : U32} {on : Bool} {shift : Nat}

theorem overrideFlag_self (mask value : U32) (on : Bool)
    : overrideFlag mask on value &&& mask = if on then mask else 0 := by
  cases on with
  | true => exact or_and_self
  | false => exact clear_and_self

theorem overrideFlag_and (apart : Field.Disjoint mask other)
    : overrideFlag mask on value &&& other = value &&& other := by
  cases on with
  | true => exact or_and apart
  | false => exact clear_and apart

theorem overrideTime_self (flag mask : U32) (shift : Nat) (on : Bool) (time value : U32)
    : overrideTime flag mask shift on time value &&& (mask <<< shift)
      = if on then (time <<< shift) &&& (mask <<< shift) else 0 := by
  cases on with
  | true => exact clear_or_and
  | false => exact clear_and_self

theorem overrideTime_and (flagApart : Field.Disjoint flag other)
    (maskApart : Field.Disjoint (mask <<< shift) other)
    (timeApart : Field.Disjoint (time <<< shift) other)
    : overrideTime flag mask shift on time value &&& other = value &&& other := by
  cases on with
  | true =>
      change (((value ||| flag) &&& ~~~(mask <<< shift)) ||| (time <<< shift)) &&& other = _
      rw [or_and timeApart, clear_and maskApart, or_and flagApart]
  | false =>
      change ((value &&& ~~~flag) &&& ~~~(mask <<< shift)) &&& other = _
      rw [clear_and maskApart, clear_and flagApart]

theorem overrideWindow_and {data : QbuProg}
    (enable : Field.Disjoint userHoldRelEnableValue other)
    (override : Field.Disjoint holdRelWindowOverride other)
    : overrideWindow data value &&& other = value &&& other := by
  unfold overrideWindow
  split
  · rw [overrideFlag_and override, overrideFlag_and enable]
  · rfl

theorem overrideGuardBand_and {data : QbuProg}
    (apart : Field.Disjoint guardBandOverrunCntIncOverride other)
    : overrideGuardBand data value &&& other = value &&& other := by
  unfold overrideGuardBand
  split
  · exact overrideFlag_and apart
  · rfl

/-- A hold time lies within its field. -/
theorem holdTime_disjoint (time : BitVec 9)
    : Field.Disjoint (time.setWidth 32 <<< userHoldTimeShift) userHoldRelEnableValue
      ∧ Field.Disjoint (time.setWidth 32 <<< userHoldTimeShift) guardBandOverrunCntIncOverride
      ∧ Field.Disjoint (time.setWidth 32 <<< userHoldTimeShift)
        (userRelTimeMask <<< userRelTimeShift) := by
  revert time
  decide +kernel

/-- A release time lies within its field. -/
theorem relTime_disjoint (time : BitVec 6)
    : Field.Disjoint (time.setWidth 32 <<< userRelTimeShift) userHoldRelEnableValue
      ∧ Field.Disjoint (time.setWidth 32 <<< userRelTimeShift) guardBandOverrunCntIncOverride
      ∧ Field.Disjoint (time.setWidth 32 <<< userRelTimeShift)
        (userHoldTimeMask <<< userHoldTimeShift) := by
  revert time
  decide +kernel

theorem overrideHoldTime_and {data : QbuProg}
    (flagApart : Field.Disjoint holdTimeOverride other)
    (maskApart : Field.Disjoint (userHoldTimeMask <<< userHoldTimeShift) other)
    (timeApart : Field.Disjoint (data.user.userHoldTime.setWidth 32 <<< userHoldTimeShift) other)
    : overrideHoldTime data value &&& other = value &&& other := by
  unfold overrideHoldTime
  split
  · exact overrideTime_and flagApart maskApart timeApart
  · rfl

theorem overrideRelTime_and {data : QbuProg}
    (flagApart : Field.Disjoint relTimeOverride other)
    (maskApart : Field.Disjoint (userRelTimeMask <<< userRelTimeShift) other)
    (timeApart : Field.Disjoint (data.user.userRelTime.setWidth 32 <<< userRelTimeShift) other)
    : overrideRelTime data value &&& other = value &&& other := by
  unfold overrideRelTime
  split
  · exact overrideTime_and flagApart maskApart timeApart
  · rfl

/-- A request puts the settings that it selects: what comes after leaves their bits alone. -/
theorem qbuOverrideWord_selected {data : QbuProg} {setting : QbuSetting}
    (selected : data.set &&& setting.selection ≠ 0) (value : U32)
    : qbuOverrideWord data value &&& setting.bits = setting.placed data.user := by
  obtain ⟨holdWindow, holdGuard, -⟩ := holdTime_disjoint data.user.userHoldTime
  obtain ⟨relWindow, relGuard, relHold⟩ := relTime_disjoint data.user.userRelTime
  cases setting with
  | window =>
      simp only [QbuSetting.bits, QbuSetting.selection, QbuSetting.placed, qbuOverrideWord]
        at selected ⊢
      rw [overrideRelTime_and (by decide) (by decide) relWindow,
        overrideHoldTime_and (by decide) (by decide) holdWindow, overrideGuardBand_and (by decide),
        overrideWindow, if_pos selected, overrideFlag_and (by decide), overrideFlag_self]
      simp only [decide_eq_true_eq]
  | guardBand =>
      simp only [QbuSetting.bits, QbuSetting.selection, QbuSetting.placed, qbuOverrideWord]
        at selected ⊢
      rw [overrideRelTime_and (by decide) (by decide) relGuard,
        overrideHoldTime_and (by decide) (by decide) holdGuard, overrideGuardBand,
        if_pos selected, overrideFlag_self]
      simp only [decide_eq_true_eq]
  | holdTime =>
      simp only [QbuSetting.bits, QbuSetting.selection, QbuSetting.placed, qbuOverrideWord]
        at selected ⊢
      rw [overrideRelTime_and (by decide) (by decide) relHold, overrideHoldTime, if_pos selected,
        overrideTime_self]
      simp only [decide_eq_true_eq]
  | relTime =>
      simp only [QbuSetting.bits, QbuSetting.selection, QbuSetting.placed, qbuOverrideWord]
        at selected ⊢
      rw [overrideRelTime, if_pos selected, overrideTime_self]
      simp only [decide_eq_true_eq]

/-- It keeps the bits of the other settings. -/
theorem qbuOverrideWord_and {data : QbuProg} {setting : QbuSetting}
    (unselected : ¬ data.set &&& setting.selection ≠ 0) (value : U32)
    : qbuOverrideWord data value &&& setting.bits = value &&& setting.bits := by
  obtain ⟨holdWindow, holdGuard, holdRel⟩ := holdTime_disjoint data.user.userHoldTime
  obtain ⟨relWindow, relGuard, relHold⟩ := relTime_disjoint data.user.userRelTime
  cases setting with
  | window =>
      simp only [QbuSetting.bits, QbuSetting.selection, qbuOverrideWord] at unselected ⊢
      rw [overrideRelTime_and (by decide) (by decide) relWindow,
        overrideHoldTime_and (by decide) (by decide) holdWindow, overrideGuardBand_and (by decide),
        overrideWindow, if_neg unselected]
  | guardBand =>
      simp only [QbuSetting.bits, QbuSetting.selection, qbuOverrideWord] at unselected ⊢
      rw [overrideRelTime_and (by decide) (by decide) relGuard,
        overrideHoldTime_and (by decide) (by decide) holdGuard, overrideGuardBand,
        if_neg unselected, overrideWindow_and (by decide) (by decide)]
  | holdTime =>
      simp only [QbuSetting.bits, QbuSetting.selection, qbuOverrideWord] at unselected ⊢
      rw [overrideRelTime_and (by decide) (by decide) relHold, overrideHoldTime,
        if_neg unselected, overrideGuardBand_and (by decide),
        overrideWindow_and (by decide) (by decide)]
  | relTime =>
      simp only [QbuSetting.bits, QbuSetting.selection, qbuOverrideWord] at unselected ⊢
      rw [overrideRelTime, if_neg unselected,
        overrideHoldTime_and (by decide) (by decide) holdRel, overrideGuardBand_and (by decide),
        overrideWindow_and (by decide) (by decide)]

/-- A field as wide as its mask reads as the value that is put there, or nothing. -/
theorem read_put {n : Nat} {word : U32} {on : Prop} [Decidable on] {time : BitVec n} {shift : Nat}
    (fits : shift + n ≤ 32)
    (placed : word &&& ((BitVec.allOnes n).setWidth 32 <<< shift)
      = if on then (time.setWidth 32 <<< shift) &&& ((BitVec.allOnes n).setWidth 32 <<< shift)
        else 0)
    : (((word >>> shift) &&& (BitVec.allOnes n).setWidth 32).setWidth n).toNat
      = if on then time.toNat else 0 := by
  by_cases taken : on
  · rw [if_pos taken] at placed ⊢
    rw [(read_eq_iff word time (BitVec.allOnes n) fits).mpr placed, BitVec.and_allOnes]
  · rw [if_neg taken] at placed ⊢
    have none := (read_eq_iff word 0#n (BitVec.allOnes n) fits).mpr (placed.trans (by simp))
    rw [none, BitVec.zero_and, BitVec.toNat_ofNat, Nat.zero_mod]

/-- Words with the same field read the same. -/
theorem read_congr {n : Nat} {word word' : U32} {shift : Nat} (fits : shift + n ≤ 32)
    (same : word' &&& ((BitVec.allOnes n).setWidth 32 <<< shift)
      = word &&& ((BitVec.allOnes n).setWidth 32 <<< shift))
    : ((word' >>> shift) &&& (BitVec.allOnes n).setWidth 32).setWidth n
      = ((word >>> shift) &&& (BitVec.allOnes n).setWidth 32).setWidth n := by
  generalize read : ((word >>> shift) &&& (BitVec.allOnes n).setWidth 32).setWidth n = time
  have placed := (read_eq_iff word time (BitVec.allOnes n) fits).mp
    (read.trans BitVec.and_allOnes.symm)
  rw [(read_eq_iff word' time (BitVec.allOnes n) fits).mpr (same.trans placed),
    BitVec.and_allOnes]

/-- What is told of a setting is told by its bits. -/
theorem told_congr (stack : QbuAllStatus) {regs regs' : PreemptionRegs} {setting : QbuSetting}
    (same : regs'.userOverride &&& setting.bits = regs.userOverride &&& setting.bits)
    : setting.told (axienetQbuSts stack regs') = setting.told (axienetQbuSts stack regs) := by
  cases setting with
  | window =>
      simp only [QbuSetting.bits] at same
      simp only [QbuSetting.told, axienetQbuSts, same]
  | guardBand =>
      simp only [QbuSetting.bits] at same
      simp only [QbuSetting.told, axienetQbuSts, same]
  | holdTime =>
      exact congrArg BitVec.toNat
        (read_congr (n := 9) (show userHoldTimeShift + 9 ≤ 32 by decide) same)
  | relTime =>
      exact congrArg BitVec.toNat
        (read_congr (n := 6) (show userRelTimeShift + 6 ≤ 32 by decide) same)

/-- What is told of a setting is what was put for it. -/
theorem told_of_placed (stack : QbuAllStatus) {regs : PreemptionRegs} {user : QbuProgOverride}
    {setting : QbuSetting} (placed : regs.userOverride &&& setting.bits = setting.placed user)
    : setting.told (axienetQbuSts stack regs) = setting.asked user := by
  have flag : ∀ bit : BitVec 1, (if bit ≠ 0 then (1 : BitVec 1) else 0) = bit := by decide
  cases setting with
  | window =>
      simp only [QbuSetting.bits, QbuSetting.placed] at placed
      simp only [QbuSetting.told, axienetQbuSts, placed, QbuSetting.asked]
      rw [← flag user.holdRelWindow]
      split <;> rfl
  | guardBand =>
      simp only [QbuSetting.bits, QbuSetting.placed] at placed
      simp only [QbuSetting.told, axienetQbuSts, placed, QbuSetting.asked]
      rw [← flag user.guardBand]
      split <;> rfl
  | holdTime =>
      exact read_put (show userHoldTimeShift + 9 ≤ 32 by decide) placed
  | relTime =>
      exact read_put (show userRelTimeShift + 6 ≤ 32 by decide) placed

/-- A request that does not select a setting, or does not arrive, keeps what is told of it. -/
theorem told_overrideStep_of_unselected (stack : QbuAllStatus) (setting : QbuSetting)
    (regs : PreemptionRegs) (request : Option QbuProg) (unselected : ¬ Selects setting request)
    : setting.told (axienetQbuSts stack (overrideStep regs request))
      = setting.told (axienetQbuSts stack regs) := by
  cases request with
  | none => rfl
  | some data => exact told_congr stack (qbuOverrideWord_and unselected regs.userOverride)

/-- In every run of requests each setting is told as the last one that selected it asked. -/
theorem settingsTold (stack : QbuAllStatus) (regs : PreemptionRegs)
    (requests : List (Option QbuProg))
    : SettingsTold stack regs requests := by
  intro setting
  have keeps := told_overrideStep_of_unselected stack setting
  constructor
  · rintro before data after rfl selected last
    rw [read_run_of_last (fun regs => setting.told (axienetQbuSts stack regs)) keeps last]
    exact told_of_placed stack (qbuOverrideWord_selected selected _)
  · intro others
    exact read_run_of_others (fun regs => setting.told (axienetQbuSts stack regs)) keeps others

/-- A request to the control register is taken exactly if its bytes fit, and the overridden settings
are told as they were asked last, whatever else the requests select.
-/
theorem preemption_settings (regs : PreemptionRegs) (data : PreemptCtrlSts)
    (stack : QbuAllStatus) (requests : List (Option QbuProg))
    : (CtrlRight regs data ↔ CtrlFits regs data) ∧ SettingsTold stack regs requests :=
  ⟨ctrlRight_iff regs data, settingsTold stack regs requests⟩

/-- A fragment size of 16 turns up in the verify timer. -/
theorem fragment_size_spills
    : ¬ CtrlRight ⟨0, 0, 0, 0, 0⟩ ⟨0, 0, 10, 16, 0⟩ := by
  intro right
  have timer := right.verifyTimerValue
  revert timer
  decide

end TsnTrdp.Mac
