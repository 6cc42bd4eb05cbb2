import TsnTrdp.Switch.FdbEvents
import TsnTrdp.Switch.Settings
import TsnTrdp.Lib.Slice

/-! The entries of the switch's CAM. One function packs an entry into three words and another
unpacks them; its key is two words more.
-/

namespace TsnTrdp.Switch.CamTable

open TsnTrdp Run Slice Settings
open TsnTrdp.Switch.Fdb (CamKey Mac portEp portMac1 portMac2 portExOnly portExEp)

-----------------------------------------------------------------------------------------
-- The device
-----------------------------------------------------------------------------------------

inductive Errno
  | einval
  deriving DecidableEq, Repr

def xasCamIpvEn : U32 := 0x1
def xasCamEpMgmtqEn : U32 := 0x2
def xasCamValid : U32 := 0x4

def sdlCamVlanShift : Nat := 16
def sdlCamVlanMask : U32 := 0xFFF
def sdlCamIpvShift : Nat := 29
def sdlCamIpvMask : U32 := 0x7
def sdlEnCamIpvShift : Nat := 28
def sdlCamPortListShift : Nat := 8
def sdlGateidShift : Nat := 16
def sdlCamEpMgmtqEn : U32 := 0x8000
def sdlCamEpActionListShift : Nat := 0
def sdlCamMacActionListShift : Nat := 4

/-- What the CAM holds under a key: the words TV1, TV2 and PORT_ACT. -/
structure CamWords where
  tv1 : U32
  tv2 : U32
  portAct : U32
  deriving DecidableEq, Repr

/-- The CAM with its registers. Entries are found by the words KEY1 and KEY2. -/
structure CamDevice where
  key1 : U32
  key2 : U32
  tv1 : U32
  tv2 : U32
  portAct : U32
  entries : U32 × U32 → Option CamWords

/-- `SDL_CAM_ADD_ENTRY` in the control register. -/
def CamDevice.addEntry (dev : CamDevice) : CamDevice :=
  { dev with
    entries := Function.update dev.entries (dev.key1, dev.key2)
      (some ⟨dev.tv1, dev.tv2, dev.portAct⟩) }

/-- `SDL_CAM_DELETE_ENTRY`. -/
def CamDevice.deleteEntry (dev : CamDevice) : CamDevice :=
  { dev with entries := Function.update dev.entries (dev.key1, dev.key2) none }

/-- `SDL_CAM_READ_ENTRY`: the words of an entry that is found are put into the registers, and the
found bit is set.
-/
def CamDevice.readEntry (dev : CamDevice) : CamDevice × Bool :=
  match dev.entries (dev.key1, dev.key2) with
  | some words =>
      ({ dev with tv1 := words.tv1, tv2 := words.tv2, portAct := words.portAct }, true)
  | none => (dev, false)

/-- How the CAM answers while the driver polls: it is ready in time, it has done a command in time,
and whether it carries one out for which the driver has given up.
-/
structure CamWait where
  ready : Bool
  done : Bool
  late : Bool
  deriving DecidableEq, Repr

/-- What is read of `ep_lp`. -/
structure Features where
  exEp : Bool
  packetSwitch : Bool
  deriving DecidableEq, Repr

-----------------------------------------------------------------------------------------
-- Setting and reading an entry
-----------------------------------------------------------------------------------------

/-- The first four bytes of an address, the first of them on top. -/
def macHigh (mac : Mac) : U32 :=
  (mac[0].setWidth 32 <<< 24) ||| (mac[1].setWidth 32 <<< 16) ||| (mac[2].setWidth 32 <<< 8)
    ||| mac[3].setWidth 32

/-- Its last two bytes and a VLAN id. -/
def macLowVlan (mac : Mac) (vlanid : U16) : U32 :=
  ((mac[4].setWidth 32 <<< 8) ||| mac[5].setWidth 32)
    ||| ((vlanid.setWidth 32 &&& sdlCamVlanMask) <<< sdlCamVlanShift)

def key1Word (data : CamStruct) : U32 := macHigh data.destAddr
def key2Word (data : CamStruct) : U32 := macLowVlan data.destAddr data.vlanid
def tv1Word (data : CamStruct) : U32 := macHigh data.srcAddr

/-- `tv2`. -/
def tv2Word (data : CamStruct) : U32 :=
  let enIpv : U32 := if data.flags &&& xasCamIpvEn ≠ 0 then 1 else 0
  macLowVlan data.srcAddr data.tvVlanid
    ||| ((data.ipv.setWidth 32 &&& sdlCamIpvMask) <<< sdlCamIpvShift)
    ||| (enIpv <<< sdlEnCamIpvShift)

/-- `port_action`, in a build with Qci or CB, as is the default. -/
def portAction (data : CamStruct) : U32 :=
  let act : U32 :=
    if data.fwdPort &&& portEp ≠ 0 then data.epPortAct.setWidth 32 <<< sdlCamEpActionListShift
    else 0
  let act :=
    if data.fwdPort &&& portMac1 ≠ 0 ∨ data.fwdPort &&& portMac2 ≠ 0 then
      act ||| (data.macPortAct.setWidth 32 <<< sdlCamMacActionListShift)
    else act
  let act := if data.flags &&& xasCamEpMgmtqEn ≠ 0 then act ||| sdlCamEpMgmtqEn else act
  let act := act ||| (data.fwdPort.setWidth 32 <<< sdlCamPortListShift)
  act ||| (data.gateId.setWidth 32 <<< sdlGateidShift)

/-- The registers that an entry is put into. -/
def CamDevice.load (dev : CamDevice) (data : CamStruct) : CamDevice :=
  { dev with
    key1 := key1Word data
    key2 := key2Word data
    tv1 := tv1Word data
    tv2 := tv2Word data
    portAct := portAction data }

/-- The test of the extended endpoint. `&&` binds more tightly than `||` in the source. -/
def portsRefused (features : Features) (data : CamStruct) (add : Bool) : Bool :=
  let exOnly : Bool := data.fwdPort &&& portExOnly ≠ 0
  let exEp : Bool := data.fwdPort &&& portExEp ≠ 0
  (add && exOnly || exEp) && (!features.exEp || (exOnly && exEp && !features.packetSwitch))

/-- `tsn_switch_cam_set`. -/
def tsnSwitchCamSet (features : Features) (wait : CamWait) (data : CamStruct) (add : Bool)
    (dev : CamDevice)
    : Except Errno Unit × CamDevice :=
  if !wait.ready then (.error .einval, dev)
  else if portsRefused features data add then (.error .einval, dev)
  else
    let loaded := dev.load data
    let after := if add then loaded.addEntry else loaded.deleteEntry
    if wait.done then (.ok (), after)
    else (.error .einval, if wait.late then after else loaded)

/-- A byte of a word: `(u_value >> shift) & 0xFF`. -/
def wordByte (word : U32) (shift : Nat) : Byte := ((word >>> shift) &&& 0xFF).setWidth 8

/-- What `read_cam_entry` makes of the words of an entry. -/
def unpack (features : Features) (data : CamStruct) (words : CamWords) : CamStruct :=
  { data with
    srcAddr := #v[wordByte words.tv1 24, wordByte words.tv1 16, wordByte words.tv1 8,
      wordByte words.tv1 0, wordByte words.tv2 8, wordByte words.tv2 0]
    tvVlanid := ((words.tv2 >>> sdlCamVlanShift) &&& sdlCamVlanMask).setWidth 16
    ipv := ((words.tv2 >>> sdlCamIpvShift) &&& sdlCamIpvMask).setWidth 8
    fwdPort :=
      if features.exEp then ((words.portAct >>> sdlCamPortListShift) &&& 0x1F).setWidth 8
      else ((words.portAct >>> sdlCamPortListShift) &&& 0x7).setWidth 8
    epPortAct := ((words.portAct >>> sdlCamEpActionListShift) &&& 0xF).setWidth 8
    macPortAct := ((words.portAct >>> sdlCamMacActionListShift) &&& 0xF).setWidth 8
    gateId := ((words.portAct >>> sdlGateidShift) &&& 0xFF).setWidth 8
    flags :=
      (if (words.tv2 >>> sdlEnCamIpvShift) &&& 0x1 ≠ 0 then data.flags ||| xasCamIpvEn
        else data.flags) ||| xasCamValid }

/-- `read_cam_entry`, where the CAM answers in time: what is copied to the caller. -/
def readCamEntry (features : Features) (data : CamStruct) (dev : CamDevice)
    : CamStruct × CamDevice :=
  let (dev, found) := { dev with key1 := key1Word data, key2 := key2Word data }.readEntry
  if found then (unpack features data ⟨dev.tv1, dev.tv2, dev.portAct⟩, dev)
  else ({ data with flags := data.flags &&& ~~~xasCamValid }, dev)

/-- The calls that work on the CAM. -/
inductive CamOp
  | set (wait : CamWait) (data : CamStruct) (add : Bool)
  | read (data : CamStruct)

def camStep (features : Features) (dev : CamDevice) : CamOp → CamDevice
  | .set wait data add => (tsnSwitchCamSet features wait data add dev).2
  | .read data => (readCamEntry features data dev).2

-----------------------------------------------------------------------------------------
-- Keys
-----------------------------------------------------------------------------------------

/-- The key of an entry: the destination and the VLAN id. -/
def keyOf (data : CamStruct) : CamKey := ⟨data.destAddr, data.vlanid.setWidth 12⟩

/-- The words that it is found by. -/
def keyWords (data : CamStruct) : U32 × U32 := (key1Word data, key2Word data)

/-- The call adds or deletes the entry of a key. -/
def Touches (key : CamKey) : CamOp → Prop
  | .set _ data _ => keyOf data = key
  | .read _ => False

variable {features : Features} {wait : CamWait} {data other reader : CamStruct} {dev : CamDevice}
  {word : U32}

theorem vlanMask_low : sdlCamVlanMask = low 32 12 := rfl
theorem ipvMask_low : sdlCamIpvMask = low 32 3 := rfl

/-- The bytes of the high word. -/
theorem extract_macHigh (mac : Mac)
    : (macHigh mac).extractLsb' 24 8 = mac[0] ∧ (macHigh mac).extractLsb' 16 8 = mac[1]
      ∧ (macHigh mac).extractLsb' 8 8 = mac[2] ∧ (macHigh mac).extractLsb' 0 8 = mac[3] := by
  refine ⟨?_, ?_, ?_, ?_⟩ <;>
    simp (disch := decide) only [macHigh, BitVec.extractLsb'_or, extract_shift,
      extract_shift_setWidth, extract_setWidth, extract_shift_above, extract_low,
      BitVec.setWidth_setWidth_of_le, BitVec.setWidth_eq, BitVec.ofNat_eq_ofNat, BitVec.zero_or,
      BitVec.or_zero]

/-- The bytes of the low word, the VLAN id, and nothing above. -/
theorem extract_macLowVlan (mac : Mac) (vlanid : U16)
    : (macLowVlan mac vlanid).extractLsb' 8 8 = mac[4]
      ∧ (macLowVlan mac vlanid).extractLsb' 0 8 = mac[5]
      ∧ (macLowVlan mac vlanid).extractLsb' 16 12 = vlanid.setWidth 12
      ∧ (macLowVlan mac vlanid).extractLsb' 28 1 = 0
      ∧ (macLowVlan mac vlanid).extractLsb' 29 3 = 0 := by
  refine ⟨?_, ?_, ?_, ?_, ?_⟩ <;>
    simp (disch := decide) only [macLowVlan, vlanMask_low, sdlCamVlanShift, BitVec.extractLsb'_or,
      extract_masked, extract_shift, setWidth_masked, extract_shift_setWidth, extract_setWidth,
      extract_shift_above, extract_low, BitVec.setWidth_setWidth_of_le, BitVec.setWidth_eq,
      BitVec.ofNat_eq_ofNat, BitVec.zero_or, BitVec.or_zero]

theorem macHigh_eq_iff {mac mac' : Mac}
    : macHigh mac = macHigh mac'
      ↔ mac[0] = mac'[0] ∧ mac[1] = mac'[1] ∧ mac[2] = mac'[2] ∧ mac[3] = mac'[3] := by
  obtain ⟨zero, one, two, three⟩ := extract_macHigh mac
  obtain ⟨zero', one', two', three'⟩ := extract_macHigh mac'
  constructor
  · intro same
    rw [same] at zero one two three
    exact ⟨zero.symm.trans zero', one.symm.trans one', two.symm.trans two',
      three.symm.trans three'⟩
  · rintro ⟨zero, one, two, three⟩
    rw [macHigh, macHigh, zero, one, two, three]

/-- The masked id is that of its low bits. -/
theorem masked_vlan (vlanid : U16)
    : vlanid.setWidth 32 &&& sdlCamVlanMask = (vlanid.setWidth 12).setWidth 32 := by
  have masked := @shift_masked 32 0 12 (vlanid.setWidth 32)
  rw [BitVec.ushiftRight_zero, extract_low (by decide),
    BitVec.setWidth_setWidth_of_le vlanid (by decide)] at masked
  exact masked

theorem macLowVlan_eq_iff {mac mac' : Mac} {vlanid vlanid' : U16}
    : macLowVlan mac vlanid = macLowVlan mac' vlanid'
      ↔ mac[4] = mac'[4] ∧ mac[5] = mac'[5] ∧ vlanid.setWidth 12 = vlanid'.setWidth 12 := by
  obtain ⟨four, five, vlan, -, -⟩ := extract_macLowVlan mac vlanid
  obtain ⟨four', five', vlan', -, -⟩ := extract_macLowVlan mac' vlanid'
  constructor
  · intro same
    rw [same] at four five vlan
    exact ⟨four.symm.trans four', five.symm.trans five', vlan.symm.trans vlan'⟩
  · rintro ⟨four, five, vlan⟩
    rw [macLowVlan, macLowVlan, masked_vlan, masked_vlan, four, five, vlan]

/-- Entries are found by their keys. -/
theorem keyWords_eq_iff : keyWords data = keyWords other ↔ keyOf data = keyOf other := by
  rw [keyWords, keyWords, Prod.mk.injEq, key1Word, key1Word, key2Word, key2Word, macHigh_eq_iff,
    macLowVlan_eq_iff, keyOf, keyOf, CamKey.mk.injEq]
  constructor
  · rintro ⟨⟨zero, one, two, three⟩, four, five, vlan⟩
    refine ⟨?_, vlan⟩
    ext i hi : 1
    interval_cases i <;> assumption
  · rintro ⟨same, vlan⟩
    simp [same, vlan]

-----------------------------------------------------------------------------------------
-- Fields of the port-action word
-----------------------------------------------------------------------------------------

/-- The entry goes to a MAC port. -/
def ToMac (data : CamStruct) : Prop :=
  data.fwdPort &&& portMac1 ≠ 0 ∨ data.fwdPort &&& portMac2 ≠ 0

/-- The actions that are stored are those of four bits. -/
structure NarrowActions (data : CamStruct) : Prop where
  ep : data.fwdPort &&& portEp ≠ 0 → data.epPortAct.toNat < 16
  mac : ToMac data → data.macPortAct.toNat < 16

/-- The endpoint's action, where it is stored. -/
def epPart (data : CamStruct) : Byte := if data.fwdPort &&& portEp ≠ 0 then data.epPortAct else 0

/-- The action of the MAC ports, where it is stored. -/
def macPart (data : CamStruct) : Byte :=
  if data.fwdPort &&& portMac1 ≠ 0 ∨ data.fwdPort &&& portMac2 ≠ 0 then data.macPortAct else 0

/-- The management flag. -/
def mgmtPart (data : CamStruct) : BitVec 1 :=
  if data.flags &&& xasCamEpMgmtqEn ≠ 0 then 1 else 0

theorem portAction_eq (data : CamStruct)
    : portAction data
      = (epPart data).setWidth 32 ||| ((macPart data).setWidth 32 <<< 4)
        ||| ((mgmtPart data).setWidth 32 <<< 15) ||| (data.fwdPort.setWidth 32 <<< 8)
        ||| (data.gateId.setWidth 32 <<< 16) := by
  have empty : (0#8).setWidth 32 = 0#32 := rfl
  have clear : (0#1).setWidth 32 <<< 15 = 0#32 := rfl
  have set : (1#1).setWidth 32 <<< 15 = sdlCamEpMgmtqEn := rfl
  simp only [portAction, epPart, macPart, mgmtPart, sdlCamEpActionListShift,
    sdlCamMacActionListShift, sdlCamPortListShift, sdlGateidShift, BitVec.shiftLeft_zero]
  split <;> split <;> split <;>
    simp only [empty, clear, set, BitVec.ofNat_eq_ofNat, BitVec.zero_shiftLeft, BitVec.or_zero,
      BitVec.zero_or]

/-- Four bits of a byte are all of it. -/
theorem setWidth_nibble {b : Byte} (small : b.toNat < 16)
    : b.setWidth 32 = (b.setWidth 4).setWidth 32 := by
  apply BitVec.eq_of_toNat_eq
  rw [BitVec.toNat_setWidth, BitVec.toNat_setWidth, BitVec.toNat_setWidth]
  omega

theorem nibble_toNat {b : Byte} (small : b.toNat < 16) : (b.setWidth 4).toNat = b.toNat := by
  rw [BitVec.toNat_setWidth]
  exact Nat.mod_eq_of_lt small

theorem NarrowActions.epPart_lt (narrow : NarrowActions data) : (epPart data).toNat < 16 := by
  unfold epPart
  split
  · rename_i stored
    exact narrow.ep stored
  · decide

theorem NarrowActions.macPart_lt (narrow : NarrowActions data) : (macPart data).toNat < 16 := by
  unfold macPart
  split
  · rename_i stored
    exact narrow.mac stored
  · decide

theorem extract_gate (data : CamStruct)
    : (portAction data).extractLsb' 16 8 = data.gateId := by
  rw [portAction_eq]
  simp (disch := decide) only [BitVec.extractLsb'_or, extract_shift, extract_shift_setWidth,
    extract_setWidth, BitVec.setWidth_setWidth_of_le, BitVec.setWidth_eq, BitVec.ofNat_eq_ofNat,
    BitVec.zero_or]

theorem extract_epAction (data : CamStruct)
    : (portAction data).extractLsb' 0 4 = (epPart data).setWidth 4 := by
  rw [portAction_eq]
  simp (disch := decide) only [BitVec.extractLsb'_or, extract_shift_above, extract_low,
    BitVec.setWidth_setWidth_of_le, BitVec.ofNat_eq_ofNat, BitVec.or_zero]

theorem NarrowActions.extract_macAction (narrow : NarrowActions data)
    : (portAction data).extractLsb' 4 4 = (macPart data).setWidth 4 := by
  rw [portAction_eq, setWidth_nibble narrow.epPart_lt]
  simp (disch := decide) only [BitVec.extractLsb'_or, extract_shift, extract_setWidth,
    extract_shift_above, BitVec.setWidth_setWidth_of_le, BitVec.ofNat_eq_ofNat, BitVec.zero_or,
    BitVec.or_zero]

theorem NarrowActions.extract_ports (narrow : NarrowActions data) {n : Nat} (few : n ≤ 7)
    : (portAction data).extractLsb' 8 n = data.fwdPort.setWidth n := by
  have apart : Apart 8 n 4 4 := .inr (by omega)
  rw [portAction_eq, setWidth_nibble narrow.macPart_lt]
  simp (disch := omega) only [BitVec.extractLsb'_or, extract_shift, extract_setWidth,
    extract_shift_above, extract_shift_setWidth apart, BitVec.setWidth_setWidth_of_le,
    BitVec.ofNat_eq_ofNat, BitVec.zero_or, BitVec.or_zero]

theorem extract_tv2 (data : CamStruct)
    : (tv2Word data).extractLsb' 8 8 = data.srcAddr[4]
      ∧ (tv2Word data).extractLsb' 0 8 = data.srcAddr[5]
      ∧ (tv2Word data).extractLsb' 16 12 = data.tvVlanid.setWidth 12
      ∧ (tv2Word data).extractLsb' 29 3 = data.ipv.setWidth 3
      ∧ (tv2Word data).extractLsb' 28 1 = if data.flags &&& xasCamIpvEn ≠ 0 then 1 else 0 := by
  obtain ⟨four, five, vlan, en, ipv⟩ := extract_macLowVlan data.srcAddr data.tvVlanid
  have bit : (if data.flags &&& xasCamIpvEn ≠ 0 then 1 else 0 : U32)
      = (if data.flags &&& xasCamIpvEn ≠ 0 then 1 else 0 : BitVec 1).setWidth 32 := by
    split <;> rfl
  simp only [tv2Word, bit]
  refine ⟨?_, ?_, ?_, ?_, ?_⟩ <;>
    simp (disch := decide) only [sdlCamIpvShift, sdlEnCamIpvShift, ipvMask_low,
      BitVec.extractLsb'_or, four, five, vlan, en, ipv, extract_masked, extract_shift,
      setWidth_masked, extract_shift_setWidth, BitVec.setWidth_setWidth_of_le,
      BitVec.setWidth_eq, BitVec.ofNat_eq_ofNat, BitVec.zero_or, BitVec.or_zero]

-----------------------------------------------------------------------------------------
-- What is read back
-----------------------------------------------------------------------------------------

/-- `enum switch_port`, without the port that is none. -/
def ports : List Byte := [portEp, portMac1, portMac2, portExOnly, portExEp]

/-- An entry as it is read agrees with the entry as it was written. -/
structure ReadsBack (written read : CamStruct) : Prop where
  valid : read.flags &&& xasCamValid ≠ 0
  srcAddr : read.srcAddr = written.srcAddr
  tvVlanid : read.tvVlanid.toNat = written.tvVlanid.toNat % 2 ^ 12
  ipv : read.ipv.toNat = written.ipv.toNat % 2 ^ 3
  ipvEn : read.flags &&& xasCamIpvEn = written.flags &&& xasCamIpvEn
  fwdPort : ∀ port ∈ ports, read.fwdPort &&& port = written.fwdPort &&& port
  epPortAct : written.fwdPort &&& portEp ≠ 0 → read.epPortAct = written.epPortAct
  macPortAct : ToMac written → read.macPortAct = written.macPortAct
  gateId : read.gateId = written.gateId

/-- The reader does not bring the flag that enables the ipv, or the entry has it. -/
def FlagClear (written reader : CamStruct) : Prop :=
  reader.flags &&& xasCamIpvEn = 0 ∨ written.flags &&& xasCamIpvEn ≠ 0

/-- The words that an entry is stored as. -/
def wordsOf (data : CamStruct) : CamWords := ⟨tv1Word data, tv2Word data, portAction data⟩

theorem wordByte_eq (word : U32) (shift : Nat)
    : wordByte word shift = word.extractLsb' shift 8 := by
  have field := @shift_masked 32 shift 8 word
  rw [wordByte, show (0xFF : U32) = low 32 8 from rfl, field,
    BitVec.setWidth_setWidth_of_le _ (by decide), BitVec.setWidth_eq]

/-- A field of fewer bits than the member it is read into. -/
theorem field_toNat {word : U32} {shift n w : Nat} (small : n ≤ w) (fits : n ≤ 32)
    : (((word >>> shift) &&& low 32 n).setWidth w).toNat = (word.extractLsb' shift n).toNat := by
  have bound : (word.extractLsb' shift n).toNat < 2 ^ n := (word.extractLsb' shift n).isLt
  have word' : 2 ^ n ≤ 2 ^ 32 := Nat.pow_le_pow_right (by decide) fits
  have member : 2 ^ n ≤ 2 ^ w := Nat.pow_le_pow_right (by decide) small
  rw [shift_masked, BitVec.toNat_setWidth, BitVec.toNat_setWidth,
    Nat.mod_eq_of_lt (Nat.lt_of_lt_of_le bound word'),
    Nat.mod_eq_of_lt (Nat.lt_of_lt_of_le bound member)]

theorem unpack_srcAddr (features : Features) (reader data : CamStruct)
    : (unpack features reader (wordsOf data)).srcAddr = data.srcAddr := by
  obtain ⟨zero, one, two, three⟩ := extract_macHigh data.srcAddr
  obtain ⟨four, five, -⟩ := extract_tv2 data
  simp only [unpack, wordsOf, wordByte_eq, tv1Word, zero, one, two, three, four, five]
  ext i hi : 1
  interval_cases i <;> rfl

/-- The bit says whether the ipv is enabled. -/
theorem enIpv_iff (data : CamStruct)
    : (tv2Word data >>> sdlEnCamIpvShift) &&& 0x1 ≠ 0 ↔ data.flags &&& xasCamIpvEn ≠ 0 := by
  obtain ⟨-, -, -, -, en⟩ := extract_tv2 data
  have bit : (tv2Word data >>> sdlEnCamIpvShift) &&& 0x1
      = ((tv2Word data).extractLsb' 28 1).setWidth 32 := @shift_masked 32 28 1 (tv2Word data)
  rw [bit, en]
  by_cases enabled : data.flags &&& xasCamIpvEn ≠ 0
  · rw [if_pos enabled]
    exact ⟨fun _ => enabled, fun _ => by decide⟩
  · rw [if_neg enabled]
    exact ⟨fun set => absurd rfl set, fun set => absurd set enabled⟩

theorem unpack_flags (features : Features) (reader data : CamStruct)
    : (unpack features reader (wordsOf data)).flags
      = (if data.flags &&& xasCamIpvEn ≠ 0 then reader.flags ||| xasCamIpvEn else reader.flags)
        ||| xasCamValid := by
  have same := enIpv_iff data
  by_cases enabled : data.flags &&& xasCamIpvEn ≠ 0
  · rw [if_pos enabled, unpack, wordsOf, if_pos (same.mpr enabled)]
  · rw [if_neg enabled, unpack, wordsOf, if_neg (fun set => enabled (same.mp set))]

/-- The flag that is read is the entry's, or the reader's own. -/
theorem unpack_ipvEn (features : Features) (reader data : CamStruct)
    : (unpack features reader (wordsOf data)).flags &&& xasCamIpvEn = data.flags &&& xasCamIpvEn
      ↔ FlagClear data reader := by
  have apart : Field.Disjoint xasCamValid xasCamIpvEn := by
    unfold Field.Disjoint
    decide
  rw [unpack_flags, Field.or_and apart, FlagClear]
  by_cases enabled : data.flags &&& xasCamIpvEn ≠ 0
  · have all : data.flags &&& xasCamIpvEn = xasCamIpvEn := by
      rw [show xasCamIpvEn = BitVec.twoPow 32 0 by decide, BitVec.and_twoPow] at enabled ⊢
      exact if_pos (by_contra fun clear => enabled (if_neg clear))
    rw [if_pos enabled, Field.or_and_self, all]
    exact ⟨fun _ => .inr (by decide), fun _ => rfl⟩
  · have none : data.flags &&& xasCamIpvEn = 0 := not_not.mp enabled
    rw [if_neg enabled, none]
    exact ⟨.inl, fun clear => clear.resolve_right (not_not_intro rfl)⟩

theorem unpack_valid (features : Features) (reader data : CamStruct)
    : (unpack features reader (wordsOf data)).flags &&& xasCamValid ≠ 0 := by
  rw [unpack_flags, Field.or_and_self]
  decide

/-- Ports that were not refused are read, whatever the width of the port list. -/
theorem unpack_fwdPort (narrow : NarrowActions data)
    (taken : portsRefused features data true = false) (reader : CamStruct)
    : ∀ port ∈ ports, (unpack features reader (wordsOf data)).fwdPort &&& port
        = data.fwdPort &&& port := by
  have read : ∀ n ≤ 7, (((portAction data >>> sdlCamPortListShift) &&& low 32 n).setWidth 8)
      = data.fwdPort &&& low 8 n := by
    intro n few
    have masked := @shift_masked 8 0 n data.fwdPort
    rw [BitVec.ushiftRight_zero, extract_low (by omega)] at masked
    rw [masked, shift_masked, sdlCamPortListShift, narrow.extract_ports few,
      BitVec.setWidth_setWidth_of_le _ (by decide)]
  intro port member
  cases exEp : features.exEp with
  | true =>
      have listed : low 8 5 &&& port = port := by
        revert port
        decide
      have list : (unpack features reader (wordsOf data)).fwdPort = data.fwdPort &&& low 8 5 := by
        rw [← read 5 (by decide), unpack, exEp, if_pos rfl]
        rfl
      rw [list, BitVec.and_assoc, listed]
  | false =>
      have list : (unpack features reader (wordsOf data)).fwdPort = data.fwdPort &&& low 8 3 := by
        rw [← read 3 (by decide), unpack, exEp, if_neg Bool.false_ne_true]
        rfl
      -- a port list of three bits is enough, as the request had no other ports
      have refused : data.fwdPort &&& portExOnly = 0 ∧ data.fwdPort &&& portExEp = 0 := by
        simpa [portsRefused, exEp] using taken
      rw [list, BitVec.and_assoc]
      simp only [ports, List.mem_cons, List.not_mem_nil, or_false] at member
      rcases member with rfl | rfl | rfl | rfl | rfl
      · rfl
      · rfl
      · rfl
      · rw [refused.1]
        exact BitVec.and_zero
      · rw [refused.2]
        exact BitVec.and_zero

/-- The step: an entry that was taken is read back exactly if its actions are of four bits and the
flag is clear.
-/
theorem unpack_readsBack (taken : portsRefused features data true = false) (reader : CamStruct)
    : ReadsBack data (unpack features reader (wordsOf data))
      ↔ NarrowActions data ∧ FlagClear data reader := by
  have nibble : ∀ (word : U32) (shift : Nat),
      BitVec.toNat (((word >>> shift) &&& 0xF).setWidth 8) < 16 := by
    intro word shift
    rw [show (0xF : U32) = low 32 4 from rfl, field_toNat (by decide) (by decide)]
    exact BitVec.isLt _
  constructor
  · intro back
    -- an action that is read has four bits
    have clear := (unpack_ipvEn features reader data).mp back.ipvEn
    refine ⟨⟨fun stored => ?_, fun stored => ?_⟩, clear⟩
    · rw [← back.epPortAct stored]
      exact nibble _ _
    · rw [← back.macPortAct stored]
      exact nibble _ _
  · rintro ⟨narrow, clear⟩
    obtain ⟨-, -, vlan, ipv, -⟩ := extract_tv2 data
    exact {
      valid := unpack_valid features reader data
      srcAddr := unpack_srcAddr features reader data
      tvVlanid := by
        have field := @field_toNat (tv2Word data) 16 12 16 (by decide) (by decide)
        rw [vlan, BitVec.toNat_setWidth] at field
        exact field
      ipv := by
        have field := @field_toNat (tv2Word data) 29 3 8 (by decide) (by decide)
        rw [ipv, BitVec.toNat_setWidth] at field
        exact field
      ipvEn := (unpack_ipvEn features reader data).mpr clear
      fwdPort := unpack_fwdPort narrow taken reader
      epPortAct := by
        intro stored
        have field := @field_toNat (portAction data) 0 4 8 (by decide) (by decide)
        rw [extract_epAction, epPart, if_pos stored, nibble_toNat (narrow.ep stored)] at field
        exact BitVec.eq_of_toNat_eq field
      macPortAct := by
        intro stored
        have field := @field_toNat (portAction data) 4 4 8 (by decide) (by decide)
        have part : macPart data = data.macPortAct := if_pos stored
        rw [narrow.extract_macAction, part, nibble_toNat (narrow.mac stored)] at field
        exact BitVec.eq_of_toNat_eq field
      gateId := (wordByte_eq _ _).trans (extract_gate data)
    }

-----------------------------------------------------------------------------------------
-- Runs
-----------------------------------------------------------------------------------------

theorem readCamEntry_found {words : CamWords} (found : dev.entries (keyWords reader) = some words)
    : (readCamEntry features reader dev).1 = unpack features reader words := by
  have found' : dev.entries (key1Word reader, key2Word reader) = some words := found
  simp [readCamEntry, CamDevice.readEntry, found']

theorem readCamEntry_missing (missing : dev.entries (keyWords reader) = none)
    : (readCamEntry features reader dev).1
      = { reader with flags := reader.flags &&& ~~~xasCamValid } := by
  have missing' : dev.entries (key1Word reader, key2Word reader) = none := missing
  simp [readCamEntry, CamDevice.readEntry, missing']

/-- What is reported depends on what is found under the key alone. -/
theorem readCamEntry_congr {dev' : CamDevice}
    (same : dev.entries (keyWords reader) = dev'.entries (keyWords reader))
    : (readCamEntry features reader dev).1 = (readCamEntry features reader dev').1 := by
  cases found : dev'.entries (keyWords reader) with
  | none => rw [readCamEntry_missing found, readCamEntry_missing (same.trans found)]
  | some words => rw [readCamEntry_found found, readCamEntry_found (same.trans found)]

theorem readCamEntry_entries (features : Features) (data : CamStruct) (dev : CamDevice)
    : (readCamEntry features data dev).2.entries = dev.entries := by
  cases found : dev.entries (key1Word data, key2Word data) <;>
    simp [readCamEntry, CamDevice.readEntry, found]

/-- What a call can do to the entries: nothing, or change the one of its key. -/
theorem tsnSwitchCamSet_entries (features : Features) (wait : CamWait) (data : CamStruct)
    (add : Bool) (dev : CamDevice)
    : (tsnSwitchCamSet features wait data add dev).2.entries = dev.entries
      ∨ ∃ entry, (tsnSwitchCamSet features wait data add dev).2.entries
        = Function.update dev.entries (keyWords data) entry := by
  unfold tsnSwitchCamSet
  split
  · exact .inl rfl
  · split
    · exact .inl rfl
    · have changed : ∃ entry,
          (if add then (dev.load data).addEntry else (dev.load data).deleteEntry).entries
            = Function.update dev.entries (keyWords data) entry := by
        cases add
        · exact ⟨none, rfl⟩
        · exact ⟨some (wordsOf data), rfl⟩
      dsimp only
      split
      · exact .inr changed
      · split
        · exact .inr changed
        · exact .inl rfl

/-- A call that succeeds has put its entry into the CAM. -/
theorem tsnSwitchCamSet_added {after : CamDevice}
    (added : tsnSwitchCamSet features wait data true dev = (.ok (), after))
    : portsRefused features data true = false
      ∧ after.entries (keyWords data) = some (wordsOf data) := by
  unfold tsnSwitchCamSet at added
  split at added
  · cases added
  · split at added
    · cases added
    · rename_i taken
      dsimp only at added
      split at added
      · cases added
        exact ⟨Bool.eq_false_iff.mpr taken, Function.update_self ..⟩
      · cases added

/-- A call for one key leaves what is found under others. -/
theorem tsnSwitchCamSet_others (features : Features) (wait : CamWait) (add : Bool)
    (dev : CamDevice) (apart : keyOf other ≠ keyOf data)
    : (tsnSwitchCamSet features wait data add dev).2.entries (keyWords other)
      = dev.entries (keyWords other) := by
  rcases tsnSwitchCamSet_entries features wait data add dev with same | ⟨entry, same⟩
  · rw [same]
  · rw [same, Function.update_of_ne (fun words => apart (keyWords_eq_iff.mp words))]

/-- A run that does not touch a key leaves what is found under it, by induction on the run. -/
theorem run_entries {ops : List CamOp} (untouched : ∀ op ∈ ops, ¬ Touches (keyOf data) op)
    : (run (camStep features) dev ops).entries (keyWords data) = dev.entries (keyWords data) := by
  have keeps : ∀ (dev : CamDevice) op, ¬ Touches (keyOf data) op
      → (camStep features dev op).entries (keyWords data) = dev.entries (keyWords data) := by
    intro dev op other
    cases op with
    | set wait changed add =>
        exact tsnSwitchCamSet_others features wait add dev fun same => other same.symm
    | read asked => exact congrFun (readCamEntry_entries features asked dev) _
  exact read_run_of_others (fun dev : CamDevice => dev.entries (keyWords data)) keeps untouched

/-- Adding an entry changes nothing of what is read under another key. -/
def AddsLeaveOthers (features : Features) : Prop :=
  ∀ wait data dev other, keyOf other ≠ keyOf data
    → (readCamEntry features other (tsnSwitchCamSet features wait data true dev).2).1
      = (readCamEntry features other dev).1

/-- After an add that succeeds, and calls that do not touch its key, the entry is read as it was
written, and others as they were, exactly if its stored actions are of four bits and the reader has
not set the flag of the ipv itself.
-/
theorem cam_entries_read_back {after : CamDevice}
    (added : tsnSwitchCamSet features wait data true dev = (.ok (), after)) (ops : List CamOp)
    (untouched : ∀ op ∈ ops, ¬ Touches (keyOf data) op) (reader : CamStruct)
    (asked : keyOf reader = keyOf data)
    : ReadsBack data (readCamEntry features reader (run (camStep features) after ops)).1
        ∧ AddsLeaveOthers features
      ↔ NarrowActions data ∧ FlagClear data reader := by
  obtain ⟨taken, stored⟩ := tsnSwitchCamSet_added added
  have found : (run (camStep features) after ops).entries (keyWords reader)
      = some (wordsOf data) := by
    rw [keyWords_eq_iff.mpr asked, run_entries untouched, stored]
  have others : AddsLeaveOthers features := fun wait _ dev _ apart =>
    readCamEntry_congr (tsnSwitchCamSet_others features wait true dev apart)
  rw [readCamEntry_found found, unpack_readsBack taken reader]
  exact ⟨fun kept => kept.1, fun fits => ⟨fits, others⟩⟩

/-- A CAM without entries. -/
def emptyCam : CamDevice := ⟨0, 0, 0, 0, 0, fun _ => none⟩

/-- A CAM that answers in time. -/
def prompt : CamWait := ⟨true, true, false⟩

/-- An entry for the first MAC port, with `macPortAct` as its action. -/
def mac1Entry (macPortAct : Byte) : CamStruct where
  srcAddr := #v[0, 0x0a, 0x35, 0, 1, 0x0e]
  destAddr := #v[0x01, 0x80, 0xc2, 0, 0, 0x21]
  vlanid := 10
  tvVlanid := 20
  fwdPort := portMac1
  gateId := 3
  ipv := 5
  flags := xasCamIpvEn
  epPortAct := 0
  macPortAct

/-- The CAM after it has been added, in a design without an extended endpoint. -/
def mac1Cam (macPortAct : Byte) : CamDevice :=
  (tsnSwitchCamSet ⟨false, false⟩ prompt (mac1Entry macPortAct) true emptyCam).2

theorem mac1Cam_added (macPortAct : Byte)
    : tsnSwitchCamSet ⟨false, false⟩ prompt (mac1Entry macPortAct) true emptyCam
      = (.ok (), mac1Cam macPortAct) := by
  have taken : portsRefused ⟨false, false⟩ (mac1Entry macPortAct) true = false := by
    have exOnly : portMac1 &&& portExOnly = 0 := by decide
    have exEp : portMac1 &&& portExEp = 0 := by decide
    simp [portsRefused, mac1Entry, exOnly, exEp]
  have set : ∀ dev, tsnSwitchCamSet ⟨false, false⟩ prompt (mac1Entry macPortAct) true dev
      = (.ok (), (dev.load (mac1Entry macPortAct)).addEntry) := by
    intro dev
    simp [tsnSwitchCamSet, prompt, taken]
  rw [mac1Cam, set]

theorem cam_entries_read_back_mac1
    : ReadsBack (mac1Entry 2) (readCamEntry ⟨false, false⟩ (mac1Entry 0)
          (run (camStep ⟨false, false⟩) (mac1Cam 2) [.read (mac1Entry 2)])).1
        ∧ AddsLeaveOthers ⟨false, false⟩
      ↔ NarrowActions (mac1Entry 2) ∧ FlagClear (mac1Entry 2) (mac1Entry 0) :=
  cam_entries_read_back (mac1Cam_added 2) [.read (mac1Entry 2)]
    (fun op member touched => by rw [List.mem_singleton.mp member] at touched; exact touched)
    (mac1Entry 0) rfl

/-- An action of more than four bits runs into the list of ports: the endpoint gets the frames too.
-/
theorem wide_action_adds_port
    : tsnSwitchCamSet ⟨false, false⟩ prompt (mac1Entry 0x10) true emptyCam = (.ok (), mac1Cam 0x10)
        ∧ (mac1Entry 0x10).fwdPort = portMac1
        ∧ (readCamEntry ⟨false, false⟩ (mac1Entry 0) (mac1Cam 0x10)).1.fwdPort
          = portMac1 ||| portEp
        ∧ ¬ ReadsBack (mac1Entry 0x10)
          (readCamEntry ⟨false, false⟩ (mac1Entry 0) (mac1Cam 0x10)).1 := by
  have listed : (readCamEntry ⟨false, false⟩ (mac1Entry 0) (mac1Cam 0x10)).1.fwdPort
      = portMac1 ||| portEp := by decide
  refine ⟨mac1Cam_added 0x10, rfl, listed, fun back => ?_⟩
  have port := back.fwdPort portEp (by decide)
  rw [listed] at port
  exact absurd port (by decide)

end TsnTrdp.Switch.CamTable
