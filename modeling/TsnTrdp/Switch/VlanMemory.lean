import TsnTrdp.Lib.Field
import Mathlib.Logic.Function.Basic

/-! The switch's VLAN membership memory, which the driver reaches through a control and a
data register, and the driver's call that adds ports to a VLAN or removes them.
-/

namespace TsnTrdp.Switch

open TsnTrdp

abbrev U32 := BitVec 32
abbrev Byte := BitVec 8

/-- VLAN ids as the memory is indexed. -/
abbrev Vlan := BitVec 12

def portVlanIdShift : Nat := 16
def portVlanIdMask : U32 := 0xFFF
def portVlanIpvShift : Nat := 13
def portVlanEnIpvShift : Nat := 12
def portVlanWrite : U32 := 0x3
def portVlanRead : U32 := 0x1
def portVlanWriteReadEnBit : U32 := 1 <<< 0
def portVlanPortListValidBit : U32 := 1 <<< 3
def portVlanHwAddrLearnBit : U32 := 1 <<< 9
def sdlCamIpvMask : Byte := 0x7
def portStatusMask : U32 := 0x7

/-- The entry of a VLAN: its word, and the priority or status bits of the control word that it
was written with.
-/
structure VlanEntry where
  data : U32
  attr : U32
  deriving DecidableEq, Repr

structure VlanMemory where
  entries : Vlan → VlanEntry
  ctrlReg : U32
  dataReg : U32

/-- The priority or status of a control word, with its enable bit. -/
def attrMask : U32 := 0xF000

/-- The VLAN that a control word names. -/
def commandVlan (value : U32) : Vlan := (value >>> portVlanIdShift).setWidth 12

/-- A write to the control register, until the command is done: the read command loads the
data register, the write command stores it.
-/
def VlanMemory.command (s : VlanMemory) (value : U32) : VlanMemory :=
  let vlan := commandVlan value
  if value &&& portVlanWrite = portVlanRead then
    { s with
      ctrlReg := (value &&& ~~~(portVlanWriteReadEnBit ||| attrMask)) ||| (s.entries vlan).attr
      dataReg := (s.entries vlan).data }
  else if value &&& portVlanWrite = portVlanWrite then
    { s with
      ctrlReg := value &&& ~~~portVlanWriteReadEnBit
      entries := Function.update s.entries vlan ⟨s.dataReg, value &&& attrMask⟩ }
  else { s with ctrlReg := value }

/-- What `tsn_switch_vlan_add` reads of `struct port_vlan`. -/
structure PortVlan where
  enIpv : Bool
  enPortStatus : Bool
  portNum : Byte
  ipv : Byte
  portStatus : Byte
  vlanId : BitVec 16
  deriving DecidableEq, Repr

inductive Errno
  | eperm
  deriving DecidableEq, Repr

/-- The control word of a command for a VLAN. -/
def vlanControl (vlanId : BitVec 16) (command : U32) : U32 :=
  ((vlanId.setWidth 32 &&& portVlanIdMask) <<< portVlanIdShift) ||| command

/-- The priority or status that a request adds to its control word. -/
def vlanAttr (value : Byte) : U32 :=
  ((value &&& sdlCamIpvMask).setWidth 32 <<< portVlanIpvShift) ||| (1 <<< portVlanEnIpvShift)

/-- `tsn_switch_vlan_add`. The word that it changes is the one that the data register held
before the read command.
-/
def tsnSwitchVlanAdd (s : VlanMemory) (port : PortVlan) (add : Bool)
    : Except Errno Unit × VlanMemory :=
  let uValue1 := s.dataReg
  let learning : Bool := uValue1 &&& portVlanHwAddrLearnBit = 0
  if learning && port.enIpv then (.error .eperm, s)
  else if !learning && port.enPortStatus then (.error .eperm, s)
  else
    let s := s.command (vlanControl port.vlanId portVlanRead)
    let uValue1 :=
      if add then uValue1 ||| (portVlanPortListValidBit ||| port.portNum.setWidth 32)
      else uValue1 &&& ~~~(port.portNum.setWidth 32)
    let s := { s with dataReg := uValue1 }
    let uValue := vlanControl port.vlanId portVlanWrite
    let uValue := if port.enPortStatus then uValue ||| vlanAttr port.portStatus else uValue
    let uValue := if port.enIpv then uValue ||| vlanAttr port.ipv else uValue
    (.ok (), s.command uValue)

variable {s : VlanMemory} {vlanId : BitVec 16} {low : U32}

/-- The bits below the VLAN id do not change the VLAN that a control word names. -/
theorem commandVlan_control (small : low.toNat < 2 ^ 16)
    : commandVlan (vlanControl vlanId low) = vlanId.setWidth 12 := by
  have clear : ∀ i (bound : i < 32), 16 ≤ i → low[i] = false := by
    intro i bound high
    rw [← BitVec.getLsbD_eq_getElem, ← BitVec.testBit_toNat]
    exact Nat.testBit_lt_two_pow (Nat.lt_of_lt_of_le small (Nat.pow_le_pow_right Nat.two_pos high))
  ext i hi
  interval_cases i <;> simp [commandVlan, vlanControl, portVlanIdShift, portVlanIdMask, clear]

/-- The VLAN id does not change the command of a control word. -/
theorem control_command : vlanControl vlanId low &&& portVlanWrite = low &&& portVlanWrite := by
  rw [vlanControl, BitVec.or_comm]
  apply Field.or_and
  unfold Field.Disjoint
  ext i hi
  interval_cases i <;> simp [portVlanIdShift, portVlanIdMask, portVlanWrite]

theorem command_read
    : s.command (vlanControl vlanId portVlanRead)
      = { s with
          ctrlReg := (vlanControl vlanId portVlanRead &&& ~~~(portVlanWriteReadEnBit ||| attrMask))
            ||| (s.entries (vlanId.setWidth 12)).attr
          dataReg := (s.entries (vlanId.setWidth 12)).data } := by
  rw [VlanMemory.command, commandVlan_control (by decide), control_command, if_pos (by decide)]

theorem command_write (small : low.toNat < 2 ^ 16) (write : low &&& portVlanWrite = portVlanWrite)
    : s.command (vlanControl vlanId low)
      = { s with
          ctrlReg := vlanControl vlanId low &&& ~~~portVlanWriteReadEnBit
          entries := Function.update s.entries (vlanId.setWidth 12)
            ⟨s.dataReg, vlanControl vlanId low &&& attrMask⟩ } := by
  rw [VlanMemory.command, commandVlan_control small, control_command, if_neg, if_pos write]
  rw [write]
  decide

/-- The word that a call stores, given the word that it starts from. -/
def changedWord (portNum : Byte) (add : Bool) (word : U32) : U32 :=
  if add then word ||| (portVlanPortListValidBit ||| portNum.setWidth 32)
  else word &&& ~~~(portNum.setWidth 32)

/-- A call without priority or status succeeds: it changes the word of the data register and
stores it for its VLAN.
-/
theorem tsnSwitchVlanAdd_plain {port : PortVlan} (add : Bool) (ipv : port.enIpv = false)
    (status : port.enPortStatus = false)
    : ∃ ctrl attr, tsnSwitchVlanAdd s port add
        = (.ok (), {
            entries := Function.update s.entries (port.vlanId.setWidth 12)
              ⟨changedWord port.portNum add s.dataReg, attr⟩
            ctrlReg := ctrl
            dataReg := changedWord port.portNum add s.dataReg }) := by
  simp only [tsnSwitchVlanAdd, ipv, status, Bool.and_false, Bool.false_eq_true, if_false,
    command_read, command_write (by decide : portVlanWrite.toNat < 2 ^ 16) rfl]
  exact ⟨_, _, rfl⟩

end TsnTrdp.Switch
