import TsnTrdp.Switch.FdbEvents
import TsnTrdp.Lib.Slice
import TsnTrdp.Lib.Run

/-! The native VLANs of the ports, each a VLAN id with a priority. The two MAC ports share a
register.
-/

namespace TsnTrdp.Switch.Native

open TsnTrdp Run Slice
open TsnTrdp.Switch.Fdb (portEp portMac1 portMac2)

/-- `struct native_vlan`. -/
structure NativeVlan where
  enIpv : Bool
  portNum : Byte
  ipv : Byte
  vlanId : BitVec 16
  deriving DecidableEq, Repr

/-- The registers at `XAS_EP_PORT_VLAN_OFFSET` and `XAS_MAC_PORT_VLAN_OFFSET`. -/
structure NativeRegs where
  ep : U32
  mac : U32
  deriving DecidableEq, Repr

def portVlanIdMask : U32 := 0xFFF
def sdlCamIpvMask : U32 := 0x7
def nativeMac1PcpShift : Nat := 13
def nativeMac2VlanShift : Nat := 16
def nativeMac2PcpShift : Nat := 29

/-- One case of the switch statement of `tsn_switch_pvid_add`. -/
def putNative (uValue : U32) (port : NativeVlan) (vlanShift pcpShift : Nat) : U32 :=
  let uValue :=
    (uValue &&& ~~~(portVlanIdMask <<< vlanShift)) ||| (port.vlanId.setWidth 32 <<< vlanShift)
  if port.enIpv then
    (uValue &&& ~~~(sdlCamIpvMask <<< pcpShift)) ||| (port.ipv.setWidth 32 <<< pcpShift)
  else uValue

/-- `tsn_switch_pvid_add`, which returns 0. -/
def tsnSwitchPvidAdd (regs : NativeRegs) (port : NativeVlan) : NativeRegs :=
  if port.portNum = portEp then { regs with ep := putNative regs.ep port 0 nativeMac1PcpShift }
  else if port.portNum = portMac1 then
    { regs with mac := putNative regs.mac port 0 nativeMac1PcpShift }
  else if port.portNum = portMac2 then
    { regs with mac := putNative regs.mac port nativeMac2VlanShift nativeMac2PcpShift }
  else regs

/-- One case of the switch statement of `tsn_switch_pvid_get`. -/
def getNative (uValue : U32) (port : NativeVlan) (vlanShift pcpShift : Nat) : NativeVlan :=
  { port with
    vlanId := ((uValue >>> vlanShift) &&& portVlanIdMask).setWidth 16
    ipv := ((uValue >>> pcpShift) &&& sdlCamIpvMask).setWidth 8 }

/-- `tsn_switch_pvid_get`. -/
def tsnSwitchPvidGet (regs : NativeRegs) (port : NativeVlan) : NativeVlan :=
  if port.portNum = portEp then getNative regs.ep port 0 nativeMac1PcpShift
  else if port.portNum = portMac1 then getNative regs.mac port 0 nativeMac1PcpShift
  else if port.portNum = portMac2 then
    getNative regs.mac port nativeMac2VlanShift nativeMac2PcpShift
  else port

-----------------------------------------------------------------------------------------
-- Requests and what is reported after them
-----------------------------------------------------------------------------------------

/-- The registers, and for each port the VLAN id of its last request and the priority of its last
request with `en_ipv`.
-/
structure Requested where
  regs : NativeRegs
  vlan : Byte → Option (BitVec 16)
  ipv : Byte → Option Byte

/-- Before any request. -/
def Requested.start (regs : NativeRegs) : Requested := ⟨regs, fun _ => none, fun _ => none⟩

/-- A request. -/
def Requested.add (s : Requested) (port : NativeVlan) : Requested where
  regs := tsnSwitchPvidAdd s.regs port
  vlan := Function.update s.vlan port.portNum (some port.vlanId)
  ipv := if port.enIpv then Function.update s.ipv port.portNum (some port.ipv) else s.ipv

/-- What is reported of each port is what was last asked for, reduced to its bits. -/
structure Agrees (s : Requested) : Prop where
  vlan
    : ∀ p vlanId, s.vlan p = some vlanId → ∀ asked : NativeVlan, asked.portNum = p
      → (tsnSwitchPvidGet s.regs asked).vlanId.toNat = vlanId.toNat % 2 ^ 12
  ipv
    : ∀ p ipv, s.ipv p = some ipv → ∀ asked : NativeVlan, asked.portNum = p
      → (tsnSwitchPvidGet s.regs asked).ipv.toNat = ipv.toNat % 2 ^ 3

/-- After a request what is reported agrees, and of other ports it is what it was. -/
def PvidPerPort (s : Requested) (port : NativeVlan) : Prop :=
  Agrees (s.add port)
  ∧ ∀ asked : NativeVlan, asked.portNum ≠ port.portNum
    → tsnSwitchPvidGet (s.add port).regs asked = tsnSwitchPvidGet s.regs asked

/-- The ports that have a native VLAN. -/
inductive NativePort
  | ep
  | mac1
  | mac2
  deriving DecidableEq, Repr

namespace NativePort

def num : NativePort → Byte
  | .ep => portEp
  | .mac1 => portMac1
  | .mac2 => portMac2

/-- The port's register. -/
def word (regs : NativeRegs) : NativePort → U32
  | .ep => regs.ep
  | .mac1 | .mac2 => regs.mac

/-- The place of the VLAN id in it; the priority is 13 bits further on. -/
def shift : NativePort → Nat
  | .ep | .mac1 => 0
  | .mac2 => 16

def vlan (regs : NativeRegs) (port : NativePort) : BitVec 12 :=
  (port.word regs).extractLsb' port.shift 12

def pcp (regs : NativeRegs) (port : NativePort) : BitVec 3 :=
  (port.word regs).extractLsb' (port.shift + 13) 3

end NativePort

/-- The request has no bits that get into a field of something else: the bits of its VLAN id from
13 on are in the port's priority already, where that has been asked for and is not asked for now,
and the bits of the first MAC port's priority from 3 on are in the VLAN id of the second.
-/
structure NoOverflow (s : Requested) (port : NativeVlan) : Prop where
  known : ∃ own : NativePort, port.portNum = own.num
  vlanId
    : port.enIpv = false → s.ipv port.portNum ≠ none → ∀ own : NativePort, port.portNum = own.num
      → own.pcp s.regs ||| port.vlanId.extractLsb' 13 3 = own.pcp s.regs
  ipv
    : port.enIpv = true → port.portNum = portMac1
      → NativePort.mac2.vlan s.regs ||| port.ipv.extractLsb' 3 12 = NativePort.mac2.vlan s.regs

variable {regs : NativeRegs} {port asked : NativeVlan} {own other : NativePort}
  {s : Requested} {uValue : U32}

-----------------------------------------------------------------------------------------
-- Fields of a word
-----------------------------------------------------------------------------------------

theorem vlanIdMask_low : portVlanIdMask = low 32 12 := rfl
theorem ipvMask_low : sdlCamIpvMask = low 32 3 := rfl

/-- The word without the priority. -/
theorem extract_putVlan {sh : Nat} (fits : sh ≤ 16)
    : ((uValue &&& ~~~(portVlanIdMask <<< sh)) ||| (port.vlanId.setWidth 32 <<< sh)).extractLsb'
        sh 12 = port.vlanId.setWidth 12 := by
  rw [vlanIdMask_low, extract_put (by omega), BitVec.setWidth_setWidth_of_le _ (by decide)]

/-- The VLAN id that is put is the one in the word. -/
theorem extract_vlan {sh : Nat} (fits : sh ≤ 16)
    : (putNative uValue port sh (sh + 13)).extractLsb' sh 12 = port.vlanId.setWidth 12 := by
  unfold putNative
  split
  · rw [extract_or_of_zero (extract_shift_above (by omega)), ipvMask_low,
      extract_clear (.inl (by omega)), extract_putVlan fits]
  · exact extract_putVlan fits

/-- The priority that is put is the one in the word, if it is asked for; otherwise the high bits of the
VLAN id join it.
-/
theorem extract_pcp {sh : Nat} (fits : sh ≤ 16)
    : (putNative uValue port sh (sh + 13)).extractLsb' (sh + 13) 3
      = if port.enIpv then port.ipv.setWidth 3
        else uValue.extractLsb' (sh + 13) 3 ||| port.vlanId.extractLsb' 13 3 := by
  unfold putNative
  split
  · rw [ipvMask_low, extract_put (by omega), BitVec.setWidth_setWidth_of_le _ (by decide)]
  · rw [BitVec.extractLsb'_or, vlanIdMask_low, extract_clear (.inr (by omega)),
      extract_shift_within (by omega), extract_widened (by decide)]

/-- The VLAN id that is put for the first MAC port leaves the fields of the second. -/
theorem extract_putVlan_above {start n : Nat} (above : 16 ≤ start)
    : ((uValue &&& ~~~(portVlanIdMask <<< 0)) ||| (port.vlanId.setWidth 32 <<< 0)).extractLsb'
        start n = uValue.extractLsb' start n := by
  rw [extract_or_of_zero (extract_shift_setWidth (.inr above)), vlanIdMask_low,
    extract_clear (.inr (by omega))]

/-- The high bits of its priority join the VLAN id of the second. -/
theorem extract_mac2_vlan
    : (putNative uValue port 0 nativeMac1PcpShift).extractLsb' 16 12
      = if port.enIpv then uValue.extractLsb' 16 12 ||| port.ipv.extractLsb' 3 12
        else uValue.extractLsb' 16 12 := by
  unfold putNative
  split
  · rw [BitVec.extractLsb'_or, ipvMask_low, nativeMac1PcpShift, extract_clear (by decide),
      extract_putVlan_above (by decide), show 16 = 13 + 3 from rfl,
      extract_shift_within (by decide), extract_widened (by decide)]
  · exact extract_putVlan_above (by decide)

theorem extract_mac2_pcp
    : (putNative uValue port 0 nativeMac1PcpShift).extractLsb' 29 3 = uValue.extractLsb' 29 3 := by
  unfold putNative
  split
  · rw [extract_or_of_zero (extract_shift_setWidth (by decide)), ipvMask_low, nativeMac1PcpShift,
      extract_clear (by decide), extract_putVlan_above (by decide)]
  · exact extract_putVlan_above (by decide)

/-- A request for the second leaves what is below its fields. -/
theorem extract_below {start n : Nat} (below : start + n ≤ 16)
    : (putNative uValue port nativeMac2VlanShift nativeMac2PcpShift).extractLsb' start n
      = uValue.extractLsb' start n := by
  have low' : ((uValue &&& ~~~(portVlanIdMask <<< nativeMac2VlanShift))
      ||| (port.vlanId.setWidth 32 <<< nativeMac2VlanShift)).extractLsb' start n
        = uValue.extractLsb' start n := by
    rw [extract_or_of_zero (extract_shift_above (by rw [nativeMac2VlanShift]; omega)),
      vlanIdMask_low, extract_clear (.inl (by rw [nativeMac2VlanShift]; omega))]
  unfold putNative
  split
  · rw [extract_or_of_zero (extract_shift_above (by rw [nativeMac2PcpShift]; omega)), ipvMask_low,
      extract_clear (.inl (by rw [nativeMac2PcpShift]; omega)), low']
  · exact low'

-----------------------------------------------------------------------------------------
-- One request
-----------------------------------------------------------------------------------------

/-- What is reported of a port that there is. -/
theorem get_known (regs : NativeRegs) (num : asked.portNum = own.num)
    : tsnSwitchPvidGet regs asked
      = { asked with
        vlanId := (own.vlan regs).setWidth 16
        ipv := (own.pcp regs).setWidth 8 } := by
  have fields : ∀ uValue vlanShift pcpShift, getNative uValue asked vlanShift pcpShift
      = { asked with
        vlanId := (uValue.extractLsb' vlanShift 12).setWidth 16
        ipv := (uValue.extractLsb' pcpShift 3).setWidth 8 } := by
    intro uValue vlanShift pcpShift
    rw [getNative, vlanIdMask_low, ipvMask_low, shift_masked, shift_masked,
      BitVec.setWidth_setWidth_of_le _ (by decide), BitVec.setWidth_setWidth_of_le _ (by decide)]
  have chosen : tsnSwitchPvidGet regs asked
      = getNative (own.word regs) asked own.shift (own.shift + 13) := by
    cases own with
    | ep =>
        rw [tsnSwitchPvidGet, num]
        rfl
    | mac1 =>
        rw [tsnSwitchPvidGet, num]
        rfl
    | mac2 =>
        rw [tsnSwitchPvidGet, num]
        rfl
  rw [chosen, fields]
  rfl

/-- A number that is no port's is answered with what was asked. -/
theorem get_unknown (unknown : ∀ own : NativePort, asked.portNum ≠ own.num)
    : tsnSwitchPvidGet regs asked = asked := by
  have notEp : asked.portNum ≠ portEp := unknown .ep
  have notMac1 : asked.portNum ≠ portMac1 := unknown .mac1
  have notMac2 : asked.portNum ≠ portMac2 := unknown .mac2
  rw [tsnSwitchPvidGet, if_neg notEp, if_neg notMac1, if_neg notMac2]

/-- The registers after a request for a port that there is. -/
theorem add_known (regs : NativeRegs) (num : port.portNum = own.num)
    : own.word (tsnSwitchPvidAdd regs port)
      = putNative (own.word regs) port own.shift (own.shift + 13) := by
  cases own with
  | ep =>
      rw [tsnSwitchPvidAdd, num]
      rfl
  | mac1 =>
      rw [tsnSwitchPvidAdd, num]
      rfl
  | mac2 =>
      rw [tsnSwitchPvidAdd, num]
      rfl

theorem shift_le (own : NativePort) : own.shift ≤ 16 := by cases own <;> decide

theorem add_vlan (regs : NativeRegs) (num : port.portNum = own.num)
    : own.vlan (tsnSwitchPvidAdd regs port) = port.vlanId.setWidth 12 := by
  rw [NativePort.vlan, add_known regs num, extract_vlan (shift_le own)]

theorem add_pcp (regs : NativeRegs) (num : port.portNum = own.num)
    : own.pcp (tsnSwitchPvidAdd regs port)
      = if port.enIpv then port.ipv.setWidth 3
        else own.pcp regs ||| port.vlanId.extractLsb' 13 3 := by
  rw [NativePort.pcp, add_known regs num, extract_pcp (shift_le own)]
  rfl

/-- The fields of another port: the VLAN id of the second MAC port gets the high bits of the first
one's priority.
-/
theorem add_other (regs : NativeRegs) (num : port.portNum = own.num) (apart : other ≠ own)
    : other.vlan (tsnSwitchPvidAdd regs port)
        = (if own = .mac1 ∧ other = .mac2 ∧ port.enIpv = true then
            other.vlan regs ||| port.ipv.extractLsb' 3 12
          else other.vlan regs)
      ∧ other.pcp (tsnSwitchPvidAdd regs port) = other.pcp regs := by
  have written := add_known regs num
  cases own with
  | ep =>
      have mac : (tsnSwitchPvidAdd regs port).mac = regs.mac := by
        rw [tsnSwitchPvidAdd, num]
        rfl
      cases other with
      | ep => exact absurd rfl apart
      | mac1 => simp [NativePort.vlan, NativePort.pcp, NativePort.word, mac]
      | mac2 => simp [NativePort.vlan, NativePort.pcp, NativePort.word, mac]
  | mac1 =>
      have ep : (tsnSwitchPvidAdd regs port).ep = regs.ep := by
        rw [tsnSwitchPvidAdd, num]
        rfl
      cases other with
      | ep => simp [NativePort.vlan, NativePort.pcp, NativePort.word, ep]
      | mac1 => exact absurd rfl apart
      | mac2 =>
          have mac : (tsnSwitchPvidAdd regs port).mac = putNative regs.mac port 0 13 := written
          constructor
          · rw [NativePort.vlan, NativePort.word, mac]
            exact extract_mac2_vlan.trans (by simp [NativePort.vlan]; rfl)
          · rw [NativePort.pcp, NativePort.word, mac]
            exact extract_mac2_pcp
  | mac2 =>
      have ep : (tsnSwitchPvidAdd regs port).ep = regs.ep := by
        rw [tsnSwitchPvidAdd, num]
        rfl
      cases other with
      | ep => simp [NativePort.vlan, NativePort.pcp, NativePort.word, ep]
      | mac1 =>
          have mac : (tsnSwitchPvidAdd regs port).mac = putNative regs.mac port 16 29 := written
          constructor
          · rw [NativePort.vlan, NativePort.word, mac]
            exact extract_below (by decide)
          · rw [NativePort.pcp, NativePort.word, mac]
            exact extract_below (by decide)
      | mac2 => exact absurd rfl apart

-----------------------------------------------------------------------------------------
-- Runs
-----------------------------------------------------------------------------------------

/-- What is reported of a port, by its fields. -/
theorem get_eq_iff {regs' : NativeRegs} (num : asked.portNum = own.num)
    : tsnSwitchPvidGet regs asked = tsnSwitchPvidGet regs' asked
      ↔ own.vlan regs = own.vlan regs' ∧ own.pcp regs = own.pcp regs' := by
  rw [get_known regs num, get_known regs' num, NativeVlan.mk.injEq]
  simp only [true_and, setWidth_inj (by decide : 3 ≤ 8), setWidth_inj (by decide : 12 ≤ 16)]
  exact And.comm

/-- The field of a VLAN id that was put. -/
theorem vlan_toNat {field : BitVec 12} {vlanId : BitVec 16} (same : field = vlanId.setWidth 12)
    : (field.setWidth 16).toNat = vlanId.toNat % 2 ^ 12 := by
  rw [same, BitVec.toNat_setWidth, BitVec.toNat_setWidth]
  omega

theorem pcp_toNat {field : BitVec 3} {ipv : Byte} (same : field = ipv.setWidth 3)
    : (field.setWidth 8).toNat = ipv.toNat % 2 ^ 3 := by
  rw [same, BitVec.toNat_setWidth, BitVec.toNat_setWidth]
  omega

theorem last_vlan_self (s : Requested) (port : NativeVlan)
    : (s.add port).vlan port.portNum = some port.vlanId :=
  Function.update_self ..

theorem last_vlan_other {p : Byte} (apart : p ≠ port.portNum) : (s.add port).vlan p = s.vlan p :=
  Function.update_of_ne apart ..

theorem last_ipv_self (en : port.enIpv = true)
    : (s.add port).ipv port.portNum = some port.ipv := by
  rw [Requested.add, en]
  exact Function.update_self ..

theorem last_ipv_disabled (en : port.enIpv = false) {p : Byte} : (s.add port).ipv p = s.ipv p := by
  rw [Requested.add, en]
  rfl

theorem last_ipv_other {p : Byte} (apart : p ≠ port.portNum) : (s.add port).ipv p = s.ipv p := by
  cases en : port.enIpv with
  | true =>
      rw [Requested.add, en]
      exact Function.update_of_ne apart ..
  | false => exact last_ipv_disabled en

/-- A request without bits too many leaves the other ports alone. -/
theorem NoOverflow.elsewhere (fits : NoOverflow s port) (num : port.portNum = own.num)
    (apart : other ≠ own)
    : other.vlan (tsnSwitchPvidAdd s.regs port) = other.vlan s.regs
      ∧ other.pcp (tsnSwitchPvidAdd s.regs port) = other.pcp s.regs := by
  obtain ⟨vlan, pcp⟩ := add_other s.regs num apart
  refine ⟨?_, pcp⟩
  rw [vlan]
  split
  · next into =>
      obtain ⟨rfl, rfl, en⟩ := into
      exact fits.ipv en num
  · rfl

theorem NoOverflow.get_other (fits : NoOverflow s port) (different : asked.portNum ≠ port.portNum)
    : tsnSwitchPvidGet (s.add port).regs asked = tsnSwitchPvidGet s.regs asked := by
  obtain ⟨own, num⟩ := fits.known
  by_cases known : ∃ other : NativePort, asked.portNum = other.num
  · obtain ⟨other, place⟩ := known
    have apart : other ≠ own := by
      rintro rfl
      exact different (place.trans num.symm)
    exact (get_eq_iff place).mpr (fits.elsewhere num apart)
  · have unknown : ∀ other : NativePort, asked.portNum ≠ other.num :=
      fun other place => known ⟨other, place⟩
    rw [get_unknown unknown, get_unknown unknown]

/-- The priority of the port itself: it is what is asked for now, or what it was. -/
theorem NoOverflow.ipv_self (fits : NoOverflow s port) (inv : Agrees s)
    (num : port.portNum = own.num) {ipv : Byte}
    (last : (s.add port).ipv port.portNum = some ipv) (place : asked.portNum = port.portNum)
    : (tsnSwitchPvidGet (s.add port).regs asked).ipv.toNat = ipv.toNat % 2 ^ 3 := by
  have reported := get_known (s.add port).regs (place.trans num)
  have written := add_pcp s.regs num
  cases en : port.enIpv with
  | true =>
      -- the priority is cleared before it is written
      rw [last_ipv_self en] at last
      cases last
      have field : own.pcp (s.add port).regs = port.ipv.setWidth 3 :=
        written.trans (if_pos en)
      rw [reported]
      exact pcp_toNat field
  | false =>
      -- nothing masks the VLAN id, of which the bits from 13 on come upon the priority
      rw [last_ipv_disabled en] at last
      have kept : own.pcp (s.add port).regs = own.pcp s.regs := by
        rw [en, if_neg Bool.false_ne_true, fits.vlanId en (by simp [last]) own num] at written
        exact written
      rw [reported, kept, ← inv.ipv _ ipv last asked place, get_known _ (place.trans num)]

/-- The step, where the request has no bits too many. -/
theorem NoOverflow.perPort (fits : NoOverflow s port) (inv : Agrees s) : PvidPerPort s port := by
  obtain ⟨own, num⟩ := fits.known
  refine ⟨⟨?_, ?_⟩, fun asked => fits.get_other⟩
  · intro p vlanId last asked place
    by_cases self : p = port.portNum
    · subst self
      rw [last_vlan_self] at last
      cases last
      rw [get_known _ (place.trans num)]
      exact vlan_toNat (add_vlan s.regs num)
    · rw [last_vlan_other self] at last
      rw [fits.get_other (place ▸ self)]
      exact inv.vlan p vlanId last asked place
  · intro p ipv last asked place
    by_cases self : p = port.portNum
    · subst self
      exact fits.ipv_self inv num last place
    · rw [last_ipv_other self] at last
      rw [fits.get_other (place ▸ self)]
      exact inv.ipv p ipv last asked place

/-- Only a request without bits too many is for its port alone. -/
theorem PvidPerPort.noOverflow (safe : PvidPerPort s port) (inv : Agrees s)
    : NoOverflow s port := by
  obtain ⟨agrees, others⟩ := safe
  refine ⟨?_, ?_, ?_⟩
  · by_contra none
    have unknown : ∀ own : NativePort, port.portNum ≠ own.num := fun own num => none ⟨own, num⟩
    have echoed : tsnSwitchPvidGet (s.add port).regs { port with vlanId := 0x1000 }
        = { port with vlanId := 0x1000 } := get_unknown unknown
    have reported := agrees.vlan port.portNum port.vlanId (last_vlan_self s port)
      { port with vlanId := 0x1000 } rfl
    rw [echoed] at reported
    have reduced : port.vlanId.toNat % 2 ^ 12 < 2 ^ 12 := Nat.mod_lt _ (Nat.two_pow_pos 12)
    rw [← reported] at reduced
    exact absurd reduced (Nat.lt_irrefl _)
  · intro en asked own num
    obtain ⟨ipv, last⟩ := Option.ne_none_iff_exists'.mp asked
    have before := inv.ipv port.portNum ipv last port rfl
    have after := agrees.ipv port.portNum ipv ((last_ipv_disabled en).trans last) port rfl
    rw [← before, get_known _ num, get_known _ num] at after
    have same := BitVec.eq_of_toNat_eq after
    rw [setWidth_inj (by decide)] at same
    have field := add_pcp s.regs num
    rw [en, if_neg Bool.false_ne_true] at field
    exact field.symm.trans same
  · intro en num
    have mac1 : port.portNum = NativePort.mac1.num := num
    have apart : NativePort.mac2.num ≠ port.portNum := by
      rw [num]
      decide
    have kept := others { port with portNum := NativePort.mac2.num } apart
    have place : NativeVlan.portNum { port with portNum := NativePort.mac2.num }
        = NativePort.mac2.num := rfl
    obtain ⟨vlan, -⟩ := (get_eq_iff place).mp kept
    obtain ⟨field, -⟩ := add_other s.regs mac1 (by decide : NativePort.mac2 ≠ .mac1)
    rw [if_pos ⟨rfl, rfl, en⟩] at field
    exact field.symm.trans vlan

theorem Agrees.start (regs : NativeRegs) : Agrees (.start regs) where
  vlan := fun p vlanId last => by cases last
  ipv := fun p ipv last => by cases last

/-- The step. -/
theorem pvidPerPort_iff (inv : Agrees s) (port : NativeVlan)
    : PvidPerPort s port ↔ NoOverflow s port :=
  ⟨fun safe => safe.noOverflow inv, fun fits => fits.perPort inv⟩

/-- From any content of the registers, and after every request of a run of them, what is reported of
each port is what was last asked for it, and a request changes what is reported of its own port
alone, exactly if no request has bits that get into a field of something else.
-/
theorem native_vlans_per_port (regs : NativeRegs) (requests : List NativeVlan)
    : Along Requested.add PvidPerPort (.start regs) requests
      ↔ Along Requested.add NoOverflow (.start regs) requests := by
  have keeps : ∀ (s : Requested) port, Agrees s → NoOverflow s port → Agrees (s.add port) :=
    fun _ _ inv fits => (fits.perPort inv).1
  exact Along.iff_of_invariant keeps (fun _ port inv => pvidPerPort_iff inv port)
    (Agrees.start regs) requests

/-- VLAN 16 for the second MAC port, then a priority of 8 for the first: the second is in VLAN 17.
-/
theorem priority_changes_other_vlan
    : (NativePort.mac2.vlan (run Requested.add (.start ⟨0, 0⟩)
          [⟨false, portMac2, 0, 16⟩, ⟨true, portMac1, 8, 5⟩]).regs) = 17
      ∧ ¬ Along Requested.add PvidPerPort (.start ⟨0, 0⟩)
          [⟨false, portMac2, 0, 16⟩, ⟨true, portMac1, 8, 5⟩] := by
  refine ⟨by decide, ?_⟩
  rintro ⟨-, ⟨-, others⟩, -⟩
  have kept := others ⟨false, portMac2, 0, 0⟩ (by decide)
  exact absurd (congrArg NativeVlan.vlanId kept) (by decide)

end TsnTrdp.Switch.Native
