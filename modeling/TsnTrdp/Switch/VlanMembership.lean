import TsnTrdp.Switch.VlanMemory
import TsnTrdp.Lib.Run

/-! VLAN membership as a set of ports for each VLAN: the memory holds it exactly as long as
each call finds the word of its VLAN in the data register.
-/

namespace TsnTrdp.Switch

open TsnTrdp Run

/-- A request to add ports to a VLAN or to delete them, without priority or status. -/
structure VlanRequest where
  port : PortVlan
  add : Bool
  plain : port.enIpv = false ∧ port.enPortStatus = false
  deriving DecidableEq

def VlanRequest.vlan (request : VlanRequest) : Vlan := request.port.vlanId.setWidth 12

/-- The bits of the word that a request sets or clears. -/
def VlanRequest.touched (request : VlanRequest) : U32 :=
  if request.add then portVlanPortListValidBit ||| request.port.portNum.setWidth 32
  else request.port.portNum.setWidth 32

/-- The ports of a VLAN after a request. -/
def VlanRequest.update (request : VlanRequest) (ports : Byte) : Byte :=
  if request.add then ports ||| request.port.portNum else ports &&& ~~~request.port.portNum

/-- The memory, with the ports that each VLAN was given and has not lost since. -/
structure Membership where
  memory : VlanMemory
  ports : Vlan → Byte

/-- A request; its ports count where it succeeds. -/
def membershipStep (s : Membership) (request : VlanRequest) : Membership :=
  match tsnSwitchVlanAdd s.memory request.port request.add with
  | (.ok (), memory) =>
      { memory
        ports := Function.update s.ports request.vlan (request.update (s.ports request.vlan)) }
  | (.error _, memory) => { s with memory }

/-- The ports that a word lists: `port.port_num` of `get_vlan_mac_addr_learn`. -/
def portList (word : U32) : Byte := (word &&& portStatusMask).setWidth 8

/-- The memory lists, for every VLAN, the ports that it was given. -/
def Membership.Lists (s : Membership) : Prop :=
  ∀ vlan, portList (s.memory.entries vlan).data = s.ports vlan &&& 0x7

/-- What is asked of a request: afterwards the memory lists the ports of every VLAN, the other
bits of the VLAN's word are as before, and so are the entries of the other VLANs.
-/
structure MembershipRight (s : Membership) (request : VlanRequest) : Prop where
  lists : (membershipStep s request).Lists
  kept
    : ((membershipStep s request).memory.entries request.vlan).data &&& ~~~request.touched
      = (s.memory.entries request.vlan).data &&& ~~~request.touched
  others
    : ∀ vlan, vlan ≠ request.vlan
      → (membershipStep s request).memory.entries vlan = s.memory.entries vlan

/-- The data register agrees with the word of the request's VLAN, but for the bits that the
request sets or clears.
-/
def DataOfVlan (s : Membership) (request : VlanRequest) : Prop :=
  s.memory.dataReg &&& ~~~request.touched
    = (s.memory.entries request.vlan).data &&& ~~~request.touched

instance (s : Membership) (request : VlanRequest) : Decidable (DataOfVlan s request) :=
  inferInstanceAs (Decidable (_ = _))

variable {s : Membership} {request : VlanRequest}

/-- The changed word of the data register is that of the VLAN's own word exactly if the two
agree outside the bits that the request changes.
-/
theorem changedWord_same {x y : U32}
    : changedWord request.port.portNum request.add x
        = changedWord request.port.portNum request.add y
      ↔ x &&& ~~~request.touched = y &&& ~~~request.touched := by
  unfold changedWord VlanRequest.touched
  split
  · exact Field.or_eq_or
  · exact Iff.rfl

/-- A request changes nothing outside its own bits. -/
theorem changedWord_kept (word : U32)
    : changedWord request.port.portNum request.add word &&& ~~~request.touched
      = word &&& ~~~request.touched := by
  unfold changedWord VlanRequest.touched
  split
  · exact Field.or_and (BitVec.and_not_self _)
  · rw [BitVec.and_assoc, BitVec.and_self]

/-- The port list of a changed word. -/
theorem portList_changed {word : U32} {ports : Byte} (lists : portList word = ports &&& 0x7)
    : portList (changedWord request.port.portNum request.add word)
      = request.update ports &&& 0x7 := by
  have bit : ∀ (i : Nat) (bound : i < 3), word[i] = ports[i] := by
    intro i bound
    have same := congrArg (fun bits : Byte => bits[i]) lists
    interval_cases i <;> simpa [portList, portStatusMask] using same
  unfold portList changedWord VlanRequest.update
  ext i hi
  split <;> interval_cases i <;>
    simp [portStatusMask, portVlanPortListValidBit, bit 0, bit 1, bit 2]

/-- What a request does. -/
theorem membershipStep_eq (s : Membership) (request : VlanRequest)
    : ∃ ctrl attr, membershipStep s request
        = { memory := {
              entries := Function.update s.memory.entries request.vlan
                ⟨changedWord request.port.portNum request.add s.memory.dataReg, attr⟩
              ctrlReg := ctrl
              dataReg := changedWord request.port.portNum request.add s.memory.dataReg }
            ports := Function.update s.ports request.vlan
              (request.update (s.ports request.vlan)) } := by
  obtain ⟨ctrl, attr, done⟩ := tsnSwitchVlanAdd_plain (s := s.memory) request.add
    request.plain.1 request.plain.2
  exact ⟨ctrl, attr, by rw [membershipStep, done]; rfl⟩

/-- A request that finds the word of its VLAN keeps the lists right. -/
theorem membershipStep_lists (lists : s.Lists) (fresh : DataOfVlan s request)
    : (membershipStep s request).Lists := by
  obtain ⟨ctrl, attr, done⟩ := membershipStep_eq s request
  rw [done]
  intro vlan
  by_cases same : vlan = request.vlan
  · subst same
    simp only [Function.update_self]
    rw [changedWord_same.mpr fresh]
    exact portList_changed (lists request.vlan)
  · simp only [Function.update_of_ne same]
    exact lists vlan

/-- A request leaves the other bits of its VLAN's word alone only where it finds that word. -/
theorem membershipStep_kept
    : ((membershipStep s request).memory.entries request.vlan).data &&& ~~~request.touched
        = (s.memory.entries request.vlan).data &&& ~~~request.touched
      ↔ DataOfVlan s request := by
  obtain ⟨ctrl, attr, done⟩ := membershipStep_eq s request
  rw [done]
  simp only [Function.update_self, changedWord_kept]
  exact Iff.rfl

theorem membershipStep_others {vlan : Vlan} (other : vlan ≠ request.vlan)
    : (membershipStep s request).memory.entries vlan = s.memory.entries vlan := by
  obtain ⟨ctrl, attr, done⟩ := membershipStep_eq s request
  rw [done]
  exact Function.update_of_ne other _ _

/-- From an empty memory, every request of a run leaves membership right exactly if every
request finds the word of its VLAN in the data register.
-/
theorem vlan_membership {memory : VlanMemory} (empty : ∀ vlan, (memory.entries vlan).data = 0)
    (requests : List VlanRequest)
    : Along membershipStep MembershipRight ⟨memory, fun _ => 0⟩ requests
      ↔ Along membershipStep DataOfVlan ⟨memory, fun _ => 0⟩ requests := by
  have start : Membership.Lists ⟨memory, fun _ => 0⟩ := by
    intro vlan
    simp [portList, empty vlan]
  have keeps : ∀ s request, Membership.Lists s → DataOfVlan s request
      → Membership.Lists (membershipStep s request) :=
    fun s request lists fresh => membershipStep_lists lists fresh
  have same : ∀ s request, Membership.Lists s
      → (MembershipRight s request ↔ DataOfVlan s request) := by
    intro s request lists
    constructor
    · intro right
      exact membershipStep_kept.mp right.kept
    · intro fresh
      exact ⟨membershipStep_lists lists fresh, membershipStep_kept.mpr fresh,
        fun vlan other => membershipStep_others other⟩
  exact Along.iff_of_invariant keeps same start requests

/-- A memory that has never been written. -/
def emptyMemory : VlanMemory := ⟨fun _ => ⟨0, 0⟩, 0, 0⟩

/-- A request for the ports `portNum` of the VLAN `vlanId`. -/
def vlanRequest (portNum : Byte) (vlanId : BitVec 16) (add : Bool) : VlanRequest :=
  ⟨⟨false, false, portNum, 0, 0, vlanId⟩, add, rfl, rfl⟩

/-- Two ports join VLAN 10, one leaves it, and VLAN 20 is given the port that is left. -/
def oneWord : List VlanRequest :=
  [vlanRequest 2 10 true, vlanRequest 4 10 true, vlanRequest 2 10 false, vlanRequest 4 20 true]

theorem vlan_membership_one_word
    : Along membershipStep MembershipRight ⟨emptyMemory, fun _ => 0⟩ oneWord :=
  (vlan_membership (fun _ => rfl) oneWord).mpr (by decide)

/-- A port joins VLAN 10, another one VLAN 20. -/
def twoVlans : List VlanRequest := [vlanRequest 2 10 true, vlanRequest 4 20 true]

/-- VLAN 20 then lists the port of VLAN 10 too. -/
theorem vlan_membership_mixed
    : portList ((run membershipStep ⟨emptyMemory, fun _ => 0⟩ twoVlans).memory.entries 20).data = 6
      ∧ (run membershipStep ⟨emptyMemory, fun _ => 0⟩ twoVlans).ports 20 = 4
      ∧ ¬ Along membershipStep MembershipRight ⟨emptyMemory, fun _ => 0⟩ twoVlans := by
  refine ⟨by decide, by decide, ?_⟩
  intro right
  have list := right.2.1.lists 20
  revert list
  decide

end TsnTrdp.Switch
