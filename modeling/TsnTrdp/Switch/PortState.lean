import TsnTrdp.Switch.FdbEvents
import TsnTrdp.Lib.Slice

/-! The spanning-tree state of a port. One register holds, for each port, three bits of state with a
bit before them that asks the switch to change it, and parts of two MAC addresses.
-/

namespace TsnTrdp.Switch.PortState

open TsnTrdp Slice
open TsnTrdp.Switch.Fdb (portEp portMac1 portMac2 portExOnly)

inductive Errno
  | einval
  deriving DecidableEq, Repr

/-- `struct port_status`. -/
structure PortStatus where
  portNum : Byte
  portStatus : Byte
  deriving DecidableEq, Repr

def portStatusMask : U32 := 0x7
def epPortStatusShift : Nat := 1
def epPortStatusChgBit : U32 := 0x1
def mac1PortStatusShift : Nat := 9
def mac1PortStatusChgBit : U32 := 0x100
def mac2PortStatusShift : Nat := 17
def mac2PortStatusChgBit : U32 := 0x10000
def exEpPortStatusShift : Nat := 25
def exEpPortStatusChgBit : U32 := 0x1000000

/-- One case of the switch statement: the word with the port's state replaced, and the bit that is
set in it. A port with a change pending is left alone, with the first bit.
-/
def changeStatus (uValue : U32) (status : Byte) (chgBit : U32) (shift : Nat) : U32 × U32 :=
  if uValue &&& chgBit = 0 then
    ((uValue &&& ~~~(portStatusMask <<< shift)) ||| (status.setWidth 32 <<< shift), chgBit)
  else (uValue, 1)

/-- `tsn_switch_set_stp_state`: the word that it writes before it returns 0. It returns 0 whether or
not the switch clears the bit in time.
-/
def tsnSwitchSetStpState (exEp : Bool) (uValue : U32) (port : PortStatus) : Except Errno U32 :=
  let written : U32 × U32 → Except Errno U32 := fun next => .ok (next.1 ||| next.2)
  if port.portNum = portEp then
    written (changeStatus uValue port.portStatus epPortStatusChgBit epPortStatusShift)
  else if port.portNum = portMac1 then
    written (changeStatus uValue port.portStatus mac1PortStatusChgBit mac1PortStatusShift)
  else if port.portNum = portMac2 then
    written (changeStatus uValue port.portStatus mac2PortStatusChgBit mac2PortStatusShift)
  else if port.portNum = portExOnly then
    if exEp then
      written (changeStatus uValue port.portStatus exEpPortStatusChgBit exEpPortStatusShift)
    else .error .einval
  else written (uValue, 1)

/-- `get_port_status`, where the copies succeed. -/
def getPortStatus (exEp : Bool) (uValue : U32) (port : PortStatus) : Except Errno PortStatus :=
  let status (shift : Nat) : Except Errno PortStatus :=
    .ok { port with portStatus := ((uValue >>> shift) &&& portStatusMask).setWidth 8 }
  if port.portNum = portEp then status epPortStatusShift
  else if port.portNum = portMac1 then status mac1PortStatusShift
  else if port.portNum = portMac2 then status mac2PortStatusShift
  else if port.portNum = portExOnly then
    if exEp then status exEpPortStatusShift else .error .einval
  else .ok port

/-- The bit that asks for a change of the port's state, which is in the three bits after it. -/
def chgBitOf (portNum : Byte) : Option Nat :=
  if portNum = portEp then some 0
  else if portNum = portMac1 then some 8
  else if portNum = portMac2 then some 16
  else if portNum = portExOnly then some 24
  else none

/-- The word differs from the register in the bits of one port alone, which are the state that is
asked for and the bit that asks for it.
-/
structure OnlyPort (exEp : Bool) (uValue word : U32) (port : PortStatus) (chgBit : Nat) : Prop where
  others : ∀ bit, ¬ (chgBit ≤ bit ∧ bit < chgBit + 4) → word.getLsbD bit = uValue.getLsbD bit
  change : word.getLsbD chgBit = true
  status : getPortStatus exEp word port = .ok port

/-- The request is for a port that there is and that has no change pending, and for a state of three
bits.
-/
structure Applicable (exEp : Bool) (uValue : U32) (port : PortStatus) : Prop where
  idle : ∃ chgBit, chgBitOf port.portNum = some chgBit ∧ uValue.getLsbD chgBit = false
  present : port.portNum = portExOnly → exEp = true
  fits : port.portStatus.toNat < 8

/-- A request that succeeds is for its port alone, and one that cannot be applied fails. -/
def StpPerPort (exEp : Bool) (uValue : U32) (port : PortStatus) : Prop :=
  (∀ word, tsnSwitchSetStpState exEp uValue port = .ok word
    → ∃ chgBit, chgBitOf port.portNum = some chgBit ∧ OnlyPort exEp uValue word port chgBit)
  ∧ (¬ Applicable exEp uValue port → ∃ err, tsnSwitchSetStpState exEp uValue port = .error err)

variable {exEp : Bool} {uValue : U32} {port : PortStatus} {chgBit : Nat}

/-- The ports there are, by the places of their bits. -/
theorem chgBitOf_cases (known : chgBitOf port.portNum = some chgBit)
    : (port.portNum = portEp ∧ chgBit = 0) ∨ (port.portNum = portMac1 ∧ chgBit = 8)
      ∨ (port.portNum = portMac2 ∧ chgBit = 16) ∨ (port.portNum = portExOnly ∧ chgBit = 24) := by
  unfold chgBitOf at known
  split at known
  · cases known
    exact .inl ⟨‹_›, rfl⟩
  · split at known
    · cases known
      exact .inr (.inl ⟨‹_›, rfl⟩)
    · split at known
      · cases known
        exact .inr (.inr (.inl ⟨‹_›, rfl⟩))
      · split at known
        · cases known
          exact .inr (.inr (.inr ⟨‹_›, rfl⟩))
        · cases known

theorem chgBitOf_le (known : chgBitOf port.portNum = some chgBit) : chgBit ≤ 24 := by
  rcases chgBitOf_cases known with ⟨-, rfl⟩ | ⟨-, rfl⟩ | ⟨-, rfl⟩ | ⟨-, rfl⟩ <;> decide

/-- What is written for a port that there is. -/
theorem setStpState_known (known : chgBitOf port.portNum = some chgBit)
    (present : port.portNum = portExOnly → exEp = true)
    : tsnSwitchSetStpState exEp uValue port
      = .ok ((changeStatus uValue port.portStatus ((1 : U32) <<< chgBit) (chgBit + 1)).1
        ||| (changeStatus uValue port.portStatus ((1 : U32) <<< chgBit) (chgBit + 1)).2) := by
  rcases chgBitOf_cases known with ⟨num, rfl⟩ | ⟨num, rfl⟩ | ⟨num, rfl⟩ | ⟨num, rfl⟩
  · rw [tsnSwitchSetStpState, num]
    rfl
  · rw [tsnSwitchSetStpState, num]
    rfl
  · rw [tsnSwitchSetStpState, num]
    rfl
  · rw [tsnSwitchSetStpState, present num, num]
    rfl

theorem getPortStatus_known (known : chgBitOf port.portNum = some chgBit)
    (present : port.portNum = portExOnly → exEp = true)
    : getPortStatus exEp uValue port
      = .ok { port with
        portStatus := ((uValue >>> (chgBit + 1)) &&& portStatusMask).setWidth 8 } := by
  rcases chgBitOf_cases known with ⟨num, rfl⟩ | ⟨num, rfl⟩ | ⟨num, rfl⟩ | ⟨num, rfl⟩
  · rw [getPortStatus, num]
    rfl
  · rw [getPortStatus, num]
    rfl
  · rw [getPortStatus, num]
    rfl
  · rw [getPortStatus, present num, num]
    rfl

/-- An error is for the extended endpoint in a design that has none. -/
theorem setStpState_error_iff (exEp : Bool) (uValue : U32) (port : PortStatus)
    : (∃ err, tsnSwitchSetStpState exEp uValue port = .error err)
      ↔ port.portNum = portExOnly ∧ exEp = false := by
  constructor
  · rintro ⟨err, failed⟩
    unfold tsnSwitchSetStpState at failed
    dsimp only at failed
    split at failed
    · cases failed
    · split at failed
      · cases failed
      · split at failed
        · cases failed
        · split at failed
          · rename_i num
            split at failed
            · cases failed
            · rename_i absent
              exact ⟨num, Bool.eq_false_iff.mpr absent⟩
          · cases failed
  · rintro ⟨num, absent⟩
    refine ⟨.einval, ?_⟩
    rw [tsnSwitchSetStpState, num, absent]
    rfl

/-- The word that is written for an idle port. -/
def changedWord (uValue : U32) (status : Byte) (chgBit : Nat) : U32 :=
  ((uValue &&& ~~~(portStatusMask <<< (chgBit + 1))) ||| (status.setWidth 32 <<< (chgBit + 1)))
    ||| ((1 : U32) <<< chgBit)

theorem getLsbD_one_shift {bit : Nat} (bound : chgBit < 32)
    : ((1 : U32) <<< chgBit).getLsbD bit = decide (bit = chgBit) := by
  have power : (1 : U32) <<< chgBit = BitVec.twoPow 32 chgBit := (BitVec.twoPow_eq 32 chgBit).symm
  rw [power, BitVec.getLsbD_twoPow]
  simp [bound, eq_comm]

theorem narrow_getLsbD {status : Byte} (fits : status.toNat < 8) {i : Nat} (above : 3 ≤ i)
    : status.getLsbD i = false := by
  rw [← BitVec.testBit_toNat]
  have wide : 2 ^ 3 ≤ 2 ^ i := Nat.pow_le_pow_right Nat.two_pos above
  exact Nat.testBit_lt_two_pow (Nat.lt_of_lt_of_le fits wide)

/-- The bits of the word: the change bit, the three bits after it, and the others as they were. -/
theorem changedWord_getLsbD {status : Byte} (bound : chgBit ≤ 24) (fits : status.toNat < 8)
    (bit : Nat)
    : (changedWord uValue status chgBit).getLsbD bit
      = if bit = chgBit then true
        else if chgBit < bit ∧ bit < chgBit + 4 then status.getLsbD (bit - (chgBit + 1))
        else uValue.getLsbD bit := by
  have mask : portStatusMask = low 32 3 := rfl
  rw [changedWord, mask, BitVec.getLsbD_or, BitVec.getLsbD_or, getLsbD_clear,
    getLsbD_one_shift (by omega), BitVec.getLsbD_shiftLeft, BitVec.getLsbD_setWidth]
  by_cases own : bit = chgBit
  · simp [own]
  · by_cases state : chgBit < bit ∧ bit < chgBit + 4
    · have from' : chgBit + 1 ≤ bit := state.1
      have inWord : bit < 32 := by omega
      have start : ¬ bit < chgBit + 1 := by omega
      have inRest : bit - (chgBit + 1) < 32 := by omega
      simp [own, state, from', inWord, start, inRest]
    · rw [if_neg own, if_neg state, decide_eq_false own, Bool.or_false]
      rcases Nat.lt_or_ge bit (chgBit + 1) with below | above
      · simp [below, Nat.not_le.mpr below]
      · have beyond : ¬ bit < chgBit + 1 + 3 := by omega
        rw [narrow_getLsbD fits (by omega : 3 ≤ bit - (chgBit + 1))]
        simp [beyond]

/-- A request that can be applied is for its port alone. -/
theorem changedWord_onlyPort (known : chgBitOf port.portNum = some chgBit)
    (present : port.portNum = portExOnly → exEp = true) (fits : port.portStatus.toNat < 8)
    : OnlyPort exEp uValue (changedWord uValue port.portStatus chgBit) port chgBit := by
  have bound := chgBitOf_le known
  refine ⟨?_, ?_, ?_⟩
  · intro bit outside
    rw [changedWord_getLsbD bound fits, if_neg (by omega), if_neg (by omega)]
  · rw [changedWord_getLsbD bound fits, if_pos rfl]
  · rw [getPortStatus_known known present]
    have state : ((changedWord uValue port.portStatus chgBit >>> (chgBit + 1)) &&& portStatusMask
        ).setWidth 8 = port.portStatus := by
      have mask : portStatusMask = low 32 3 := rfl
      rw [mask, shift_masked, BitVec.setWidth_setWidth_of_le _ (by decide)]
      apply BitVec.eq_of_getLsbD_eq
      intro i inByte
      rw [BitVec.getLsbD_setWidth, BitVec.getLsbD_extractLsb']
      rcases Nat.lt_or_ge i 3 with inField | above
      · rw [changedWord_getLsbD bound fits, if_neg (by omega), if_pos (by omega)]
        simp [inByte, inField]
      · rw [narrow_getLsbD fits above]
        simp [Nat.not_lt.mpr above]
    rw [state]

/-- The word of an idle port. -/
theorem changeStatus_idle {status : Byte} (bound : chgBit < 32)
    (idle : uValue.getLsbD chgBit = false)
    : (changeStatus uValue status ((1 : U32) <<< chgBit) (chgBit + 1)).1
        ||| (changeStatus uValue status ((1 : U32) <<< chgBit) (chgBit + 1)).2
      = changedWord uValue status chgBit := by
  rw [changeStatus, if_pos ((and_bit_eq_zero bound).mpr idle), changedWord]

/-- For every content of the register and every request, a request that succeeds is for its port
alone, and one that cannot be applied fails, exactly if the request can be applied or is for the
extended endpoint in a design without it.
-/
theorem stp_per_port (exEp : Bool) (uValue : U32) (port : PortStatus)
    : StpPerPort exEp uValue port
      ↔ Applicable exEp uValue port ∨ (port.portNum = portExOnly ∧ exEp = false) := by
  rw [← setStpState_error_iff exEp uValue port]
  constructor
  · rintro ⟨-, fails⟩
    exact or_iff_not_imp_left.mpr fails
  · rintro (applicable | failed)
    · obtain ⟨⟨chgBit, known, idle⟩, present, fits⟩ := applicable
      have bound := chgBitOf_le known
      refine ⟨?_, fun refused => absurd ⟨⟨chgBit, known, idle⟩, present, fits⟩ refused⟩
      intro word written
      rw [setStpState_known known present, changeStatus_idle (by omega) idle] at written
      cases written
      exact ⟨chgBit, known, changedWord_onlyPort known present fits⟩
    · refine ⟨?_, fun _ => failed⟩
      intro word written
      obtain ⟨err, failed⟩ := failed
      rw [written] at failed
      cases failed

/-- A request for the first MAC port while a change of it is pending returns 0, and asks for a
change of the endpoint.
-/
theorem busy_port_changes_endpoint
    : tsnSwitchSetStpState false mac1PortStatusChgBit ⟨portMac1, 3⟩ = .ok 0x101
      ∧ ¬ StpPerPort false mac1PortStatusChgBit ⟨portMac1, 3⟩ := by
  refine ⟨rfl, ?_⟩
  rintro ⟨only, -⟩
  obtain ⟨chgBit, known, only⟩ := only 0x101 rfl
  cases known
  exact absurd (only.others 0 (by decide)) (by decide)

end TsnTrdp.Switch.PortState
