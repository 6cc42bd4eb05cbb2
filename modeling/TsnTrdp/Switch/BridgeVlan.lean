import TsnTrdp.Switch.VlanMemory
import TsnTrdp.Lib.Run

/-! The bridge's VLAN objects on the two MAC ports: ranges of VLANs are added as members or as the
native VLAN, and deleted. The switch's own calls are taken as updates of a set and of a value.
-/

namespace TsnTrdp.Switch.Bridge

open TsnTrdp Run

/-- The MAC ports, as `lp->switch_prt` names them. -/
inductive MacPort
  | portMac1
  | portMac2
  deriving DecidableEq, Repr

/-- The ports' VLANs: which they are members of, and which is the native one. -/
@[ext]
structure PortVlans where
  member : MacPort → Nat → Bool
  native : MacPort → Nat

/-- `struct switchdev_obj_port_vlan`; `pvid` is `BRIDGE_VLAN_INFO_PVID` of its flags. -/
structure VlanObj where
  pvid : Bool
  vidBegin : Nat
  vidEnd : Nat
  first : 1 ≤ vidBegin
  ordered : vidBegin ≤ vidEnd
  last : vidEnd ≤ 4094

/-- The VLANs of an object. -/
def VlanObj.Covers (vlan : VlanObj) (vid : Nat) : Prop := vlan.vidBegin ≤ vid ∧ vid ≤ vlan.vidEnd

instance (vlan : VlanObj) (vid : Nat) : Decidable (vlan.Covers vid) :=
  inferInstanceAs (Decidable (_ ∧ _))

/-- `tsn_switch_vlan_add`, where it is not refused. -/
def PortVlans.vlanAdd (s : PortVlans) (port : MacPort) (vid : Nat) (add : Bool) : PortVlans :=
  { s with member := Function.update s.member port (Function.update (s.member port) vid add) }

/-- `tsn_switch_pvid_add`. -/
def PortVlans.pvidAdd (s : PortVlans) (port : MacPort) (vid : Nat) : PortVlans :=
  { s with native := Function.update s.native port vid }

/-- The loop of `xlnx_sw_port_obj_vlan_add` from `vid` on, with a number of rounds to go. -/
def addLoop (refused : Nat → Bool) (port : MacPort) (flagPvid : Bool)
    : Nat → Nat → PortVlans → Except Errno Unit × PortVlans
  | 0, _, s => (.ok (), s)
  | left + 1, vid, s =>
      if flagPvid then addLoop refused port flagPvid left (vid + 1) (s.pvidAdd port vid)
      else if refused vid then (.error .eperm, s)
      else addLoop refused port flagPvid left (vid + 1) (s.vlanAdd port vid true)

/-- `xlnx_sw_port_obj_vlan_add`; `refused` tells for which VLANs `tsn_switch_vlan_add` returns an
error, and `prepare` is the first phase of the transaction.
-/
def xlnxSwPortObjVlanAdd (refused : Nat → Bool) (port : MacPort) (vlan : VlanObj)
    (prepare : Bool) (s : PortVlans)
    : Except Errno Unit × PortVlans :=
  if prepare then (.ok (), s)
  else addLoop refused port vlan.pvid (vlan.vidEnd + 1 - vlan.vidBegin) vlan.vidBegin s

/-- The loop of `xlnx_sw_port_obj_vlan_del`; `nvl` is the native id that it compares with. -/
def delLoop (refused : Nat → Bool) (port : MacPort)
    : Nat → Nat → Nat → PortVlans → Except Errno Unit × PortVlans
  | 0, _, _, s => (.ok (), s)
  | left + 1, vid, nvl, s =>
      if vid = nvl then delLoop refused port left (vid + 1) 1 (s.pvidAdd port 1)
      else if refused vid then (.error .eperm, s)
      else delLoop refused port left (vid + 1) nvl (s.vlanAdd port vid false)

/-- `xlnx_sw_port_obj_vlan_del`. -/
def xlnxSwPortObjVlanDel (refused : Nat → Bool) (port : MacPort) (vlan : VlanObj) (s : PortVlans)
    : Except Errno Unit × PortVlans :=
  delLoop refused port (vlan.vidEnd + 1 - vlan.vidBegin) vlan.vidBegin (s.native port) s

inductive BridgeCall
  | add (refused : Nat → Bool) (port : MacPort) (vlan : VlanObj) (prepare : Bool)
  | del (refused : Nat → Bool) (port : MacPort) (vlan : VlanObj)

def bridgeStep (s : PortVlans) : BridgeCall → PortVlans
  | .add refused port vlan prepare => (xlnxSwPortObjVlanAdd refused port vlan prepare s).2
  | .del refused port vlan => (xlnxSwPortObjVlanDel refused port vlan s).2

/-- What is asked of a delete: the port has left the VLANs of the range but for VLAN 1, its native
VLAN is 1 if it lay in the range, and nothing else has changed.
-/
structure Deleted (s s' : PortVlans) (port : MacPort) (vlan : VlanObj) : Prop where
  gone : ∀ vid, vlan.Covers vid → 1 < vid → s'.member port vid = false ∧ s'.native port ≠ vid
  native : s'.native port = if vlan.Covers (s.native port) then 1 else s.native port
  others : ∀ vid, ¬ vlan.Covers vid → s'.member port vid = s.member port vid
  otherPort
    : ∀ other, other ≠ port → s'.member other = s.member other ∧ s'.native other = s.native other

/-- Every delete that succeeds has deleted its VLANs. -/
def CallRight (s : PortVlans) : BridgeCall → Prop
  | .add _ _ _ _ => True
  | .del refused port vlan =>
      (xlnxSwPortObjVlanDel refused port vlan s).1 = .ok ()
        → Deleted s (xlnxSwPortObjVlanDel refused port vlan s).2 port vlan

/-- No VLAN of the range but the native one is refused. -/
def Granted (refused : Nat → Bool) (s : PortVlans) (port : MacPort) (vlan : VlanObj) : Prop :=
  ∀ vid, vlan.Covers vid → vid ≠ s.native port → refused vid = false

/-- Where a delete is granted, the port is not a member of a native VLAN of the range, other than
VLAN 1.
-/
def NativeApart (s : PortVlans) : BridgeCall → Prop
  | .add _ _ _ _ => True
  | .del refused port vlan =>
      Granted refused s port vlan → vlan.Covers (s.native port) → 1 < s.native port
        → s.member port (s.native port) = false

variable {refused : Nat → Bool} {s : PortVlans} {port : MacPort} {vlan : VlanObj}

/-- The port without the VLANs from `vid` on, `count` of them, as a delete leaves it. -/
def PortVlans.without (s : PortVlans) (port : MacPort) (vid count : Nat) : PortVlans where
  member := Function.update s.member port fun v =>
    if (vid ≤ v ∧ v < vid + count) ∧ v ≠ s.native port then false else s.member port v
  native := Function.update s.native port
    (if vid ≤ s.native port ∧ s.native port < vid + count then 1 else s.native port)

/-- Nothing is left to delete. -/
theorem PortVlans.without_zero (vid : Nat) : s.without port vid 0 = s := by
  apply PortVlans.ext
  · funext p v
    by_cases same : p = port
    · subst same
      have outside : ¬ ((vid ≤ v ∧ v < vid + 0) ∧ v ≠ s.native p) := by omega
      simp only [without, Function.update_self, if_neg outside]
    · simp only [without, Function.update_of_ne same]
  · funext p
    have outside : ¬ (vid ≤ s.native port ∧ s.native port < vid + 0) := by omega
    simp only [without, if_neg outside, Function.update_eq_self]

/-- The native VLAN is replaced first, then the rest of the range is left. -/
theorem PortVlans.without_native {left vid : Nat} (first : 1 ≤ vid)
    (native : s.native port = vid)
    : (s.pvidAdd port 1).without port (vid + 1) left = s.without port vid (left + 1) := by
  apply PortVlans.ext
  · funext p v
    by_cases same : p = port
    · subst same
      simp only [without, pvidAdd, Function.update_self, native]
      congr 1
      have range : ((vid + 1 ≤ v ∧ v < vid + 1 + left) ∧ v ≠ 1)
          ↔ ((vid ≤ v ∧ v < vid + (left + 1)) ∧ v ≠ vid) := by omega
      exact propext range
    · simp only [without, pvidAdd, Function.update_of_ne same]
  · funext p
    by_cases same : p = port
    · subst same
      have inside : vid ≤ s.native p ∧ s.native p < vid + (left + 1) := by omega
      have outside : ¬ (vid + 1 ≤ 1 ∧ 1 < vid + 1 + left) := by omega
      simp only [without, pvidAdd, Function.update_self, if_neg outside, if_pos inside]
    · simp only [without, pvidAdd, Function.update_of_ne same]

/-- Any other VLAN is left first, then the rest of the range. -/
theorem PortVlans.without_member {left vid : Nat} (other : vid ≠ s.native port)
    : (s.vlanAdd port vid false).without port (vid + 1) left = s.without port vid (left + 1) := by
  apply PortVlans.ext
  · funext p v
    by_cases same : p = port
    · subst same
      simp only [without, vlanAdd, Function.update_self]
      by_cases this : v = vid
      · subst this
        have inside : (v ≤ v ∧ v < v + (left + 1)) ∧ v ≠ s.native p := ⟨by omega, other⟩
        rw [if_pos inside, Function.update_self, ite_self]
      · rw [Function.update_of_ne this]
        congr 1
        have range : ((vid + 1 ≤ v ∧ v < vid + 1 + left) ∧ v ≠ s.native p)
            ↔ ((vid ≤ v ∧ v < vid + (left + 1)) ∧ v ≠ s.native p) := by omega
        exact propext range
    · simp only [without, vlanAdd, Function.update_of_ne same]
  · have range : (vid + 1 ≤ s.native port ∧ s.native port < vid + 1 + left)
        ↔ (vid ≤ s.native port ∧ s.native port < vid + (left + 1)) := by omega
    simp only [without, vlanAdd, range]

/-- The whole loop, where no call is refused. By induction on the rounds: the native id that it
compares with stays that of the port.
-/
theorem delLoop_granted {count vid : Nat} (first : 1 ≤ vid)
    (granted : ∀ v, vid ≤ v → v < vid + count → v ≠ s.native port → refused v = false)
    : delLoop refused port count vid (s.native port) s = (.ok (), s.without port vid count) := by
  induction count generalizing vid s with
  | zero => rw [delLoop, PortVlans.without_zero]
  | succ left ih =>
      rw [delLoop]
      by_cases native : vid = s.native port
      · have now : (s.pvidAdd port 1).native port = 1 := Function.update_self _ _ _
        have rest
            : delLoop refused port left (vid + 1) ((s.pvidAdd port 1).native port)
                (s.pvidAdd port 1)
              = (.ok (), (s.pvidAdd port 1).without port (vid + 1) left) := by
          apply ih (by omega)
          intro v low high _
          exact granted v (by omega) (by omega) (by omega)
        rw [if_pos native, ← PortVlans.without_native first native.symm, ← rest, now]
      · have rest
            : delLoop refused port left (vid + 1) (s.native port) (s.vlanAdd port vid false)
              = (.ok (), (s.vlanAdd port vid false).without port (vid + 1) left) := by
          apply ih (s := s.vlanAdd port vid false) (by omega)
          intro v low high other
          exact granted v (by omega) (by omega) other
        have allowed : ¬ refused vid = true := by
          rw [granted vid (by omega) (by omega) native]
          decide
        rw [if_neg native, if_neg allowed, ← PortVlans.without_member native, ← rest]

/-- A loop that succeeds was refused for no VLAN. By induction on the rounds, as before. -/
theorem granted_of_delLoop {count vid : Nat} (first : 1 ≤ vid)
    (done : (delLoop refused port count vid (s.native port) s).1 = .ok ())
    : ∀ v, vid ≤ v → v < vid + count → v ≠ s.native port → refused v = false := by
  induction count generalizing vid s with
  | zero =>
      intro v low high
      omega
  | succ left ih =>
      intro v low high other
      rw [delLoop] at done
      by_cases native : vid = s.native port
      · have now : (s.pvidAdd port 1).native port = 1 := Function.update_self _ _ _
        rw [if_pos native] at done
        have rest
            : (delLoop refused port left (vid + 1) ((s.pvidAdd port 1).native port)
                (s.pvidAdd port 1)).1 = .ok () := by
          rw [now]
          exact done
        exact ih (by omega) rest v (by omega) (by omega) (by omega)
      · rw [if_neg native] at done
        cases refuses : refused vid with
        | true =>
            rw [if_pos refuses] at done
            cases done
        | false =>
            rw [if_neg (by rw [refuses]; decide)] at done
            rcases Nat.eq_or_lt_of_le low with rfl | later
            · exact refuses
            · exact ih (s := s.vlanAdd port vid false) (by omega) done v later (by omega) other

/-- The range of an object, as its loop counts it. -/
theorem VlanObj.covers_iff (vlan : VlanObj) (vid : Nat)
    : vlan.Covers vid
      ↔ vlan.vidBegin ≤ vid ∧ vid < vlan.vidBegin + (vlan.vidEnd + 1 - vlan.vidBegin) := by
  have ordered := vlan.ordered
  unfold Covers
  omega

/-- A delete succeeds exactly if it is granted, and what it leaves then. -/
theorem xlnxSwPortObjVlanDel_ok
    : (xlnxSwPortObjVlanDel refused port vlan s).1 = .ok () ↔ Granted refused s port vlan := by
  constructor
  · intro done vid covers other
    obtain ⟨low, high⟩ := (vlan.covers_iff vid).mp covers
    exact granted_of_delLoop vlan.first done vid low high other
  · intro granted
    rw [xlnxSwPortObjVlanDel, delLoop_granted vlan.first]
    intro vid low high other
    exact granted vid ((vlan.covers_iff vid).mpr ⟨low, high⟩) other

theorem xlnxSwPortObjVlanDel_state (granted : Granted refused s port vlan)
    : (xlnxSwPortObjVlanDel refused port vlan s).2
      = s.without port vlan.vidBegin (vlan.vidEnd + 1 - vlan.vidBegin) := by
  rw [xlnxSwPortObjVlanDel, delLoop_granted vlan.first]
  intro vid low high other
  exact granted vid ((vlan.covers_iff vid).mpr ⟨low, high⟩) other

/-- What a granted delete leaves has its VLANs deleted exactly if the port was not a member of a
native VLAN of the range.
-/
theorem deleted_iff
    : Deleted s (s.without port vlan.vidBegin (vlan.vidEnd + 1 - vlan.vidBegin)) port vlan
      ↔ (vlan.Covers (s.native port) → 1 < s.native port
        → s.member port (s.native port) = false) := by
  constructor
  · intro deleted covers above
    have gone := (deleted.gone _ covers above).1
    simpa only [PortVlans.without, Function.update_self, ne_eq, not_true_eq_false, and_false,
      if_false] using gone
  · intro apart
    constructor
    · intro vid covers above
      simp only [PortVlans.without, Function.update_self, ← vlan.covers_iff]
      constructor
      · by_cases native : vid = s.native port
        · subst native
          rw [if_neg (fun both => both.2 rfl)]
          exact apart covers above
        · rw [if_pos ⟨covers, native⟩]
      · by_cases inside : vlan.Covers (s.native port)
        · rw [if_pos inside]
          omega
        · rw [if_neg inside]
          intro same
          exact inside (same ▸ covers)
    · simp only [PortVlans.without, Function.update_self, ← vlan.covers_iff]
    · intro vid outside
      simp only [PortVlans.without, Function.update_self, ← vlan.covers_iff]
      rw [if_neg (fun both => outside both.1)]
    · intro other different
      exact ⟨Function.update_of_ne different _ _, Function.update_of_ne different _ _⟩

/-- VLANs that the bridge deletes are gone: from any state, every delete of a run that succeeds
deletes its VLANs exactly if in every delete that is granted the port is not a member of its native
VLAN, where that lies in the range.
-/
theorem vlans_deleted (s : PortVlans) (calls : List BridgeCall)
    : Along bridgeStep CallRight s calls ↔ Along bridgeStep NativeApart s calls := by
  have same : ∀ s call, True → (CallRight s call ↔ NativeApart s call) := by
    intro s call _
    cases call with
    | add refused port vlan prepare => exact Iff.rfl
    | del refused port vlan =>
        rw [CallRight, NativeApart, xlnxSwPortObjVlanDel_ok]
        apply forall_congr'
        intro granted
        rw [xlnxSwPortObjVlanDel_state granted]
        exact deleted_iff
  exact Along.iff_of_invariant (fun _ _ _ _ => trivial) same trivial calls

/-- Ports without VLANs, but for VLAN 1, which is native. -/
def freshPorts : PortVlans := ⟨fun _ _ => false, fun _ => 1⟩

/-- VLAN 10 alone. -/
def vlanTen (pvid : Bool) : VlanObj := ⟨pvid, 10, 10, by decide, by decide, by decide⟩

/-- A port joins VLAN 10, takes it as its native VLAN, and is asked to leave it. -/
def joinedTwice : List BridgeCall :=
  [.add (fun _ => false) .portMac1 (vlanTen false) false,
    .add (fun _ => false) .portMac1 (vlanTen true) false,
    .del (fun _ => false) .portMac1 (vlanTen false)]

/-- It is still a member of VLAN 10. -/
theorem vlans_deleted_member
    : (run bridgeStep freshPorts joinedTwice).member .portMac1 10 = true
      ∧ (run bridgeStep freshPorts joinedTwice).native .portMac1 = 1
      ∧ ¬ Along bridgeStep CallRight freshPorts joinedTwice := by
  have still : (run bridgeStep freshPorts joinedTwice).member .portMac1 10 = true := by decide
  refine ⟨still, by decide, ?_⟩
  rintro ⟨-, -, deleted, -⟩
  have gone := ((deleted (by decide)).gone 10 (by decide) (by decide)).1
  exact absurd (still.symm.trans gone) (by decide)

end TsnTrdp.Switch.Bridge
