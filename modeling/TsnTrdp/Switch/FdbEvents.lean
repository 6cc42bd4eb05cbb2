import TsnTrdp.Switch.VlanMemory
import TsnTrdp.Lib.Blocks
import TsnTrdp.Lib.Run

/-! The forwarding entries that the bridge offloads. A notification is caught in one context, which
allocates a work item and takes a reference on the device, and is applied to the switch's CAM in
another, from an ordered queue. The CAM mirrors the bridge as long as every notification that is
caught is about a port of this switch.
-/

namespace TsnTrdp.Switch.Fdb

open TsnTrdp Run Blocks

abbrev Mac := Vector Byte 6

inductive Errno
  | einval
  deriving DecidableEq, Repr

def portEp : Byte := 1
def portMac1 : Byte := 2
def portMac2 : Byte := 4
def portExOnly : Byte := 8
def portExEp : Byte := 16

/-- What is read of the private data of a device, taken as a `struct axienet_local`. -/
structure AxienetLocal where
  ndev : Nat
  switchPrt : Byte
  deriving DecidableEq, Repr

/-- The network devices by their addresses, each with what stands in its private data, and the
features of the design. The probes of this driver's ports have filled in theirs.
-/
structure Design where
  priv : Nat → AxienetLocal
  ownPort : Nat → Bool
  exEp : Bool
  packetSwitch : Bool
  probed
    : ∀ dev, ownPort dev = true
      → (priv dev).ndev = dev ∧ (priv dev).switchPrt ∈ [portEp, portMac1, portMac2]

/-- A key of the CAM. -/
structure CamKey where
  destAddr : Mac
  vlan : BitVec 12
  deriving DecidableEq, Repr

/-- The CAM: the ports that a frame with a key is forwarded to, one bit each. -/
abbrev Cam := CamKey → Option Byte

/-- What `xlnx_switch_fdb_set` fills in of `struct cam_struct`; the other fields are zero. -/
structure CamStruct where
  destAddr : Mac
  vlanid : BitVec 16
  fwdPort : Byte
  deriving DecidableEq, Repr

def CamStruct.key (data : CamStruct) : CamKey := ⟨data.destAddr, data.vlanid.setWidth 12⟩

/-- `tsn_switch_cam_set`, where the CAM completes its commands in time. -/
def Design.tsnSwitchCamSet (design : Design) (data : CamStruct) (add : Bool) (cam : Cam)
    : Except Errno Unit × Cam :=
  let exOnly : Bool := data.fwdPort &&& portExOnly ≠ 0
  let exEp : Bool := data.fwdPort &&& portExEp ≠ 0
  -- `&&` binds more tightly than `||` in the source
  if (add && exOnly || exEp)
      && (!design.exEp || (exOnly && exEp && !design.packetSwitch)) then
    (.error .einval, cam)
  else if add then (.ok (), Function.update cam data.key (some data.fwdPort))
  else (.ok (), Function.update cam data.key none)

/-- The events of the notifier chain. -/
inductive SwitchdevEvent
  | fdbAddToDevice
  | fdbDelToDevice
  | fdbOffloaded
  | other
  deriving DecidableEq, Repr

/-- `struct xlnx_switchdev_event_work`; `lp` is the private data of the device with that address,
and `addr` is the address of the block that holds the copied MAC address.
-/
structure EventWork where
  lp : Nat
  event : SwitchdevEvent
  vid : BitVec 16
  addr : Nat
  deriving DecidableEq, Repr

/-- What the driver allocates for a notification. -/
inductive Block
  | work (switchdevWork : EventWork)
  | addr (copied : Mac)
  deriving DecidableEq, Repr

/-- The driver's allocations, the references that are held on each device, the ordered work queue,
and the CAM.
-/
structure FdbState where
  heap : Heap Block
  refs : Nat → Nat
  queue : List Nat
  cam : Cam

/-- `dev_put`; `none` is the fault of giving back a reference that nobody holds. -/
def FdbState.devPut (s : FdbState) (dev : Nat) : Option FdbState :=
  if s.refs dev = 0 then none
  else some { s with refs := Function.update s.refs dev (s.refs dev - 1) }

def FdbState.kfree (s : FdbState) (a : Nat) : Option FdbState :=
  (s.heap.free a).map fun heap => { s with heap }

/-- What a notification is about, and which of the allocations made for it succeed. -/
structure Notification where
  event : SwitchdevEvent
  dev : Nat
  addr : Mac
  vid : BitVec 16
  workAllocated : Bool
  addrAllocated : Bool
  deriving DecidableEq, Repr

inductive NotifyResult
  | notifyDone
  | notifyBad
  deriving DecidableEq, Repr

/-- `xlnx_switchdev_event`; `none` is a fault. The result of the second allocation is not tested
before it is written to.
-/
def FdbState.xlnxSwitchdevEvent (s : FdbState) (n : Notification)
    : Option (NotifyResult × FdbState) :=
  if n.workAllocated then
    let switchdevWork := s.heap.next
    let copied := s.heap.next + 1
    let heap := s.heap.alloc (.work ⟨n.dev, n.event, n.vid, copied⟩)
    match n.event with
    | .fdbAddToDevice | .fdbDelToDevice =>
        if n.addrAllocated then
          some (.notifyDone,
            { s with
              heap := heap.alloc (.addr n.addr)
              refs := Function.update s.refs n.dev (s.refs n.dev + 1)
              queue := s.queue ++ [switchdevWork] })
        else none
    | .fdbOffloaded | .other =>
        (FdbState.kfree { s with heap } switchdevWork).map (NotifyResult.notifyDone, ·)
  else some (.notifyBad, s)

/-- `xlnx_switch_fdb_set`. -/
def Design.xlnxSwitchFdbSet (design : Design) (lp : Nat) (addr : Mac) (vid : BitVec 16)
    (adding : Bool) (cam : Cam)
    : Except Errno Unit × Cam :=
  design.tsnSwitchCamSet ⟨addr, vid, (design.priv lp).switchPrt⟩ adding cam

/-- `xlnx_sw_fdb_offload_notify`: the driver gets its own notification, too. -/
def Design.xlnxSwFdbOffloadNotify (design : Design) (lp : Nat) (addr : Mac) (vid : BitVec 16)
    (workAllocated : Bool) (s : FdbState)
    : Option FdbState :=
  let info := ⟨.fdbOffloaded, (design.priv lp).ndev, addr, vid, workAllocated, true⟩
  (s.xlnxSwitchdevEvent info).map (·.2)

/-- What an add or a delete of the work does to the CAM, and the notification of an add. -/
def Design.fdbApply (design : Design) (work : EventWork) (workAllocated : Bool) (s : FdbState)
    : Option FdbState :=
  match s.heap.block work.addr with
  | some (.addr addr) =>
      match work.event with
      | .fdbAddToDevice =>
          match design.xlnxSwitchFdbSet work.lp addr work.vid true s.cam with
          | (.error _, cam) => some { s with cam }
          | (.ok _, cam) =>
              design.xlnxSwFdbOffloadNotify work.lp addr work.vid workAllocated { s with cam }
      | .fdbDelToDevice =>
          some { s with cam := (design.xlnxSwitchFdbSet work.lp addr work.vid false s.cam).2 }
      | .fdbOffloaded | .other => some s
  | _ => none

/-- `xlnx_switchdev_event_work`; `workAllocated` tells of the allocation that its own notification
asks for.
-/
def Design.xlnxSwitchdevEventWork (design : Design) (a : Nat) (workAllocated : Bool) (s : FdbState)
    : Option FdbState :=
  match s.heap.block a with
  | some (.work work) => do
      let s ← design.fdbApply work workAllocated s
      let s ← s.kfree work.addr
      let s ← s.kfree a
      s.devPut (design.priv work.lp).ndev
  | _ => none

/-- A notification is caught, or the first work of the queue runs. -/
inductive FdbEvent
  | notify (n : Notification)
  | work (workAllocated : Bool)
  deriving DecidableEq, Repr

def Design.fdbStep (design : Design) (s : FdbState) : FdbEvent → Option FdbState
  | .notify n => (s.xlnxSwitchdevEvent n).map (·.2)
  | .work workAllocated =>
      match s.queue with
      | [] => some s
      | a :: queue => design.xlnxSwitchdevEventWork a workAllocated { s with queue }

end TsnTrdp.Switch.Fdb
