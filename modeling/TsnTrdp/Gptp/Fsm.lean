/-! The state machines of a port: one for each kind of clock, and what holds of both. -/

namespace TsnTrdp.Gptp

/-- `enum port_state`. -/
inductive PortState
  | initializing
  | faulty
  | disabled
  | listening
  | preMaster
  | master
  | passive
  | uncalibrated
  | slave
  | grandMaster
  deriving DecidableEq, Repr

/-- `enum fsm_event`. -/
inductive FsmEvent
  | none
  | powerup
  | evInitialize
  | designatedEnabled
  | designatedDisabled
  | faultCleared
  | faultDetected
  | stateDecisionEvent
  | qualificationTimeoutExpires
  | announceReceiptTimeoutExpires
  | synchronizationFault
  | masterClockSelected
  | initComplete
  | rsMaster
  | rsGrandMaster
  | rsSlave
  | rsPassive
  deriving DecidableEq, Repr

/-- `ptp_fsm`; `mdiff` tells whether a new master has been selected. -/
def ptpFsm (state : PortState) (event : FsmEvent) (mdiff : Bool) : PortState :=
  if event = .evInitialize ∨ event = .powerup then .initializing
  else
    match state with
    | .initializing =>
        match event with
        | .faultDetected => .faulty
        | .initComplete => .listening
        | _ => state
    | .faulty =>
        match event with
        | .designatedDisabled => .disabled
        | .faultCleared => .initializing
        | _ => state
    | .disabled => if event = .designatedEnabled then .initializing else state
    | .listening =>
        match event with
        | .designatedDisabled => .disabled
        | .faultDetected => .faulty
        | .announceReceiptTimeoutExpires => .master
        | .rsMaster => .preMaster
        | .rsGrandMaster => .grandMaster
        | .rsSlave => .uncalibrated
        | .rsPassive => .passive
        | _ => state
    | .preMaster =>
        match event with
        | .designatedDisabled => .disabled
        | .faultDetected => .faulty
        | .qualificationTimeoutExpires => .master
        | .rsSlave => .uncalibrated
        | .rsPassive => .passive
        | _ => state
    | .master | .grandMaster =>
        match event with
        | .designatedDisabled => .disabled
        | .faultDetected => .faulty
        | .rsSlave => .uncalibrated
        | .rsPassive => .passive
        | _ => state
    | .passive =>
        match event with
        | .designatedDisabled => .disabled
        | .faultDetected => .faulty
        | .announceReceiptTimeoutExpires => .master
        | .rsMaster => .preMaster
        | .rsGrandMaster => .grandMaster
        | .rsSlave => .uncalibrated
        | _ => state
    | .uncalibrated =>
        match event with
        | .designatedDisabled => .disabled
        | .faultDetected => .faulty
        | .announceReceiptTimeoutExpires => .master
        | .masterClockSelected => .slave
        | .rsMaster => .preMaster
        | .rsGrandMaster => .grandMaster
        | .rsSlave => .uncalibrated
        | .rsPassive => .passive
        | _ => state
    | .slave =>
        match event with
        | .designatedDisabled => .disabled
        | .faultDetected => .faulty
        | .announceReceiptTimeoutExpires => .master
        | .synchronizationFault => .uncalibrated
        | .rsMaster => .preMaster
        | .rsGrandMaster => .grandMaster
        | .rsSlave => if mdiff then .uncalibrated else state
        | .rsPassive => .passive
        | _ => state

/-- `ptp_slave_fsm`. -/
def ptpSlaveFsm (state : PortState) (event : FsmEvent) (mdiff : Bool) : PortState :=
  if event = .evInitialize ∨ event = .powerup then .initializing
  else
    match state with
    | .initializing =>
        match event with
        | .faultDetected => .faulty
        | .initComplete => .listening
        | _ => state
    | .faulty =>
        match event with
        | .designatedDisabled => .disabled
        | .faultCleared => .initializing
        | _ => state
    | .disabled => if event = .designatedEnabled then .initializing else state
    | .listening =>
        match event with
        | .designatedDisabled => .disabled
        | .faultDetected => .faulty
        | .announceReceiptTimeoutExpires | .rsMaster | .rsGrandMaster | .rsPassive => .listening
        | .rsSlave => .uncalibrated
        | _ => state
    | .uncalibrated =>
        match event with
        | .designatedDisabled => .disabled
        | .faultDetected => .faulty
        | .announceReceiptTimeoutExpires | .rsMaster | .rsGrandMaster | .rsPassive => .listening
        | .masterClockSelected => .slave
        | _ => state
    | .slave =>
        match event with
        | .designatedDisabled => .disabled
        | .faultDetected => .faulty
        | .announceReceiptTimeoutExpires | .rsMaster | .rsGrandMaster | .rsPassive => .listening
        | .synchronizationFault => .uncalibrated
        | .rsSlave => if mdiff then .uncalibrated else state
        | _ => state
    | _ => state

/-- A port that is not open. -/
def PortState.Closed (state : PortState) : Prop :=
  state = .initializing ∨ state = .faulty ∨ state = .disabled

instance (state : PortState) : Decidable state.Closed := inferInstanceAs (Decidable (_ ∨ _ ∨ _))

/-- A port that takes its time from a master, or is about to. -/
def PortState.Follows (state : PortState) : Prop := state = .uncalibrated ∨ state = .slave

instance (state : PortState) : Decidable state.Follows := inferInstanceAs (Decidable (_ ∨ _))

/-- A port that announces its clock. -/
def PortState.Leads (state : PortState) : Prop := state = .master ∨ state = .grandMaster

instance (state : PortState) : Decidable state.Leads := inferInstanceAs (Decidable (_ ∨ _))

/-- A decision about a port. -/
def FsmEvent.Recommends (event : FsmEvent) : Prop :=
  event = .rsMaster ∨ event = .rsGrandMaster ∨ event = .rsSlave ∨ event = .rsPassive

instance (event : FsmEvent) : Decidable event.Recommends :=
  inferInstanceAs (Decidable (_ ∨ _ ∨ _ ∨ _))

/-- What both state machines have in common, in the states that they get to from the first. -/
structure PortFsm (machine : PortState → FsmEvent → Bool → PortState) (Gets : PortState → Prop)
    : Prop where
  start : Gets .initializing
  gets : ∀ state event mdiff, Gets state → Gets (machine state event mdiff)
  initialized : ∀ mdiff, machine .initializing .initComplete mdiff = .listening
  failed : ∀ mdiff, machine .initializing .faultDetected mdiff = .faulty
  cleared : ∀ mdiff, machine .faulty .faultCleared mdiff = .initializing
  /-- A closed port opens by its initialization only. -/
  closed
    : ∀ state event mdiff,
        state.Closed
        → (state = .initializing → event ≠ .initComplete)
        → (machine state event mdiff).Closed
  /-- Only a decision makes a port follow a master. -/
  follows
    : ∀ state event mdiff,
        (machine state event mdiff).Follows
        → event = .rsSlave ∨ state.Follows ∧ ¬ event.Recommends
  /-- Only a decision makes it passive. -/
  passive
    : ∀ state event mdiff,
        Gets state
        → machine state event mdiff = .passive
        → event = .rsPassive ∨ state = .passive ∧ ¬ event.Recommends

theorem ptpFsm_portFsm : PortFsm ptpFsm fun _ => True where
  start := trivial
  gets _ _ _ _ := trivial
  initialized _ := rfl
  failed _ := rfl
  cleared _ := rfl
  closed state event mdiff := by cases state <;> cases event <;> cases mdiff <;> decide
  follows state event mdiff := by cases state <;> cases event <;> cases mdiff <;> decide
  passive state event mdiff _ := by cases state <;> cases event <;> cases mdiff <;> decide

/-- The states of a port of a clock that is a slave only. -/
def SlaveOnly (state : PortState) : Prop := state.Closed ∨ state = .listening ∨ state.Follows

instance (state : PortState) : Decidable (SlaveOnly state) :=
  inferInstanceAs (Decidable (_ ∨ _ ∨ _))

theorem ptpSlaveFsm_portFsm : PortFsm ptpSlaveFsm SlaveOnly where
  start := by decide
  gets state event mdiff := by cases state <;> cases event <;> cases mdiff <;> decide
  initialized _ := rfl
  failed _ := rfl
  cleared _ := rfl
  closed state event mdiff := by cases state <;> cases event <;> cases mdiff <;> decide
  follows state event mdiff := by cases state <;> cases event <;> cases mdiff <;> decide
  passive state event mdiff := by cases state <;> cases event <;> cases mdiff <;> decide

end TsnTrdp.Gptp
