import TsnTrdp.Gptp.Dataset
import TsnTrdp.Gptp.Fsm
import TsnTrdp.Lib.Queue

/-! A clock with its ports: the announcements that the ports keep of other clocks, the best of them,
and what a clock decides about its ports from that.
-/

namespace TsnTrdp.Gptp

open TsnTrdp.Queue

/-- What an announce message says, who sent it, and when it was received, in nanoseconds. -/
structure Announce where
  sourcePortIdentity : PortIdentity
  logMessageInterval : Int
  ts : Int
  grandmasterPriority1 : U8
  grandmasterClockQuality : ClockQuality
  grandmasterPriority2 : U8
  grandmasterIdentity : ClockIdentity
  stepsRemoved : U16
  deriving DecidableEq, Repr

/-- `msg_current`. -/
def msgCurrent (m : Announce) (now : Int) : Bool :=
  now - m.ts
    < if m.logMessageInterval ≤ -31 then 0
      else if m.logMessageInterval ≥ 31 then 2 ^ 63 - 1
      else if m.logMessageInterval < 0 then 4 * 10 ^ 9 / 2 ^ (-m.logMessageInterval).toNat
      else 4 * 2 ^ m.logMessageInterval.toNat * 10 ^ 9

/-- `announce_compare` finds a difference. -/
def announceCompare (m₁ m₂ : Announce) : Bool :=
  m₁.grandmasterPriority1 ≠ m₂.grandmasterPriority1
  ∨ m₁.grandmasterClockQuality ≠ m₂.grandmasterClockQuality
  ∨ m₁.grandmasterPriority2 ≠ m₂.grandmasterPriority2
  ∨ m₁.grandmasterIdentity ≠ m₂.grandmasterIdentity
  ∨ m₁.stepsRemoved ≠ m₂.stepsRemoved

def foreignMasterThreshold : Nat := 2

/-- `struct foreign_clock`: the messages, the newest first, and the data set of the newest one that
was compared. `n_messages` is the length of `messages`.
-/
structure ForeignClock where
  messages : List Announce
  dataset : Dataset
  deriving DecidableEq, Repr

def ForeignClock.sender (fc : ForeignClock) : PortIdentity := fc.dataset.sender

/-- `msg_source_equal`. -/
def ForeignClock.isFrom (sender : PortIdentity) (fc : ForeignClock) : Bool := fc.sender = sender

/-- A sender that has not been heard of before, in zeroed memory. -/
def ForeignClock.new (sender : PortIdentity) : ForeignClock :=
  ⟨[], ⟨0, 0, ⟨0, 0, 0⟩, 0, 0, 0, sender, ⟨0, 0⟩⟩⟩

/-- `fc_clear`. -/
def ForeignClock.clear (fc : ForeignClock) : ForeignClock := { fc with messages := [] }

/-- `fc_prune`. -/
def ForeignClock.prune (now : Int) (fc : ForeignClock) : ForeignClock :=
  { fc with
    messages :=
      (fc.messages.take foreignMasterThreshold).rdropWhile fun m => !msgCurrent m now }

/-- Another message is the newest. -/
def ForeignClock.push (m : Announce) (fc : ForeignClock) : ForeignClock :=
  { fc with messages := m :: fc.messages }

/-- The newest message differs from the one before it. -/
def ForeignClock.changed (fc : ForeignClock) : Bool :=
  match fc.messages with
  | m₁ :: m₂ :: _ => announceCompare m₁ m₂
  | _ => false

inductive BmcaSelect
  | ptp
  | noop
  deriving DecidableEq, Repr

/-- `struct port`; `best` names an entry of `foreignMasters` by its sender. -/
structure Port where
  portIdentity : PortIdentity
  localPriority : U8
  masterOnly : Bool
  bmca : BmcaSelect
  inhibitAnnounce : Bool
  stateMachine : PortState → FsmEvent → Bool → PortState
  state : PortState
  foreignMasters : List ForeignClock
  best : Option PortIdentity

/-- The best foreign clock of the port, where it has one. -/
def Port.bestClock (p : Port) : Option ForeignClock :=
  p.best.bind fun sender => p.foreignMasters.find? (ForeignClock.isFrom sender)

/-- `port_best_foreign`. -/
def portBestForeign (p : Port) : Option Dataset := p.bestClock.map ForeignClock.dataset

/-- `announce_to_dataset`. -/
def announceToDataset (m : Announce) (receiver : PortIdentity) (localPriority : U8) : Dataset where
  priority1 := m.grandmasterPriority1
  identity := m.grandmasterIdentity
  quality := m.grandmasterClockQuality
  priority2 := m.grandmasterPriority2
  localPriority
  stepsRemoved := m.stepsRemoved
  sender := m.sourcePortIdentity
  receiver

/-- The message is added to what is still current of its sender. -/
def Port.addTo (now : Int) (m : Announce) (p : Port) : Port :=
  { p with
    foreignMasters :=
      modifyFirst (ForeignClock.isFrom m.sourcePortIdentity) (fun fc => (fc.prune now).push m)
        p.foreignMasters }

/-- `add_foreign_master`: whether that is an important change, and the port. -/
def addForeignMaster (alloc : Bool) (now : Int) (m : Announce) (p : Port) : Bool × Port :=
  match p.foreignMasters.find? (ForeignClock.isFrom m.sourcePortIdentity) with
  | none =>
      (false,
        if alloc then
          { p with
            foreignMasters := ForeignClock.new m.sourcePortIdentity :: p.foreignMasters }
        else p)
  | some fc =>
      let brokeThreshold := (fc.prune now).messages.length = foreignMasterThreshold - 1
      (brokeThreshold || ((fc.prune now).push m).changed, p.addTo now m)

/-- `update_current_master`. -/
def updateCurrentMaster (alloc : Bool) (now : Int) (m : Announce) (p : Port) : Bool × Port :=
  match p.bestClock with
  | none => addForeignMaster alloc now m p
  | some fc =>
      if fc.isFrom m.sourcePortIdentity then (((fc.prune now).push m).changed, p.addTo now m)
      else addForeignMaster alloc now m p

/-- `process_announce`. -/
def processAnnounce (maxStepsRemoved : U8) (alloc : Bool) (now : Int) (m : Announce) (p : Port)
    : Bool × Port :=
  if m.stepsRemoved.toNat ≥ maxStepsRemoved.toNat then (false, p)
  else
    match p.state with
    | .initializing | .faulty | .disabled => (false, p)
    | .listening | .preMaster | .master | .grandMaster => addForeignMaster alloc now m p
    | .passive | .uncalibrated | .slave => updateCurrentMaster alloc now m p

/-- `port_compute_best`: the foreign clocks from here on, where `best` is the best one before. -/
def computeBest (compare : Option Dataset → Option Dataset → Int) (now : Int)
    (receiver : PortIdentity) (localPriority : U8)
    : Option ForeignClock → List ForeignClock → Option ForeignClock × List ForeignClock
  | best, [] => (best, [])
  | best, fc :: rest =>
      let next (best : Option ForeignClock) (fc : ForeignClock) :=
        let (last, rest) := computeBest compare now receiver localPriority best rest
        (last, fc :: rest)
      match fc.messages with
      | [] => next best fc
      | tmp :: _ =>
          let fc : ForeignClock :=
            { fc with dataset := announceToDataset tmp receiver localPriority }.prune now
          if fc.messages.length < foreignMasterThreshold then next best fc
          else
            match best with
            | none => next (some fc) fc
            | some old =>
                if compare (some fc.dataset) (some old.dataset) > 0 then next (some fc) fc
                else next (some old) fc.clear

/-- `port_compute_best`. -/
def portComputeBest (compare : Option Dataset → Option Dataset → Int) (now : Int) (p : Port)
    : Port :=
  if p.masterOnly then { p with best := none }
  else
    let (best, foreignMasters) :=
      computeBest compare now p.portIdentity p.localPriority none p.foreignMasters
    { p with best := best.map ForeignClock.sender, foreignMasters }

/-- What a transition meets: whether faults are cleared at once, and whether the port can be
initialized.
-/
structure PortEnv where
  clearFaultAsap : Bool
  portInitialize : Bool
  deriving DecidableEq, Repr

/-- `port_is_enabled`. -/
def portIsEnabled (p : Port) : Bool := decide ¬ p.state.Closed

/-- `port_disable`. -/
def portDisable (p : Port) : Port := { p with best := none, foreignMasters := [] }

/-- `port_state_update`: whether the state has changed, and the port. -/
def portStateUpdate (env : PortEnv) (event : FsmEvent) (mdiff : Bool) (p : Port) : Bool × Port :=
  let next := p.stateMachine p.state event mdiff
  let next :=
    if next = .faulty ∧ env.clearFaultAsap then p.stateMachine next .faultCleared false else next
  let (next, q) :=
    if next = .initializing then
      (p.stateMachine next (if env.portInitialize then .initComplete else .faultDetected) false,
        if portIsEnabled p then portDisable p else p)
    else (next, p)
  if next ≠ p.state then (true, { q with state := next }) else (false, q)

/-- `bc_dispatch`, with the transition: ports that become faulty or disabled are closed. -/
def bcDispatch (env : PortEnv) (event : FsmEvent) (mdiff : Bool) (p : Port) : Port :=
  match portStateUpdate env event mdiff p with
  | (false, p) => p
  | (true, p) => if p.state = .faulty ∨ p.state = .disabled then portDisable p else p

/-- What a clock is itself: `defaultDS`, and its local priority. -/
structure DefaultDs where
  priority1 : U8
  clockQuality : ClockQuality
  priority2 : U8
  clockIdentity : ClockIdentity
  localPriority : U8
  deriving DecidableEq, Repr

/-- `parentDS`. -/
structure ParentDs where
  parentPortIdentity : PortIdentity
  grandmasterPriority1 : U8
  grandmasterClockQuality : ClockQuality
  grandmasterPriority2 : U8
  grandmasterIdentity : ClockIdentity
  deriving DecidableEq, Repr

/-- `struct clock`; `best` is a foreign clock with the place of its port in `ports`. -/
structure Clock where
  dds : DefaultDs
  maxStepsRemoved : U8
  dscmp : Option Dataset → Option Dataset → Int
  ports : List Port
  best : Option (Nat × ForeignClock)
  bestId : ClockIdentity
  stepsRemoved : U16
  pds : ParentDs

/-- `clock_default_ds`. -/
def clockDefaultDs (dds : DefaultDs) : Dataset where
  priority1 := dds.priority1
  identity := dds.clockIdentity
  quality := dds.clockQuality
  priority2 := dds.priority2
  localPriority := dds.localPriority
  stepsRemoved := 0
  sender := ⟨dds.clockIdentity, 0⟩
  receiver := ⟨dds.clockIdentity, 0⟩

/-- `clock_best_foreign`. -/
def clockBestForeign (c : Clock) : Option Dataset := c.best.map fun (_, fc) => fc.dataset

/-- `bmc_state_decision` for the port `r` at the place `i`. -/
def bmcStateDecision (c : Clock) (i : Nat) (r : Port) : PortState :=
  let clockDs := some (clockDefaultDs c.dds)
  let clockBest := clockBestForeign c
  let portBest := portBestForeign r
  if portBest = none ∧ r.bmca = .noop then r.state
  else if portBest = none ∧ r.state = .listening then r.state
  else if c.dds.clockQuality.clockClass.toNat ≤ 127 then
    if c.dscmp clockDs portBest > 0 then .grandMaster else .passive
  else if c.dscmp clockDs clockBest > 0 then .grandMaster
  else if c.best.map Prod.fst = some i then .slave
  else if c.dscmp clockBest portBest = aBetterTopo then .passive
  else .master

/-- The parent of a clock that has none. -/
def ParentDs.own (dds : DefaultDs) : ParentDs where
  parentPortIdentity := ⟨dds.clockIdentity, 0⟩
  grandmasterPriority1 := dds.priority1
  grandmasterClockQuality := dds.clockQuality
  grandmasterPriority2 := dds.priority2
  grandmasterIdentity := dds.clockIdentity

/-- `clock_update_grandmaster`. -/
def clockUpdateGrandmaster (c : Clock) : Clock :=
  { c with stepsRemoved := 0, pds := .own c.dds }

/-- The parent that a foreign clock is, with its newest message. -/
def ParentDs.of (fc : ForeignClock) (msg : Announce) : ParentDs where
  parentPortIdentity := fc.dataset.sender
  grandmasterPriority1 := msg.grandmasterPriority1
  grandmasterClockQuality := msg.grandmasterClockQuality
  grandmasterPriority2 := msg.grandmasterPriority2
  grandmasterIdentity := msg.grandmasterIdentity

/-- `clock_update_slave`. -/
def clockUpdateSlave (c : Clock) : Clock :=
  match c.best with
  | none => c
  | some (_, fc) =>
      match fc.messages with
      | [] => c
      | msg :: _ => { c with stepsRemoved := 1 + fc.dataset.stepsRemoved, pds := .of fc msg }

/-- `handle_state_decision_event`: the better of two foreign clocks. -/
def betterOf (compare : Option Dataset → Option Dataset → Int) (best : Option (Nat × ForeignClock))
    (fc : Nat × ForeignClock)
    : Option (Nat × ForeignClock) :=
  match best with
  | none => some fc
  | some old =>
      if compare (some fc.2.dataset) (some old.2.dataset) > 0 then some fc else some old

/-- `handle_state_decision_event`: the clock with the best foreign clock of its ports. -/
def Clock.computeBest (now : Int) (c : Clock) : Clock :=
  let ports := c.ports.map (portComputeBest c.dscmp now)
  let best :=
    (ports.zipIdx.filterMap fun (p, i) => p.bestClock.map fun fc => (i, fc)).foldl
      (betterOf c.dscmp) none
  { c with
    ports
    best
    bestId := (best.map fun (_, fc) => fc.dataset.identity).getD c.dds.clockIdentity }

/-- The event for a decision. -/
def decisionEvent : PortState → FsmEvent
  | .listening => .none
  | .grandMaster => .rsGrandMaster
  | .master => .rsMaster
  | .passive => .rsPassive
  | .slave => .rsSlave
  | _ => .faultDetected

/-- What a decision changes of the clock. -/
def Clock.updateFor (c : Clock) : PortState → Clock
  | .grandMaster => clockUpdateGrandmaster c
  | .slave => clockUpdateSlave c
  | _ => c

/-- The decisions about the ports, in their order. -/
def Clock.decisions (c : Clock) : List PortState :=
  c.ports.zipIdx.map fun (p, i) => bmcStateDecision c i p

/-- `handle_state_decision_event`. -/
def handleStateDecisionEvent (now : Int) (env : Nat → PortEnv) (c : Clock) : Clock :=
  let best := c.computeBest now
  let freshBest := decide (best.bestId ≠ c.bestId)
  { best.decisions.foldl Clock.updateFor best with
    ports :=
      best.ports.zipIdx.map fun (p, i) =>
        bcDispatch (env i) (decisionEvent (bmcStateDecision best i p)) freshBest p }

/-- The best foreign clock has announced nothing. -/
def Port.clearBest (p : Port) : Port :=
  match p.best with
  | none => p
  | some sender =>
      { p with
        foreignMasters :=
          modifyFirst (ForeignClock.isFrom sender) ForeignClock.clear p.foreignMasters }

/-- `bc_event` for the announce timer, with the dispatch of the event that it returns. -/
def announceTimeout (env : PortEnv) (renewFails : Bool) (p : Port) : Port :=
  let event :=
    if renewFails then FsmEvent.faultDetected
    else if p.inhibitAnnounce then .none
    else .announceReceiptTimeoutExpires
  bcDispatch env event false p.clearBest

/-- What happens to a clock: an announce message that is not ignored arrives at a port; the announce
timer of a port expires, where a slave's transport may fail to open again; a port gets another
event; or a state decision is due.
-/
inductive ClockEvent
  | announce (i : Nat) (alloc : Bool) (now : Int) (m : Announce)
  | announceTimeout (i : Nat) (env : PortEnv) (renewFails : Bool)
  | dispatch (i : Nat) (env : PortEnv) (event : FsmEvent)
  | stateDecision (now : Int) (env : Nat → PortEnv)

def clockStep (c : Clock) : ClockEvent → Clock
  | .announce i alloc now m =>
      { c with
        ports := c.ports.modify i fun p => (processAnnounce c.maxStepsRemoved alloc now m p).2 }
  | .announceTimeout i env renewFails =>
      { c with ports := c.ports.modify i (announceTimeout env renewFails) }
  | .dispatch i env event => { c with ports := c.ports.modify i (bcDispatch env event false) }
  | .stateDecision now env => handleStateDecisionEvent now env c

end TsnTrdp.Gptp
