import TsnTrdp.Gptp.Order
import TsnTrdp.Gptp.Roles
import TsnTrdp.Lib.Election

/-! Clocks whose ports share segments, when none of their decisions changes anything any more: what
they have decided, and what they hear of each other.
-/

namespace TsnTrdp.Gptp

open TsnTrdp.Election

/-- `port_tx_announce`: what a port announces of its clock, and when it is received. -/
def portTxAnnounce (c : Clock) (p : Port) (logAnnounceInterval ts : Int) : Announce where
  sourcePortIdentity := p.portIdentity
  logMessageInterval := logAnnounceInterval
  ts
  grandmasterPriority1 := c.pds.grandmasterPriority1
  grandmasterClockQuality := c.pds.grandmasterClockQuality
  grandmasterPriority2 := c.pds.grandmasterPriority2
  grandmasterIdentity := c.pds.grandmasterIdentity
  stepsRemoved := c.stepsRemoved

def ParentDs.attributes (pds : ParentDs) : ℕ ×ₗ ℕ ×ₗ ℕ ×ₗ ℕ ×ₗ ℕ ×ₗ ℕ :=
  attributesOf pds.grandmasterPriority1 pds.grandmasterClockQuality pds.grandmasterPriority2
    pds.grandmasterIdentity

def DefaultDs.attributes (dds : DefaultDs) : ℕ ×ₗ ℕ ×ₗ ℕ ×ₗ ℕ ×ₗ ℕ ×ₗ ℕ :=
  attributesOf dds.priority1 dds.clockQuality dds.priority2 dds.clockIdentity

@[simp]
theorem clockDefaultDs_attributes (dds : DefaultDs)
    : (clockDefaultDs dds).attributes = dds.attributes := rfl

section Decision

variable {bound : U8} {p : Port} {c : Clock} {i : ℕ} {event : FsmEvent}

/-- A port that has taken its role keeps it through a decision only if it is the one decided. -/
theorem kept_role {env : PortEnv} {mdiff : Bool} (sound : p.Sound bound)
    (role : p.state.Leads ∨ p.state = .slave ∨ p.state = .passive)
    (kept : (bcDispatch env event mdiff p).state = p.state)
    : (event = .rsMaster ∨ event = .rsGrandMaster → p.state.Leads)
      ∧ (event = .rsSlave → p.state = .slave) ∧ (event = .rsPassive → p.state = .passive) := by
  rcases bcDispatch_cases env event mdiff sound with ⟨state, ends, same⟩ | ⟨_, _, same⟩
  · rw [same] at kept
    have apart : ¬ ((state.Closed ∨ state = .listening)
        ∧ (state.Leads ∨ state = .slave ∨ state = .passive)) := by
      cases state <;> decide
    rw [← (kept : state = p.state)] at role
    exact absurd ⟨ends, role⟩ apart
  · rw [same] at kept
    have moved : p.stateMachine p.state event mdiff = p.state := kept
    clear same kept
    rcases sound.machine with plain | ⟨slaveOnly, state⟩
    · rw [plain] at moved
      generalize p.state = state at moved role
      revert moved role
      cases state <;> cases event <;> cases mdiff <;> decide
    · rw [slaveOnly] at moved
      generalize p.state = s at moved role state
      revert moved role state
      cases s <;> cases event <;> cases mdiff <;> decide

/-- What a clock decides about a port that does not only listen. -/
theorem bmcStateDecision_eq {r : Port} (ptp : r.bmca = .ptp) (roled : r.state ≠ .listening)
    : bmcStateDecision c i r
      = if c.dds.clockQuality.clockClass.toNat ≤ 127 then
          if c.dscmp (some (clockDefaultDs c.dds)) (portBestForeign r) > 0 then .grandMaster
          else .passive
        else if c.dscmp (some (clockDefaultDs c.dds)) (clockBestForeign c) > 0 then .grandMaster
        else if c.best.map Prod.fst = some i then .slave
        else if c.dscmp (clockBestForeign c) (portBestForeign r) = aBetterTopo then .passive
        else .master := by
  simp [bmcStateDecision, ptp, roled]

/-- With a grandmaster among them and no slave, the decisions take the clock for its own parent. -/
theorem foldl_updateFor_grandMaster (decisions : List PortState) (none : .slave ∉ decisions)
    (some : .grandMaster ∈ decisions ∨ c.pds = .own c.dds ∧ c.stepsRemoved = 0)
    : (decisions.foldl Clock.updateFor c).pds = .own c.dds
      ∧ (decisions.foldl Clock.updateFor c).stepsRemoved = 0 := by
  induction decisions generalizing c with
  | nil => exact some.resolve_left List.not_mem_nil
  | cons state rest ih =>
      obtain ⟨other, others⟩ := not_or.mp (List.mem_cons.not.mp none)
      rw [List.foldl_cons]
      cases state with
      | slave => exact absurd rfl other
      | grandMaster => exact ih others (.inr ⟨rfl, rfl⟩)
      | _ =>
          refine ih others (some.imp_left fun among => ?_)
          exact (List.mem_cons.mp among).resolve_left (by decide)

end Decision

/-- Clocks with the segments that their ports are attached to, and what their decisions meet. -/
structure ClockNetwork (ι σ : Type*) where
  clock : ι → Clock
  segment : ι → ℕ → σ
  now : ι → Int
  env : ι → ℕ → PortEnv

namespace ClockNetwork

variable {ι σ : Type*} (net : ClockNetwork ι σ)

/-- The port `p` is the one at the place `k` of the clock `i`. -/
def HasPort (i : ι) (k : ℕ) (p : Port) : Prop := (net.clock i).ports[k]? = some p

/-- The clock that the clock `i` is after a decision. -/
def decided (i : ι) : Clock := handleStateDecisionEvent (net.now i) (net.env i) (net.clock i)

/-- A foreign clock of the port `p` is what the port `q` of the clock `j` announces. -/
def Announced (j : ι) (q p : Port) (fc : ForeignClock) : Prop :=
  ∃ logAnnounceInterval ts,
    fc.dataset
      = announceToDataset (portTxAnnounce (net.clock j) q logAnnounceInterval ts) p.portIdentity
          p.localPriority

/-- The network has settled: a decision of any clock changes neither the state of a port nor the
parent; every port has taken a role; and what is current of each port's foreign clocks are the
announcements of the leading ports of other clocks on its segment. All clocks compare by `dscmp`, and
each has a port; a port that is `masterOnly` hears nobody, so no other clock leads on its segment.
-/
structure Settled [Fintype ι] : Prop where
  compare : ∀ i, (net.clock i).dscmp = dscmp
  sound : ∀ i, (net.clock i).Sound
  ports : ∀ i, (net.clock i).ports ≠ []
  roles
    : ∀ i, ∀ p ∈ (net.clock i).ports, p.state.Leads ∨ p.state = .slave ∨ p.state = .passive
  identities : Function.Injective fun i => (net.clock i).dds.clockIdentity
  portIdentities
    : ∀ i, ∀ p ∈ (net.clock i).ports,
        p.portIdentity.clockIdentity = (net.clock i).dds.clockIdentity
  portNumbers
    : ∀ i k l p q,
        net.HasPort i k p
        → net.HasPort i l q
        → p.portIdentity.portNumber = q.portIdentity.portNumber
        → k = l
  /-- A clock of a primary class, which follows nobody, is the best one. -/
  primary
    : ∀ i,
        (net.clock i).dds.clockQuality.clockClass.toNat ≤ 127
        → ∀ j, (net.clock i).dds.attributes ≤ (net.clock j).dds.attributes
  heard
    : ∀ i k p,
        net.HasPort i k p
        → ∀ fc ∈ p.qualified (net.now i),
            ∃ j l q,
              net.HasPort j l q ∧ q.state.Leads ∧ j ≠ i ∧ net.segment j l = net.segment i k
              ∧ net.Announced j q p fc
  hears
    : ∀ i k p j l q,
        net.HasPort i k p
        → net.HasPort j l q
        → q.state.Leads
        → j ≠ i
        → net.segment j l = net.segment i k
        → (net.clock j).stepsRemoved.toNat < (net.clock i).maxStepsRemoved.toNat
        → ∃ fc ∈ p.qualified (net.now i), net.Announced j q p fc
  states
    : ∀ i k p,
        net.HasPort i k p
        → ∃ q, (net.decided i).ports[k]? = some q ∧ q.state = p.state
  parents
    : ∀ i,
        (net.decided i).pds = (net.clock i).pds
        ∧ (net.decided i).stepsRemoved = (net.clock i).stepsRemoved
  reach : ∀ i, Fintype.card ι ≤ (net.clock i).maxStepsRemoved.toNat

/-- A port, with its clock and its place. -/
abbrev PortAt : Type _ := (i : ι) × Fin (net.clock i).ports.length

def portAt (x : net.PortAt) : Port := (net.clock x.1).ports.get x.2

theorem hasPort_portAt (x : net.PortAt) : net.HasPort x.1 x.2 (net.portAt x) := by
  simp [HasPort, portAt]

theorem exists_portAt {i : ι} {k : ℕ} {p : Port} (placed : net.HasPort i k p)
    : ∃ x : net.PortAt, x.1 = i ∧ (x.2 : ℕ) = k ∧ net.portAt x = p := by
  obtain ⟨bound, same⟩ := List.getElem?_eq_some_iff.mp placed
  exact ⟨⟨i, k, bound⟩, rfl, rfl, same⟩

def own (i : ι) : ℕ ×ₗ ℕ ×ₗ ℕ ×ₗ ℕ ×ₗ ℕ ×ₗ ℕ := (net.clock i).dds.attributes

def root (i : ι) : ℕ ×ₗ ℕ ×ₗ ℕ ×ₗ ℕ ×ₗ ℕ ×ₗ ℕ := (net.clock i).pds.attributes

def hops (i : ι) : ℕ := (net.clock i).stepsRemoved.toNat

/-- The clock that the clock `i` is while it decides. -/
def deciding (i : ι) : Clock := (net.clock i).computeBest (net.now i)

/-- The port `p` of the clock `i` while it is decided about. -/
def atPort (i : ι) (p : Port) : Port := portComputeBest (net.clock i).dscmp (net.now i) p

variable {net} {i j : ι} {k l : ℕ} {p q : Port} {fc : ForeignClock}

theorem HasPort.mem (placed : net.HasPort i k p) : p ∈ (net.clock i).ports :=
  List.mem_of_getElem? placed

theorem atPort_state (net : ClockNetwork ι σ) (i : ι) (p : Port)
    : (net.atPort i p).state = p.state := by
  rw [atPort, portComputeBest_eq]

theorem Announced.attributes (announced : net.Announced j q p fc)
    : fc.dataset.attributes = net.root j := by
  obtain ⟨n, t, same⟩ := announced
  rw [same]
  rfl

theorem Announced.stepsRemoved (announced : net.Announced j q p fc)
    : fc.dataset.stepsRemoved.toNat = net.hops j := by
  obtain ⟨n, t, same⟩ := announced
  rw [same]
  rfl

theorem Announced.sender (announced : net.Announced j q p fc)
    : fc.dataset.sender = q.portIdentity ∧ fc.dataset.receiver = p.portIdentity := by
  obtain ⟨n, t, same⟩ := announced
  rw [same]
  exact ⟨rfl, rfl⟩

theorem mem_decisions_deciding {state : PortState}
    : state ∈ (net.deciding i).decisions
      ↔ ∃ k p, net.HasPort i k p
        ∧ bmcStateDecision (net.deciding i) k (net.atPort i p) = state := by
  rw [mem_decisions]
  constructor
  · rintro ⟨k, r, there, told⟩
    obtain ⟨p, placed, rfl⟩ := Clock.computeBest_port.mp there
    exact ⟨k, p, placed, told⟩
  · rintro ⟨k, p, placed, told⟩
    exact ⟨k, net.atPort i p, Clock.computeBest_port.mpr ⟨p, placed, rfl⟩, told⟩

variable [Fintype ι]

theorem Settled.portSound (settled : net.Settled) (placed : net.HasPort i k p)
    : p.Sound (net.clock i).maxStepsRemoved :=
  ((settled.sound i).ports p placed.mem).1

theorem Settled.registered (settled : net.Settled) (i : ι)
    : ∀ p ∈ (net.clock i).ports, p.Registered (net.clock i).maxStepsRemoved :=
  fun p member => ((settled.sound i).ports p member).1.registered

/-- What is decided about a port is the role that it has. -/
theorem Settled.role (settled : net.Settled) (placed : net.HasPort i k p)
    : (bmcStateDecision (net.deciding i) k (net.atPort i p) = .grandMaster
          ∨ bmcStateDecision (net.deciding i) k (net.atPort i p) = .master → p.state.Leads)
      ∧ (bmcStateDecision (net.deciding i) k (net.atPort i p) = .slave → p.state = .slave)
      ∧ (bmcStateDecision (net.deciding i) k (net.atPort i p) = .passive
        → p.state = .passive) := by
  obtain ⟨q, after, kept⟩ := settled.states i k p placed
  obtain ⟨p', before, _, same⟩ := handleStateDecisionEvent_ports after
  obtain rfl := Option.some.inj (placed.symm.trans before)
  have sound := (settled.portSound placed).computeBest (net.clock i).dscmp (net.now i)
  have role := settled.roles i p placed.mem
  rw [← atPort_state net i] at role
  have stays := kept.trans (atPort_state net i p).symm
  rw [same] at stays
  obtain ⟨leads, slave, passive⟩ := kept_role sound role stays
  rw [← atPort_state net i p]
  refine ⟨fun told => leads ?_, fun told => slave ?_, fun told => passive ?_⟩
  · rcases told with told | told
    · exact .inr (congrArg decisionEvent told)
    · exact .inl (congrArg decisionEvent told)
  · exact congrArg decisionEvent told
  · exact congrArg decisionEvent told

/-- What is decided about a port of a settled network. -/
theorem Settled.decision (settled : net.Settled) (placed : net.HasPort i k p)
    : bmcStateDecision (net.deciding i) k (net.atPort i p)
      = if (net.clock i).dds.clockQuality.clockClass.toNat ≤ 127 then
          if dscmp (some (clockDefaultDs (net.clock i).dds)) (portBestForeign (net.atPort i p)) > 0
          then .grandMaster
          else .passive
        else if
          dscmp (some (clockDefaultDs (net.clock i).dds)) (clockBestForeign (net.deciding i)) > 0
        then .grandMaster
        else if (net.deciding i).best.map Prod.fst = some k then .slave
        else if dscmp (clockBestForeign (net.deciding i)) (portBestForeign (net.atPort i p))
            = aBetterTopo
        then .passive
        else .master := by
  have sound := (settled.portSound placed).computeBest (net.clock i).dscmp (net.now i)
  have roled : (net.atPort i p).state ≠ .listening := by
    rw [atPort_state]
    intro listens
    have role := settled.roles i p placed.mem
    rw [listens] at role
    exact absurd role (by decide)
  have ptp : (net.atPort i p).bmca = .ptp := sound.bmca
  rw [bmcStateDecision_eq ptp roled, ← settled.compare i]
  rfl

/-- A clock that is better than all foreign ones becomes its own grandmaster. -/
theorem Settled.parent_own (settled : net.Settled)
    (secondary : ¬ (net.clock i).dds.clockQuality.clockClass.toNat ≤ 127)
    (wins
      : dscmp (some (clockDefaultDs (net.clock i).dds)) (clockBestForeign (net.deciding i)) > 0)
    : net.root i = net.own i ∧ net.hops i = 0 := by
  have all {k : ℕ} {p : Port} (placed : net.HasPort i k p)
      : bmcStateDecision (net.deciding i) k (net.atPort i p) = .grandMaster := by
    rw [settled.decision placed, if_neg secondary, if_pos wins]
  have none : PortState.slave ∉ (net.deciding i).decisions := by
    intro member
    obtain ⟨k, p, placed, told⟩ := mem_decisions_deciding.mp member
    exact absurd ((all placed).symm.trans told) (by decide)
  have some : PortState.grandMaster ∈ (net.deciding i).decisions := by
    obtain ⟨p, member⟩ := List.exists_mem_of_ne_nil _ (settled.ports i)
    obtain ⟨k, placed⟩ := List.mem_iff_getElem?.mp member
    exact mem_decisions_deciding.mpr ⟨k, p, placed, all placed⟩
  obtain ⟨own, zero⟩ := foldl_updateFor_grandMaster _ none (.inl some)
  obtain ⟨pds, steps⟩ := settled.parents i
  exact ⟨congrArg ParentDs.attributes (pds.symm.trans own),
    congrArg BitVec.toNat (steps.symm.trans zero)⟩

/-- A clock that loses takes the best of its foreign clocks for its parent. -/
theorem Settled.parent_foreign (settled : net.Settled)
    (secondary : ¬ (net.clock i).dds.clockQuality.clockClass.toNat ≤ 127)
    (loses
      : ¬ dscmp (some (clockDefaultDs (net.clock i).dds)) (clockBestForeign (net.deciding i)) > 0)
    (chosen : (net.deciding i).best = some (k, fc))
    : ∃ p, net.HasPort i k p ∧ fc ∈ p.qualified (net.now i)
      ∧ net.root i = fc.dataset.attributes
      ∧ net.hops i = fc.dataset.stepsRemoved.toNat + 1
      ∧ (net.clock i).pds.parentPortIdentity = fc.dataset.sender := by
  obtain ⟨p, m, placed, _, newest, dataset, near, among⟩ :=
    Clock.computeBest_message (settled.registered i) chosen
  have slave : bmcStateDecision (net.deciding i) k (net.atPort i p) = .slave := by
    rw [settled.decision placed, if_neg secondary, if_neg loses, if_pos (by rw [chosen]; rfl)]
  have lonely : PortState.grandMaster ∉ (net.deciding i).decisions := by
    intro member
    obtain ⟨l, q, placed', told⟩ := mem_decisions_deciding.mp member
    rw [settled.decision placed', if_neg secondary, if_neg loses] at told
    split_ifs at told
  obtain ⟨steps', pds'⟩ :=
    foldl_updateFor_slave _ chosen newest lonely
      (.inl (mem_decisions_deciding.mpr ⟨k, p, placed, slave⟩))
  obtain ⟨pds, steps⟩ := settled.parents i
  have parent : (net.clock i).pds = .of fc m := pds.symm.trans pds'
  have removed : (net.clock i).stepsRemoved = 1 + fc.dataset.stepsRemoved :=
    steps.symm.trans steps'
  refine ⟨p, placed, among, ?_, ?_, ?_⟩
  · rw [root, parent, dataset]
    rfl
  · obtain ⟨_, next⟩ := toNat_stepsRemoved dataset near
    rw [hops, removed, next]
  · rw [parent]
    rfl

/-- A clock is its own grandmaster, or it has the best of its foreign clocks for its parent. -/
theorem Settled.parent (settled : net.Settled) (i : ι)
    : net.root i = net.own i ∧ net.hops i = 0
        ∧ ((net.clock i).dds.clockQuality.clockClass.toNat ≤ 127
          ∨ dscmp (some (clockDefaultDs (net.clock i).dds)) (clockBestForeign (net.deciding i)) > 0)
      ∨ ∃ k p fc,
          127 < (net.clock i).dds.clockQuality.clockClass.toNat
          ∧ ¬ dscmp (some (clockDefaultDs (net.clock i).dds)) (some fc.dataset) > 0
          ∧ net.HasPort i k p ∧ (net.deciding i).best = some (k, fc) ∧ fc ∈ p.qualified (net.now i)
          ∧ net.root i = fc.dataset.attributes
          ∧ net.hops i = fc.dataset.stepsRemoved.toNat + 1
          ∧ (net.clock i).pds.parentPortIdentity = fc.dataset.sender := by
  by_cases primary : (net.clock i).dds.clockQuality.clockClass.toNat ≤ 127
  · obtain ⟨pds, steps⟩ := (settled.sound i).own primary
    exact .inl ⟨congrArg ParentDs.attributes pds, congrArg BitVec.toNat steps, .inl primary⟩
  · by_cases wins :
        dscmp (some (clockDefaultDs (net.clock i).dds)) (clockBestForeign (net.deciding i)) > 0
    · obtain ⟨own, zero⟩ := settled.parent_own primary wins
      exact .inl ⟨own, zero, .inr wins⟩
    · cases chosen : (net.deciding i).best with
      | none =>
          have best : clockBestForeign (net.deciding i) = none := by
            rw [clockBestForeign, chosen]
            rfl
          have better : (0 : Int) < aBetter := by decide
          rw [best] at wins
          exact absurd better wins
      | some entry =>
          obtain ⟨k, fc⟩ := entry
          have best : clockBestForeign (net.deciding i) = some fc.dataset := by
            rw [clockBestForeign, chosen]
            rfl
          obtain ⟨p, placed, among, root, hops, parent⟩ :=
            settled.parent_foreign primary wins chosen
          exact .inr ⟨k, p, fc, not_le.mp primary, best ▸ wins, placed, rfl, among, root, hops,
            parent⟩

/-- The clock whose port it is. -/
def ownerOf (x : net.PortAt) : ι := x.1

def segmentOf (x : net.PortAt) : σ := net.segment x.1 x.2

/-- Following the parents leads to a clock that is its own grandmaster. -/
theorem Settled.chosen (settled : net.Settled)
    : Chosen net.own net.root net.hops fun i j =>
        ∃ x y, net.ownerOf x = i ∧ net.ownerOf y = j ∧ Faces net.ownerOf net.segmentOf x y where
  chosen := by
    intro i
    rcases settled.parent i with
      ⟨own, zero, _⟩ | ⟨k, p, fc, _, _, placed, _, among, root, hops, _⟩
    · exact .inl ⟨own, zero⟩
    · obtain ⟨j, l, q, there, leads, other, segment, announced⟩ :=
        settled.heard i k p placed fc among
      obtain ⟨x, rfl, rfl, rfl⟩ := net.exists_portAt placed
      obtain ⟨y, rfl, rfl, rfl⟩ := net.exists_portAt there
      refine .inr ⟨y.1, ⟨x, y, rfl, rfl, segment.symm, other.symm⟩, ?_, ?_⟩
      · rw [root, announced.attributes]
      · rw [hops, announced.stepsRemoved]

/-- What every port hears are the attributes of a real clock. -/
theorem Settled.real (settled : net.Settled) (j : ι) : ∃ g, net.root j = net.own g := by
  obtain ⟨g, same, _⟩ := settled.chosen.exists_root j
  exact ⟨g, same⟩

theorem Settled.own_injective (settled : net.Settled) : Function.Injective net.own := by
  intro i j same
  exact settled.identities (attributesOf_inj.mp same).2.2.2

/-- Data sets of real clocks agree about them. -/
theorem Settled.coherent (settled : net.Settled) {a b : Dataset} {g g' : ι}
    (first : a.attributes = net.own g) (second : b.attributes = net.own g')
    : a.Coherent b := by
  intro same
  have here : a.identity = (net.clock g).dds.clockIdentity := (attributesOf_inj.mp first).2.2.2
  have there : b.identity = (net.clock g').dds.clockIdentity := (attributesOf_inj.mp second).2.2.2
  have one : g = g' := settled.identities (here.symm.trans (same.trans there))
  rw [first, second, one]

theorem octets_inj {a b : PortIdentity} (same : a.octets = b.octets)
    : a.clockIdentity = b.clockIdentity := by
  have high (id : PortIdentity) : id.octets.extractLsb' 16 64 = id.clockIdentity :=
    BitVec.extractLsb'_append_eq_left
  rw [← high a, ← high b, same]

/-- Another clock's announcement does not come from the port that it came in by. -/
theorem Settled.apart (settled : net.Settled) (placed : net.HasPort i k p)
    (there : net.HasPort j l q) (other : j ≠ i) (announced : net.Announced j q p fc)
    : fc.dataset.receiver.octets.toNat ≠ fc.dataset.sender.octets.toNat := by
  intro same
  obtain ⟨sender, receiver⟩ := announced.sender
  rw [sender, receiver] at same
  have one := octets_inj (BitVec.eq_of_toNat_eq same)
  rw [settled.portIdentities i p placed.mem, settled.portIdentities j q there.mem] at one
  exact other (settled.identities one).symm

/-- All that a clock hears can be compared. -/
theorem Settled.comparable (settled : net.Settled) (i : ι)
    : (net.clock i).Comparable (net.now i) := by
  intro p member q member' fc among fc' among'
  obtain ⟨k, placed⟩ := List.mem_iff_getElem?.mp member
  obtain ⟨l, placed'⟩ := List.mem_iff_getElem?.mp member'
  obtain ⟨j, _, _, _, _, _, _, announced⟩ := settled.heard i k p placed fc among
  obtain ⟨j', _, _, there, _, other, _, announced'⟩ := settled.heard i l q placed' fc' among'
  obtain ⟨g, real⟩ := settled.real j
  obtain ⟨g', real'⟩ := settled.real j'
  exact ⟨settled.coherent (announced.attributes.trans real) (announced'.attributes.trans real'),
    fun _ => settled.apart placed' there other announced'⟩

/-- Another clock's announcement is nearer than the clock itself only if it is of a better clock. -/
theorem Settled.own_better (settled : net.Settled) (placed : net.HasPort i k p)
    (there : net.HasPort j l q) (other : j ≠ i) (announced : net.Announced j q p fc)
    : dscmp (some (clockDefaultDs (net.clock i).dds)) (some fc.dataset) > 0
      ↔ net.own i ≤ net.root j := by
  obtain ⟨g, real⟩ := settled.real j
  have coherent : (clockDefaultDs (net.clock i).dds).Coherent fc.dataset :=
    settled.coherent (g := i) rfl (announced.attributes.trans real)
  have order := compareDatasets_pos coherent fun _ => settled.apart placed there other announced
  rw [dscmp, comparePointers, order, Dataset.rank, Dataset.rank, Prod.Lex.toLex_lt_toLex]
  simp only [clockDefaultDs_attributes, announced.attributes]
  constructor
  · rintro (less | ⟨same, _⟩)
    · exact less.le
    · exact same.le
  · intro atMost
    rcases atMost.lt_or_eq with less | same
    · exact .inl less
    · refine .inr ⟨same, ?_⟩
      have far : 0 < net.hops j := by
        refine Nat.pos_of_ne_zero fun zero => other ?_
        have top := settled.chosen.own_of_zero zero
        exact settled.own_injective (top.symm.trans same.symm)
      rw [Dataset.place, Dataset.place, Prod.Lex.toLex_lt_toLex]
      left
      rw [announced.stepsRemoved]
      exact far

/-- A leading port of another clock is heard on its whole segment. -/
theorem Settled.reaches (settled : net.Settled) (placed : net.HasPort i k p)
    (there : net.HasPort j l q) (leads : q.state.Leads) (other : j ≠ i)
    (segment : net.segment j l = net.segment i k)
    : ∃ fc ∈ p.qualified (net.now i), net.Announced j q p fc :=
  settled.hears i k p j l q placed there leads other segment
    ((settled.chosen.hops_lt j).trans_le (settled.reach i))

end ClockNetwork

end TsnTrdp.Gptp
