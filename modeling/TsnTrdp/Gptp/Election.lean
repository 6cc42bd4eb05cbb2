import TsnTrdp.Gptp.Network

/-! A settled network follows the best clock of all, along a tree of shortest ways. -/

namespace TsnTrdp.Gptp

open TsnTrdp.Election TsnTrdp.Run

namespace ClockNetwork

variable {ι σ : Type*} {net : ClockNetwork ι σ} [Fintype ι] {i j : ι} {k l : ℕ} {p q : Port}
  {fc : ForeignClock}

theorem rank_le_attributes {a b : Dataset} (lower : a.rank ≤ b.rank)
    : a.attributes < b.attributes ∨ a.attributes = b.attributes ∧ a.place ≤ b.place :=
  Prod.Lex.toLex_le_toLex.mp lower

/-- The best foreign clock of a port, if it hears any. -/
theorem Settled.portBest (settled : net.Settled) (placed : net.HasPort i k p)
    : portBestForeign (net.atPort i p) = none ∧ p.qualified (net.now i) = []
      ∨ ∃ best ∈ p.qualified (net.now i),
          portBestForeign (net.atPort i p) = some best.dataset
          ∧ ∀ fc ∈ p.qualified (net.now i), best.dataset.rank ≤ fc.dataset.rank := by
  have registered := settled.registered i p placed.mem
  rw [portBestForeign, atPort, settled.compare i]
  cases chosen : (portComputeBest dscmp (net.now i) p).bestClock with
  | none => exact .inl ⟨rfl, portComputeBest_none registered chosen⟩
  | some best =>
      obtain ⟨among, lowest⟩ :=
        portComputeBest_le (settled.comparable i) placed.mem registered chosen
      exact .inr ⟨best, among, rfl, lowest⟩

/-- A clock that is its own grandmaster, which none that it hears of is better than. -/
structure Rules (net : ClockNetwork ι σ) (i : ι) : Prop where
  root : net.root i = net.own i
  hops : net.hops i = 0
  leads : ∀ k p, net.HasPort i k p → p.state.Leads
  best
    : ∀ k p,
        net.HasPort i k p
        → ∀ fc ∈ p.qualified (net.now i), net.own i ≤ fc.dataset.attributes

/-- A clock that has the best foreign clock of its port at the place `k` for its parent. -/
structure Obeys (net : ClockNetwork ι σ) (i : ι) (k : ℕ) (p : Port) (best : ForeignClock)
    : Prop where
  placed : net.HasPort i k p
  among : best ∈ p.qualified (net.now i)
  slave : p.state = .slave
  root : net.root i = best.dataset.attributes
  hops : net.hops i = best.dataset.stepsRemoved.toNat + 1
  parent : (net.clock i).pds.parentPortIdentity = best.dataset.sender
  better : best.dataset.attributes < net.own i
  lowest
    : ∀ l r,
        net.HasPort i l r
        → ∀ fc ∈ r.qualified (net.now i), best.dataset.rank ≤ fc.dataset.rank
  others
    : ∀ l r,
        net.HasPort i l r
        → l ≠ k
        → r.qualified (net.now i) = [] ∧ r.state.Leads
          ∨ ∃ first ∈ r.qualified (net.now i),
              (∀ fc ∈ r.qualified (net.now i), first.dataset.rank ≤ fc.dataset.rank)
              ∧ (compareDatasets best.dataset first.dataset = aBetterTopo ∧ r.state = .passive
                ∨ compareDatasets best.dataset first.dataset ≠ aBetterTopo ∧ r.state.Leads)

/-- A clock whose class or whose data set wins leads by all its ports. -/
theorem Settled.rules (settled : net.Settled) (root : net.root i = net.own i)
    (hops : net.hops i = 0)
    (wins
      : (net.clock i).dds.clockQuality.clockClass.toNat ≤ 127
        ∨ dscmp (some (clockDefaultDs (net.clock i).dds)) (clockBestForeign (net.deciding i)) > 0)
    : Rules net i where
  root
  hops
  leads := by
    intro k p placed
    have positive : (0 : Int) < aBetter := by decide
    refine (settled.role placed).1 (.inl ?_)
    rw [settled.decision placed]
    by_cases primary : (net.clock i).dds.clockQuality.clockClass.toNat ≤ 127
    · rw [if_pos primary]
      rcases settled.portBest placed with ⟨none, _⟩ | ⟨best, among, named, _⟩
      · rw [none]
        exact if_pos positive
      · obtain ⟨j, l, q, there, _, other, _, announced⟩ := settled.heard i k p placed best among
        obtain ⟨g, real⟩ := settled.real j
        rw [named]
        refine if_pos ((settled.own_better placed there other announced).mpr ?_)
        rw [real]
        exact settled.primary i primary g
    · rw [if_neg primary, if_pos (wins.resolve_left primary)]
  best := by
    intro k p placed fc among
    obtain ⟨j, l, q, there, _, other, _, announced⟩ := settled.heard i k p placed fc among
    by_cases primary : (net.clock i).dds.clockQuality.clockClass.toNat ≤ 127
    · obtain ⟨g, real⟩ := settled.real j
      rw [announced.attributes, real]
      exact settled.primary i primary g
    · have wins := wins.resolve_left primary
      cases chosen : (net.deciding i).best with
      | none =>
          have silent := Clock.computeBest_none.mp chosen k p placed
          rw [settled.compare i] at silent
          have empty := portComputeBest_none (settled.registered i p placed.mem) silent
          rw [empty] at among
          cases among
      | some entry =>
          obtain ⟨k', best⟩ := entry
          obtain ⟨p', _, placed', _, _, _, _, among'⟩ :=
            Clock.computeBest_message (settled.registered i) chosen
          obtain ⟨j', l', q', there', _, other', _, announced'⟩ :=
            settled.heard i k' p' placed' best among'
          have lowest :=
            Clock.computeBest_le (settled.compare i) (settled.comparable i) (settled.registered i)
              chosen placed.mem among
          rw [clockBestForeign, chosen] at wins
          have first := (settled.own_better placed' there' other' announced').mp wins
          rw [← announced'.attributes] at first
          rcases rank_le_attributes lowest with less | ⟨same, _⟩
          · exact first.trans less.le
          · exact first.trans same.le

/-- A clock that loses obeys its best foreign clock. -/
theorem Settled.obeys (settled : net.Settled) {best : ForeignClock}
    (below : 127 < (net.clock i).dds.clockQuality.clockClass.toNat)
    (loses : ¬ dscmp (some (clockDefaultDs (net.clock i).dds)) (some best.dataset) > 0)
    (placed : net.HasPort i k p) (chosen : (net.deciding i).best = some (k, best))
    (among : best ∈ p.qualified (net.now i)) (root : net.root i = best.dataset.attributes)
    (hops : net.hops i = best.dataset.stepsRemoved.toNat + 1)
    (parent : (net.clock i).pds.parentPortIdentity = best.dataset.sender)
    : Obeys net i k p best where
  placed
  among
  slave := by
    refine (settled.role placed).2.1 ?_
    rw [settled.decision placed, if_neg (not_le.mpr below), clockBestForeign, chosen]
    exact (if_neg loses).trans (if_pos rfl)
  root
  hops
  parent
  better := by
    obtain ⟨j, l, q, there, _, other, _, announced⟩ := settled.heard i k p placed best among
    rw [announced.attributes]
    exact not_le.mp fun atMost =>
      loses ((settled.own_better placed there other announced).mpr atMost)
  lowest := by
    intro l r placed' fc among'
    exact Clock.computeBest_le (settled.compare i) (settled.comparable i) (settled.registered i)
      chosen placed'.mem among'
  others := by
    intro l r placed' other
    have decided := settled.decision placed'
    rw [if_neg (not_le.mpr below), clockBestForeign, chosen] at decided
    have elsewhere : ¬ Option.map Prod.fst (some (k, best)) = some l := fun same =>
      other (Option.some.inj same).symm
    replace decided := decided.trans ((if_neg loses).trans (if_neg elsewhere))
    rcases settled.portBest placed' with ⟨none, empty⟩ | ⟨first, member, named, lowest⟩
    · refine .inl ⟨empty, (settled.role placed').1 (.inr ?_)⟩
      have apart : aBetter ≠ aBetterTopo := by decide
      rw [none] at decided
      exact decided.trans (if_neg apart)
    · refine .inr ⟨first, member, lowest, ?_⟩
      rw [named] at decided
      by_cases topo : compareDatasets best.dataset first.dataset = aBetterTopo
      · exact .inl ⟨topo, (settled.role placed').2.2 (decided.trans (if_pos topo))⟩
      · exact .inr ⟨topo, (settled.role placed').1 (.inr (decided.trans (if_neg topo)))⟩

/-- Every clock rules or obeys. -/
theorem Settled.settles (settled : net.Settled) (i : ι)
    : Rules net i ∨ ∃ k p best, Obeys net i k p best := by
  rcases settled.parent i with
    ⟨root, hops, wins⟩ | ⟨k, p, best, below, loses, placed, chosen, among, root, hops, parent⟩
  · exact .inl (settled.rules root hops wins)
  · exact .inr ⟨k, p, best, settled.obeys below loses placed chosen among root hops parent⟩

def nameOf (x : net.PortAt) : ℕ := (net.portAt x).portIdentity.octets.toNat

def LeadsAt (x : net.PortAt) : Prop := (net.portAt x).state.Leads

omit [Fintype ι] in
theorem nameOf_receiver {x : net.PortAt} (announced : net.Announced j q (net.portAt x) fc)
    : net.nameOf x = fc.dataset.receiver.octets.toNat := by
  rw [announced.sender.2]
  rfl

omit [Fintype ι] in
theorem nameOf_sender {y : net.PortAt} (announced : net.Announced y.1 (net.portAt y) p fc)
    : net.nameOf y = fc.dataset.sender.octets.toNat := by
  rw [announced.sender.1]
  rfl

theorem place_le {a b : Dataset} (lower : a.place ≤ b.place)
    : a.stepsRemoved.toNat < b.stepsRemoved.toNat
      ∨ a.stepsRemoved.toNat = b.stepsRemoved.toNat
        ∧ (a.sender.octets.toNat < b.sender.octets.toNat
          ∨ a.sender.octets.toNat = b.sender.octets.toNat
            ∧ a.receiver.portNumber.toNat ≤ b.receiver.portNumber.toNat) := by
  simpa only [Dataset.place, Prod.Lex.toLex_le_toLex] using lower

/-- A leading port of an obeying clock stands before every port that announces the same to it. -/
theorem Settled.before_of_obeys (settled : net.Settled) {best fc : ForeignClock} {x y : net.PortAt}
    (obeys : Obeys net x.1 k p best) (leads : net.LeadsAt x)
    (among : fc ∈ (net.portAt x).qualified (net.now x.1))
    (announced : net.Announced y.1 (net.portAt y) (net.portAt x) fc)
    : Before net.ownerOf net.root net.hops net.nameOf x y := by
  have elsewhere : (x.2 : ℕ) ≠ k := by
    intro here
    have same : net.portAt x = p :=
      Option.some.inj ((net.hasPort_portAt x).symm.trans (here ▸ obeys.placed))
    rw [LeadsAt, same, obeys.slave] at leads
    exact absurd leads (by decide)
  rcases obeys.others x.2 (net.portAt x) (net.hasPort_portAt x) elsewhere with
    ⟨empty, _⟩ | ⟨first, member, lowest, ⟨_, passive⟩ | ⟨other, _⟩⟩
  · rw [empty] at among
    cases among
  · rw [LeadsAt, passive] at leads
    exact absurd leads (by decide)
  · obtain ⟨j, l, q, there, _, apart, _, announced'⟩ :=
      settled.heard x.1 x.2 (net.portAt x) (net.hasPort_portAt x) first member
    have distinct := settled.apart (net.hasPort_portAt x) there apart announced'
    have root := announced.attributes
    have hops := announced.stepsRemoved
    rw [Before, ownerOf, ownerOf, obeys.root, obeys.hops, ← root, ← hops,
      nameOf_receiver announced', nameOf_sender announced]
    rcases rank_le_attributes (obeys.lowest x.2 _ (net.hasPort_portAt x) first member) with
      less | ⟨level, near⟩
    · rcases rank_le_attributes (lowest fc among) with less' | ⟨level', _⟩
      · exact .inl (less.trans less')
      · exact .inl (level' ▸ less)
    · rcases rank_le_attributes (lowest fc among) with less' | ⟨level', near'⟩
      · exact .inl (level ▸ less')
      · refine .inr ⟨level.trans level', ?_⟩
        have identity : best.dataset.identity = first.dataset.identity :=
          (attributesOf_inj.mp level).2.2.2
        have noTopo : ¬ dscmp2 best.dataset first.dataset = aBetterTopo := fun topo =>
          other (compareDatasets_topo.mpr ⟨identity, topo⟩)
        have numbers :
            best.dataset.receiver.portNumber.toNat ≠ first.dataset.receiver.portNumber.toNat := by
          intro same
          obtain ⟨_, _, _, _, _, _, _, announced''⟩ :=
            settled.heard x.1 k p obeys.placed best obeys.among
          rw [announced''.sender.2, announced'.sender.2] at same
          exact elsewhere (settled.portNumbers x.1 k x.2 p (net.portAt x) obeys.placed
            (net.hasPort_portAt x) (BitVec.eq_of_toNat_eq same)).symm
        rw [dscmp2_topo, Dataset.place, Dataset.place, Prod.Lex.toLex_lt_toLex,
          Prod.Lex.toLex_lt_toLex] at noTopo
        have order := place_le near
        have order' := place_le near'
        simp only at noTopo
        omega

/-- A clock that hears of a grandmaster has a better one, or it within one hop more. -/
theorem Settled.follows_heard (settled : net.Settled) {x y : net.PortAt} (leads : net.LeadsAt y)
    (faces : Faces net.ownerOf net.segmentOf x y)
    : net.root (net.ownerOf x) < net.root (net.ownerOf y)
      ∨ net.root (net.ownerOf x) = net.root (net.ownerOf y)
        ∧ net.hops (net.ownerOf x) ≤ net.hops (net.ownerOf y) + 1 := by
  obtain ⟨segment, other⟩ := faces
  obtain ⟨fc, among, announced⟩ :=
    settled.reaches (net.hasPort_portAt x) (net.hasPort_portAt y) leads (Ne.symm other)
      segment.symm
  have root := announced.attributes
  have hops := announced.stepsRemoved
  rw [ownerOf, ownerOf, ← root, ← hops]
  rcases settled.settles x.1 with rules | ⟨k, p, best, obeys⟩
  · rw [rules.root, rules.hops]
    rcases (rules.best _ _ (net.hasPort_portAt x) fc among).lt_or_eq with less | same
    · exact .inl less
    · exact .inr ⟨same, Nat.zero_le _⟩
  · rw [obeys.root, obeys.hops]
    rcases rank_le_attributes (obeys.lowest _ _ (net.hasPort_portAt x) fc among) with
      less | ⟨same, near⟩
    · exact .inl less
    · refine .inr ⟨same, ?_⟩
      have order := place_le near
      omega

/-- Of two ports of one segment that both lead, each would have to go before the other. -/
theorem Settled.before_of_leads (settled : net.Settled) {x y : net.PortAt}
    (leads : net.LeadsAt x) (leads' : net.LeadsAt y)
    (faces : Faces net.ownerOf net.segmentOf x y)
    : Before net.ownerOf net.root net.hops net.nameOf x y := by
  obtain ⟨segment, other⟩ := faces
  obtain ⟨fc, among, announced⟩ :=
    settled.reaches (net.hasPort_portAt x) (net.hasPort_portAt y) leads' (Ne.symm other)
      segment.symm
  rcases settled.settles x.1 with rules | ⟨k, p, best, obeys⟩
  · have root := announced.attributes
    rw [Before, ownerOf, ownerOf, rules.root, rules.hops, ← root]
    rcases (rules.best _ _ (net.hasPort_portAt x) fc among).lt_or_eq with less | same
    · exact .inl less
    · refine .inr ⟨same, .inl (Nat.pos_of_ne_zero fun zero => other ?_)⟩
      have top := settled.chosen.own_of_zero zero
      exact settled.own_injective (same.trans (root.trans top))
  · exact settled.before_of_obeys obeys leads among announced

/-- The port that a clock has its parent by stands behind the port it follows. -/
theorem Settled.slave_yields (settled : net.Settled) {x : net.PortAt} {best : ForeignClock}
    (obeys : net.Obeys x.1 k p best) (here : (x.2 : ℕ) = k)
    : ∃ y, net.LeadsAt y ∧ Faces net.ownerOf net.segmentOf x y
      ∧ ¬ Before net.ownerOf net.root net.hops net.nameOf x y := by
  obtain ⟨j, l, q, there, leads, other, segment, announced⟩ :=
    settled.heard x.1 k p obeys.placed best obeys.among
  obtain ⟨y, rfl, rfl, rfl⟩ := net.exists_portAt there
  refine ⟨y, leads, ⟨?_, Ne.symm other⟩, ?_⟩
  · rw [segmentOf, here]
    exact segment.symm
  · have hops := announced.stepsRemoved
    rw [Before, ownerOf, ownerOf, obeys.root, announced.attributes, obeys.hops, hops]
    rintro (less | ⟨_, less | ⟨same, _⟩⟩)
    · exact lt_irrefl _ less
    · omega
    · omega

/-- A port that stands back because of the topology has a port on its segment that goes first. -/
theorem Settled.passive_yields (settled : net.Settled) {x : net.PortAt} {best first : ForeignClock}
    (obeys : net.Obeys x.1 k p best)
    (member : first ∈ (net.portAt x).qualified (net.now x.1))
    (topo : compareDatasets best.dataset first.dataset = aBetterTopo)
    : ∃ y, net.LeadsAt y ∧ Faces net.ownerOf net.segmentOf x y
      ∧ ¬ Before net.ownerOf net.root net.hops net.nameOf x y := by
  obtain ⟨j, l, q, there, leads, other, segment, announced⟩ :=
    settled.heard x.1 x.2 (net.portAt x) (net.hasPort_portAt x) first member
  obtain ⟨y, rfl, rfl, rfl⟩ := net.exists_portAt there
  refine ⟨y, leads, ⟨segment.symm, Ne.symm other⟩, ?_⟩
  obtain ⟨identity, place⟩ := compareDatasets_topo.mp topo
  have level : best.dataset.attributes = first.dataset.attributes :=
    (settled.comparable x.1 p obeys.placed.mem _ (net.hasPort_portAt x).mem best obeys.among
      first member).1 identity
  have hops := announced.stepsRemoved
  have steps := dscmp2_topo.mp place
  rw [Before, ownerOf, ownerOf, obeys.root, level, announced.attributes, obeys.hops,
    nameOf_receiver announced, nameOf_sender announced, ← hops]
  rintro (less | ⟨_, less | ⟨same, before⟩⟩)
  · exact lt_irrefl _ less
  · omega
  · omega

/-- The clocks of a settled network have settled their election. -/
theorem Settled.election (settled : net.Settled)
    : Election.Settled net.ownerOf net.segmentOf net.own net.root net.hops net.nameOf
        net.LeadsAt where
  chosen := settled.chosen
  own := by
    intro i
    rcases settled.settles i with rules | ⟨k, p, best, obeys⟩
    · exact rules.root.le
    · rw [obeys.root]
      exact obeys.better.le
  heard := fun _ _ leads faces => settled.follows_heard leads faces
  stands := fun _ _ leads leads' faces => settled.before_of_leads leads leads' faces
  yields := by
    intro x idle
    rcases settled.settles x.1 with rules | ⟨k, p, best, obeys⟩
    · exact absurd (rules.leads _ _ (net.hasPort_portAt x)) idle
    · by_cases here : (x.2 : ℕ) = k
      · exact settled.slave_yields obeys here
      · rcases obeys.others x.2 (net.portAt x) (net.hasPort_portAt x) here with
          ⟨_, leads⟩ | ⟨first, member, _, ⟨topo, _⟩ | ⟨_, leads⟩⟩
        · exact absurd leads idle
        · exact settled.passive_yields obeys member topo
        · exact absurd leads idle

end ClockNetwork

/-- A clock of one port, as it is created. -/
def onePort (priority1 : U8) (identity : ClockIdentity) : Clock where
  dds := ⟨priority1, ⟨248, 0xfe, 0xffff⟩, 128, identity, 128⟩
  maxStepsRemoved := 255
  dscmp := dscmp
  ports := [⟨⟨identity, 1⟩, 128, false, .ptp, false, ptpFsm, .initializing, [], none⟩]
  best := none
  bestId := identity
  stepsRemoved := 0
  pds := .own ⟨priority1, ⟨248, 0xfe, 0xffff⟩, 128, identity, 128⟩

theorem onePort_fresh (priority1 : U8) (identity : ClockIdentity)
    : (onePort priority1 identity).Fresh where
  compare := .inl rfl
  ports := by
    intro p member
    obtain rfl := List.mem_singleton.mp member
    exact ⟨rfl, rfl, rfl, rfl, .inl rfl⟩
  pds := rfl
  stepsRemoved := rfl

/-- The port opens and hears nothing. -/
def toMaster : List ClockEvent :=
  [.dispatch 0 ⟨false, true⟩ .evInitialize, .announceTimeout 0 ⟨false, true⟩ false]

/-- The port opens and hears a better clock. -/
def toSlave : List ClockEvent :=
  [.dispatch 0 ⟨false, true⟩ .evInitialize,
    .announce 0 true 10 betterAnnounce,
    .announce 0 true 10 betterAnnounce,
    .announce 0 true 10 betterAnnounce,
    .stateDecision 10 fun _ => ⟨false, true⟩,
    .dispatch 0 ⟨false, true⟩ .masterClockSelected]

/-- Two clocks on one segment. -/
def twoClocks : ClockNetwork Bool Unit where
  clock i :=
    if i then run clockStep (onePort 100 3) toMaster
    else run clockStep (onePort 128 7) toSlave
  segment _ _ := ()
  now _ := 10
  env _ _ := ⟨false, true⟩

/-- What the slave has heard. -/
def betterForeign : ForeignClock where
  messages := [betterAnnounce, betterAnnounce]
  dataset := announceToDataset betterAnnounce ⟨7, 1⟩ 128

/-- What a decision reads and leaves of the ports. -/
def Clock.view (c : Clock) : List (PortState × PortIdentity × U8 × List ForeignClock) :=
  c.ports.map fun p =>
    (p.state, p.portIdentity, p.localPriority, p.qualified 10)

theorem twoClocks_sound (i : Bool) : (twoClocks.clock i).Sound := by
  cases i with
  | false =>
      refine (onePort_fresh 128 7).run_sound fun event member => ?_
      simp only [toSlave, List.mem_cons, List.not_mem_nil, or_false] at member
      rcases member with rfl | rfl | rfl | rfl | rfl | rfl
      <;> first | exact trivial | (simp only [ClockEvent.Outside]; decide)
  | true =>
      refine (onePort_fresh 100 3).run_sound fun event member => ?_
      simp only [toMaster, List.mem_cons, List.not_mem_nil, or_false] at member
      rcases member with rfl | rfl
      <;> first | exact trivial | (simp only [ClockEvent.Outside]; decide)

/-- The one port of each of the two clocks. -/
theorem twoClocks_port {i : Bool} {k : ℕ} {p : Port} (placed : twoClocks.HasPort i k p)
    : k = 0
      ∧ (p.state, p.portIdentity, p.localPriority, p.qualified 10)
        = if i then (.master, ⟨3, 1⟩, 128, []) else (.slave, ⟨7, 1⟩, 128, [betterForeign]) := by
  have views :
      (twoClocks.clock i).view
        = [if i then (.master, ⟨3, 1⟩, 128, [])
          else (.slave, ⟨7, 1⟩, 128, [betterForeign])] := by
    cases i <;> decide +kernel
  have seen :
      (twoClocks.clock i).view[k]?
        = some (p.state, p.portIdentity, p.localPriority, p.qualified 10) := by
    rw [Clock.view, List.getElem?_map, placed]
    rfl
  rw [views] at seen
  cases k with
  | zero => exact ⟨rfl, (Option.some.inj seen).symm⟩
  | succ n => cases seen

theorem twoClocks_announced {q p : Port} (sender : q.portIdentity = ⟨3, 1⟩)
    (receiver : p.portIdentity = ⟨7, 1⟩) (priority : p.localPriority = 128)
    : twoClocks.Announced true q p betterForeign := by
  refine ⟨0, 10, ?_⟩
  rw [portTxAnnounce, sender, receiver, priority]
  decide +kernel

theorem twoClocks_settled : twoClocks.Settled where
  compare := by
    intro i
    cases i <;> rfl
  sound := twoClocks_sound
  ports := by
    intro i empty
    have views : ((twoClocks.clock i).view).length = 1 := by
      cases i <;> decide +kernel
    rw [Clock.view, empty] at views
    cases views
  roles := by
    intro i p member
    obtain ⟨k, placed⟩ := List.mem_iff_getElem?.mp member
    obtain ⟨_, view⟩ := twoClocks_port placed
    cases i with
    | false => exact .inr (.inl (congrArg Prod.fst view))
    | true => exact .inl (.inl (congrArg Prod.fst view))
  identities := by
    have apart : ∀ i j : Bool,
        (twoClocks.clock i).dds.clockIdentity = (twoClocks.clock j).dds.clockIdentity → i = j := by
      decide +kernel
    exact fun i j same => apart i j same
  portIdentities := by
    intro i p member
    obtain ⟨k, placed⟩ := List.mem_iff_getElem?.mp member
    obtain ⟨_, view⟩ := twoClocks_port placed
    have named := congrArg (fun v => v.2.1.clockIdentity) view
    cases i with
    | false => exact named.trans (by decide +kernel)
    | true => exact named.trans (by decide +kernel)
  portNumbers := by
    intro i k l p q first second _
    rw [(twoClocks_port first).1, (twoClocks_port second).1]
  primary := by
    have high : ∀ i : Bool,
        ¬ (twoClocks.clock i).dds.clockQuality.clockClass.toNat ≤ 127 := by
      decide +kernel
    exact fun i low => absurd low (high i)
  heard := by
    intro i k p placed fc among
    obtain ⟨rfl, view⟩ := twoClocks_port placed
    have qualified := congrArg (fun v => v.2.2.2) view
    cases i with
    | true =>
        have none : p.qualified 10 = [] := qualified
        rw [twoClocks, none] at among
        cases among
    | false =>
        have one : p.qualified 10 = [betterForeign] := qualified
        rw [twoClocks, one] at among
        obtain rfl := List.mem_singleton.mp among
        have there : (twoClocks.clock true).view.length = 1 := by decide +kernel
        rw [Clock.view, List.length_map] at there
        have here : twoClocks.HasPort true 0 ((twoClocks.clock true).ports.get ⟨0, by omega⟩) := by
          simp [ClockNetwork.HasPort]
        obtain ⟨_, seen⟩ := twoClocks_port here
        refine ⟨true, 0, _, here, .inl (congrArg Prod.fst seen), by decide, rfl, ?_⟩
        exact twoClocks_announced (congrArg (fun v => v.2.1) seen) (congrArg (fun v => v.2.1) view)
          (congrArg (fun v => v.2.2.1) view)
  hears := by
    intro i k p j l q placed there leads other _ _
    obtain ⟨rfl, view⟩ := twoClocks_port placed
    obtain ⟨rfl, seen⟩ := twoClocks_port there
    cases i with
    | true =>
        cases j with
        | true => exact absurd rfl other
        | false =>
            have slave : q.state = .slave := congrArg Prod.fst seen
            rw [slave] at leads
            exact absurd leads (by decide)
    | false =>
        cases j with
        | false => exact absurd rfl other
        | true =>
            have one : p.qualified 10 = [betterForeign] := congrArg (fun v => v.2.2.2) view
            refine ⟨betterForeign, ?_, twoClocks_announced (congrArg (fun v => v.2.1) seen)
              (congrArg (fun v => v.2.1) view) (congrArg (fun v => v.2.2.1) view)⟩
            rw [twoClocks, one]
            exact List.mem_singleton_self _
  states := by
    intro i k p placed
    obtain ⟨rfl, view⟩ := twoClocks_port placed
    have same :
        (twoClocks.decided i).ports.map Port.state = [if i then .master else .slave] := by
      cases i <;> decide +kernel
    obtain ⟨q, single, state⟩ := List.map_eq_singleton_iff.mp same
    refine ⟨q, by rw [single]; rfl, state.trans ?_⟩
    have own := congrArg Prod.fst view
    cases i with
    | false => exact own.symm
    | true => exact own.symm
  parents := by
    intro i
    cases i <;> decide +kernel
  reach := by
    intro i
    cases i <;> decide +kernel

/-- In a settled network, clocks that are joined by segments have one grandmaster, which is the best
clock among them; and each is as many steps away from it as the segments between them make it.
-/
theorem settled_grandmaster {ι σ : Type*} [Fintype ι] (net : ClockNetwork ι σ)
    (settled : net.Settled) (i : ι)
    : ∃ g,
        (neighbours net.ownerOf net.segmentOf).Reachable g i
        ∧ ∀ j,
          (neighbours net.ownerOf net.segmentOf).Reachable i j
          → (net.clock j).pds.grandmasterIdentity = (net.clock g).dds.clockIdentity
            ∧ net.root j = net.own g ∧ net.own g ≤ net.own j
            ∧ (net.clock j).stepsRemoved.toNat
              = (neighbours net.ownerOf net.segmentOf).dist g j := by
  obtain ⟨g, joined, best⟩ := settled.election.best settled.own_injective i
  refine ⟨g, joined, fun j reachable => ?_⟩
  obtain ⟨root, least, distance⟩ := best j reachable
  exact ⟨(attributesOf_inj.mp root).2.2.2, root, least, distance.symm⟩

theorem settled_grandmaster_twoClocks
    : ∃ g,
        (neighbours twoClocks.ownerOf twoClocks.segmentOf).Reachable g false
        ∧ ∀ j,
          (neighbours twoClocks.ownerOf twoClocks.segmentOf).Reachable false j
          → (twoClocks.clock j).pds.grandmasterIdentity = (twoClocks.clock g).dds.clockIdentity
            ∧ twoClocks.root j = twoClocks.own g ∧ twoClocks.own g ≤ twoClocks.own j
            ∧ (twoClocks.clock j).stepsRemoved.toNat
              = (neighbours twoClocks.ownerOf twoClocks.segmentOf).dist g j :=
  settled_grandmaster twoClocks twoClocks_settled false

/-- In a settled network every segment has a leading port, all of one clock. A clock leads by all
its ports, as its own grandmaster; or just one of its ports is a slave, and its parent is a leading
port on that port's segment, one step nearer.
-/
theorem settled_tree {ι σ : Type*} [Fintype ι] (net : ClockNetwork ι σ) (settled : net.Settled)
    : (∀ x, ∃ y, net.LeadsAt y ∧ net.segmentOf y = net.segmentOf x)
      ∧ (∀ x y,
          net.LeadsAt x → net.LeadsAt y → net.segmentOf x = net.segmentOf y
          → net.ownerOf x = net.ownerOf y)
      ∧ ∀ i,
          (net.clock i).pds.grandmasterIdentity = (net.clock i).dds.clockIdentity
            ∧ (net.clock i).stepsRemoved = 0 ∧ (∀ x, net.ownerOf x = i → net.LeadsAt x)
          ∨ ∃ x y,
              net.ownerOf x = i ∧ (net.portAt x).state = .slave
              ∧ (∀ z, net.ownerOf z = i → (net.portAt z).state = .slave → z = x)
              ∧ net.LeadsAt y ∧ net.segmentOf y = net.segmentOf x
              ∧ (net.clock i).pds.parentPortIdentity = (net.portAt y).portIdentity
              ∧ (net.clock i).stepsRemoved.toNat
                = (net.clock (net.ownerOf y)).stepsRemoved.toNat + 1 := by
  refine ⟨fun x => ?_, fun x y => settled.election.leader_unique, fun i => ?_⟩
  · obtain ⟨y, leads, same, _⟩ := settled.election.exists_leader x
    exact ⟨y, leads, same⟩
  · rcases settled.settles i with rules | ⟨k, p, best, obeys⟩
    · refine .inl ⟨(attributesOf_inj.mp rules.root).2.2.2, BitVec.eq_of_toNat_eq rules.hops, ?_⟩
      rintro x rfl
      exact rules.leads _ _ (net.hasPort_portAt x)
    · obtain ⟨j, l, q, there, leads, _, segment, announced⟩ :=
        settled.heard i k p obeys.placed best obeys.among
      obtain ⟨x, rfl, here, same⟩ := net.exists_portAt obeys.placed
      obtain ⟨y, rfl, rfl, rfl⟩ := net.exists_portAt there
      refine .inr ⟨x, y, rfl, same ▸ obeys.slave, ?_, leads, ?_, ?_, ?_⟩
      · rintro ⟨i', n⟩ owner slave
        obtain rfl : i' = x.1 := owner
        by_cases place : (n : ℕ) = k
        · exact Sigma.ext rfl (heq_of_eq (Fin.ext (place.trans here.symm)))
        · have placed := net.hasPort_portAt ⟨x.1, n⟩
          have leadsNot : ¬ (PortState.slave).Leads := by decide
          rcases obeys.others n _ placed place with
            ⟨_, leads'⟩ | ⟨_, _, _, ⟨_, passive⟩ | ⟨_, leads'⟩⟩
          · exact absurd (slave ▸ leads') leadsNot
          · exact absurd (slave.symm.trans passive) (by decide)
          · exact absurd (slave ▸ leads') leadsNot
      · rw [ClockNetwork.segmentOf, ClockNetwork.segmentOf, here]
        exact segment
      · rw [obeys.parent, announced.sender.1]
      · exact obeys.hops.trans (congrArg (· + 1) announced.stepsRemoved)

theorem settled_tree_twoClocks
    : (∀ x, ∃ y, twoClocks.LeadsAt y ∧ twoClocks.segmentOf y = twoClocks.segmentOf x)
      ∧ (∀ x y,
          twoClocks.LeadsAt x → twoClocks.LeadsAt y → twoClocks.segmentOf x = twoClocks.segmentOf y
          → twoClocks.ownerOf x = twoClocks.ownerOf y) :=
  ⟨(settled_tree twoClocks twoClocks_settled).1, (settled_tree twoClocks twoClocks_settled).2.1⟩

end TsnTrdp.Gptp
