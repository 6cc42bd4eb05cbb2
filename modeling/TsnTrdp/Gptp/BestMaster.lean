import TsnTrdp.Gptp.Clock
import TsnTrdp.Lib.Pick

/-! How a port chooses its best foreign clock, and a clock the best one of its ports. -/

namespace TsnTrdp.Gptp

open TsnTrdp.Queue

/-- The messages of a foreign clock are its sender's, and none has come too far. -/
def ForeignClock.Sound (bound : U8) (fc : ForeignClock) : Prop :=
  ∀ m ∈ fc.messages, m.sourcePortIdentity = fc.sender ∧ m.stepsRemoved.toNat < bound.toNat

/-- What a comparison makes of a foreign clock, before it may be cleared. -/
def ForeignClock.refresh (now : Int) (receiver : PortIdentity) (localPriority : U8)
    (fc : ForeignClock)
    : ForeignClock :=
  match fc.messages with
  | [] => fc
  | tmp :: _ => { fc with dataset := announceToDataset tmp receiver localPriority }.prune now

/-- Enough of its messages are current. -/
def ForeignClock.qualified (fc : ForeignClock) : Bool :=
  foreignMasterThreshold ≤ fc.messages.length

def ForeignClock.better (compare : Option Dataset → Option Dataset → Int) (fc old : ForeignClock)
    : Bool :=
  compare (some fc.dataset) (some old.dataset) > 0

section ForeignClock

variable {bound : U8} {now : Int} {receiver : PortIdentity} {localPriority : U8}
  {fc : ForeignClock}

theorem ForeignClock.prune_messages_prefix (now : Int) (fc : ForeignClock)
    : (fc.prune now).messages <+: fc.messages :=
  (List.rdropWhile_prefix _ _).trans (List.take_prefix _ _)

theorem ForeignClock.Sound.prune (sound : fc.Sound bound) : (fc.prune now).Sound bound :=
  fun m kept => sound m ((fc.prune_messages_prefix now).subset kept)

theorem ForeignClock.Sound.clear (fc : ForeignClock) : fc.clear.Sound bound :=
  fun _ kept => absurd kept List.not_mem_nil

theorem ForeignClock.Sound.push {m : Announce} (sound : fc.Sound bound)
    (own : m.sourcePortIdentity = fc.sender) (near : m.stepsRemoved.toNat < bound.toNat)
    : (fc.push m).Sound bound := by
  intro m' kept
  rcases List.mem_cons.mp kept with rfl | before
  · exact ⟨own, near⟩
  · exact sound m' before

theorem ForeignClock.Sound.refresh_sender (sound : fc.Sound bound) (now : Int)
    (receiver : PortIdentity) (localPriority : U8)
    : (fc.refresh now receiver localPriority).sender = fc.sender := by
  rcases fc with ⟨messages, dataset⟩
  cases messages with
  | nil => rfl
  | cons m rest => exact (sound m List.mem_cons_self).1

theorem ForeignClock.Sound.refresh (sound : fc.Sound bound)
    : (fc.refresh now receiver localPriority).Sound bound := by
  have same := sound.refresh_sender now receiver localPriority
  rcases fc with ⟨messages, dataset⟩
  cases messages with
  | nil => exact sound
  | cons m rest =>
      intro m' kept
      rw [same]
      exact sound m' ((ForeignClock.prune_messages_prefix now _).subset kept)

/-- One that has enough messages has been compared by its newest one. -/
theorem ForeignClock.refresh_dataset
    (enough : (fc.refresh now receiver localPriority).qualified)
    : ∃ m, (fc.refresh now receiver localPriority).messages.head? = some m
      ∧ (fc.refresh now receiver localPriority).dataset
        = announceToDataset m receiver localPriority := by
  rcases fc with ⟨messages, dataset⟩
  cases messages with
  | nil => simp [ForeignClock.refresh, ForeignClock.qualified, foreignMasterThreshold] at enough
  | cons m rest =>
      obtain ⟨dropped, whole⟩ :=
        ForeignClock.prune_messages_prefix now
          ⟨m :: rest, announceToDataset m receiver localPriority⟩
      refine ⟨m, ?_, rfl⟩
      cases kept :
          (ForeignClock.refresh now receiver localPriority ⟨m :: rest, dataset⟩).messages with
      | nil => simp [ForeignClock.qualified, kept, foreignMasterThreshold] at enough
      | cons first others =>
          have same : first :: others ++ dropped = m :: rest := kept ▸ whole
          exact congrArg some (List.cons.inj same).1

end ForeignClock

section Port

variable {compare : Option Dataset → Option Dataset → Int} {bound : U8} {now : Int}
  {receiver : PortIdentity} {localPriority : U8} {best : Option ForeignClock}
  {foreignMasters : List ForeignClock} {fc : ForeignClock}

/-- What one foreign clock is to the comparison. -/
theorem computeBest_cons (compare : Option Dataset → Option Dataset → Int) (now : Int)
    (receiver : PortIdentity) (localPriority : U8) (best : Option ForeignClock) (fc : ForeignClock)
    (rest : List ForeignClock)
    : ∃ next kept,
        computeBest compare now receiver localPriority best (fc :: rest)
          = ((computeBest compare now receiver localPriority next rest).1,
              kept :: (computeBest compare now receiver localPriority next rest).2)
        ∧ (kept = fc.refresh now receiver localPriority
            ∧ (¬ kept.qualified ∧ next = best
              ∨ kept.qualified ∧ next = some kept
                ∧ pickBy (ForeignClock.better compare) best kept = some kept)
          ∨ kept = (fc.refresh now receiver localPriority).clear
            ∧ (fc.refresh now receiver localPriority).qualified ∧ next = best
            ∧ pickBy (ForeignClock.better compare) best (fc.refresh now receiver localPriority)
              = best) := by
  rcases fc with ⟨messages, dataset⟩
  cases messages with
  | nil =>
      exact ⟨best, _, rfl, .inl ⟨rfl, .inl
        ⟨by simp [ForeignClock.qualified, foreignMasterThreshold], rfl⟩⟩⟩
  | cons m others =>
      generalize held : ForeignClock.refresh now receiver localPriority ⟨m :: others, dataset⟩ = fc
      cases best with
      | none =>
          have step :
              computeBest compare now receiver localPriority none (⟨m :: others, dataset⟩ :: rest)
                = if fc.messages.length < foreignMasterThreshold then
                    ((computeBest compare now receiver localPriority none rest).1,
                      fc :: (computeBest compare now receiver localPriority none rest).2)
                  else
                    ((computeBest compare now receiver localPriority (some fc) rest).1,
                      fc :: (computeBest compare now receiver localPriority (some fc) rest).2) := by
            subst held
            rfl
          rw [step]
          by_cases few : fc.messages.length < foreignMasterThreshold
          · rw [if_pos few]
            exact ⟨none, fc, rfl, .inl
              ⟨rfl, .inl ⟨by simpa [ForeignClock.qualified] using few, rfl⟩⟩⟩
          · rw [if_neg few]
            exact ⟨some fc, fc, rfl, .inl
              ⟨rfl, .inr ⟨by simpa [ForeignClock.qualified] using few, rfl, rfl⟩⟩⟩
      | some old =>
          have step :
              computeBest compare now receiver localPriority (some old)
                  (⟨m :: others, dataset⟩ :: rest)
                = if fc.messages.length < foreignMasterThreshold then
                    ((computeBest compare now receiver localPriority (some old) rest).1,
                      fc :: (computeBest compare now receiver localPriority (some old) rest).2)
                  else if compare (some fc.dataset) (some old.dataset) > 0 then
                    ((computeBest compare now receiver localPriority (some fc) rest).1,
                      fc :: (computeBest compare now receiver localPriority (some fc) rest).2)
                  else
                    ((computeBest compare now receiver localPriority (some old) rest).1,
                      fc.clear
                        :: (computeBest compare now receiver localPriority (some old) rest).2) := by
            subst held
            rfl
          rw [step]
          by_cases few : fc.messages.length < foreignMasterThreshold
          · rw [if_pos few]
            exact ⟨some old, fc, rfl, .inl
              ⟨rfl, .inl ⟨by simpa [ForeignClock.qualified] using few, rfl⟩⟩⟩
          · have enough : fc.qualified := by simpa [ForeignClock.qualified] using few
            rw [if_neg few]
            by_cases wins : compare (some fc.dataset) (some old.dataset) > 0
            · rw [if_pos wins]
              exact ⟨some fc, fc, rfl, .inl
                ⟨rfl, .inr ⟨enough, rfl, by simp [pickBy, ForeignClock.better, wins]⟩⟩⟩
            · rw [if_neg wins]
              exact ⟨some old, fc.clear, rfl, .inr
                ⟨rfl, enough, rfl, by simp [pickBy, ForeignClock.better, wins]⟩⟩

/-- The best one is picked among those that qualify. Induction on the foreign clocks, for every best
one before.
-/
theorem computeBest_picked (compare : Option Dataset → Option Dataset → Int) (now : Int)
    (receiver : PortIdentity) (localPriority : U8) (best : Option ForeignClock)
    (foreignMasters : List ForeignClock)
    : (computeBest compare now receiver localPriority best foreignMasters).1
      = ((foreignMasters.map (ForeignClock.refresh now receiver localPriority)).filter
          ForeignClock.qualified).foldl (pickBy (ForeignClock.better compare)) best := by
  induction foreignMasters generalizing best with
  | nil => rfl
  | cons fc rest ih =>
      obtain
        ⟨next, kept, step,
          ⟨rfl, (⟨few, rfl⟩ | ⟨enough, rfl, wins⟩)⟩ | ⟨rfl, enough, rfl, keeps⟩⟩ :=
        computeBest_cons compare now receiver localPriority best fc rest
      · simp [step, ih, few]
      · simp [step, ih, enough, wins]
      · simp [step, ih, enough, keeps]

/-- Each foreign clock is compared, and may be cleared. -/
theorem computeBest_kept (compare : Option Dataset → Option Dataset → Int) (now : Int)
    (receiver : PortIdentity) (localPriority : U8) (best : Option ForeignClock)
    (foreignMasters : List ForeignClock)
    : List.Forall₂
        (fun fc kept =>
          kept = fc.refresh now receiver localPriority
          ∨ kept = (fc.refresh now receiver localPriority).clear)
        foreignMasters
        (computeBest compare now receiver localPriority best foreignMasters).2 := by
  induction foreignMasters generalizing best with
  | nil => exact .nil
  | cons fc rest ih =>
      obtain ⟨next, kept, step, ⟨same, _⟩ | ⟨same, _⟩⟩ :=
        computeBest_cons compare now receiver localPriority best fc rest
      · rw [step]
        exact .cons (.inl same) (ih next)
      · rw [step]
        exact .cons (.inr same) (ih next)

/-- The best one is not cleared. -/
theorem computeBest_mem
    (picked : (computeBest compare now receiver localPriority best foreignMasters).1 = some fc)
    : best = some fc
      ∨ fc ∈ (computeBest compare now receiver localPriority best foreignMasters).2 := by
  induction foreignMasters generalizing best with
  | nil => exact .inl picked
  | cons first rest ih =>
      obtain ⟨next, kept, step, outcome⟩ :=
        computeBest_cons compare now receiver localPriority best first rest
      rw [step] at picked ⊢
      rcases ih picked with before | later
      · rcases outcome with ⟨_, (⟨_, same⟩ | ⟨_, same, _⟩)⟩ | ⟨_, _, same, _⟩
        · exact .inl (same ▸ before)
        · obtain rfl := Option.some.inj (same.symm.trans before)
          exact .inr List.mem_cons_self
        · exact .inl (same ▸ before)
      · exact .inr (List.mem_cons_of_mem kept later)

/-- The foreign clocks of a port are sound, and each of its own sender. -/
structure Port.Registered (bound : U8) (p : Port) : Prop where
  senders : (p.foreignMasters.map ForeignClock.sender).Nodup
  sound : ∀ fc ∈ p.foreignMasters, fc.Sound bound

/-- The foreign clocks among which a port chooses its best one. -/
def Port.qualified (now : Int) (p : Port) : List ForeignClock :=
  if p.masterOnly then []
  else
    (p.foreignMasters.map (ForeignClock.refresh now p.portIdentity p.localPriority)).filter
      ForeignClock.qualified

variable {p : Port}

theorem find?_isFrom (senders : (foreignMasters.map ForeignClock.sender).Nodup)
    (member : fc ∈ foreignMasters)
    : foreignMasters.find? (ForeignClock.isFrom fc.sender) = some fc := by
  induction foreignMasters with
  | nil => cases member
  | cons first rest ih =>
      rw [List.map_cons, List.nodup_cons] at senders
      rcases List.mem_cons.mp member with rfl | later
      · simp [ForeignClock.isFrom]
      · have other : first.sender ≠ fc.sender := fun same =>
          senders.1 (same ▸ List.mem_map_of_mem later)
        simpa [ForeignClock.isFrom, other] using ih senders.2 later

/-- The comparison keeps the foreign clocks sound and in their order. Induction on them. -/
theorem kept_registered {kepts : List ForeignClock}
    (kept
      : List.Forall₂
          (fun fc kept =>
            kept = fc.refresh now receiver localPriority
            ∨ kept = (fc.refresh now receiver localPriority).clear)
          foreignMasters kepts)
    (sound : ∀ fc ∈ foreignMasters, fc.Sound bound)
    : kepts.map ForeignClock.sender = foreignMasters.map ForeignClock.sender
      ∧ ∀ fc ∈ kepts, fc.Sound bound := by
  induction kept with
  | nil => exact ⟨rfl, fun _ member => absurd member List.not_mem_nil⟩
  | @cons fc kept rest kepts outcome _ ih =>
      obtain ⟨own, others⟩ := List.forall_mem_cons.mp sound
      obtain ⟨senders, sounds⟩ := ih others
      have same : kept.sender = fc.sender := by
        rcases outcome with rfl | rfl
        · exact own.refresh_sender now receiver localPriority
        · exact own.refresh_sender now receiver localPriority
      have first : kept.Sound bound := by
        rcases outcome with rfl | rfl
        · exact own.refresh
        · exact ForeignClock.Sound.clear _
      exact ⟨by simp [same, senders], List.forall_mem_cons.mpr ⟨first, sounds⟩⟩

theorem portComputeBest_of_masterOnly (excluded : p.masterOnly)
    : portComputeBest compare now p = { p with best := none } := by
  simp [portComputeBest, excluded]

theorem portComputeBest_of_not_masterOnly (included : ¬ p.masterOnly)
    : portComputeBest compare now p
      = { p with
          best :=
            (computeBest compare now p.portIdentity p.localPriority none p.foreignMasters).1.map
              ForeignClock.sender
          foreignMasters :=
            (computeBest compare now p.portIdentity p.localPriority none p.foreignMasters).2 } := by
  simp [portComputeBest, included]

/-- The choice changes nothing of a port but its foreign clocks and the best one. -/
theorem portComputeBest_eq (compare : Option Dataset → Option Dataset → Int) (now : Int) (p : Port)
    : portComputeBest compare now p
      = { p with
          best := (portComputeBest compare now p).best
          foreignMasters := (portComputeBest compare now p).foreignMasters } := by
  by_cases excluded : p.masterOnly
  · rw [portComputeBest_of_masterOnly excluded]
  · rw [portComputeBest_of_not_masterOnly excluded]

theorem portComputeBest_registered (compare : Option Dataset → Option Dataset → Int) (now : Int)
    (registered : p.Registered bound)
    : (portComputeBest compare now p).foreignMasters.map ForeignClock.sender
        = p.foreignMasters.map ForeignClock.sender
      ∧ (portComputeBest compare now p).Registered bound := by
  by_cases excluded : p.masterOnly
  · rw [portComputeBest_of_masterOnly excluded]
    exact ⟨rfl, registered.senders, registered.sound⟩
  · rw [portComputeBest_of_not_masterOnly excluded]
    obtain ⟨senders, sounds⟩ :=
      kept_registered (computeBest_kept compare now p.portIdentity p.localPriority none _)
        registered.sound
    exact ⟨senders, senders ▸ registered.senders, sounds⟩

/-- The best foreign clock of a port is picked among the qualified ones. -/
theorem portComputeBest_bestClock (compare : Option Dataset → Option Dataset → Int) (now : Int)
    (registered : p.Registered bound)
    : (portComputeBest compare now p).bestClock
        = (p.qualified now).foldl (pickBy (ForeignClock.better compare)) none
      ∧ (portComputeBest compare now p).best
        = (portComputeBest compare now p).bestClock.map ForeignClock.sender := by
  by_cases excluded : p.masterOnly
  · simp [portComputeBest_of_masterOnly excluded, Port.qualified, excluded, Port.bestClock]
  · have after := (portComputeBest_registered compare now registered).2.senders
    rw [portComputeBest_of_not_masterOnly excluded] at after ⊢
    have picked :=
      computeBest_picked compare now p.portIdentity p.localPriority none p.foreignMasters
    have among : p.qualified now
        = (p.foreignMasters.map (ForeignClock.refresh now p.portIdentity p.localPriority)).filter
            ForeignClock.qualified := by
      simp [Port.qualified, excluded]
    rw [among, ← picked]
    cases chosen :
        (computeBest compare now p.portIdentity p.localPriority none p.foreignMasters).1 with
    | none => simp [Port.bestClock]
    | some fc =>
        rcases computeBest_mem chosen with never | member
        · cases never
        · have found := find?_isFrom after member
          simp [Port.bestClock, found]

/-- A qualified foreign clock has been compared by its newest message. -/
theorem Port.mem_qualified (registered : p.Registered bound) (member : fc ∈ p.qualified now)
    : ¬ p.masterOnly ∧ fc.Sound bound
      ∧ ∃ m, fc.messages.head? = some m
        ∧ fc.dataset = announceToDataset m p.portIdentity p.localPriority := by
  by_cases excluded : p.masterOnly
  · simp [Port.qualified, excluded] at member
  · rw [Port.qualified, if_neg excluded] at member
    obtain ⟨compared, enough⟩ := List.mem_filter.mp member
    obtain ⟨old, known, rfl⟩ := List.mem_map.mp compared
    exact ⟨excluded, (registered.sound old known).refresh, ForeignClock.refresh_dataset enough⟩

end Port

section Clock

variable {compare : Option Dataset → Option Dataset → Int} {now : Int} {c : Clock}

/-- The best foreign clocks of the ports, with the places of their ports. -/
def Clock.candidates (now : Int) (c : Clock) : List (Nat × ForeignClock) :=
  (c.ports.map (portComputeBest c.dscmp now)).zipIdx.filterMap fun (p, i) =>
    p.bestClock.map fun fc => (i, fc)

theorem Clock.mem_candidates {i : Nat} {fc : ForeignClock}
    : (i, fc) ∈ c.candidates now
      ↔ ∃ p, c.ports[i]? = some p ∧ (portComputeBest c.dscmp now p).bestClock = some fc := by
  constructor
  · intro member
    obtain ⟨⟨q, j⟩, held, best⟩ := List.mem_filterMap.mp member
    obtain ⟨fc', found, same⟩ := Option.map_eq_some_iff.mp best
    obtain ⟨rfl, rfl⟩ := Prod.mk.inj same
    rw [List.mem_zipIdx_iff_getElem?, List.getElem?_map] at held
    obtain ⟨p, placed, rfl⟩ := Option.map_eq_some_iff.mp held
    exact ⟨p, placed, found⟩
  · rintro ⟨p, placed, found⟩
    refine List.mem_filterMap.mpr ⟨(portComputeBest c.dscmp now p, i), ?_, by simp [found]⟩
    rw [List.mem_zipIdx_iff_getElem?, List.getElem?_map, placed]
    rfl

theorem betterOf_eq
    : betterOf compare = pickBy fun fc old => ForeignClock.better compare fc.2 old.2 := by
  funext best fc
  cases best with
  | none => rfl
  | some old =>
      by_cases wins : compare (some fc.2.dataset) (some old.2.dataset) > 0
      <;> simp [betterOf, pickBy, ForeignClock.better, wins]

theorem Clock.computeBest_best
    : (c.computeBest now).best
      = (c.candidates now).foldl
          (pickBy fun fc old => ForeignClock.better c.dscmp fc.2 old.2) none := by
  rw [← betterOf_eq]
  rfl

theorem Clock.computeBest_some {i : Nat} {fc : ForeignClock}
    (chosen : (c.computeBest now).best = some (i, fc))
    : ∃ p, c.ports[i]? = some p ∧ (portComputeBest c.dscmp now p).bestClock = some fc := by
  rw [Clock.computeBest_best] at chosen
  rcases foldl_pickBy_mem chosen with never | member
  · cases never
  · exact Clock.mem_candidates.mp member

theorem Clock.computeBest_none
    : (c.computeBest now).best = none
      ↔ ∀ (i : Nat) (p : Port),
        c.ports[i]? = some p → (portComputeBest c.dscmp now p).bestClock = none := by
  rw [Clock.computeBest_best, foldl_pickBy_none]
  constructor
  · rintro ⟨_, empty⟩ i p placed
    cases found : (portComputeBest c.dscmp now p).bestClock with
    | none => rfl
    | some fc =>
        have member : (i, fc) ∈ c.candidates now := Clock.mem_candidates.mpr ⟨p, placed, found⟩
        rw [empty] at member
        cases member
  · intro none
    refine ⟨rfl, List.eq_nil_iff_forall_not_mem.mpr ?_⟩
    rintro ⟨i, fc⟩ member
    obtain ⟨p, placed, found⟩ := Clock.mem_candidates.mp member
    rw [none i p placed] at found
    cases found

end Clock

end TsnTrdp.Gptp
