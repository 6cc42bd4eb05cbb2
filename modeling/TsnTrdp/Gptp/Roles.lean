import TsnTrdp.Gptp.BestMaster
import TsnTrdp.Lib.Run

/-! The roles of a clock's ports, whatever happens to the clock. -/

namespace TsnTrdp.Gptp

open TsnTrdp.Queue TsnTrdp.Run

/-- What a port keeps. -/
structure Port.Sound (bound : U8) (p : Port) : Prop where
  registered : p.Registered bound
  best : ∀ sender ∈ p.best, sender ∈ p.foreignMasters.map ForeignClock.sender
  masterOnly : p.masterOnly → p.best = none
  closed : p.state.Closed → p.foreignMasters = []
  bmca : p.bmca = .ptp
  machine : p.stateMachine = ptpFsm ∨ p.stateMachine = ptpSlaveFsm ∧ SlaveOnly p.state

/-- A port that follows a master, or stands back for one, knows that master. -/
def Port.Hears (p : Port) : Prop := p.state.Follows ∨ p.state = .passive → p.best ≠ none

section Port

variable {bound : U8} {p : Port} {env : PortEnv} {event : FsmEvent} {mdiff : Bool} {now : Int}

theorem Port.Sound.portFsm (sound : p.Sound bound)
    : ∃ Gets, PortFsm p.stateMachine Gets ∧ Gets p.state := by
  rcases sound.machine with plain | ⟨slaveOnly, state⟩
  · exact ⟨_, plain ▸ ptpFsm_portFsm, trivial⟩
  · exact ⟨_, slaveOnly ▸ ptpSlaveFsm_portFsm, state⟩

theorem Port.Sound.best_of_closed (sound : p.Sound bound) (closed : p.state.Closed)
    : p.best = none := by
  cases chosen : p.best with
  | none => rfl
  | some sender =>
      have known := sound.best sender chosen
      rw [sound.closed closed] at known
      cases known

theorem Port.Sound.portDisable (sound : p.Sound bound) (closed : p.state.Closed)
    : portDisable p = p := by
  have best := sound.best_of_closed closed
  have empty := sound.closed closed
  cases p
  simp_all [Gptp.portDisable]

theorem portStateUpdate_restart (sound : p.Sound bound)
    (restarts
      : p.stateMachine p.state event mdiff = .initializing
        ∨ p.stateMachine p.state event mdiff = .faulty ∧ env.clearFaultAsap)
    : portStateUpdate env event mdiff p
      = if (if env.portInitialize then PortState.listening else .faulty) ≠ p.state then
          (true,
            { portDisable p with
              state := if env.portInitialize then .listening else .faulty })
        else (false, portDisable p) := by
  obtain ⟨Gets, fsm, _⟩ := sound.portFsm
  have idle : (if portIsEnabled p then portDisable p else p) = portDisable p := by
    by_cases closed : p.state.Closed
    · simp [portIsEnabled, closed, sound.portDisable closed]
    · simp [portIsEnabled, closed]
  have first :
      (if p.stateMachine p.state event mdiff = .faulty ∧ env.clearFaultAsap then
        p.stateMachine (p.stateMachine p.state event mdiff) .faultCleared false
      else p.stateMachine p.state event mdiff) = .initializing := by
    rcases restarts with started | ⟨faulty, asap⟩
    · simp [started]
    · simp [faulty, asap, fsm.cleared]
  have second :
      p.stateMachine .initializing
          (if env.portInitialize then .initComplete else .faultDetected) false
        = if env.portInitialize then .listening else .faulty := by
    by_cases opens : env.portInitialize
    · simp [opens, fsm.initialized]
    · simp [opens, fsm.failed]
  simp only [portStateUpdate, first, if_true, second, idle]

theorem portStateUpdate_next
    (stays
      : ¬ (p.stateMachine p.state event mdiff = .initializing
        ∨ p.stateMachine p.state event mdiff = .faulty ∧ env.clearFaultAsap))
    : portStateUpdate env event mdiff p
      = if p.stateMachine p.state event mdiff ≠ p.state then
          (true, { p with state := p.stateMachine p.state event mdiff })
        else (false, p) := by
  obtain ⟨started, faulty⟩ := not_or.mp stays
  simp only [portStateUpdate, if_neg faulty, if_neg started]

/-- A dispatch closes or reopens the port, or it moves the state of an open port. -/
theorem bcDispatch_cases (env : PortEnv) (event : FsmEvent) (mdiff : Bool) (sound : p.Sound bound)
    : (∃ state : PortState,
        (state.Closed ∨ state = .listening)
        ∧ bcDispatch env event mdiff p = { portDisable p with state := state })
      ∨ ¬ p.state.Closed ∧ ¬ (p.stateMachine p.state event mdiff).Closed
        ∧ bcDispatch env event mdiff p
          = { p with state := p.stateMachine p.state event mdiff } := by
  obtain ⟨Gets, fsm, _⟩ := sound.portFsm
  by_cases restarts :
      p.stateMachine p.state event mdiff = .initializing
      ∨ p.stateMachine p.state event mdiff = .faulty ∧ env.clearFaultAsap
  · refine .inl ⟨if env.portInitialize then .listening else .faulty, ?_, ?_⟩
    · by_cases opens : env.portInitialize
      · simp [opens]
      · simp [opens, PortState.Closed]
    · rw [bcDispatch, portStateUpdate_restart sound restarts]
      generalize (if env.portInitialize then PortState.listening else .faulty) = state
      by_cases same : state = p.state
      · simp [same, portDisable]
      · by_cases closes : state = .faulty ∨ state = .disabled
        · simp [same, closes, portDisable]
        · simp [same, closes]
  · rw [bcDispatch, portStateUpdate_next restarts]
    generalize held : p.stateMachine p.state event mdiff = next at restarts ⊢
    by_cases closed : p.state.Closed
    · refine .inl ⟨next, ?_, ?_⟩
      · by_cases opens : p.state = .initializing ∧ event = .initComplete
        · rw [opens.1, opens.2, fsm.initialized] at held
          exact .inr held.symm
        · exact .inl (held ▸ fsm.closed p.state event mdiff closed fun first second =>
            opens ⟨first, second⟩)
      · rw [sound.portDisable closed]
        by_cases same : next = p.state
        · simp [same]
        · have again : portDisable { p with state := next } = { p with state := next } := by
            rw [← sound.portDisable closed]
            rfl
          by_cases closes : next = .faulty ∨ next = .disabled
          · simp [same, closes, again]
          · simp [same, closes]
    · by_cases closes : next.Closed
      · refine .inl ⟨next, .inl closes, ?_⟩
        have same : next ≠ p.state := fun same => closed (same ▸ closes)
        have ends : next = .faulty ∨ next = .disabled :=
          closes.resolve_left fun started => restarts (.inl started)
        simp [same, ends, portDisable]
      · refine .inr ⟨closed, closes, ?_⟩
        have ends : ¬ (next = .faulty ∨ next = .disabled) := fun ends => closes (.inr ends)
        by_cases same : next = p.state
        · simp [same]
        · simp [same, ends]

theorem bcDispatch_sound (sound : p.Sound bound) : (bcDispatch env event mdiff p).Sound bound := by
  rcases bcDispatch_cases env event mdiff sound with
    ⟨state, ends, same⟩ | ⟨opened, stays, same⟩
  · rw [same]
    exact
      { registered := ⟨List.nodup_nil, fun _ member => absurd member List.not_mem_nil⟩
        best := fun _ chosen => absurd chosen (Option.not_mem_none _)
        masterOnly := fun _ => rfl
        closed := fun _ => rfl
        bmca := sound.bmca
        machine := sound.machine.imp_right fun slave =>
          ⟨slave.1, ends.imp_right fun listens => .inl listens⟩ }
  · obtain ⟨registered, best, masterOnly, _, bmca, machine⟩ := sound
    rw [same]
    refine ⟨⟨registered.senders, registered.sound⟩, best, masterOnly,
      fun closed => absurd closed stays, bmca, ?_⟩
    refine machine.imp_right fun slave => ⟨slave.1, ?_⟩
    have gets := ptpSlaveFsm_portFsm.gets p.state event mdiff slave.2
    rw [← slave.1] at gets
    exact gets

theorem PortState.not_follows {state : PortState} (ends : state.Closed ∨ state = .listening)
    : ¬ (state.Follows ∨ state = .passive) := by
  rcases ends with (rfl | rfl | rfl) | rfl <;> decide

/-- A port that follows a master after the dispatch is as it was, but for its state. -/
theorem bcDispatch_follows (sound : p.Sound bound)
    (follows : (bcDispatch env event mdiff p).state.Follows)
    : (bcDispatch env event mdiff p).best = p.best
      ∧ (event = .rsSlave ∨ p.state.Follows ∧ ¬ event.Recommends) := by
  obtain ⟨Gets, fsm, _⟩ := sound.portFsm
  rcases bcDispatch_cases env event mdiff sound with
    ⟨state, ends, same⟩ | ⟨_, _, same⟩
  · rw [same] at follows
    exact absurd (.inl follows) (PortState.not_follows ends)
  · rw [same] at follows ⊢
    exact ⟨rfl, fsm.follows p.state event mdiff follows⟩

/-- A port that follows a master or stands back for one has been told to, or has done so before. -/
theorem bcDispatch_hears (sound : p.Sound bound)
    (knows
      : event = .rsSlave ∨ event = .rsPassive
          ∨ (p.state.Follows ∨ p.state = .passive) ∧ ¬ event.Recommends
        → p.best ≠ none)
    : (bcDispatch env event mdiff p).Hears := by
  obtain ⟨Gets, fsm, got⟩ := sound.portFsm
  intro hears
  rcases bcDispatch_cases env event mdiff sound with
    ⟨state, ends, same⟩ | ⟨_, _, same⟩
  · rw [same] at hears
    exact absurd hears (PortState.not_follows ends)
  · rw [same] at hears ⊢
    refine knows ?_
    rcases hears with follows | passive
    · rcases fsm.follows p.state event mdiff follows with told | ⟨before, other⟩
      · exact .inl told
      · exact .inr (.inr ⟨.inl before, other⟩)
    · rcases fsm.passive p.state event mdiff got passive with told | ⟨before, other⟩
      · exact .inr (.inl told)
      · exact .inr (.inr ⟨.inr before, other⟩)

/-- Other foreign clocks, for those that were there. -/
theorem Port.Sound.withForeign {foreignMasters : List ForeignClock} (sound : p.Sound bound)
    (registered : Port.Registered bound { p with foreignMasters })
    (known
      : ∀ sender ∈ p.foreignMasters.map ForeignClock.sender,
          sender ∈ foreignMasters.map ForeignClock.sender)
    (closed : p.state.Closed → foreignMasters = [])
    : Port.Sound bound { p with foreignMasters } where
  registered
  best := fun sender chosen => known sender (sound.best sender chosen)
  masterOnly := sound.masterOnly
  closed
  bmca := sound.bmca
  machine := sound.machine

/-- A change in place of the foreign clock of one sender. -/
theorem Port.Sound.modifyForeign {sender : PortIdentity} {f : ForeignClock → ForeignClock}
    (sound : p.Sound bound) (keeps : ∀ fc, (f fc).sender = fc.sender)
    (sounds : ∀ fc, fc.sender = sender → fc.Sound bound → (f fc).Sound bound)
    : Port.Sound bound
        { p with
          foreignMasters := modifyFirst (ForeignClock.isFrom sender) f p.foreignMasters } := by
  have senders :
      (modifyFirst (ForeignClock.isFrom sender) f p.foreignMasters).map ForeignClock.sender
        = p.foreignMasters.map ForeignClock.sender :=
    map_modifyFirst fun fc _ => keeps fc
  refine sound.withForeign ⟨?_, ?_⟩ (fun _ known => senders.symm ▸ known) ?_
  · exact senders.symm ▸ sound.registered.senders
  · intro fc member
    rcases mem_modifyFirst member with old | ⟨old, found, rfl⟩
    · exact sound.registered.sound fc old
    · have own : ForeignClock.isFrom sender old := List.find?_some found
      exact sounds old (of_decide_eq_true own)
        (sound.registered.sound old (List.mem_of_find?_eq_some found))
  · intro closed
    rw [sound.closed closed]
    rfl

theorem Port.Sound.addTo {m : Announce} (sound : p.Sound bound)
    (near : m.stepsRemoved.toNat < bound.toNat)
    : (p.addTo now m).Sound bound :=
  sound.modifyForeign (f := fun fc => (fc.prune now).push m) (fun _ => rfl) fun _ own held =>
    held.prune.push own.symm near

/-- An announcement is added to what its sender has announced before, or makes its sender known. -/
theorem addForeignMaster_sound {alloc : Bool} {m : Announce} (sound : p.Sound bound)
    (opened : ¬ p.state.Closed) (near : m.stepsRemoved.toNat < bound.toNat)
    : (addForeignMaster alloc now m p).2.Sound bound := by
  rw [addForeignMaster]
  cases found : p.foreignMasters.find? (ForeignClock.isFrom m.sourcePortIdentity) with
  | some fc => exact sound.addTo near
  | none =>
      cases alloc with
      | false => exact sound
      | true =>
          have other : m.sourcePortIdentity ∉ p.foreignMasters.map ForeignClock.sender := by
            intro known
            obtain ⟨fc, member, same⟩ := List.mem_map.mp known
            have never := List.find?_eq_none.mp found fc member
            exact never (by simpa [ForeignClock.isFrom] using same)
          refine sound.withForeign ⟨?_, ?_⟩ (fun _ known => List.mem_cons_of_mem _ known)
            fun closed => absurd closed opened
          · exact List.nodup_cons.mpr ⟨other, sound.registered.senders⟩
          · exact List.forall_mem_cons.mpr
              ⟨fun _ member => absurd member List.not_mem_nil, sound.registered.sound⟩

theorem processAnnounce_sound (alloc : Bool) (now : Int) (m : Announce) (sound : p.Sound bound)
    : (processAnnounce bound alloc now m p).2.Sound bound := by
  rw [processAnnounce]
  by_cases far : m.stepsRemoved.toNat ≥ bound.toNat
  · rw [if_pos far]
    exact sound
  · rw [if_neg far]
    have near := not_le.mp far
    have adds (opened : ¬ p.state.Closed) : (addForeignMaster alloc now m p).2.Sound bound :=
      addForeignMaster_sound sound opened near
    have updates (opened : ¬ p.state.Closed)
        : (updateCurrentMaster alloc now m p).2.Sound bound := by
      rw [updateCurrentMaster]
      cases p.bestClock with
      | none => exact adds opened
      | some fc =>
          by_cases own : fc.isFrom m.sourcePortIdentity
          · simpa only [own, if_true] using sound.addTo near
          · simpa [own] using adds opened
    cases state : p.state with
    | initializing | faulty | disabled => exact sound
    | listening | preMaster | master | grandMaster =>
        exact adds (by rw [state]; decide)
    | passive | uncalibrated | slave => exact updates (by rw [state]; decide)

/-- An announcement changes the foreign clocks of a port only. -/
theorem processAnnounce_eq {alloc : Bool} {m : Announce}
    : (processAnnounce bound alloc now m p).2
      = { p with foreignMasters := (processAnnounce bound alloc now m p).2.foreignMasters } := by
  have adds : (addForeignMaster alloc now m p).2
      = { p with foreignMasters := (addForeignMaster alloc now m p).2.foreignMasters } := by
    rw [addForeignMaster]
    cases p.foreignMasters.find? (ForeignClock.isFrom m.sourcePortIdentity) with
    | some fc => rfl
    | none => cases alloc <;> rfl
  have updates : (updateCurrentMaster alloc now m p).2
      = { p with foreignMasters := (updateCurrentMaster alloc now m p).2.foreignMasters } := by
    rw [updateCurrentMaster]
    cases p.bestClock with
    | none => exact adds
    | some fc =>
        by_cases own : fc.isFrom m.sourcePortIdentity
        · simp only [own, if_true]
          rfl
        · simpa only [own, Bool.false_eq_true, if_false] using adds
  rw [processAnnounce]
  by_cases far : m.stepsRemoved.toNat ≥ bound.toNat
  · rw [if_pos far]
  · rw [if_neg far]
    split
    all_goals first | rfl | exact adds | exact updates

end Port

/-- A clock that goes after the port `p` at the place `i` has the master that this port names, as it
announced itself last when it was chosen.
-/
def Clock.GoesAfter (c : Clock) (i : Nat) (p : Port) : Prop :=
  ∃ fc m,
    c.best = some (i, fc)
    ∧ fc.messages.head? = some m
    ∧ p.best = some m.sourcePortIdentity
    ∧ c.pds = .of fc m
    ∧ c.pds.parentPortIdentity = m.sourcePortIdentity
    ∧ c.stepsRemoved.toNat = m.stepsRemoved.toNat + 1
    ∧ m.stepsRemoved.toNat < c.maxStepsRemoved.toNat

/-- What a clock keeps. -/
structure Clock.Sound (c : Clock) : Prop where
  compare : ∃ compare, c.dscmp = comparePointers compare
  ports : ∀ p ∈ c.ports, p.Sound c.maxStepsRemoved ∧ p.Hears
  follows
    : ∀ (i : Nat) p,
        c.ports[i]? = some p
        → p.state.Follows
        → 127 < c.dds.clockQuality.clockClass.toNat ∧ c.GoesAfter i p
  own
    : c.dds.clockQuality.clockClass.toNat ≤ 127
      → c.pds = .own c.dds ∧ c.stepsRemoved = 0

section Clock

variable {c : Clock} {i : Nat} {now : Int}

/-- One port changes, and does not begin to follow a master. -/
theorem Clock.Sound.modifyPort {f : Port → Port} (sound : c.Sound)
    (keeps
      : ∀ p, p.Sound c.maxStepsRemoved → p.Hears
        → (f p).Sound c.maxStepsRemoved ∧ (f p).Hears
          ∧ ((f p).state.Follows → p.state.Follows ∧ (f p).best = p.best))
    : Clock.Sound { c with ports := c.ports.modify i f } where
  compare := sound.compare
  ports := by
    intro q member
    obtain ⟨j, placed⟩ := List.mem_iff_getElem?.mp member
    rw [List.getElem?_modify] at placed
    obtain ⟨p, before, rfl⟩ := Option.map_eq_some_iff.mp placed
    obtain ⟨port, hears⟩ := sound.ports p (List.mem_of_getElem? before)
    by_cases same : i = j
    · simpa only [same, if_true] using ⟨(keeps p port hears).1, (keeps p port hears).2.1⟩
    · simpa only [same, if_false] using ⟨port, hears⟩
  follows := by
    intro j q placed follows
    rw [List.getElem?_modify] at placed
    obtain ⟨p, before, rfl⟩ := Option.map_eq_some_iff.mp placed
    by_cases same : i = j
    · simp only [same, if_true] at follows ⊢
      obtain ⟨port, hears⟩ := sound.ports p (List.mem_of_getElem? before)
      obtain ⟨followed, best⟩ := (keeps p port hears).2.2 follows
      obtain ⟨below, fc, m, chosen, newest, named, rest⟩ := sound.follows j p before followed
      exact ⟨below, fc, m, chosen, newest, best.trans named, rest⟩
    · simp only [same, if_false] at follows ⊢
      exact sound.follows j p before follows
  own := sound.own

/-- A dispatch that is no decision. -/
theorem bcDispatch_keeps {bound : U8} {event : FsmEvent} {p : Port} (env : PortEnv)
    (other : ¬ event.Recommends) (sound : p.Sound bound) (hears : p.Hears)
    : (bcDispatch env event false p).Sound bound ∧ (bcDispatch env event false p).Hears
      ∧ ((bcDispatch env event false p).state.Follows
        → p.state.Follows ∧ (bcDispatch env event false p).best = p.best) := by
  refine ⟨bcDispatch_sound sound, bcDispatch_hears sound ?_, fun follows => ?_⟩
  · rintro (rfl | rfl | ⟨before, _⟩)
    · exact absurd (by decide) other
    · exact absurd (by decide) other
    · exact hears before
  · obtain ⟨best, rfl | ⟨before, _⟩⟩ := bcDispatch_follows sound follows
    · exact absurd (by decide) other
    · exact ⟨before, best⟩

theorem Clock.Sound.announce {alloc : Bool} {m : Announce} (sound : c.Sound)
    : (clockStep c (.announce i alloc now m)).Sound := by
  refine sound.modifyPort fun p port hears => ?_
  have after := processAnnounce_sound alloc now m port
  rw [processAnnounce_eq] at after ⊢
  exact ⟨after, hears, fun follows => ⟨follows, rfl⟩⟩

theorem Port.Sound.clearBest {bound : U8} {p : Port} (sound : p.Sound bound)
    : p.clearBest.Sound bound := by
  rw [Port.clearBest]
  split
  · exact sound
  · exact sound.modifyForeign (f := ForeignClock.clear) (fun _ => rfl) fun fc _ _ =>
      ForeignClock.Sound.clear fc

theorem Port.clearBest_eq (p : Port)
    : p.clearBest = { p with foreignMasters := p.clearBest.foreignMasters } := by
  rw [Port.clearBest]
  split <;> rfl

theorem Clock.Sound.announceTimeout {env : PortEnv} {renewFails : Bool} (sound : c.Sound)
    : (clockStep c (.announceTimeout i env renewFails)).Sound := by
  refine sound.modifyPort fun p port hears => ?_
  have cleared := port.clearBest
  have other :
      ¬ (if renewFails then FsmEvent.faultDetected
        else if p.inhibitAnnounce then .none
        else .announceReceiptTimeoutExpires).Recommends := by
    cases renewFails <;> cases p.inhibitAnnounce <;> decide
  have keeps := bcDispatch_keeps env other cleared
  rw [Gptp.announceTimeout]
  rw [Port.clearBest_eq] at keeps ⊢
  exact keeps hears

/-- What a clock may decide about a port, and when. -/
theorem bmcStateDecision_cases {compare : Dataset → Dataset → Int} {r : Port}
    (compared : c.dscmp = comparePointers compare) (ptp : r.bmca = .ptp)
    : bmcStateDecision c i r = .listening ∧ r.state = .listening
      ∨ bmcStateDecision c i r = .grandMaster
        ∧ (c.dds.clockQuality.clockClass.toNat ≤ 127
          ∨ c.dscmp (some (clockDefaultDs c.dds)) (clockBestForeign c) > 0)
      ∨ bmcStateDecision c i r = .passive ∧ portBestForeign r ≠ none
      ∨ (127 < c.dds.clockQuality.clockClass.toNat
          ∧ ¬ c.dscmp (some (clockDefaultDs c.dds)) (clockBestForeign c) > 0)
        ∧ (bmcStateDecision c i r = .slave ∧ c.best.map Prod.fst = some i
          ∨ bmcStateDecision c i r = .master) := by
  rw [bmcStateDecision]
  simp only [ptp, reduceCtorEq, and_false, if_false]
  by_cases waits : portBestForeign r = none ∧ r.state = .listening
  · rw [if_pos waits]
    exact .inl ⟨waits.2, waits.2⟩
  · rw [if_neg waits]
    by_cases primary : c.dds.clockQuality.clockClass.toNat ≤ 127
    · rw [if_pos primary]
      by_cases wins : c.dscmp (some (clockDefaultDs c.dds)) (portBestForeign r) > 0
      · rw [if_pos wins]
        exact .inr (.inl ⟨rfl, .inl primary⟩)
      · rw [if_neg wins]
        refine .inr (.inr (.inl ⟨rfl, fun none => wins ?_⟩))
        rw [none, compared]
        have better : (0 : Int) < aBetter := by decide
        exact better
    · rw [if_neg primary]
      by_cases wins : c.dscmp (some (clockDefaultDs c.dds)) (clockBestForeign c) > 0
      · rw [if_pos wins]
        exact .inr (.inl ⟨rfl, .inr wins⟩)
      · rw [if_neg wins]
        have below := not_le.mp primary
        by_cases chosen : c.best.map Prod.fst = some i
        · rw [if_pos chosen]
          exact .inr (.inr (.inr ⟨⟨below, wins⟩, .inl ⟨rfl, chosen⟩⟩))
        · rw [if_neg chosen]
          by_cases topo : c.dscmp (clockBestForeign c) (portBestForeign r) = aBetterTopo
          · rw [if_pos topo]
            refine .inr (.inr (.inl ⟨rfl, fun none => ?_⟩))
            rw [none, compared] at topo
            have apart : 0 ≠ aBetterTopo ∧ aBetter ≠ aBetterTopo := by decide
            cases best : clockBestForeign c with
            | none =>
                rw [best] at topo
                exact apart.1 topo
            | some fc =>
                rw [best] at topo
                exact apart.2 topo
          · rw [if_neg topo]
            exact .inr (.inr (.inr ⟨⟨below, wins⟩, .inr rfl⟩))

theorem clockUpdateSlave_some {fc : ForeignClock} {m : Announce} (chosen : c.best = some (i, fc))
    (newest : fc.messages.head? = some m)
    : clockUpdateSlave c
      = { c with stepsRemoved := 1 + fc.dataset.stepsRemoved, pds := .of fc m } := by
  cases held : fc.messages with
  | nil => simp [held] at newest
  | cons first rest =>
      rw [held] at newest
      obtain rfl := Option.some.inj newest
      simp [clockUpdateSlave, chosen, held]

/-- The decisions change the parent and the steps only. -/
theorem foldl_updateFor_eq (decisions : List PortState) (c : Clock)
    : decisions.foldl Clock.updateFor c
      = { c with
          stepsRemoved := (decisions.foldl Clock.updateFor c).stepsRemoved
          pds := (decisions.foldl Clock.updateFor c).pds } := by
  have one (state : PortState) (c : Clock)
      : c.updateFor state
        = { c with
            stepsRemoved := (c.updateFor state).stepsRemoved, pds := (c.updateFor state).pds } := by
    cases state with
    | slave =>
        simp only [Clock.updateFor, clockUpdateSlave]
        split
        · rfl
        · split <;> rfl
    | _ => rfl
  induction decisions generalizing c with
  | nil => rfl
  | cons state rest ih =>
      rw [List.foldl_cons, ih, one state c]

/-- Without a slave among them, the decisions leave the parent, or take the clock for its own. -/
theorem foldl_updateFor_own (decisions : List PortState) (none : .slave ∉ decisions)
    (own : c.pds = .own c.dds ∧ c.stepsRemoved = 0)
    : (decisions.foldl Clock.updateFor c).pds = .own c.dds
      ∧ (decisions.foldl Clock.updateFor c).stepsRemoved = 0 := by
  have keeps : decisions.foldl Clock.updateFor c = c := by
    induction decisions with
    | nil => rfl
    | cons state rest ih =>
        obtain ⟨other, others⟩ := not_or.mp (List.mem_cons.not.mp none)
        have one : c.updateFor state = c := by
          cases state with
          | slave => exact absurd rfl other
          | grandMaster =>
              cases c
              simp_all [Clock.updateFor, clockUpdateGrandmaster]
          | _ => rfl
        rw [List.foldl_cons, one]
        exact ih others
  rw [keeps]
  exact own

/-- With a slave among them and no grandmaster, they take the clock's best foreign clock. -/
theorem foldl_updateFor_slave {fc : ForeignClock} {m : Announce} (decisions : List PortState)
    (chosen : c.best = some (i, fc)) (newest : fc.messages.head? = some m)
    (none : .grandMaster ∉ decisions)
    (some : .slave ∈ decisions
      ∨ c.stepsRemoved = 1 + fc.dataset.stepsRemoved ∧ c.pds = .of fc m)
    : (decisions.foldl Clock.updateFor c).stepsRemoved = 1 + fc.dataset.stepsRemoved
      ∧ (decisions.foldl Clock.updateFor c).pds = .of fc m := by
  induction decisions generalizing c with
  | nil => exact some.resolve_left List.not_mem_nil
  | cons state rest ih =>
      obtain ⟨other, others⟩ := not_or.mp (List.mem_cons.not.mp none)
      rw [List.foldl_cons]
      cases state with
      | grandMaster => exact absurd rfl other
      | slave =>
          have taken : c.updateFor .slave = _ := clockUpdateSlave_some chosen newest
          rw [taken]
          exact ih chosen others (.inr ⟨rfl, rfl⟩)
      | _ =>
          refine ih chosen others (some.imp_left fun among => ?_)
          exact (List.mem_cons.mp among).resolve_left (by decide)

theorem Clock.computeBest_port {r : Port}
    : (c.computeBest now).ports[i]? = some r
      ↔ ∃ p, c.ports[i]? = some p ∧ portComputeBest c.dscmp now p = r := by
  rw [Clock.computeBest, List.getElem?_map, Option.map_eq_some_iff]

/-- The port at the place `i` after a decision. -/
theorem handleStateDecisionEvent_ports {env : Nat → PortEnv} {q : Port}
    (placed : (handleStateDecisionEvent now env c).ports[i]? = some q)
    : ∃ p,
        c.ports[i]? = some p
        ∧ (c.computeBest now).ports[i]? = some (portComputeBest c.dscmp now p)
        ∧ q
          = bcDispatch (env i)
              (decisionEvent
                (bmcStateDecision (c.computeBest now) i (portComputeBest c.dscmp now p)))
              (decide ((c.computeBest now).bestId ≠ c.bestId)) (portComputeBest c.dscmp now p) := by
  simp only [handleStateDecisionEvent, List.getElem?_map, List.getElem?_zipIdx] at placed
  obtain ⟨⟨p', j⟩, held, rfl⟩ := Option.map_eq_some_iff.mp placed
  obtain ⟨p'', found, same⟩ := Option.map_eq_some_iff.mp held
  obtain ⟨rfl, rfl⟩ := Prod.mk.inj same
  obtain ⟨p, before, rfl⟩ := Clock.computeBest_port.mp found
  refine ⟨p, before, found, ?_⟩
  simp

theorem mem_decisions {state : PortState}
    : state ∈ c.decisions
      ↔ ∃ (i : Nat) (p : Port), c.ports[i]? = some p ∧ bmcStateDecision c i p = state := by
  constructor
  · intro member
    obtain ⟨⟨p, i⟩, held, same⟩ := List.mem_map.mp member
    exact ⟨i, p, List.mem_zipIdx_iff_getElem?.mp held, same⟩
  · rintro ⟨i, p, held, same⟩
    exact List.mem_map.mpr ⟨(p, i), List.mem_zipIdx_iff_getElem?.mpr held, same⟩

/-- After the choice a port is sound, and it names its best foreign clock. -/
theorem Port.Sound.computeBest {bound : U8} {p : Port}
    (compare : Option Dataset → Option Dataset → Int) (now : Int) (sound : p.Sound bound)
    : (portComputeBest compare now p).Sound bound := by
  obtain ⟨senders, registered⟩ :=
    portComputeBest_registered compare now sound.registered
  have eq := portComputeBest_eq compare now p
  have named := (portComputeBest_bestClock compare now sound.registered).2
  refine
    { registered
      best := ?_, masterOnly := ?_, closed := ?_
      bmca := by rw [eq]; exact sound.bmca
      machine := by rw [eq]; exact sound.machine }
  · intro sender chosen
    rw [named] at chosen
    obtain ⟨fc, found, rfl⟩ := Option.map_eq_some_iff.mp chosen
    obtain ⟨_, _, listed⟩ := Option.bind_eq_some_iff.mp found
    exact List.mem_map_of_mem (List.mem_of_find?_eq_some listed)
  · intro excluded
    rw [eq] at excluded
    have own : p.masterOnly := excluded
    rw [portComputeBest_of_masterOnly own]
  · intro closed
    rw [eq] at closed
    have empty := sound.closed closed
    rw [empty] at senders
    exact List.map_eq_nil_iff.mp senders

/-- What a port that is told to follow a master has been chosen for. -/
theorem slave_of_rsSlave {compare : Dataset → Dataset → Int} {r : Port}
    (compared : c.dscmp = comparePointers compare) (ptp : r.bmca = .ptp)
    (told : decisionEvent (bmcStateDecision c i r) = .rsSlave)
    : bmcStateDecision c i r = .slave ∧ 127 < c.dds.clockQuality.clockClass.toNat
      ∧ ¬ c.dscmp (some (clockDefaultDs c.dds)) (clockBestForeign c) > 0
      ∧ c.best.map Prod.fst = some i := by
  rcases bmcStateDecision_cases (i := i) compared ptp with
    ⟨same, _⟩ | ⟨same, _⟩ | ⟨same, _⟩ | ⟨⟨below, loses⟩, ⟨same, chosen⟩ | same⟩
  · rw [same] at told
    exact absurd told (by decide)
  · rw [same] at told
    exact absurd told (by decide)
  · rw [same] at told
    exact absurd told (by decide)
  · exact ⟨same, below, loses, chosen⟩
  · rw [same] at told
    exact absurd told (by decide)

/-- A port that is told to stand back knows a master, and one that is told nothing listens. -/
theorem knows_of_decision {compare : Dataset → Dataset → Int} {r : Port}
    (compared : c.dscmp = comparePointers compare) (ptp : r.bmca = .ptp)
    : (decisionEvent (bmcStateDecision c i r) = .rsPassive → portBestForeign r ≠ none)
      ∧ (¬ (decisionEvent (bmcStateDecision c i r)).Recommends → r.state = .listening) := by
  rcases bmcStateDecision_cases (i := i) compared ptp with
    ⟨same, listens⟩ | ⟨same, _⟩ | ⟨same, knows⟩ | ⟨_, ⟨same, _⟩ | same⟩
  · rw [same]
    exact ⟨fun told => absurd told (by decide), fun _ => listens⟩
  · rw [same]
    exact ⟨fun told => absurd told (by decide), fun other => absurd (by decide) other⟩
  · rw [same]
    exact ⟨fun _ => knows, fun other => absurd (by decide) other⟩
  · rw [same]
    exact ⟨fun told => absurd told (by decide), fun other => absurd (by decide) other⟩
  · rw [same]
    exact ⟨fun told => absurd told (by decide), fun other => absurd (by decide) other⟩

/-- The best foreign clock has been chosen by the newest message of its sender. -/
theorem Clock.computeBest_message {fc : ForeignClock}
    (ports : ∀ p ∈ c.ports, p.Registered c.maxStepsRemoved)
    (chosen : (c.computeBest now).best = some (i, fc))
    : ∃ p m,
        c.ports[i]? = some p
        ∧ (portComputeBest c.dscmp now p).best = some m.sourcePortIdentity
        ∧ fc.messages.head? = some m
        ∧ fc.dataset = announceToDataset m p.portIdentity p.localPriority
        ∧ m.stepsRemoved.toNat < c.maxStepsRemoved.toNat
        ∧ fc ∈ p.qualified now := by
  obtain ⟨p, placed, found⟩ := Clock.computeBest_some chosen
  have registered := ports p (List.mem_of_getElem? placed)
  obtain ⟨picked, named⟩ :=
    portComputeBest_bestClock c.dscmp now registered
  rw [found] at picked named
  obtain member := (foldl_pickBy_mem picked.symm).resolve_left (by simp)
  obtain ⟨_, sound, m, newest, dataset⟩ := Port.mem_qualified registered member
  obtain ⟨own, near⟩ := sound m (List.mem_of_mem_head? newest)
  exact ⟨p, m, placed, named.trans (congrArg some own.symm), newest, dataset, near, member⟩

theorem Clock.Sound.bmca_of_placed {r : Port} (sound : c.Sound)
    (there : (c.computeBest now).ports[i]? = some r)
    : r.bmca = .ptp := by
  obtain ⟨p, before, rfl⟩ := Clock.computeBest_port.mp there
  exact (sound.ports p (List.mem_of_getElem? before)).1.computeBest c.dscmp now |>.bmca

/-- The hop to the master does not overflow, as its message is from within `maxStepsRemoved`. -/
theorem toNat_stepsRemoved {fc : ForeignClock} {m : Announce} {p : Port}
    (dataset : fc.dataset = announceToDataset m p.portIdentity p.localPriority)
    (near : m.stepsRemoved.toNat < c.maxStepsRemoved.toNat)
    : fc.dataset.stepsRemoved = m.stepsRemoved
      ∧ (1 + fc.dataset.stepsRemoved).toNat = fc.dataset.stepsRemoved.toNat + 1 := by
  have same : fc.dataset.stepsRemoved = m.stepsRemoved := by
    rw [dataset]
    rfl
  have small : m.stepsRemoved.toNat < 2 ^ 8 := near.trans c.maxStepsRemoved.isLt
  have one : (1 : U16).toNat = 1 := by decide
  refine ⟨same, ?_⟩
  rw [same, BitVec.toNat_add, one]
  omega

/-- A clock that loses to its best foreign clock makes none of its ports a grandmaster's. -/
theorem Clock.Sound.no_grandMaster (sound : c.Sound)
    (below : 127 < c.dds.clockQuality.clockClass.toNat)
    (loses : ¬ c.dscmp (some (clockDefaultDs c.dds)) (clockBestForeign (c.computeBest now)) > 0)
    : PortState.grandMaster ∉ (c.computeBest now).decisions := by
  obtain ⟨compare, compared⟩ := sound.compare
  intro member
  obtain ⟨j, r, there, leads⟩ := mem_decisions.mp member
  rcases bmcStateDecision_cases (c := c.computeBest now) (i := j) compared
      (sound.bmca_of_placed there) with
    ⟨same, _⟩ | ⟨_, primary | wins⟩ | ⟨same, _⟩ | ⟨_, ⟨same, _⟩ | same⟩
  · exact absurd (same.symm.trans leads) (by decide)
  · exact absurd primary (not_le.mpr below)
  · exact loses wins
  · exact absurd (same.symm.trans leads) (by decide)
  · exact absurd (same.symm.trans leads) (by decide)
  · exact absurd (same.symm.trans leads) (by decide)

/-- A clock of a primary time source makes none of its ports a slave. -/
theorem Clock.Sound.no_slave (sound : c.Sound)
    (primary : c.dds.clockQuality.clockClass.toNat ≤ 127)
    : PortState.slave ∉ (c.computeBest now).decisions := by
  obtain ⟨compare, compared⟩ := sound.compare
  intro member
  obtain ⟨j, r, there, follows⟩ := mem_decisions.mp member
  rcases bmcStateDecision_cases (c := c.computeBest now) (i := j) compared
      (sound.bmca_of_placed there) with
    ⟨same, _⟩ | ⟨same, _⟩ | ⟨same, _⟩ | ⟨⟨below, _⟩, _⟩
  · exact absurd (same.symm.trans follows) (by decide)
  · exact absurd (same.symm.trans follows) (by decide)
  · exact absurd (same.symm.trans follows) (by decide)
  · exact absurd primary (not_le.mpr below)

/-- After a decision a port is sound, and knows a master if it follows one or stands back. -/
theorem Clock.Sound.decision_port {env : Nat → PortEnv} {q : Port} (sound : c.Sound)
    (placed : (handleStateDecisionEvent now env c).ports[i]? = some q)
    : q.Sound c.maxStepsRemoved ∧ q.Hears := by
  obtain ⟨compare, compared⟩ := sound.compare
  obtain ⟨p, before, _, rfl⟩ := handleStateDecisionEvent_ports placed
  obtain ⟨port, hears⟩ := sound.ports p (List.mem_of_getElem? before)
  have after := port.computeBest c.dscmp now
  refine ⟨bcDispatch_sound after, bcDispatch_hears after fun told unknown => ?_⟩
  have silent : (portComputeBest c.dscmp now p).bestClock = none := by
    rw [Port.bestClock, unknown]
    rfl
  obtain ⟨stands, nothing⟩ :=
    knows_of_decision (c := c.computeBest now) (i := i) compared after.bmca
  rcases told with follows | passive | ⟨before', other⟩
  · obtain ⟨_, _, _, chosen⟩ :=
      slave_of_rsSlave (c := c.computeBest now) compared after.bmca follows
    obtain ⟨⟨j, fc⟩, chosen', rfl⟩ := Option.map_eq_some_iff.mp chosen
    obtain ⟨p', placed', found⟩ := Clock.computeBest_some chosen'
    obtain rfl := Option.some.inj (before.symm.trans placed')
    rw [silent] at found
    cases found
  · refine stands passive ?_
    rw [portBestForeign, silent]
    rfl
  · rw [nothing other] at before'
    exact absurd before' (by decide)

/-- A decision keeps the clock sound. -/
theorem Clock.Sound.stateDecision {env : Nat → PortEnv} (sound : c.Sound)
    : (clockStep c (.stateDecision now env)).Sound := by
  obtain ⟨compare, compared⟩ := sound.compare
  have whole := foldl_updateFor_eq (c.computeBest now).decisions (c.computeBest now)
  have dds : (handleStateDecisionEvent now env c).dds = c.dds := by
    rw [handleStateDecisionEvent, whole]
    rfl
  have bound : (handleStateDecisionEvent now env c).maxStepsRemoved = c.maxStepsRemoved := by
    rw [handleStateDecisionEvent, whole]
    rfl
  have best : (handleStateDecisionEvent now env c).best = (c.computeBest now).best := by
    rw [handleStateDecisionEvent, whole]
  refine { compare := ⟨compare, ?_⟩, ports := ?_, follows := ?_, own := ?_ }
  · rw [clockStep, handleStateDecisionEvent, whole]
    exact compared
  · intro q member
    obtain ⟨i, placed⟩ := List.mem_iff_getElem?.mp member
    rw [clockStep, bound]
    exact sound.decision_port placed
  · intro i q placed follows
    obtain ⟨p, before, here, rfl⟩ := handleStateDecisionEvent_ports placed
    obtain ⟨port, _⟩ := sound.ports p (List.mem_of_getElem? before)
    have after := port.computeBest c.dscmp now
    obtain ⟨kept, told⟩ := bcDispatch_follows after follows
    have knows := knows_of_decision (c := c.computeBest now) (i := i) compared after.bmca
    have told := told.resolve_right fun silent => by
      have before' := silent.1
      rw [knows.2 silent.2] at before'
      exact absurd before' (by decide)
    obtain ⟨slave, below, loses, chosen⟩ :=
      slave_of_rsSlave (c := c.computeBest now) compared after.bmca told
    obtain ⟨⟨j, fc⟩, chosen', rfl⟩ := Option.map_eq_some_iff.mp chosen
    obtain ⟨p', m, placed', named, newest, dataset, near, _⟩ :=
      Clock.computeBest_message (fun p member => (sound.ports p member).1.registered) chosen'
    obtain rfl := Option.some.inj (before.symm.trans placed')
    obtain ⟨steps, pds⟩ :=
      foldl_updateFor_slave (c.computeBest now).decisions chosen' newest
        (sound.no_grandMaster below loses)
        (.inl (mem_decisions.mpr ⟨_, _, here, slave⟩))
    have parent : (handleStateDecisionEvent now env c).pds = .of fc m := pds
    have removed :
        (handleStateDecisionEvent now env c).stepsRemoved = 1 + fc.dataset.stepsRemoved := steps
    rw [clockStep, dds]
    refine ⟨below, fc, m, best.trans chosen', newest, kept.trans named, parent, ?_, ?_, bound ▸ near⟩
    · rw [parent, ParentDs.of, dataset]
      rfl
    · obtain ⟨same, next⟩ := toNat_stepsRemoved (c := c) dataset near
      rw [removed, next, same]
  · intro primary
    rw [clockStep, dds] at primary ⊢
    exact foldl_updateFor_own _ (sound.no_slave primary) (sound.own primary)

end Clock

/-- A port that has just been opened. -/
structure Port.Fresh (p : Port) : Prop where
  state : p.state = .initializing
  foreignMasters : p.foreignMasters = []
  best : p.best = none
  bmca : p.bmca = .ptp
  stateMachine : p.stateMachine = ptpFsm ∨ p.stateMachine = ptpSlaveFsm

/-- A clock that has just been created. -/
structure Clock.Fresh (c : Clock) : Prop where
  compare : c.dscmp = Gptp.dscmp ∨ c.dscmp = telecomDscmp
  ports : ∀ p ∈ c.ports, p.Fresh
  pds : c.pds = .own c.dds
  stepsRemoved : c.stepsRemoved = 0

/-- What comes from outside is no decision. -/
def ClockEvent.Outside : ClockEvent → Prop
  | .dispatch _ _ event => ¬ event.Recommends
  | _ => True

/-- The roles of a clock's ports. One port at most follows a master; the clock's parent is then the
master that this port names, one step nearer to the grandmaster. A clock of a primary class follows
none, and is its own parent. A port that follows a master, or stands back for one, holds its foreign
clock, which is what `best` points to, and may be other than a master. Closed ports hold none, and a
slave-only port neither announces the clock nor stands back.
-/
structure Clock.Roles (c : Clock) : Prop where
  one
    : ∀ (i j : Nat) p q,
        c.ports[i]? = some p
        → c.ports[j]? = some q
        → p.state.Follows
        → q.state.Follows
        → i = j
  follows
    : ∀ (i : Nat) p,
        c.ports[i]? = some p
        → p.state.Follows
        → 127 < c.dds.clockQuality.clockClass.toNat ∧ c.GoesAfter i p
  own
    : c.dds.clockQuality.clockClass.toNat ≤ 127
      → c.pds = .own c.dds ∧ c.stepsRemoved = 0
  hears
    : ∀ p ∈ c.ports,
        p.state.Follows ∨ p.state = .passive
        → ¬ p.masterOnly ∧ ∃ fc ∈ p.foreignMasters, p.best = some fc.sender
  closed : ∀ p ∈ c.ports, p.state.Closed → p.foreignMasters = [] ∧ p.best = none
  slaveOnly : ∀ p ∈ c.ports, p.stateMachine = ptpSlaveFsm → SlaveOnly p.state

theorem Clock.Fresh.sound {c : Clock} (fresh : c.Fresh) : c.Sound where
  compare := by
    rcases fresh.compare with same | same
    · exact ⟨_, same⟩
    · exact ⟨_, same⟩
  ports := by
    intro p member
    obtain ⟨state, foreignMasters, best, bmca, stateMachine⟩ := fresh.ports p member
    refine ⟨⟨⟨?_, ?_⟩, ?_, fun _ => best, fun _ => foreignMasters, bmca, ?_⟩, ?_⟩
    · rw [foreignMasters]
      exact List.nodup_nil
    · rw [foreignMasters]
      exact fun _ never => absurd never List.not_mem_nil
    · rw [best]
      exact fun _ never => absurd never (Option.not_mem_none _)
    · exact stateMachine.imp_right fun slave => ⟨slave, by rw [state]; decide⟩
    · intro hears
      rw [state] at hears
      exact absurd hears (by decide)
  follows := by
    intro i p placed follows
    rw [(fresh.ports p (List.mem_of_getElem? placed)).state] at follows
    exact absurd follows (by decide)
  own := fun _ => ⟨fresh.pds, fresh.stepsRemoved⟩

theorem Clock.Sound.step {c : Clock} (event : ClockEvent) (sound : c.Sound)
    (outside : event.Outside)
    : (clockStep c event).Sound := by
  cases event with
  | announce i alloc now m => exact sound.announce
  | announceTimeout i env renewFails => exact sound.announceTimeout
  | dispatch i env event =>
      exact sound.modifyPort fun p port hears => bcDispatch_keeps env outside port hears
  | stateDecision now env => exact sound.stateDecision

theorem ptpFsm_ne_ptpSlaveFsm : ptpFsm ≠ ptpSlaveFsm := fun same =>
  absurd (congrFun (congrFun (congrFun same .listening) .rsMaster) false) (by decide)

theorem Clock.Sound.roles {c : Clock} (sound : c.Sound) : c.Roles where
  one := by
    intro i j p q first second follows follows'
    obtain ⟨_, fc, _, chosen, _⟩ := sound.follows i p first follows
    obtain ⟨_, fc', _, chosen', _⟩ := sound.follows j q second follows'
    exact congrArg Prod.fst (Option.some.inj (chosen.symm.trans chosen'))
  follows := sound.follows
  own := sound.own
  hears := by
    intro p member waits
    obtain ⟨port, hears⟩ := sound.ports p member
    have known := hears waits
    refine ⟨fun excluded => known (port.masterOnly excluded), ?_⟩
    obtain ⟨sender, chosen⟩ := Option.ne_none_iff_exists'.mp known
    obtain ⟨fc, listed, rfl⟩ := List.mem_map.mp (port.best sender chosen)
    exact ⟨fc, listed, chosen⟩
  closed := fun p member closed =>
    ⟨(sound.ports p member).1.closed closed, (sound.ports p member).1.best_of_closed closed⟩
  slaveOnly := by
    intro p member slave
    rcases (sound.ports p member).1.machine with plain | ⟨_, state⟩
    · exact absurd (plain.symm.trans slave) ptpFsm_ne_ptpSlaveFsm
    · exact state

theorem Clock.Fresh.run_sound {c : Clock} (fresh : c.Fresh) {events : List ClockEvent}
    (outside : ∀ event ∈ events, event.Outside)
    : (run clockStep c events).Sound := by
  have keeps (c : Clock) (event : ClockEvent) (sound : c.Sound) (outside : event.Outside)
      : (clockStep c event).Sound :=
    sound.step event outside
  exact Along.invariant keeps fresh.sound
    (Along.of_events (fun event member _ => outside event member) c)

/-- Whatever happens to a clock, its ports keep to their roles. -/
theorem clock_roles (c : Clock) (fresh : c.Fresh) (events : List ClockEvent)
    (outside : ∀ event ∈ events, event.Outside)
    : (run clockStep c events).Roles :=
  (fresh.run_sound outside).roles

/-- A boundary clock of two ports, as the linuxptp defaults have it. -/
def twoPorts : Clock where
  dds := ⟨128, ⟨248, 0xfe, 0xffff⟩, 128, 7, 128⟩
  maxStepsRemoved := 255
  dscmp := dscmp
  ports :=
    [⟨⟨7, 1⟩, 128, false, .ptp, false, ptpFsm, .initializing, [], none⟩,
      ⟨⟨7, 2⟩, 128, false, .ptp, false, ptpFsm, .initializing, [], none⟩]
  best := none
  bestId := 7
  stepsRemoved := 0
  pds := .own ⟨128, ⟨248, 0xfe, 0xffff⟩, 128, 7, 128⟩

def betterAnnounce : Announce := ⟨⟨3, 1⟩, 0, 10, 100, ⟨248, 0xfe, 0xffff⟩, 128, 3, 0⟩

/-- The ports open, the first hears a better clock thrice, and the second hears nothing. -/
def firstSlave : List ClockEvent :=
  [.dispatch 0 ⟨false, true⟩ .evInitialize,
    .dispatch 1 ⟨false, true⟩ .evInitialize,
    .announce 0 true 10 betterAnnounce,
    .announce 0 true 10 betterAnnounce,
    .announce 0 true 10 betterAnnounce,
    .stateDecision 10 fun _ => ⟨false, true⟩,
    .dispatch 0 ⟨false, true⟩ .masterClockSelected,
    .announceTimeout 1 ⟨false, true⟩ false]

theorem clock_roles_firstSlave
    : (run clockStep twoPorts firstSlave).Roles
      ∧ (run clockStep twoPorts firstSlave).ports.map Port.state = [.slave, .master]
      ∧ (run clockStep twoPorts firstSlave).stepsRemoved = 1 :=
  ⟨clock_roles twoPorts
      { compare := .inl rfl
        ports := by
          intro p member
          rcases List.mem_cons.mp member with rfl | member
          · exact ⟨rfl, rfl, rfl, rfl, .inl rfl⟩
          · obtain rfl := List.mem_singleton.mp member
            exact ⟨rfl, rfl, rfl, rfl, .inl rfl⟩
        pds := rfl
        stepsRemoved := rfl }
      firstSlave
      (by
        intro event member
        simp only [firstSlave, List.mem_cons, List.not_mem_nil, or_false] at member
        rcases member with rfl | rfl | rfl | rfl | rfl | rfl | rfl | rfl
        <;> first | exact trivial | (simp [ClockEvent.Outside]; decide)),
    by decide +kernel, by decide +kernel⟩

end TsnTrdp.Gptp
