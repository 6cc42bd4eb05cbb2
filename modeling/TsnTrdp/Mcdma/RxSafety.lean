import TsnTrdp.Mcdma.RxQueue
import TsnTrdp.Lib.Run
import TsnTrdp.Lib.Ring

/-! Frames received on one ring: every frame leaves the driver once and in ring order, in
exactly the runs in which no buffer allocation of the receive loop fails. Buffers are numbered
as they are allocated, so that the ring's free-running index `i` holds buffer `i`.
-/

namespace TsnTrdp.Mcdma

open TsnTrdp.Run TsnTrdp.Ring
open TsnTrdp.Tadma (U32)

/-- The ring and what has happened on it: the buffers in the order in which the engine filled
them, the frames that the driver passed on, and the descriptors that the ring advanced over.
-/
structure RxSys where
  q : RxQueue
  completed : List Nat
  handed : List RxFrame
  advanced : Nat

/-- A ring that has just been set up. -/
def RxSys.start (q : RxQueue) : RxSys := ⟨q, [], [], 0⟩

/-- The descriptors that are filled and not yet received. -/
def RxSys.pending (s : RxSys) : Nat := s.completed.length - s.advanced

inductive RxEvent
  | complete (done : RxCompletion)
  | recv (budget : U32) (allocated : Nat → Bool)

def rxStep (cfg : RxConfig) (s : RxSys) : RxEvent → RxSys
  | .complete done =>
      if s.q.running then
        { s with
          q := s.q.complete done
          completed := s.completed ++ [(s.q.rxqBdV s.q.curDesc).swIdOffset] }
      else s
  | .recv budget allocated =>
      let received := axienetRecv cfg s.q budget allocated
      { s with
        q := received.2.1
        handed := s.handed ++ received.2.2
        advanced := s.advanced + received.1 }

/-- What is asked of a state. The frames passed on are those of the first completed
descriptors, in ring order and each once; there is one for each descriptor that the ring
advanced over; and no descriptor of the ring holds a buffer that was passed on.
-/
structure RxRight (s : RxSys) : Prop where
  ring : s.q.rxBdCi = s.advanced % rxBdNum
  inOrder : s.handed.map RxFrame.skb = s.completed.take s.advanced
  counted : s.handed.length = s.advanced
  once : (s.handed.map RxFrame.skb).Nodup
  owned : ∀ i < rxBdNum, (s.q.rxqBdV i).swIdOffset ∉ s.handed.map RxFrame.skb

/-- What is asked of a step: the state after it is right, and a receive call passes on every
completed frame that its budget allows.
-/
structure RxStepRight (cfg : RxConfig) (s : RxSys) (event : RxEvent) : Prop where
  right : RxRight (rxStep cfg s event)
  all
    : ∀ budget allocated,
        event = .recv budget allocated
        → (rxStep cfg s event).handed.length
          = s.handed.length + min budget.toNat s.pending

/-- Every allocation of a receive call succeeds: there is one for each completed descriptor
within its budget.
-/
def AllocsSucceed (s : RxSys) : RxEvent → Prop
  | .recv budget allocated => ∀ k < min budget.toNat s.pending, allocated k
  | .complete _ => True

instance (s : RxSys) : (event : RxEvent) → Decidable (AllocsSucceed s event)
  | .recv .. => inferInstanceAs (Decidable (∀ k < _, _))
  | .complete _ => inferInstanceAs (Decidable True)

/-- The invariant of the ring: descriptors are complete from their completion to their
receipt, and index `i` holds buffer `i`.
-/
structure RxInv (s : RxSys) : Prop where
  ci : s.q.rxBdCi = s.advanced % rxBdNum
  cur : s.q.curDesc = s.completed.length % rxBdNum
  order : s.advanced ≤ s.completed.length
  room : s.completed.length ≤ s.advanced + rxBdNum
  skbs : s.q.skbs = s.advanced + rxBdNum
  complete
    : Holds rxBdNum s.q.rxqBdV (fun _ bd => bd.Complete) s.advanced s.completed.length
  armed
    : Holds rxBdNum s.q.rxqBdV (fun _ bd => ¬ bd.Complete) s.completed.length
        (s.advanced + rxBdNum)
  buffers
    : Holds rxBdNum s.q.rxqBdV (fun i bd => bd.swIdOffset = i) s.advanced
        (s.advanced + rxBdNum)
  filled : s.completed = List.range s.completed.length
  handed : s.handed.map RxFrame.skb = List.range s.advanced

/-- The engine may fill every descriptor that is not complete. -/
structure RxEngine (s : RxSys) : Prop where
  tail : s.q.tailDesc = (s.advanced + rxBdNum - 1) % rxBdNum
  running : s.q.running = decide (s.completed.length < s.advanced + rxBdNum)

variable {s : RxSys}

theorem RxInv.right (inv : RxInv s) : RxRight s where
  ring := inv.ci
  inOrder := by
    rw [inv.handed, inv.filled, List.take_range, Nat.min_eq_left inv.order]
  counted := by
    have length := congrArg List.length inv.handed
    simpa using length
  once := inv.handed ▸ List.nodup_range
  owned := by
    intro i bound member
    have reached := slot_reached s.advanced bound
    have near := Nat.mod_lt (i + rxBdNum - s.advanced % rxBdNum) (by decide : 0 < rxBdNum)
    have buffer := inv.buffers (s.advanced + (i + rxBdNum - s.advanced % rxBdNum) % rxBdNum)
      (by omega) (by omega)
    rw [reached] at buffer
    rw [inv.handed, List.mem_range, buffer] at member
    omega

theorem RxInv.start {allocated mapped : Nat → Bool} {etherType : Nat → BitVec 16} {q : RxQueue}
    (done : axienetMcdmaRxQInit cfg allocated mapped etherType = some q)
    : RxInv (.start q) ∧ RxEngine (.start q) := by
  obtain ⟨slots, ci, cur, tail, running, skbs⟩ := axienetMcdmaRxQInit_armed done
  have within : ∀ i, i < 0 + rxBdNum → i % rxBdNum = i ∧ i < rxBdNum := by
    intro i high
    rw [Nat.zero_add] at high
    exact ⟨Nat.mod_eq_of_lt high, high⟩
  refine ⟨{
    ci
    cur
    order := Nat.le_refl 0
    room := Nat.zero_le _
    skbs := skbs.trans (Nat.zero_add _).symm
    complete := fun i _ high => absurd high (Nat.not_lt_zero i)
    armed := ?_
    buffers := ?_
    filled := rfl
    handed := rfl
  }, ?_, running⟩
  · intro i _ high
    obtain ⟨slot, bound⟩ := within i high
    dsimp only [RxSys.start]
    rw [slot]
    exact (slots i bound).1
  · intro i _ high
    obtain ⟨slot, bound⟩ := within i high
    dsimp only [RxSys.start]
    rw [slot]
    exact (slots i bound).2
  · rw [RxSys.start]
    exact tail

/-- The engine fills the next descriptor. -/
theorem RxInv.completes (cfg : RxConfig) (inv : RxInv s) (engine : RxEngine s)
    (running : s.q.running) (done : RxCompletion)
    : RxInv (rxStep cfg s (.complete done)) ∧ RxEngine (rxStep cfg s (.complete done)) := by
  have order := inv.order
  have free : s.completed.length < s.advanced + rxBdNum := by
    simpa [engine.running] using running
  have buffer : (s.q.rxqBdV s.q.curDesc).swIdOffset = s.completed.length := by
    rw [inv.cur]
    exact inv.buffers _ order free
  have buffers : ∀ i, ((s.q.complete done).rxqBdV i).swIdOffset = (s.q.rxqBdV i).swIdOffset := by
    intro i
    by_cases same : i = s.q.curDesc
    · subst same
      simp [RxQueue.complete]
    · simp [RxQueue.complete, Function.update_of_ne same]
  simp only [rxStep, if_pos running, buffer]
  refine ⟨{ inv with
    cur := ?_
    order := ?_
    room := ?_
    complete := ?_
    armed := ?_
    buffers := ?_
    filled := ?_ }, engine.tail, ?_⟩
  · simp [RxQueue.complete, inv.cur, Nat.mod_add_mod]
  · simpa using Nat.le_succ_of_le order
  · simpa using free
  · have status : ({ s.q.rxqBdV s.q.curDesc with
        status := done.status ||| xaxidmaBdStsCompleteMask
        sbandStats := done.sbandStats
        app2 := done.app2
        app3 := done.app3
        app4 := done.app4 } : RxBd).Complete := by
      rw [RxBd.Complete, Field.or_and_self]
      decide
    have pushed := inv.complete.push order free status
    rw [← inv.cur] at pushed
    simpa [RxQueue.complete] using pushed
  · simp only [RxQueue.complete, List.length_append, List.length_singleton]
    rw [inv.cur]
    exact inv.armed.behind (Nat.le_succ _) (Nat.lt_succ_self _) (by omega)
  · intro i low high
    simp only [buffers]
    exact inv.buffers i low high
  · rw [List.length_append, List.length_singleton, List.range_succ, ← inv.filled]
  · have last : s.q.curDesc = s.q.tailDesc
        ↔ s.completed.length + 1 = s.advanced + rxBdNum := by
      rw [inv.cur, engine.tail]
      constructor
      · intro same
        have := slot_inj order free (by unfold rxBdNum; omega) (by unfold rxBdNum; omega) same
        omega
      · intro same
        congr 1
        omega
    simp only [RxQueue.complete, ne_eq, last, List.length_append, List.length_singleton]
    exact decide_eq_decide.mpr (by omega)

/-- The loop passes on one frame and renews its descriptor. -/
theorem RxInv.receives (cfg : RxConfig) (inv : RxInv s)
    (more : s.advanced < s.completed.length) (tempNdev : Option Nat)
    : RxInv
        { s with
          q := { s.q with
            rxqBdV := Function.update s.q.rxqBdV s.q.rxBdCi
              ((s.q.rxqBdV s.q.rxBdCi).armed cfg s.q.skbs)
            rxBdCi := (s.q.rxBdCi + 1) % rxBdNum
            skbs := s.q.skbs + 1 }
          handed := s.handed ++ [rxFrame cfg s.q (s.q.rxqBdV s.q.rxBdCi) tempNdev]
          advanced := s.advanced + 1 } := by
  have room := inv.room
  have passed := Nat.lt_succ_self s.advanced
  have buffer : (s.q.rxqBdV s.q.rxBdCi).swIdOffset = s.advanced := by
    rw [inv.ci]
    exact inv.buffers _ (Nat.le_refl _) (by omega)
  refine { inv with
    ci := ?_
    order := more
    room := Nat.le_trans room (by dsimp only; omega)
    skbs := ?_
    complete := ?_
    armed := ?_
    buffers := ?_
    handed := ?_ }
  · simp only [inv.ci, Nat.mod_add_mod]
  · dsimp only
    rw [inv.skbs, Nat.add_right_comm]
  · rw [inv.ci]
    exact inv.complete.behind (Nat.le_succ _) passed room
  · rw [inv.ci]
    exact inv.armed.recycle more room (by simp [RxBd.Complete, RxBd.armed])
  · -- The renewed descriptor gets the buffer that comes next.
    have later := inv.buffers.imp (Nat.le_succ _) (Nat.le_refl _) fun _ _ _ _ right => right
    rw [inv.ci]
    exact later.recycle passed (by omega) inv.skbs
  · simp only [List.map_append, List.map_singleton, inv.handed, List.range_succ]
    exact congrArg (fun skb => _ ++ [skb]) buffer

/-- The loop's view of the system: what it has passed on and given back so far. -/
def RxSys.during (s : RxSys) (pass : RxPass) : RxSys where
  q := pass.q
  completed := s.completed
  handed := s.handed ++ pass.frames
  advanced := s.advanced + pass.numbdfree

/-- What holds in the loop: the ring's invariant, the engine as it was, and `tail_p` on the
last descriptor given back.
-/
structure RxPassInv (s : RxSys) (pass : RxPass) : Prop where
  ring : RxInv (s.during pass)
  tailDesc : pass.q.tailDesc = s.q.tailDesc
  running : pass.q.running = s.q.running
  tail
    : (pass.tailP = none ∧ pass.numbdfree = 0)
      ∨ (0 < pass.numbdfree
        ∧ pass.tailP = some ((s.advanced + pass.numbdfree + rxBdNum - 1) % rxBdNum))

/-- The loop finds a complete descriptor exactly if one is pending. -/
theorem RxInv.complete_iff (inv : RxInv s)
    : (s.q.rxqBdV s.q.rxBdCi).Complete ↔ s.advanced < s.completed.length := by
  constructor
  · intro complete
    apply Nat.lt_of_le_of_ne inv.order
    intro level
    rw [inv.ci] at complete
    exact inv.armed _ (Nat.le_of_eq level.symm) (by unfold rxBdNum; omega) complete
  · intro more
    rw [inv.ci]
    exact inv.complete _ (Nat.le_refl _) more

theorem RxPassInv.receives (cfg : RxConfig) {pass : RxPass} (inv : RxPassInv s pass)
    (more : (s.during pass).advanced < s.completed.length) (tempNdev : Option Nat)
    : RxPassInv s {
        q := { pass.q with
          rxqBdV := Function.update pass.q.rxqBdV pass.q.rxBdCi
            ((pass.q.rxqBdV pass.q.rxBdCi).armed cfg pass.q.skbs)
          rxBdCi := (pass.q.rxBdCi + 1) % rxBdNum
          skbs := pass.q.skbs + 1 }
        frames := pass.frames
          ++ [rxFrame cfg pass.q (pass.q.rxqBdV pass.q.rxBdCi) tempNdev]
        numbdfree := pass.numbdfree + 1
        tailP := some pass.q.rxBdCi
        tempNdev } where
  ring := by
    have next := inv.ring.receives cfg more tempNdev
    simpa only [RxSys.during, List.append_assoc, Nat.add_assoc] using next
  tailDesc := inv.tailDesc
  running := inv.running
  tail := by
    refine .inr ⟨Nat.succ_pos _, ?_⟩
    have ci : pass.q.rxBdCi = (s.advanced + pass.numbdfree) % rxBdNum := inv.ring.ci
    rw [ci, show s.advanced + (pass.numbdfree + 1) + rxBdNum - 1
      = s.advanced + pass.numbdfree + rxBdNum by omega, Nat.add_mod_right]

/-- Where every allocation succeeds, the loop passes on all pending frames within the budget.
Induction on the rounds.
-/
theorem RxPassInv.loop (cfg : RxConfig) (sbandStatus : U32) {allocated : Nat → Bool} {fuel : Nat}
    {pass : RxPass} (inv : RxPassInv s pass)
    (enough : ∀ k < min fuel (s.during pass).pending, allocated (pass.numbdfree + k))
    : RxPassInv s (recvLoop cfg sbandStatus allocated fuel pass)
      ∧ (recvLoop cfg sbandStatus allocated fuel pass).numbdfree
        = pass.numbdfree + min fuel (s.during pass).pending := by
  induction fuel generalizing pass with
  | zero => exact ⟨inv, by simp [recvLoop]⟩
  | succ fuel ih =>
      have found := inv.ring.complete_iff
      by_cases complete : (pass.q.rxqBdV pass.q.rxBdCi).Complete
      · have more := found.mp complete
        have rest : (s.during pass).pending
            = s.completed.length - (s.advanced + (pass.numbdfree + 1)) + 1 := by
          simp only [RxSys.pending, RxSys.during] at more ⊢
          omega
        rw [rest, Nat.add_min_add_right] at enough ⊢
        have first := enough 0 (Nat.succ_pos _)
        rw [Nat.add_zero] at first
        have later : ∀ k < min fuel (s.completed.length - (s.advanced + (pass.numbdfree + 1))),
            allocated (pass.numbdfree + 1 + k) := by
          intro k bound
          rw [Nat.add_right_comm, Nat.add_assoc]
          exact enough (k + 1) (Nat.succ_lt_succ bound)
        obtain ⟨after, count⟩ := ih
          (inv.receives cfg more (rxTempNdev cfg sbandStatus pass.tempNdev)) later
        simp only [recvLoop, if_pos complete, if_pos first]
        refine ⟨after, count.trans ?_⟩
        simp only [RxSys.pending, RxSys.during]
        omega
      · have none : (s.during pass).pending = 0 := by
          have := mt found.mpr complete
          simp only [RxSys.pending]
          omega
        simp only [recvLoop, if_neg complete, none, Nat.min_zero]
        exact ⟨inv, rfl⟩

/-- Where an allocation fails, the loop passes on one frame more than it gives back
descriptors. Induction on the rounds.
-/
theorem RxPassInv.loop_fails (cfg : RxConfig) (sbandStatus : U32) {allocated : Nat → Bool}
    {fuel : Nat} {pass : RxPass} (inv : RxPassInv s pass)
    (counted : pass.frames.length = pass.numbdfree) {k : Nat}
    (within : k < min fuel (s.during pass).pending)
    (fails : allocated (pass.numbdfree + k) = false)
    : (recvLoop cfg sbandStatus allocated fuel pass).frames.length
      = (recvLoop cfg sbandStatus allocated fuel pass).numbdfree + 1 := by
  induction fuel generalizing pass k with
  | zero => omega
  | succ fuel ih =>
      have more : (s.during pass).advanced < s.completed.length := by
        simp only [RxSys.pending, RxSys.during] at within ⊢
        omega
      have complete := inv.ring.complete_iff.mpr more
      cases first : allocated pass.numbdfree with
      | false =>
          have now : ¬ allocated pass.numbdfree := by simp [first]
          simp only [recvLoop, RxSys.during] at complete ⊢
          simp only [if_pos complete, if_neg now, List.length_append, List.length_singleton,
            counted]
      | true =>
          cases k with
          | zero =>
              rw [Nat.add_zero, first] at fails
              cases fails
          | succ k =>
              simp only [recvLoop, RxSys.during] at complete ⊢
              simp only [if_pos complete, if_pos first]
              refine ih (inv.receives cfg more (rxTempNdev cfg sbandStatus pass.tempNdev))
                (by simp [counted]) ?_ (by rwa [Nat.add_right_comm, Nat.add_assoc])
              simp only [RxSys.pending, RxSys.during] at within ⊢
              omega

theorem RxPassInv.first (inv : RxInv s) : RxPassInv s ⟨s.q, [], 0, none, none⟩ where
  ring := by
    simp only [RxSys.during, List.append_nil, Nat.add_zero]
    exact inv
  tailDesc := rfl
  running := rfl
  tail := .inl ⟨rfl, rfl⟩

/-- A receive call keeps the invariant, where its allocations succeed. -/
theorem RxInv.recv (cfg : RxConfig) (inv : RxInv s) (engine : RxEngine s) {budget : U32}
    {allocated : Nat → Bool} (enough : AllocsSucceed s (.recv budget allocated))
    : (RxInv (rxStep cfg s (.recv budget allocated))
        ∧ RxEngine (rxStep cfg s (.recv budget allocated)))
      ∧ (rxStep cfg s (.recv budget allocated)).advanced
        = s.advanced + min budget.toNat s.pending := by
  have enough' : ∀ k < min budget.toNat (s.during ⟨s.q, [], 0, none, none⟩).pending,
      allocated (0 + k) := by
    intro k bound
    rw [Nat.zero_add]
    exact enough k bound
  obtain ⟨after, count⟩ := (RxPassInv.first inv).loop cfg
    (s.q.rxqBdV s.q.rxBdCi).sbandStats enough'
  simp only [rxStep, axienetRecv]
  generalize recvLoop cfg _ allocated budget.toNat _ = pass at after count ⊢
  have room := inv.room
  rcases after.tail with ⟨none, still⟩ | ⟨moved, some⟩
  · rw [none]
    refine ⟨⟨after.ring, ?_, ?_⟩, by rw [count, Nat.zero_add]; rfl⟩
    · simp only [RxQueue.writeTail, after.tailDesc, still]
      exact engine.tail
    · simp only [RxQueue.writeTail, after.running, still]
      exact engine.running
  · rw [some]
    refine ⟨⟨{ after.ring with }, rfl, ?_⟩, by rw [count, Nat.zero_add]; rfl⟩
    simp only [RxQueue.writeTail]
    exact (decide_eq_true (by omega)).symm

theorem rxStep_keeps (cfg : RxConfig) (inv : RxInv s ∧ RxEngine s) {event : RxEvent}
    (succeed : AllocsSucceed s event)
    : RxInv (rxStep cfg s event) ∧ RxEngine (rxStep cfg s event) := by
  obtain ⟨ring, engine⟩ := inv
  cases event with
  | complete done =>
      by_cases running : s.q.running
      · exact ring.completes cfg engine running done
      · simp only [rxStep, if_neg running]
        exact ⟨ring, engine⟩
  | recv budget allocated => exact (ring.recv cfg engine succeed).1

/-- A step is right exactly if its allocations succeed. -/
theorem rxStep_right_iff (cfg : RxConfig) (inv : RxInv s ∧ RxEngine s) (event : RxEvent)
    : RxStepRight cfg s event ↔ AllocsSucceed s event := by
  constructor
  · intro right
    cases event with
    | complete done => trivial
    | recv budget allocated =>
        intro k within
        by_contra fails
        have fails : allocated (0 + k) = false := by
          rw [Nat.zero_add]
          exact Bool.not_eq_true _ ▸ fails
        have one := (RxPassInv.first inv.1).loop_fails cfg
          (s.q.rxqBdV s.q.rxBdCi).sbandStats rfl within fails
        have counted := right.right.counted
        have before := inv.1.right.counted
        simp only [rxStep, axienetRecv, List.length_append, one, before] at counted
        omega
  · intro succeed
    have after := (rxStep_keeps cfg inv succeed).1.right
    refine ⟨after, ?_⟩
    rintro budget allocated rfl
    rw [after.counted, (inv.1.recv cfg inv.2 succeed).2, inv.1.right.counted]

/-- From a ring that has just been set up, every frame leaves the driver once and in ring
order, whatever the engine and the receive calls do, exactly if no allocation of a receive
call fails.
-/
theorem received_once (cfg : RxConfig) {allocated mapped : Nat → Bool}
    {etherType : Nat → BitVec 16} {q : RxQueue}
    (ready : axienetMcdmaRxQInit cfg allocated mapped etherType = some q) (events : List RxEvent)
    : Along (rxStep cfg) (RxStepRight cfg) (.start q) events
      ↔ Along (rxStep cfg) AllocsSucceed (.start q) events := by
  have keeps : ∀ state event, RxInv state ∧ RxEngine state → AllocsSucceed state event
      → RxInv (rxStep cfg state event) ∧ RxEngine (rxStep cfg state event) :=
    fun _ _ inv succeed => rxStep_keeps cfg inv succeed
  have same : ∀ state event, RxInv state ∧ RxEngine state
      → (RxStepRight cfg state event ↔ AllocsSucceed state event) :=
    fun _ event inv => rxStep_right_iff cfg inv event
  exact Along.iff_of_invariant keeps same (RxInv.start ready) events

/-- A device whose channel carries the normal data path, and its ring. -/
def plainRx : RxConfig where
  mactype := .xaxienet1G
  features := 0
  ethHasnobuf := true
  maxFrmSize := 1536
  flags := 0
  ndev := 0
  slaves := fun _ => none
  exEp := none
  netifRunning := fun _ => true
  dma := fun skb => BitVec.ofNat 64 (skb * 0x1000)

def plainRing : RxQueue :=
  (axienetMcdmaRxQInit plainRx (fun _ => true) (fun _ => true) (fun _ => ethPIp)).get rfl

theorem plainRing_ready
    : axienetMcdmaRxQInit plainRx (fun _ => true) (fun _ => true) (fun _ => ethPIp)
      = some plainRing :=
  (Option.some_get _).symm

def plainCompletion (length : U32) : RxCompletion := ⟨length, 0, 0, 0, 0, ethPIp⟩

theorem received_once_batch
    : Along (rxStep plainRx) (RxStepRight plainRx) (.start plainRing)
        [.complete (plainCompletion 60), .complete (plainCompletion 1500),
          .recv 1 (fun _ => true), .complete (plainCompletion 64), .recv 16 (fun k => k < 2)] :=
  (received_once plainRx plainRing_ready _).mpr (by decide +kernel)

/-- After an allocation failure the next call passes the same frame on again. -/
theorem received_twice
    : ¬ Along (rxStep plainRx) (RxStepRight plainRx) (.start plainRing)
        [.complete (plainCompletion 60), .recv 16 (fun _ => false), .recv 16 (fun _ => true)] := by
  rintro ⟨-, -, again, -⟩
  have once := again.right.once
  revert once
  decide +kernel

end TsnTrdp.Mcdma
