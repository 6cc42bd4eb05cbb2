import TsnTrdp.Mcdma.RxQueue

/-! Which port the frames of the management channel come in on. A descriptor's sideband bits name
it, but the receive loop reads them once, from the first descriptor of the batch.
-/

namespace TsnTrdp.Mcdma

open TsnTrdp.Tadma (U32)

-----------------------------------------------------------------------------------------
-- The batch
-----------------------------------------------------------------------------------------

/-- The place of the `k`-th descriptor from the one that is read first. -/
def RxQueue.slot (q : RxQueue) (k : Nat) : Nat := (q.rxBdCi + k) % rxBdNum

def RxQueue.nth (q : RxQueue) (k : Nat) : RxBd := q.rxqBdV (q.slot k)

/-- The batch of one call reaches the `k`-th descriptor: the budget and the ring go that far, it is
complete as those before it are, and each of them got a new buffer.
-/
structure Reached (q : RxQueue) (budget : Nat) (allocated : Nat → Bool) (k : Nat) : Prop where
  inBudget : k < budget
  inRing : k < rxBdNum
  complete : ∀ j ≤ k, (q.nth j).Complete
  renewed : ∀ j < k, allocated j = true

/-- The network device that the sideband bits name. -/
def tuserNdev (cfg : RxConfig) (sbandStats : U32) : Option Nat :=
  let tuser := sbandStats &&& xmcdmaBdSdStsAllMask
  if tuser = xmcdmaBdSdStsTuserMac1 then cfg.slaves 0
  else if tuser = xmcdmaBdSdStsTuserMac2 then cfg.slaves 1
  else if tuser = xmcdmaBdSdStsTuserEp then some cfg.ndev
  else cfg.exEp

/-- The device that a frame of the management channel is owed to, if any runs. -/
def owedTo (cfg : RxConfig) (bd : RxBd) : Option Nat :=
  (tuserNdev cfg bd.sbandStats).filter fun dev => cfg.netifRunning dev

/-- Every frame of the batch is given to the device that its own descriptor names, or dropped if no
such device runs; the frames are those of the descriptors, in order.
-/
structure DeliveredRight (cfg : RxConfig) (q : RxQueue) (budget : Nat) (allocated : Nat → Bool)
    (frames : List RxFrame)
    : Prop where
  frame
    : ∀ k, Reached q budget allocated k
      → ∃ frame, frames[k]? = some frame ∧ frame.skb = (q.nth k).swIdOffset
        ∧ frame.dev = owedTo cfg (q.nth k)
  only : ∀ k frame, frames[k]? = some frame → Reached q budget allocated k

/-- Every descriptor of the batch owes its frame to the device that the first one does. -/
def OnePort (cfg : RxConfig) (q : RxQueue) (budget : Nat) (allocated : Nat → Bool) : Prop :=
  ∀ k, Reached q budget allocated k → owedTo cfg (q.nth k) = owedTo cfg (q.nth 0)

variable {cfg : RxConfig} {q : RxQueue} {allocated : Nat → Bool}

-----------------------------------------------------------------------------------------
-- The device of a frame
-----------------------------------------------------------------------------------------

/-- The masked sideband word has one of four values. -/
theorem tuser_cases (sbandStats : U32)
    : sbandStats &&& xmcdmaBdSdStsAllMask = xmcdmaBdSdStsTuserMac1
      ∨ sbandStats &&& xmcdmaBdSdStsAllMask = xmcdmaBdSdStsTuserMac2
      ∨ sbandStats &&& xmcdmaBdSdStsAllMask = xmcdmaBdSdStsTuserEp
      ∨ sbandStats &&& xmcdmaBdSdStsAllMask = xmcdmaBdSdStsTuserExEp := by
  have bits : xmcdmaBdSdStsAllMask = BitVec.twoPow 32 4 ||| BitVec.twoPow 32 5 := rfl
  rw [bits, BitVec.and_or_distrib_left, BitVec.and_twoPow, BitVec.and_twoPow]
  cases sbandStats.getLsbD 4 <;> cases sbandStats.getLsbD 5 <;> decide

/-- With no device so far, or the one that these bits name, the loop takes the one they name. -/
theorem mgmtNdev_eq {sbandStats : U32} {tempNdev : Option Nat}
    (before : tempNdev = none ∨ tempNdev = tuserNdev cfg sbandStats)
    : mgmtNdev cfg sbandStats tempNdev = tuserNdev cfg sbandStats := by
  rcases tuser_cases sbandStats with tuser | tuser | tuser | tuser
  · simp only [mgmtNdev, tuserNdev, tuser, if_true]
  · simp only [mgmtNdev, tuserNdev, tuser, if_true]
  · simp only [mgmtNdev, tuserNdev, tuser, if_true]
  · have named : tuserNdev cfg sbandStats = cfg.exEp := by
      simp only [tuserNdev, tuser]
      rfl
    have taken : mgmtNdev cfg sbandStats tempNdev
        = if cfg.exEp.isSome then cfg.exEp else tempNdev := by
      simp only [mgmtNdev, tuser, and_true]
      rfl
    rw [named] at before ⊢
    rw [taken]
    cases present : cfg.exEp with
    | some exEp => rfl
    | none =>
        rw [present] at before
        simpa using before

/-- On the management channel a frame is given to the device that was found, if it runs. -/
theorem rxDev_mgmt (mgmt : cfg.flags &&& mcdmaMgmtChan ≠ 0) (tempNdev : Option Nat)
    : rxDev cfg tempNdev = tempNdev.filter fun dev => cfg.netifRunning dev := by
  have either : cfg.flags &&& (mcdmaMgmtChan ||| mcdmaEpExChan) ≠ 0 := by
    intro neither
    rw [BitVec.and_or_distrib_left] at neither
    exact mgmt (BitVec.or_eq_zero_iff.mp neither).1
  rw [rxDev, if_pos either]

-----------------------------------------------------------------------------------------
-- The loop
-----------------------------------------------------------------------------------------

/-- The frames that were passed on, by their buffers and the devices that they were given to. -/
def passedOn (frames : List RxFrame) : List (Nat × Option Nat) :=
  frames.map fun frame => (frame.skb, frame.dev)

/-- The frames of `n` descriptors, each for the device of the first one. -/
def toFirst (cfg : RxConfig) (q : RxQueue) (n : Nat) : List (Nat × Option Nat) :=
  (List.range n).map fun k => ((q.nth k).swIdOffset, owedTo cfg (q.nth 0))

theorem toFirst_succ (cfg : RxConfig) (q : RxQueue) (n : Nat)
    : toFirst cfg q (n + 1)
      = toFirst cfg q n ++ [((q.nth n).swIdOffset, owedTo cfg (q.nth 0))] := by
  simp [toFirst, List.range_succ]

/-- The loop after `n` descriptors of the batch: these are renewed and the others as they were, and
each frame was given to the device of the first descriptor.
-/
structure Passed (cfg : RxConfig) (q : RxQueue) (allocated : Nat → Bool) (n : Nat) (pass : RxPass)
    : Prop where
  ci : pass.q.rxBdCi = q.slot n
  count : pass.numbdfree = n
  inRing : n ≤ rxBdNum
  renewed : ∀ j < n, ¬ (pass.q.rxqBdV (q.slot j)).Complete
  rest : ∀ j, n ≤ j → j < rxBdNum → pass.q.rxqBdV (q.slot j) = q.nth j
  complete : ∀ j < n, (q.nth j).Complete ∧ allocated j = true
  frames : passedOn pass.frames = toFirst cfg q n
  tempNdev
    : pass.tempNdev = none ∨ pass.tempNdev = tuserNdev cfg (q.nth 0).sbandStats

/-- The places of a ring's descriptors are apart. -/
theorem rxSlot_inj {j k : Nat} (first : j < rxBdNum) (second : k < rxBdNum)
    (same : q.slot j = q.slot k)
    : j = k := by
  change (q.rxBdCi + j) % 128 = (q.rxBdCi + k) % 128 at same
  change j < 128 at first
  change k < 128 at second
  omega

/-- Once round the ring, the first descriptor comes again. -/
theorem rxSlot_around : q.slot rxBdNum = q.slot 0 := by
  simp [RxQueue.slot]

variable {n : Nat} {pass : RxPass}

/-- The frame of the next descriptor. -/
theorem Passed.frame (passed : Passed cfg q allocated n pass)
    (mgmt : cfg.flags &&& mcdmaMgmtChan ≠ 0) (bound : n < rxBdNum)
    : let tempNdev := rxTempNdev cfg (q.nth 0).sbandStats pass.tempNdev
      let frame := rxFrame cfg pass.q (pass.q.rxqBdV pass.q.rxBdCi) tempNdev
      (frame.skb, frame.dev) = ((q.nth n).swIdOffset, owedTo cfg (q.nth 0))
        ∧ tempNdev = tuserNdev cfg (q.nth 0).sbandStats := by
  have named : rxTempNdev cfg (q.nth 0).sbandStats pass.tempNdev
      = tuserNdev cfg (q.nth 0).sbandStats := by
    rw [rxTempNdev, if_pos mgmt]
    exact mgmtNdev_eq passed.tempNdev
  refine ⟨?_, named⟩
  have cur := passed.rest n (Nat.le_refl n) bound
  simp only [rxFrame, passed.ci, cur, named, rxDev_mgmt mgmt, owedTo]

/-- A round that renews its descriptor. -/
theorem Passed.next (passed : Passed cfg q allocated n pass)
    (mgmt : cfg.flags &&& mcdmaMgmtChan ≠ 0) (bound : n < rxBdNum)
    (complete : (q.nth n).Complete) (renews : allocated n = true)
    : let tempNdev := rxTempNdev cfg (q.nth 0).sbandStats pass.tempNdev
      let cur := pass.q.rxqBdV pass.q.rxBdCi
      Passed cfg q allocated (n + 1) {
        q := { pass.q with
          rxqBdV := Function.update pass.q.rxqBdV pass.q.rxBdCi (cur.armed cfg pass.q.skbs)
          rxBdCi := (pass.q.rxBdCi + 1) % rxBdNum
          skbs := pass.q.skbs + 1 }
        frames := pass.frames ++ [rxFrame cfg pass.q cur tempNdev]
        numbdfree := pass.numbdfree + 1
        tailP := some pass.q.rxBdCi
        tempNdev } := by
  obtain ⟨frame, named⟩ := passed.frame mgmt bound
  intro tempNdev cur
  constructor
  case ci =>
    rw [passed.ci]
    simp [RxQueue.slot, Nat.add_assoc]
  case count => rw [passed.count]
  case inRing => exact bound
  case renewed =>
    intro j low
    change ¬ (Function.update pass.q.rxqBdV _ (cur.armed cfg pass.q.skbs) (q.slot j)).Complete
    rcases Nat.lt_or_eq_of_le (Nat.le_of_lt_succ low) with old | rfl
    · have other : q.slot j ≠ q.slot n := fun same =>
        absurd (rxSlot_inj (by omega) bound same) (by omega)
      rw [passed.ci, Function.update_of_ne other]
      exact passed.renewed j old
    · rw [passed.ci, Function.update_self]
      simp [RxBd.Complete, RxBd.armed]
  case rest =>
    intro j low high
    change Function.update pass.q.rxqBdV _ (cur.armed cfg pass.q.skbs) (q.slot j) = q.nth j
    have other : q.slot j ≠ q.slot n := fun same =>
      absurd (rxSlot_inj high bound same) (by omega)
    rw [passed.ci, Function.update_of_ne other]
    exact passed.rest j (by omega) high
  case complete =>
    intro j low
    rcases Nat.lt_or_eq_of_le (Nat.le_of_lt_succ low) with old | rfl
    · exact passed.complete j old
    · exact ⟨complete, renews⟩
  case frames =>
    have last : passedOn [rxFrame cfg pass.q cur tempNdev]
        = [((q.nth n).swIdOffset, owedTo cfg (q.nth 0))] :=
      congrArg (fun entry => [entry]) frame
    rw [toFirst_succ, ← passed.frames, ← last]
    exact List.map_append
  case tempNdev => exact .inr named

/-- The batch reaches the descriptors that the loop has been through. -/
theorem Passed.reached (passed : Passed cfg q allocated n pass) {budget k : Nat} (low : k < n)
    (bound : n ≤ budget)
    : Reached q budget allocated k where
  inBudget := Nat.lt_of_lt_of_le low bound
  inRing := Nat.lt_of_lt_of_le low passed.inRing
  complete := fun j before => (passed.complete j (by omega)).1
  renewed := fun j before => (passed.complete j (by omega)).2

/-- The loop ends at a descriptor that is not complete, at the latest once round the ring. -/
theorem Passed.complete_iff (passed : Passed cfg q allocated n pass)
    : (pass.q.rxqBdV pass.q.rxBdCi).Complete ↔ n < rxBdNum ∧ (q.nth n).Complete := by
  rw [passed.ci]
  rcases Nat.lt_or_eq_of_le passed.inRing with bound | around
  · rw [passed.rest n (Nat.le_refl n) bound]
    exact ⟨fun complete => ⟨bound, complete⟩, And.right⟩
  · subst around
    have first := passed.renewed 0 (by decide)
    rw [← rxSlot_around] at first
    exact ⟨fun complete => absurd complete first, fun both => absurd both.1 (Nat.lt_irrefl _)⟩

/-- The batch ends before a descriptor that is not complete. -/
theorem Passed.reached_end (passed : Passed cfg q allocated n pass)
    (ends : ¬ (pass.q.rxqBdV pass.q.rxBdCi).Complete) (fuel k : Nat)
    : Reached q (n + fuel) allocated k ↔ k < n := by
  constructor
  · intro reached
    by_contra beyond
    have ring := reached.inRing
    exact ends (passed.complete_iff.mpr ⟨by omega, reached.complete n (by omega)⟩)
  · exact fun low => passed.reached low (Nat.le_add_right n fuel)

/-- The batch ends with a descriptor that gets no new buffer. -/
theorem Passed.reached_last (passed : Passed cfg q allocated n pass) (bound : n < rxBdNum)
    (complete : (q.nth n).Complete) (stops : allocated n = false) (fuel k : Nat)
    : Reached q (n + (fuel + 1)) allocated k ↔ k < n + 1 := by
  constructor
  · intro reached
    by_contra beyond
    have renewed := reached.renewed n (by omega)
    rw [stops] at renewed
    cases renewed
  · intro low
    constructor
    case inBudget => omega
    case inRing => omega
    case complete =>
      intro j before
      rcases Nat.lt_or_eq_of_le (by omega : j ≤ n) with old | rfl
      · exact (passed.complete j old).1
      · exact complete
    case renewed => exact fun j before => (passed.complete j (by omega)).2

/-- The frames of the whole loop are those of the batch, and all go to the device of the first one.
By induction on the budget that is left.
-/
theorem Passed.loop (passed : Passed cfg q allocated n pass)
    (mgmt : cfg.flags &&& mcdmaMgmtChan ≠ 0) (fuel : Nat)
    : ∃ m, (∀ k, Reached q (n + fuel) allocated k ↔ k < m)
        ∧ passedOn (recvLoop cfg (q.nth 0).sbandStats allocated fuel pass).frames
          = toFirst cfg q m := by
  induction fuel generalizing n pass with
  | zero =>
      refine ⟨n, fun k => ?_, passed.frames⟩
      exact ⟨Reached.inBudget, fun low => passed.reached low (Nat.le_refl n)⟩
  | succ fuel ih =>
      by_cases complete : (pass.q.rxqBdV pass.q.rxBdCi).Complete
      · obtain ⟨bound, filled⟩ := passed.complete_iff.mp complete
        cases renews : allocated n with
        | true =>
            obtain ⟨m, reached, frames⟩ := ih (passed.next mgmt bound filled renews)
            refine ⟨m, ?_, ?_⟩
            · intro k
              rw [← reached k, Nat.add_right_comm, Nat.add_assoc]
            · rw [recvLoop, if_pos complete, passed.count, if_pos renews]
              rw [passed.count] at frames
              exact frames
        | false =>
            obtain ⟨frame, -⟩ := passed.frame mgmt bound
            refine ⟨n + 1, passed.reached_last bound filled renews fuel, ?_⟩
            rw [recvLoop, if_pos complete, passed.count, if_neg (by rw [renews]; decide)]
            rw [toFirst_succ, ← passed.frames, ← frame]
            exact List.map_append
      · refine ⟨n, passed.reached_end complete (fuel + 1), ?_⟩
        rw [recvLoop, if_neg complete]
        exact passed.frames

/-- Before its first round the loop has been through no descriptor. -/
theorem Passed.first (cfg : RxConfig) (allocated : Nat → Bool) (ring : q.rxBdCi < rxBdNum)
    : Passed cfg q allocated 0 ⟨q, [], 0, none, none⟩ where
  ci := (Nat.mod_eq_of_lt ring).symm
  count := rfl
  inRing := Nat.zero_le _
  renewed := fun j low => absurd low (Nat.not_lt_zero j)
  rest := fun _ _ _ => rfl
  complete := fun j low => absurd low (Nat.not_lt_zero j)
  frames := rfl
  tempNdev := .inl rfl

/-- The frames of a call: those of its batch, for the device of the first descriptor. -/
theorem axienetRecv_frames (mgmt : cfg.flags &&& mcdmaMgmtChan ≠ 0) (ring : q.rxBdCi < rxBdNum)
    (budget : U32) (allocated : Nat → Bool)
    : ∃ m, (∀ k, Reached q budget.toNat allocated k ↔ k < m)
        ∧ passedOn (axienetRecv cfg q budget allocated).2.2 = toFirst cfg q m := by
  have slot : q.slot 0 = q.rxBdCi := Nat.mod_eq_of_lt ring
  obtain ⟨m, reached, frames⟩ := (Passed.first cfg allocated ring).loop mgmt budget.toNat
  rw [Nat.zero_add] at reached
  rw [RxQueue.nth, slot] at frames
  exact ⟨m, reached, frames⟩

/-- Management frames reach the port they came in on: for every batch of completed descriptors, with
any sideband bits, budget, devices and allocations, each frame is given to the running device that
its own descriptor names, or dropped without one, exactly if all descriptors of the batch name the
same running device as the first, or none as it does.
-/
theorem mgmt_frames_delivered (cfg : RxConfig) (q : RxQueue) (budget : U32)
    (allocated : Nat → Bool) (mgmt : cfg.flags &&& mcdmaMgmtChan ≠ 0)
    (ring : q.rxBdCi < rxBdNum)
    : DeliveredRight cfg q budget.toNat allocated (axienetRecv cfg q budget allocated).2.2
      ↔ OnePort cfg q budget.toNat allocated := by
  obtain ⟨m, reached, frames⟩ := axienetRecv_frames mgmt ring budget allocated
  generalize (axienetRecv cfg q budget allocated).2.2 = passed at frames ⊢
  have entry : ∀ k : Nat, passed[k]?.map (fun frame : RxFrame => (frame.skb, frame.dev))
      = (toFirst cfg q m)[k]? := by
    intro k
    rw [← frames, passedOn, List.getElem?_map]
  have first : ∀ k < m,
      (toFirst cfg q m)[k]? = some ((q.nth k).swIdOffset, owedTo cfg (q.nth 0)) := by
    intro k low
    simp [toFirst, low]
  constructor
  · intro right k member
    obtain ⟨frame, known, -, dev⟩ := right.frame k member
    have same := entry k
    rw [known, first k ((reached k).mp member)] at same
    have given := congrArg Prod.snd (Option.some.inj same)
    exact dev.symm.trans given
  · intro onePort
    constructor
    · intro k member
      have same := entry k
      rw [first k ((reached k).mp member)] at same
      obtain ⟨frame, known, given⟩ := Option.map_eq_some_iff.mp same
      refine ⟨frame, known, congrArg Prod.fst given, ?_⟩
      exact (congrArg Prod.snd given).trans (onePort k member).symm
    · intro k frame known
      have same := entry k
      rw [known, Option.map_some] at same
      obtain ⟨low, -⟩ := List.getElem?_eq_some_iff.mp same.symm
      rw [toFirst, List.length_map, List.length_range] at low
      exact (reached k).mpr low

/-- A management channel: the end point is device 0, the ports are 1 and 2, all of them run. -/
def mgmtRx : RxConfig where
  mactype := .xaxienet1G
  features := 0
  ethHasnobuf := true
  maxFrmSize := 1536
  flags := mcdmaMgmtChan
  ndev := 0
  slaves := fun i => some (i + 1)
  exEp := none
  netifRunning := fun _ => true
  dma := fun skb => BitVec.ofNat 64 (skb * 0x1000)

/-- A ring with two complete descriptors, given their sideband words. -/
def twoFrames (first second : U32) : RxQueue where
  rxqBdV := fun i =>
    if i = 0 then { RxBd.zero with status := xaxidmaBdStsCompleteMask, sbandStats := first }
    else if i = 1 then
      { RxBd.zero with status := xaxidmaBdStsCompleteMask, sbandStats := second, swIdOffset := 1 }
    else { RxBd.zero with swIdOffset := i }
  rxBdCi := 0
  curDesc := 2
  tailDesc := rxBdNum - 1
  running := true
  skbs := rxBdNum
  etherType := fun _ => ethPIp

/-- Two frames from the first port. -/
theorem mgmt_frames_delivered_one_port
    : DeliveredRight mgmtRx (twoFrames 0x10 0x10) 16 (fun _ => true)
        (axienetRecv mgmtRx (twoFrames 0x10 0x10) 16 fun _ => true).2.2 := by
  apply (mgmt_frames_delivered mgmtRx (twoFrames 0x10 0x10) 16 (fun _ => true) (by decide)
    (by decide)).mpr
  intro k reached
  have two : k < 2 := by
    by_contra beyond
    exact absurd (reached.complete 2 (by omega)) (by decide)
  obtain rfl | rfl : k = 0 ∨ k = 1 := by omega
  · rfl
  · decide

/-- A frame from each port: both are given to the first one. -/
theorem mgmt_frames_delivered_two_ports
    : (axienetRecv mgmtRx (twoFrames 0x10 0x20) 16 fun _ => true).2.2.map RxFrame.dev
        = [some 1, some 1]
      ∧ (List.range 2).map (fun k => owedTo mgmtRx ((twoFrames 0x10 0x20).nth k))
        = [some 1, some 2]
      ∧ ¬ DeliveredRight mgmtRx (twoFrames 0x10 0x20) 16 (fun _ => true)
        (axienetRecv mgmtRx (twoFrames 0x10 0x20) 16 fun _ => true).2.2 := by
  have given : (axienetRecv mgmtRx (twoFrames 0x10 0x20) 16 fun _ => true).2.2.map RxFrame.dev
      = [some 1, some 1] := by
    decide
  refine ⟨given, by decide, ?_⟩
  intro right
  have reached : Reached (twoFrames 0x10 0x20) 16 (fun _ => true) 1 := by
    constructor <;> decide
  obtain ⟨frame, known, -, dev⟩ := right.frame 1 reached
  have second := congrArg (·[1]?) given
  simp only [List.getElem?_map] at second
  rw [known, Option.map_some, dev] at second
  exact absurd second (by decide)

end TsnTrdp.Mcdma
