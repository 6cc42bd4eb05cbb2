import TsnTrdp.Tadma.RingPoll

/-! Completion follows submission and fetch in every run whose schedule keeps the unlocked
poll of a slot apart from its publication, and in some run that does not.
-/

namespace TsnTrdp.Tadma

open TsnTrdp Run

variable {n k : Nat}

/-- The stream as `axienet_tadma_open` starts it on a reset engine. What the address-length
memory holds from before does not matter.
-/
structure StreamRing.Opened (ring : StreamRing) : Prop where
  head : ring.txBdHead = 0
  tail : ring.txBdTail = 0
  irqRd : ring.txBdRd = 0
  engineRd : pmRd ring.pm = 0
  engineWr : pmWr ring.pm = 1

/-- An opened stream on which nothing has happened. -/
def StreamRace.start (ring : StreamRing) : StreamRace where
  ring := ring
  fetching := false
  queued := []
  fetched := []
  counted := []
  done := []
  tx := []
  irq := .idle

theorem RaceInv.start {ring : StreamRing} (opened : ring.Opened) (pos : 0 < n)
    : RaceInv n (.start ring) 0 0 0 0 := by
  have nothing : ∀ i, 0 ≤ i → ¬ i < 0 := fun i _ => Nat.not_lt_zero i
  exact {
    head := by simpa [StreamRace.start] using opened.head
    tail := by simpa [StreamRace.start] using opened.tail
    irqRd := by simpa [StreamRace.start] using opened.irqRd
    engineRd := by simpa [StreamRace.start] using opened.engineRd
    engineWr := congrArg (· % n) opened.engineWr
    engineWrLe := opened.engineWr.le.trans pos
    fetchedRd := rfl
    doneCounted := Nat.le_refl 0
    countedFetched := Nat.le_refl 0
    fetchedVis := Nat.le_refl 0
    visPub := Nat.le_refl 0
    tailRoom := by simpa [StreamRace.start, StreamSys.descs] using pos
    engineRoom := by simpa [StreamRace.start, StreamSys.descs] using pos
    bds := fun i low high => absurd high (nothing i low)
    alms := fun i low high => absurd high (Nat.not_lt_zero i)
    plan := ⟨rfl, rfl, rfl⟩
    irq := rfl
    fetchedSlots := rfl
    fetchedWords := rfl
    countedSlots := rfl
    doneBds := rfl }

/-- Every stream, in every interleaving of the transmitting CPU, the interrupt CPU and the
engine over all streams, completes descriptors after the engine has fetched them, as long
as each step of a stream keeps its poll apart. Witness: the ring invariant along the run.
-/
theorem completed_after_fetch (pow : n = 2 ^ k) (small : n ≤ 256)
    (rings : Nat → StreamRing) (opened : ∀ sid, (rings sid).Opened)
    (events : List (Nat × RaceEvent))
    (apart : Along (interleave (raceStep n)) (Stepping (PollApart n))
      (fun sid => .start (rings sid)) events)
    (sid : Nat)
    : CompletedAfterFetch
        (run (interleave (raceStep n)) (fun sid => .start (rings sid)) events sid).toStreamSys := by
  have pos : 0 < n := pow ▸ Nat.two_pow_pos k
  have start : ∀ sid, RingRight n (.start (rings sid)) := fun sid =>
    ⟨0, 0, 0, 0, RaceInv.start (opened sid) pos⟩
  obtain ⟨_, _, _, _, inv⟩ :=
    Along.invariant (interleave_invariant (raceStep_keeps pow small)) start apart sid
  exact inv.completedAfterFetch

/-- A ring that a fresh start leaves with cleared words in every slot. -/
def freshRing : StreamRing where
  txBd := fun _ => none
  txBdHead := 0
  txBdTail := 0
  txBdRd := 0
  alm := fun _ => ⟨0, 0⟩
  pm := 0x10000

theorem freshRing_opened : freshRing.Opened :=
  ⟨rfl, rfl, rfl, by decide, by decide⟩

/-- A packet without fragments. -/
def smallSkb (addr : Nat) : SkBuff := ⟨addr, 64, some 0x1000, []⟩

/-- The interrupt comes after the packet is written and fetched. -/
def pollAfterFetch : List (Nat × RaceEvent) :=
  [.xmit (smallSkb 7), .store, .store, .store, .store, .store, .fetchSlot, .fetchNext,
    .irqEnter, .irqRead, .irqTest, .irqRead, .irqTest, .irqDone].map (0, ·)

theorem completed_after_fetch_polled
    : CompletedAfterFetch
        (run (interleave (raceStep 4)) (fun _ => .start freshRing) pollAfterFetch 0).toStreamSys :=
  completed_after_fetch (k := 2) (by decide) (by decide) (fun _ => freshRing)
    (fun _ => freshRing_opened) pollAfterFetch (by decide) 0

/-- The interrupt polls between the publication of the packet's slot and the store of its
words: the slot's cleared word from before reads as a completion.
-/
def pollBeforeStore : List (Nat × RaceEvent) :=
  [.xmit (smallSkb 7), .store, .store, .irqEnter, .irqRead, .irqTest, .irqRead, .irqTest,
    .store, .store, .store, .irqDone].map (0, ·)

/-- There the packet is freed although the engine has fetched nothing. -/
theorem completed_before_fetch
    : (run (interleave (raceStep 4)) (fun _ => .start freshRing) pollBeforeStore 0).freed = [7]
      ∧ ¬ CompletedAfterFetch
          (run (interleave (raceStep 4)) (fun _ => .start freshRing) pollBeforeStore
            0).toStreamSys := by
  refine ⟨by decide, ?_⟩
  intro completed
  exact absurd completed.counted (by decide)

end TsnTrdp.Tadma
