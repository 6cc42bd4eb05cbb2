import TsnTrdp.Tadma.CompletionOrder

/-! The ring of one stream when each transmit and each interrupt runs as a whole. Their
steps are runs of the interleaved stream with no other party in between, so the invariant
carries over.
-/

namespace TsnTrdp.Tadma

open TsnTrdp Run

variable {n ent pub vis rd k : Nat} {s : StreamSys}

-----------------------------------------------------------------------------------------
-- The stream in whole steps
-----------------------------------------------------------------------------------------

/-- What `tadma_irq` does for the stream when the frame fetch interrupt is raised. -/
def StreamSys.irqStream (n : Nat) (s : StreamSys) : StreamSys :=
  let scan := tadmaIrqScan n n s.ring
  let cnt := scan.2.length
  let s := { s with ring := scan.1, counted := s.counted ++ scan.2 }
  if cnt = 0 then s
  else
    { s with
      ring := (tadmaXmitDone n cnt s.ring).1
      done := s.done ++ (tadmaXmitDone n cnt s.ring).2 }

/-- A transmit, one of the engine's two steps, or an interrupt with its status word. -/
inductive RingEvent
  | xmit (skb : SkBuff)
  | fetchSlot
  | fetchNext
  | irq (status : U32)
  deriving DecidableEq, Repr

def ringStep (n : Nat) (s : StreamSys) : RingEvent → StreamSys
  | .xmit skb =>
      match tadmaXmitRing n s.ring skb with
      | (.ok, ring) => { s with ring, queued := s.queued ++ [skb] }
      | (.busy, ring) => { s with ring }
  | .fetchSlot => s.fetchSlot n
  | .fetchNext => s.fetchNext n
  | .irq status => if status &&& xtadmaFfiIntEn = 0 then s else s.irqStream n

/-- A slot between tail and head. -/
def StreamRing.Live (n : Nat) (ring : StreamRing) (slot : Nat) : Prop :=
  slot < n
  ∧ (slot + n - ring.txBdTail) % n < (ring.txBdHead + n - ring.txBdTail) % n

instance (n : Nat) (ring : StreamRing) (slot : Nat) : Decidable (ring.Live n slot) :=
  inferInstanceAs (Decidable (_ ∧ _))

/-- What is asked of a step: it overwrites no live entry; the packets freed after it are the
first accepted ones, each once and in order, and the engine has fetched all their
descriptors; an interrupt leaves its cursor at the tail and, when frame fetch is raised,
frees every packet that has been fetched whole.
-/
structure RingSafe (n : Nat) (s : StreamSys) (event : RingEvent) : Prop where
  kept : ∀ slot, s.ring.Live n slot → (ringStep n s event).ring.txBd slot = s.ring.txBd slot
  freed
    : ∃ count ≤ (ringStep n s event).queued.length,
        (ringStep n s event).freed
          = ((ringStep n s event).queued.take count).map SkBuff.addr
        ∧ ((((ringStep n s event).queued.take count).flatMap SkBuff.descs).map Prod.snd).IsPrefix
          ((ringStep n s event).fetched.map Prod.snd)
  polled
    : ∀ status, event = .irq status
      → (ringStep n s event).ring.txBdRd = (ringStep n s event).ring.txBdTail
  reaped
    : ∀ status, event = .irq status → status &&& xtadmaFfiIntEn ≠ 0
      → ∀ count ≤ s.queued.length,
        ((s.queued.take count).flatMap SkBuff.descs).length ≤ s.fetched.length
        → count ≤ (ringStep n s event).freed.length

/-- Packets that pass the pointer test have room. -/
def RoomForPacket (n : Nat) (s : StreamSys) : RingEvent → Prop
  | .xmit skb => HasRoom n s.ring skb
  | _ => True

instance (n : Nat) (s : StreamSys) : (event : RingEvent) → Decidable (RoomForPacket n s event)
  | .xmit skb => inferInstanceAs (Decidable (HasRoom n s.ring skb))
  | .fetchSlot | .fetchNext | .irq _ => inferInstanceAs (Decidable True)

-----------------------------------------------------------------------------------------
-- Whole steps as interleaved ones
-----------------------------------------------------------------------------------------

/-- The stream at rest: no transmit holds the lock and the interrupt is outside. -/
def StreamSys.atRest (s : StreamSys) : StreamRace := { s with tx := [], irq := .idle }

/-- The remaining stores of a transmit, made in one go. Induction on the stores; with the
interrupt outside nothing constrains them.
-/
theorem RingRight.storeAll (pow : n = 2 ^ k) (small : n ≤ 256) {s : StreamRace}
    (right : RingRight n s) (idle : s.irq = .idle)
    : RingRight n { s with ring := s.tx.foldl (StreamRing.store n) s.ring, tx := [] } := by
  cases next : s.tx with
  | nil =>
      rw [List.foldl_nil, ← next]
      exact right
  | cons write rest =>
      have stored : raceStep n s .store = s.stored n write rest := by
        simp only [raceStep, next, StreamRace.stored]
      have apart : PollApart n s .store := by
        intro _ holds
        rw [idle] at holds
        cases holds
      have right' := raceStep_keeps pow small s .store right apart
      rw [stored] at right'
      exact right'.storeAll pow small idle
termination_by s.tx.length
decreasing_by
  simp [StreamRace.stored_tx, next]

theorem RingRight.xmit (pow : n = 2 ^ k) (small : n ≤ 256)
    (right : RingRight n s.atRest) {skb : SkBuff} (room : HasRoom n s.ring skb)
    : RingRight n (ringStep n s (.xmit skb)).atRest := by
  cases accept : xmitAccept n s.ring skb with
  | none =>
      have same : ringStep n s (.xmit skb) = s := by
        simp only [ringStep, tadmaXmitRing, accept]
      rwa [same]
  | some writes =>
      simp only [ringStep, tadmaXmitRing, accept]
      have begun := raceStep_keeps pow small s.atRest (.xmit skb) right fun _ => room
      simp only [StreamSys.atRest, raceStep, accept] at begun
      exact begun.storeAll pow small rfl

/-- Where the polling loop stops for a slot, it has counted every fetched slot. -/
theorem RaceInv.level {s : StreamRace} (inv : RaceInv n s ent pub vis rd) (free : s.tx = [])
    (stops : ¬ (UffClear (s.ring.alm s.ring.txBdRd).cfg ∧ s.ring.txBdRd ≠ s.ring.txBdHead))
    : s.counted.length = s.fetched.length := by
  have engineRoom := inv.engineRoom
  have tailRoom := inv.tailRoom
  have entries := inv.entries
  have reaped := inv.doneCounted
  have counted := inv.countedFetched
  have fetched := inv.fetchedVis
  have visible := inv.visPub
  by_contra unfinished
  have within : s.counted.length < s.descs.length := by omega
  have unmet : s.ring.txBdRd ≠ s.ring.txBdHead := by
    intro meet
    have := inv.rd_eq_head_iff.mp meet
    omega
  apply stops
  refine ⟨?_, unmet⟩
  have found := List.getElem?_eq_getElem within
  have word := (inv.alms _ (by omega) (by omega) _ found).2 (by simp [free])
  rw [if_pos (by omega)] at word
  rw [inv.irqRd, word]
  exact uffClear_fetched _

/-- The polling loop, with `left` of its rounds to go, counts every fetched slot and no
other. Induction on the rounds: they cannot run out, since the window is shorter than the
ring.
-/
theorem RaceInv.scan {s : StreamRace} {left cnt : Nat} (inv : RaceInv n s ent pub vis rd)
    (position : s.irq = .read cnt) (free : s.tx = []) (rounds : cnt + left = n)
    : RaceInv n
        { s with
          ring := (tadmaIrqScan n left s.ring).1
          counted := s.counted ++ (tadmaIrqScan n left s.ring).2
          irq := .done (cnt + (tadmaIrqScan n left s.ring).2.length) }
        ent pub vis rd
      ∧ (s.counted ++ (tadmaIrqScan n left s.ring).2).length = s.fetched.length := by
  induction left generalizing s cnt with
  | zero =>
      have before := inv.irq
      simp only [IrqRight, position] at before
      have tailRoom := inv.tailRoom
      have entries := inv.entries
      have counted := inv.countedFetched
      have fetched := inv.fetchedVis
      have visible := inv.visPub
      omega
  | succ left ih =>
      by_cases completed : UffClear (s.ring.alm s.ring.txBdRd).cfg
          ∧ s.ring.txBdRd ≠ s.ring.txBdHead
      · have read := inv.irqRead position (by simp [free])
        have tested := read.irqTest rfl
        simp only [raceStep] at tested
        rw [if_pos ⟨completed.1, by omega, completed.2⟩] at tested
        have rest := ih tested rfl free (by omega)
        simp only [tadmaIrqScan, if_pos completed, List.length_cons]
        simp only [List.append_assoc, List.singleton_append, Nat.add_assoc,
          Nat.add_comm 1] at rest
        exact rest
      · have before := inv.irq
        simp only [IrqRight, position] at before
        simp only [tadmaIrqScan, if_neg completed, List.append_nil, List.length_nil,
          Nat.add_zero]
        exact ⟨{ inv with irq := before }, inv.level free completed⟩

/-- An interrupt keeps the invariant, and afterwards exactly the fetched entries have been
reaped.
-/
theorem RaceInv.irqStream (inv : RaceInv n s.atRest ent pub vis rd)
    : RaceInv n (s.irqStream n).atRest ent pub vis rd
      ∧ (s.irqStream n).done.length = s.fetched.length := by
  obtain ⟨scanned, level⟩ := (inv.irqEnter rfl).scan rfl rfl (Nat.zero_add n)
  have counts := scanned.irq
  simp only [IrqRight, Nat.zero_add] at counts
  by_cases none : (tadmaIrqScan n n s.ring).2.length = 0
  · simp only [StreamSys.irqStream, none, if_true]
    have same : s.counted.length = s.done.length := inv.irq
    simp only [StreamSys.atRest] at scanned level counts
    rw [none] at counts
    exact ⟨{ scanned with irq := counts }, by rw [← level]; exact counts.symm⟩
  · have reaped := scanned.irqDone rfl
    simp only [StreamSys.irqStream, if_neg none]
    simp only [StreamSys.atRest, Nat.zero_add] at reaped level
    have settled := reaped.irq
    simp only [IrqRight] at settled
    exact ⟨reaped, by rw [← level]; exact settled.symm⟩

theorem ringStep_keeps (pow : n = 2 ^ k) (small : n ≤ 256) (s : StreamSys) (event : RingEvent)
    (right : RingRight n s.atRest) (room : RoomForPacket n s event)
    : RingRight n (ringStep n s event).atRest := by
  cases event with
  | xmit skb => exact right.xmit pow small room
  | fetchSlot =>
      obtain ⟨_, _, _, _, inv⟩ := right
      exact ⟨_, _, _, _, inv.fetchSlot⟩
  | fetchNext =>
      obtain ⟨_, _, _, _, inv⟩ := right
      obtain ⟨_, inv'⟩ := inv.fetchNext small
      exact ⟨_, _, _, _, inv'⟩
  | irq status =>
      by_cases raised : status &&& xtadmaFfiIntEn = 0
      · simpa only [ringStep, if_pos raised] using right
      · obtain ⟨_, _, _, _, inv⟩ := right
        simp only [ringStep, if_neg raised]
        exact ⟨_, _, _, _, inv.irqStream.1⟩

/-- A packet's descriptors form a frame: its last ring entry alone carries the packet. -/
theorem descs_frame (skb : SkBuff)
    : Frames.IsFrame (fun desc : Desc => desc.1.txSkb) skb.descs skb.addr := by
  have frags : ∀ frag rest, Frames.IsFrame (fun desc : Desc => desc.1.txSkb)
      (fragDescs skb.addr (frag :: rest)) skb.addr := by
    intro frag rest
    induction rest generalizing frag with
    | nil => exact ⟨[], _, rfl, by simp, rfl⟩
    | cons next rest ih =>
        obtain ⟨init, last, same, plain, final⟩ := ih next
        refine ⟨(fragBd skb.addr frag false, almFrag frag false) :: init, last, ?_, ?_, final⟩
        · rw [fragDescs, same]
          rfl
        · intro desc member
          rcases List.mem_cons.mp member with rfl | later
          · rfl
          · exact plain desc later
  let first : Desc := (headBd skb (skb.dma.getD 0), almFframe skb (skb.dma.getD 0))
  cases shape : skb.frags with
  | nil =>
      refine ⟨[], first, ?_, by simp, by simp [first, headBd, shape]⟩
      simp only [SkBuff.descs, shape, fragDescs, List.nil_append, first]
  | cons frag rest =>
      obtain ⟨init, last, same, plain, final⟩ := frags frag rest
      refine ⟨first :: init, last, ?_, ?_, final⟩
      · rw [SkBuff.descs, shape, same]
        rfl
      · intro desc member
        rcases List.mem_cons.mp member with rfl | later
        · simp [first, headBd, shape]
        · exact plain desc later

/-- The packets freed are the first ones accepted whose entries have all been reaped. -/
theorem RaceInv.freed (inv : RaceInv n s.atRest ent pub vis rd)
    : ∃ count ≤ s.queued.length,
        s.freed = (s.queued.take count).map SkBuff.addr
        ∧ ((s.queued.take count).flatMap SkBuff.descs).length ≤ s.done.length
        ∧ ∀ count' ≤ s.queued.length,
          ((s.queued.take count').flatMap SkBuff.descs).length ≤ s.done.length
          → count' ≤ count := by
  have entries := inv.entries
  have reaped := inv.doneCounted
  have counted := inv.countedFetched
  have fetched := inv.fetchedVis
  have visible := inv.visPub
  have within : s.done.length ≤ s.descs.length := by
    simp only [StreamSys.atRest] at *
    omega
  obtain ⟨count, bound, marks, fits, most⟩ := Frames.marks_take descs_frame s.queued within
  refine ⟨count, bound, ?_, fits, most⟩
  rw [← marks, StreamSys.freed]
  have bds : s.done = (s.descs.take s.done.length).map fun desc => some desc.1 := inv.doneBds
  rw [bds, List.filterMap_map]
  simp only [List.length_map, List.length_take, Nat.min_eq_left within]
  rfl

/-- The descriptors of the first packets were fetched as soon as their entries are reaped. -/
theorem RaceInv.freed_fetched (inv : RaceInv n s.atRest ent pub vis rd) {count : Nat}
    (fits : ((s.queued.take count).flatMap SkBuff.descs).length ≤ s.done.length)
    : (((s.queued.take count).flatMap SkBuff.descs).map Prod.snd).IsPrefix
        (s.fetched.map Prod.snd) := by
  have words : s.fetched.map Prod.snd = (s.descs.take s.fetched.length).map Prod.snd :=
    inv.fetchedWords
  have reaped := inv.doneCounted
  have counted := inv.countedFetched
  simp only [StreamSys.atRest] at reaped counted
  rw [words]
  apply List.IsPrefix.map
  apply List.prefix_of_prefix_length_le _ (List.take_prefix _ _)
  · have within : ((s.queued.take count).flatMap SkBuff.descs).length ≤ s.descs.length := by
      rw [StreamSys.descs, ← List.take_append_drop count s.queued, List.flatMap_append,
        List.length_append, List.take_append_drop]
      omega
    rw [List.length_take]
    omega
  · exact (List.take_prefix count s.queued).flatMap _

/-- Polling moves the interrupt's cursor only. -/
theorem tadmaIrqScan_frame (left : Nat) (ring : StreamRing)
    : ∃ rd, (tadmaIrqScan n left ring).1 = { ring with txBdRd := rd } := by
  induction left generalizing ring with
  | zero => exact ⟨ring.txBdRd, rfl⟩
  | succ left ih =>
      rw [tadmaIrqScan]
      split
      · exact ih { ring with txBdRd := (ring.txBdRd + 1) % n }
      · exact ⟨ring.txBdRd, rfl⟩

/-- Reaping moves the tail only. -/
theorem tadmaXmitDone_frame (cnt : Nat) (ring : StreamRing)
    : ∃ tail, (tadmaXmitDone n cnt ring).1 = { ring with txBdTail := tail } := by
  induction cnt generalizing ring with
  | zero => exact ⟨ring.txBdTail, rfl⟩
  | succ cnt ih =>
      rw [tadmaXmitDone]
      split
      · exact ⟨ring.txBdTail, rfl⟩
      · exact ih { ring with txBdTail := (ring.txBdTail + 1) % n }

theorem StreamSys.irqStream_frame
    : ∃ rd tail, (s.irqStream n).ring = { s.ring with txBdRd := rd, txBdTail := tail } := by
  obtain ⟨rd, scanned⟩ := tadmaIrqScan_frame (n := n) n s.ring
  unfold StreamSys.irqStream
  dsimp only
  split
  · exact ⟨rd, s.ring.txBdTail, scanned⟩
  · obtain ⟨tail, reaped⟩ := tadmaXmitDone_frame (n := n) (tadmaIrqScan n n s.ring).2.length
      (tadmaIrqScan n n s.ring).1
    rw [scanned] at reaped
    exact ⟨rd, tail, by rw [scanned, reaped]⟩

/-- A live slot is that of a stored descriptor not yet reaped. -/
theorem RaceInv.live_index (inv : RaceInv n s.atRest ent pub vis rd) {slot : Nat}
    (live : s.ring.Live n slot)
    : ∃ i, s.done.length ≤ i ∧ i < ent ∧ i % n = slot := by
  have used := inv.used
  have tail := inv.tail
  obtain ⟨bound, between⟩ := live
  simp only [StreamSys.atRest] at used tail
  rw [used, tail] at between
  have entries := inv.entries
  exact ⟨s.done.length + (slot + n - s.done.length % n) % n, by omega, by omega,
    Ring.slot_reached _ bound⟩

/-- An accepted packet leaves the live entries alone: before and after, each holds the
descriptor of its index.
-/
theorem RaceInv.xmit_kept (inv : RaceInv n s.atRest ent pub vis rd) {skb : SkBuff}
    (right : RingRight n (ringStep n s (.xmit skb)).atRest) {slot : Nat}
    (live : s.ring.Live n slot)
    : (ringStep n s (.xmit skb)).ring.txBd slot = s.ring.txBd slot := by
  cases accept : xmitAccept n s.ring skb with
  | none => simp only [ringStep, tadmaXmitRing, accept]
  | some writes =>
      simp only [ringStep, tadmaXmitRing, accept] at right ⊢
      obtain ⟨ent', pub', vis', rd', inv'⟩ := right
      obtain ⟨i, low, high, rfl⟩ := inv.live_index live
      obtain ⟨desc, found, entry⟩ := inv.bds i low high
      have all := (inv'.total rfl).1
      simp only [StreamSys.atRest, StreamSys.descs, List.flatMap_append,
        List.length_append] at all
      have within : i < s.descs.length := (List.getElem?_eq_some_iff.mp found).1
      have later : i < ent' := by
        rw [all]
        exact Nat.lt_add_right _ within
      obtain ⟨desc', found', entry'⟩ := inv'.bds i low later
      simp only [StreamSys.atRest, StreamSys.descs, List.flatMap_append] at found' entry'
      rw [List.getElem?_append_left (by exact within)] at found'
      obtain rfl : desc = desc' := Option.some.inj (found.symm.trans found')
      exact entry'.trans entry.symm

theorem ringStep_safe (pow : n = 2 ^ k) (small : n ≤ 256) (s : StreamSys) (event : RingEvent)
    (right : RingRight n s.atRest) (room : RoomForPacket n s event)
    : RingSafe n s event := by
  have after := ringStep_keeps pow small s event right room
  obtain ⟨_, _, _, _, inv⟩ := right
  obtain ⟨_, _, _, _, inv'⟩ := id after
  refine ⟨?_, ?_, ?_, ?_⟩
  · intro slot live
    cases event with
    | xmit skb => exact inv.xmit_kept after live
    | fetchSlot =>
        simp only [ringStep, StreamSys.fetchSlot]
        split <;> rfl
    | fetchNext =>
        simp only [ringStep, StreamSys.fetchNext]
        split <;> rfl
    | irq status =>
        simp only [ringStep]
        split
        · rfl
        · obtain ⟨rd, tail, frame⟩ := StreamSys.irqStream_frame (n := n) (s := s)
          rw [frame]
  · obtain ⟨count, bound, freed, fits, -⟩ := inv'.freed
    exact ⟨count, bound, freed, inv'.freed_fetched fits⟩
  · rintro status rfl
    have level : (ringStep n s (.irq status)).counted.length
        = (ringStep n s (.irq status)).done.length := inv'.irq
    have cursor := inv'.irqRd
    have tail := inv'.tail
    simp only [StreamSys.atRest] at cursor tail
    rw [cursor, tail, level]
  · rintro status rfl raised count bound whole
    obtain ⟨count', bound', freed, -, most⟩ := inv'.freed
    have same : ringStep n s (.irq status) = s.irqStream n := by
      simp only [ringStep, if_neg raised]
    have queued : (s.irqStream n).queued = s.queued := by
      unfold StreamSys.irqStream
      dsimp only
      split <;> rfl
    rw [same] at freed most bound' ⊢
    rw [queued] at freed most bound'
    rw [freed, List.length_map, List.length_take, Nat.min_eq_left bound']
    apply most count bound
    rw [inv.irqStream.2]
    exact whole

/-- The ring of a stream is safe in every run in which each packet that passes the pointer
test has room. Witness: the ring invariant at rest.
-/
theorem ring_safe (pow : n = 2 ^ k) (small : n ≤ 256) {ring : StreamRing}
    (opened : ring.Opened) (events : List RingEvent)
    (rooms : Along (ringStep n) (RoomForPacket n) (StreamRace.start ring).toStreamSys events)
    : Along (ringStep n) (RingSafe n) (StreamRace.start ring).toStreamSys events := by
  have pos : 0 < n := pow ▸ Nat.two_pow_pos k
  have start : RingRight n (StreamRace.start ring).toStreamSys.atRest :=
    ⟨0, 0, 0, 0, RaceInv.start opened pos⟩
  exact Along.of_invariant (ringStep_keeps pow small) (ringStep_safe pow small) start rooms

/-- Two packets of one descriptor, fetched but not reaped. -/
def twoFetched : List RingEvent :=
  [.xmit (smallSkb 7), .xmit (smallSkb 8), .fetchSlot, .fetchNext, .fetchSlot, .fetchNext]

/-- A packet of three descriptors. -/
def wideSkb (addr : Nat) : SkBuff := ⟨addr, 64, some 0x1000, [⟨64, 0x2000⟩, ⟨64, 0x3000⟩]⟩

theorem ring_safe_reaped
    : Along (ringStep 4) (RingSafe 4) (StreamRace.start freshRing).toStreamSys
        (twoFetched ++ [.irq 1, .xmit (wideSkb 9)]) :=
  ring_safe (k := 2) (by decide) (by decide) freshRing_opened _ (by decide)

/-- Of a ring of four slots the unreaped packets hold two; the wide packet passes both
space tests, takes five and overwrites the first packet's entry.
-/
theorem ring_overrun
    : ¬ Along (ringStep 4) (RingSafe 4) (StreamRace.start freshRing).toStreamSys
        (twoFetched ++ [.xmit (wideSkb 9)]) := by
  intro safe
  have kept := ((along_append _ _).mp safe).2.1.kept 0 (by decide)
  revert kept
  decide

end TsnTrdp.Tadma
