import TsnTrdp.Tadma.Lifecycle

/-! The driver's ring indices and the engine's slots stay aligned over the device's whole life
exactly as long as every open finds the write pointers where a reset leaves them.
-/

namespace TsnTrdp.Tadma

open TsnTrdp Run

variable {m n k c hole wr : Nat} {ring : StreamRing} {pm : U32} {bd : AxitadmaBd} {alm : AlmEntry}

/-- The fetch size survives the flag that is set last. -/
theorem putFetchSz_armed (cfg len : U32)
    : (putFetchSz cfg len ||| xtadmaAlmUff) &&& xtadmaAlmFetchSzMask
      = (len <<< xtadmaAlmFetchSzShift) &&& xtadmaAlmFetchSzMask := by
  rw [Field.or_and (by decide), putFetchSz, Field.put_and_self]

theorem describes_frag (addr : Nat) (frag : SkbFrag) (last : Bool)
    : Describes (fragBd addr frag last) (almFrag frag last) :=
  ⟨rfl, putFetchSz_armed _ _⟩

theorem describes_head (skb : SkBuff) (phys : BitVec 64)
    : Describes (headBd skb phys) (almFframe skb phys) where
  addr := rfl
  fetchSz := by
    rw [almFframe, Field.or_and (by decide), Field.put_and (by decide), putFetchSz,
      Field.put_and_self]
    rfl

theorem Describes.fetched (describes : Describes bd alm) : Describes bd alm.fetched where
  addr := describes.addr
  fetchSz := (Field.clear_and (by decide)).trans describes.fetchSz

/-- A transmit before its last stores: the ring entry of the packet's linear part, in slot
`hole`, still lacks its slot, and ring entry `c` comes next.
-/
structure Filling (n hole : Nat) (bd : AxitadmaBd) (pm : U32) (c : Nat) (ring : StreamRing)
    : Prop where
  head : ring.txBdHead = c % n
  pending : ring.txBd hole = some bd
  pmKept : ring.pm = pm
  described : ∀ k bd, k ≠ hole → ring.txBd k = some bd → Describes bd (ring.alm k)

/-- One fragment fills the next ring entry and the slot of its index. -/
theorem Filling.frag (filling : Filling n hole bd pm c ring) (apart : c % n ≠ hole)
    (addr : Nat) (frag : SkbFrag) (last : Bool)
    : Filling n hole bd pm (c + 1)
        ([.txBd (fragBd addr frag last), .txBdHead, .almAddr (c % n) (almFrag frag last).addr,
          .almCfg (c % n) (almFrag frag last).cfg].foldl (StreamRing.store n) ring) := by
  simp only [List.foldl_cons, List.foldl_nil, StreamRing.store, filling.head]
  refine ⟨Nat.mod_add_mod c n 1, ?_, filling.pmKept, ?_⟩
  · exact (Function.update_of_ne (Ne.symm apart) _ _).trans filling.pending
  · intro k bd other stored
    by_cases same : k = c % n
    · subst same
      simp only [Function.update_self, Option.some.injEq] at stored ⊢
      subst stored
      exact describes_frag addr frag last
    · simp only [Function.update_of_ne same] at stored ⊢
      exact filling.described k bd other stored

/-- The fragment loop does not come back to the slot of the linear part. Induction on the
fragments.
-/
theorem Filling.frags (addr : Nat) (pow : n = 2 ^ k) {frags : List SkbFrag}
    (filling : Filling n hole bd pm c ring) (at' : wr % n = c % n)
    (apart : ∀ j < frags.length, (c + j) % n ≠ hole)
    : Filling n hole bd pm (c + frags.length)
        ((fragWrites n addr wr frags).foldl (StreamRing.store n) ring) := by
  induction frags generalizing ring c wr with
  | nil => exact filling
  | cons frag rest ih =>
      have slot : almSlot n (pmNext n wr) = c % n := almSlot_eq pow (pmNext_mod pow at')
      have here := filling.frag (apart 0 (Nat.succ_pos _)) addr frag rest.isEmpty
      have later := ih here (pmNext_mod pow at') fun j bound => by
        rw [Nat.add_assoc, Nat.add_comm 1]
        exact apart (j + 1) (Nat.succ_lt_succ bound)
      rw [Nat.add_assoc, Nat.add_comm 1] at later
      simpa only [fragWrites, slot, List.foldl_cons, List.foldl_nil, List.length_cons] using later

/-- The engine's read pointer is a slot. -/
def EngineInRange (n : Nat) (ring : StreamRing) : Prop := pmRd ring.pm < n

/-- An open stream: the write pointer is one ahead of `tx_bd_head`, which is a slot, and the
ring entries describe their slots.
-/
structure AlignInv (n : Nat) (ring : StreamRing) : Prop where
  head : ring.txBdHead < n
  ahead : pmWr ring.pm % n = (ring.txBdHead + 1) % n
  described : ∀ k bd, ring.txBd k = some bd → Describes bd (ring.alm k)

theorem AlignInv.slotAligned (inv : AlignInv n ring) (pow : n = 2 ^ k) (sid : Nat)
    : SlotAligned n sid ring where
  offset := by
    rw [tadmaStreamAlmOffset, almSlot_eq pow inv.ahead, Nat.mod_eq_of_lt inv.head]
    rfl
  cursor := by
    have ahead : (pmWr ring.pm : Int) ≡ (ring.txBdHead : Int) + 1 [ZMOD n] :=
      Int.natCast_modEq_iff.mpr inv.ahead
    have behind : (pmWr ring.pm : Int) - 1 ≡ (ring.txBdHead : Int) [ZMOD n] := by
      simpa using ahead.sub_right 1
    rw [behind.eq]
    exact_mod_cast Nat.mod_eq_of_lt inv.head
  described := inv.described

/-- Packets that pass the pointer test are shorter than the ring. -/
theorem pmSpace_short {numFrag rd : Nat}
    (space : axienetCheckPmSpace numFrag wr rd n = true) (range : rd < n)
    : numFrag < n ∨ numFrag = 0 := by
  simp only [axienetCheckPmSpace, decide_eq_true_eq] at space
  split at space <;> omega

/-- An accepted packet keeps both pointers and slots in step. -/
theorem AlignInv.xmit (inv : AlignInv n ring) (pow : n = 2 ^ k) (small : n ≤ 256)
    (engine : EngineInRange n ring) (skb : SkBuff)
    : AlignInv n (tadmaXmitRing n ring skb).2 ∧ EngineInRange n (tadmaXmitRing n ring skb).2 := by
  cases accept : xmitAccept n ring skb with
  | none => simpa only [tadmaXmitRing, accept] using ⟨inv, engine⟩
  | some writes =>
      obtain ⟨space, -, phys, -, rfl⟩ := xmitAccept_cases accept
      have short : skb.frags.length + 1 < n := by
        rcases pmSpace_short space engine with short | none
        · exact short
        · omega
      have slot : almSlot n (pmWr ring.pm) = ring.txBdHead := by
        rw [almSlot_eq pow inv.ahead, Nat.mod_eq_of_lt inv.head]
      have begun : Filling n ring.txBdHead (headBd skb phys) ring.pm (ring.txBdHead + 1)
          ([.txBd (headBd skb phys), .txBdHead].foldl (StreamRing.store n) ring) := by
        refine ⟨rfl, Function.update_self .., rfl, ?_⟩
        intro k bd other stored
        exact inv.described k bd ((Function.update_of_ne other _ _).symm.trans stored)
      have apart : ∀ j < skb.frags.length, (ring.txBdHead + 1 + j) % n ≠ ring.txBdHead := by
        intro j bound same
        have head := inv.head
        rcases Nat.lt_or_ge (ring.txBdHead + 1 + j) n with early | late
        · rw [Nat.mod_eq_of_lt early] at same
          omega
        · rw [Nat.mod_eq_sub_mod late, Nat.mod_eq_of_lt (by omega)] at same
          omega
      have filled := begun.frags skb.addr pow inv.ahead apart
      have next := pmNext_iterate pow inv.ahead skb.frags.length
      have byte : (ring.txBdHead + 1 + skb.frags.length + 1) % n < 256 :=
        Nat.lt_of_lt_of_le (Nat.mod_lt _ (pow ▸ Nat.two_pow_pos k)) small
      simp only [tadmaXmitRing, accept, txWrites, List.foldl_cons, List.foldl_append,
        List.foldl_nil, slot, next] at filled ⊢
      generalize (fragWrites n skb.addr (pmWr ring.pm) skb.frags).foldl (StreamRing.store n) _
        = before at filled
      simp only [StreamRing.store]
      refine ⟨⟨?_, ?_, ?_⟩, ?_⟩
      · rw [filled.head]
        exact Nat.mod_lt _ (pow ▸ Nat.two_pow_pos k)
      · rw [pmWr_setPmWr byte, filled.head, Nat.mod_mod, Nat.mod_add_mod]
      · intro k bd stored
        by_cases same : k = ring.txBdHead
        · subst same
          obtain rfl : headBd skb phys = bd := Option.some.inj (filled.pending.symm.trans stored)
          simp only [Function.update_self]
          exact describes_head skb phys
        · simp only [Function.update_of_ne same]
          exact filled.described k bd same stored
      · rw [EngineInRange, pmRd_setPmWr byte, filled.pmKept]
        exact engine

theorem EngineInRange.fetchNext (engine : EngineInRange n ring) (small : n ≤ 256)
    : EngineInRange n (ring.fetchNext n)
      ∧ pmWr (ring.fetchNext n).pm = pmWr ring.pm := by
  have bound : (pmRd ring.pm + 1) % n < n := Nat.mod_lt _ (Nat.zero_lt_of_lt engine)
  have byte : (pmRd ring.pm + 1) % n < 256 := Nat.lt_of_lt_of_le bound small
  simp only [EngineInRange, StreamRing.fetchNext, pmRd_setPmRd byte, pmWr_setPmRd byte, and_true]
  exact bound

theorem AlignInv.fetchSlot (inv : AlignInv n ring) : AlignInv n ring.fetchSlot where
  head := inv.head
  ahead := inv.ahead
  described := by
    intro k bd stored
    have before := inv.described k bd stored
    by_cases same : k = pmRd ring.pm
    · subst same
      simpa only [StreamRing.fetchSlot, Function.update_self] using before.fetched
    · simpa only [StreamRing.fetchSlot, Function.update_of_ne same] using before

/-- A stream of the device: the engine's pointer is in range, and the stream is aligned while
the device is open.
-/
structure StreamInv (n : Nat) (opened : Bool) (ring : StreamRing) : Prop where
  engine : EngineInRange n ring
  aligned : opened = true → AlignInv n ring

theorem StreamInv.step {opened : Bool} {s : StreamSys} (inv : StreamInv n opened s.ring)
    (pow : n = 2 ^ k) (small : n ≤ 256) (event : RingEvent)
    (sending : ∀ skb, event = .xmit skb → opened = true)
    : StreamInv n opened (ringStep n s event).ring := by
  cases event with
  | xmit skb =>
      have sent := (inv.aligned (sending skb rfl)).xmit pow small inv.engine skb
      simp only [ringStep]
      split <;> rename_i result <;> rw [result] at sent <;> exact ⟨sent.2, fun _ => sent.1⟩
  | fetchSlot =>
      simp only [ringStep, StreamSys.fetchSlot]
      split
      · exact ⟨inv.engine, fun opened => (inv.aligned opened).fetchSlot⟩
      · exact inv
  | fetchNext =>
      simp only [ringStep, StreamSys.fetchNext]
      split
      · obtain ⟨engine, same⟩ := inv.engine.fetchNext small
        refine ⟨engine, fun opened => ?_⟩
        exact { inv.aligned opened with
          ahead := (congrArg (· % n) same).trans (inv.aligned opened).ahead }
      · exact inv
  | irq status =>
      simp only [ringStep]
      split
      · exact inv
      · obtain ⟨rd, tail, frame⟩ := StreamSys.irqStream_frame (n := n) (s := s)
        rw [frame]
        refine ⟨inv.engine, fun opened => ?_⟩
        have aligned := inv.aligned opened
        exact ⟨aligned.head, aligned.ahead, aligned.described⟩

/-- Every stream of the device keeps its invariant. -/
def DeviceInv (n : Nat) (d : TadmaDevice m) : Prop :=
  ∀ sid, StreamInv n d.opened (d.streams sid).ring

/-- A ring that has just been opened is aligned if its write pointer is that after a reset. -/
theorem AlignInv.opened (reset : pmWr ring.pm % n = 1 % n) (pos : 0 < n)
    : AlignInv n ring.openRing where
  head := pos
  ahead := reset
  described := fun _ _ stored => by cases stored

/-- One stream of the device steps. -/
theorem DeviceInv.stream {d : TadmaDevice m} (inv : DeviceInv n d) (pow : n = 2 ^ k)
    (small : n ≤ 256) (sid : Fin m) (event : RingEvent)
    (sending : ∀ skb, event = .xmit skb → d.opened = true)
    : DeviceInv n { d with streams := interleave (ringStep n) d.streams (sid, event) } := by
  have keeps : ∀ (s : StreamSys) (event : RingEvent), StreamInv n d.opened s.ring
      → (∀ skb, event = .xmit skb → d.opened = true)
      → StreamInv n d.opened (ringStep n s event).ring :=
    fun s event inv sending => inv.step pow small event sending
  exact interleave_invariant keeps d.streams (sid, event) inv sending

theorem deviceStep_keeps (pow : n = 2 ^ k) (small : n ≤ 256) (d : TadmaDevice m)
    (event : TadmaEvent m) (inv : DeviceInv n d) (atReset : OpensAtReset n d event)
    : DeviceInv n (deviceStep n d event) := by
  have pos : 0 < n := pow ▸ Nat.two_pow_pos k
  cases event with
  | tadmaOpen requestIrq allocs =>
      cases closed : d.opened with
      | true => simpa only [deviceStep, closed, if_true] using inv
      | false =>
          simp only [deviceStep, closed, Bool.false_eq_true, if_false, TadmaDevice.axienetTadmaOpen]
          split
          · rename_i requested
            intro sid
            refine ⟨?_, ?_⟩
            · dsimp only
              split <;> exact (inv sid).engine
            · intro success
              have allocated : m + 1 ≤ allocs := of_decide_eq_true success
              dsimp only
              rw [if_pos (by omega)]
              exact AlignInv.opened (atReset closed ⟨requested, allocated⟩ sid) pos
          · exact inv
  | tadmaXmit sid skb =>
      cases sid with
      | none => exact inv
      | some sid =>
          cases opened : d.opened with
          | true =>
              simpa only [deviceStep, opened, if_true]
                using inv.stream pow small sid (.xmit skb) fun _ _ => opened
          | false => simpa only [deviceStep, opened, Bool.false_eq_true, if_false] using inv
  | fetchSlot sid => exact inv.stream pow small sid .fetchSlot (by simp)
  | fetchNext sid => exact inv.stream pow small sid .fetchNext (by simp)
  | tadmaIrq status =>
      simp only [deviceStep]
      split
      · exact fun sid => (inv sid).step pow small (.irq status) (by simp)
      · exact inv
  | tadmaStop =>
      simp only [deviceStep]
      split
      · exact fun sid => ⟨(inv sid).engine, by simp [TadmaDevice.axienetTadmaStop]⟩
      · exact inv

/-- Alignment after an open tells that the write pointer was that after a reset. -/
theorem SlotAligned.reset {sid : Nat} (aligned : SlotAligned n sid ring.openRing)
    : pmWr ring.pm % n = 1 % n := by
  have cursor : ((pmWr ring.pm : Int) - 1) % n = 0 := aligned.cursor
  have ahead : (pmWr ring.pm : Int) ≡ (1 : Nat) [ZMOD n] :=
    ((Int.emod_emod_of_dvd _ (dvd_refl _)).symm.trans
      (Int.emod_eq_emod_iff_emod_sub_eq_zero.mpr (by simpa using cursor)))
  exact Int.natCast_modEq_iff.mp ahead

/-- Along every run from a stopped device, all open states are aligned exactly if every
successful open finds the write pointers where a reset leaves them.
-/
theorem lifecycle_aligned (pow : n = 2 ^ k) (small : n ≤ 256) {d : TadmaDevice m}
    (stopped : d.opened = false)
    (engine : ∀ sid, EngineInRange n (d.streams sid).ring) (events : List (TadmaEvent m))
    : Along (deviceStep n) (fun d event => (deviceStep n d event).Aligned n) d events
      ↔ Along (deviceStep n) (OpensAtReset n) d events := by
  have start : DeviceInv n d := fun sid => ⟨engine sid, by simp [stopped]⟩
  refine Along.iff_of_invariant (deviceStep_keeps pow small) ?_ start events
  intro d event inv
  constructor
  · intro aligned
    cases event with
    | tadmaOpen requestIrq allocs =>
        intro closed success sid
        have opened := aligned
        simp only [TadmaDevice.Aligned, deviceStep, closed, Bool.false_eq_true, if_false,
          TadmaDevice.axienetTadmaOpen, success.1, if_true, success.2, decide_true,
          forall_const] at opened
        have this := opened sid
        rw [if_pos (by have := success.2; omega)] at this
        exact this.reset
    | tadmaXmit | fetchSlot | fetchNext | tadmaIrq | tadmaStop => trivial
  · intro atReset opened sid
    have inv' := deviceStep_keeps pow small d event inv atReset
    exact ((inv' sid).aligned opened).slotAligned pow sid

/-- A driver just loaded, with one stream, on an engine just reset. -/
def freshDevice : TadmaDevice 1 where
  opened := false
  irqRequested := false
  streams := fun _ => (StreamRace.start freshRing).toStreamSys

/-- One packet without fragments is sent, fetched and reaped. -/
def sendOne (addr : Nat) : List (TadmaEvent 1) :=
  [.tadmaXmit (some 0) (smallSkb addr), .fetchSlot 0, .fetchNext 0, .tadmaIrq 1]

/-- Four packets take the write pointer of a ring of four once around. -/
def fourPackets : List (TadmaEvent 1) :=
  .tadmaOpen true 2 :: (sendOne 6 ++ sendOne 7 ++ sendOne 8 ++ sendOne 9)
    ++ [.tadmaStop, .tadmaOpen true 2] ++ sendOne 10

theorem lifecycle_aligned_around
    : Along (deviceStep 4) (fun d event => (deviceStep 4 d event).Aligned 4) freshDevice
        fourPackets := by
  have engine : ∀ sid, EngineInRange 4 (freshDevice.streams sid).ring := fun _ =>
    (by decide : pmRd freshRing.pm < 4)
  exact (lifecycle_aligned (k := 2) (by decide) (by decide) rfl engine fourPackets).mpr
    (by decide +kernel)

/-- After one packet the write pointer is one slot ahead of where the next open starts. -/
def onePacket : List (TadmaEvent 1) := .tadmaOpen true 2 :: sendOne 6 ++ [.tadmaStop]

def reopened : List (TadmaEvent 1) := onePacket ++ [.tadmaOpen true 2]

theorem lifecycle_misaligned
    : (run (deviceStep 4) freshDevice reopened).opened = true
      ∧ tadmaStreamAlmOffset 4 0
          (pmWr ((run (deviceStep 4) freshDevice reopened).streams 0).ring.pm)
        ≠ tadmaStreamAlmOffsetIrq 4 0
          ((run (deviceStep 4) freshDevice reopened).streams 0).ring.txBdHead
      ∧ ¬ Along (deviceStep 4) (fun d event => (deviceStep 4 d event).Aligned 4) freshDevice
        reopened := by
  refine ⟨by decide, by decide, ?_⟩
  intro aligned
  have last := ((along_append onePacket _).mp aligned).2.1
  have offset := (last (by decide) 0).offset
  revert offset
  decide

end TsnTrdp.Tadma
