import TsnTrdp.Tadma.Schedule

/-! Streams that are configured anew while packets wait in the rings. The table, its counters and
the fetch memory are set up without a look at the rings, so what waits keeps its way only where its
pair is added again, with the stream id that it had, and each stream id has a fetch entry.
-/

namespace TsnTrdp.Tadma

open TsnTrdp Run Slots

variable {lp : TadmaLocal}

-----------------------------------------------------------------------------------------
-- Packets that wait
-----------------------------------------------------------------------------------------

/-- A descriptor that the hardware has not fetched, in the ring of stream `sid`. -/
structure Waiting where
  sid : Nat
  packet : TrdpPacket
  deriving DecidableEq, Repr

/-- The request that has settled the configuration. -/
inductive Settled
  | programmed
  | off
  deriving DecidableEq, Repr

/-- The driver with the descriptors that wait, in the order in which they were transmitted.
`settled` is the last request, if it was not one of those that build a configuration.
-/
structure TadmaFlow where
  st : TadmaState
  waiting : List Waiting
  settled : Option Settled

/-- A transmission comes with the number of fragments, and with whether both rings have room and
the buffer is mapped.
-/
inductive FlowEvent
  | xmit (packet : TrdpPacket) (numFrag : Nat) (room : Bool)
  | fetch (sid : Nat)
  | ioctl (op : TadmaIoctl)
  deriving DecidableEq

/-- The slots of the fetch memory. The best-effort slot is always there. -/
def sfmSlots (lp : TadmaLocal) : List Nat := List.range (max 1 lp.numEntries)

/-- A valid fetch entry of the stream. -/
def SfmEntry.Carries (sfm : SfmEntry) (sid : Nat) : Prop :=
  sfm.cfg &&& xtadmaStrEntryValid ≠ 0
  ∧ ((sfm.cfg &&& xtadmaStrIdMask) >>> xtadmaStrIdShift).toNat = sid

instance (sfm : SfmEntry) (sid : Nat) : Decidable (sfm.Carries sid) :=
  inferInstanceAs (Decidable (_ ∧ _))

/-- A slot of the memory carries the stream. -/
def FetchedIn (lp : TadmaLocal) (active : Sfm) (regs : Nat → U32) (sid : Nat) : Prop :=
  ∃ slot ∈ sfmSlots lp, (sfmRead active regs slot).Carries sid

instance (lp : TadmaLocal) (active : Sfm) (regs : Nat → U32) (sid : Nat)
    : Decidable (FetchedIn lp active regs sid) :=
  inferInstanceAs (Decidable (∃ slot ∈ _, _))

/-- The stream has a valid fetch entry. -/
def TadmaState.Fetches (lp : TadmaLocal) (st : TadmaState) (sid : Nat) : Prop :=
  FetchedIn lp st.activeSfm st.regs sid

instance (lp : TadmaLocal) (st : TadmaState) (sid : Nat) : Decidable (st.Fetches lp sid) :=
  inferInstanceAs (Decidable (FetchedIn _ _ _ _))

def TadmaIoctl.settled : TadmaIoctl → Option Settled
  | .progAll => some .programmed
  | .off => some .off
  | .strAdd _ | .strFlush => none

/-- `axienet_tadma_xmit` as it queues: one descriptor for the head and one for each fragment. -/
def TadmaFlow.xmit (lp : TadmaLocal) (packet : TrdpPacket) (numFrag : Nat) (room : Bool)
    (s : TadmaFlow)
    : Option TadmaFlow :=
  (tadmaGetStrid lp s.st packet).map fun sid =>
    if 0 ≤ sid ∧ room then
      { s with waiting := s.waiting ++ List.replicate (numFrag + 1) ⟨sid.toNat, packet⟩ }
    else s

/-- The hardware fetches the first descriptor of a ring that has a valid fetch entry. -/
def TadmaFlow.fetch (lp : TadmaLocal) (sid : Nat) (s : TadmaFlow) : TadmaFlow :=
  if s.st.Fetches lp sid then { s with waiting := s.waiting.eraseP (·.sid = sid) } else s

def flowStep (lp : TadmaLocal) (s : TadmaFlow) : FlowEvent → Option TadmaFlow
  | .xmit packet numFrag room => s.xmit lp packet numFrag room
  | .fetch sid => some (s.fetch lp sid)
  | .ioctl op => (tadmaStep lp s.st op).map fun st => { s with st, settled := op.settled }

/-- The device after `axienet_tadma_open`. -/
def TadmaFlow.opened : TadmaFlow where
  st := openStreamTable .loaded
  waiting := []
  settled := none

-----------------------------------------------------------------------------------------
-- What is asked
-----------------------------------------------------------------------------------------

/-- The stream id belongs to the pair, and to no other. -/
structure Owns (lp : TadmaLocal) (st : TadmaState) (key : StreamKey) (sid : Nat) : Prop where
  used : ∃ e ∈ st.entries lp, e.sid = sid
  alone : ∀ e ∈ st.entries lp, e.sid = sid → e.hashtag = key.hashTag

/-- A descriptor is on its way: its ring is fetched from, and is that of its pair, or of the best
effort once the schedule is off.
-/
structure OnItsWay (lp : TadmaLocal) (s : TadmaFlow) (w : Waiting) : Prop where
  fetched : s.st.Fetches lp w.sid
  owned : Owns lp s.st w.packet.key w.sid ∨ s.settled = some .off ∧ w.sid = stridBe

/-- Once the configuration is settled, everything that waits is on its way. -/
def FlowRight (lp : TadmaLocal) (s : TadmaFlow) : Prop :=
  s.settled ≠ none → ∀ w ∈ s.waiting, OnItsWay lp s w

/-- The pair is in the table with the stream id. -/
def Registered (lp : TadmaLocal) (st : TadmaState) (key : StreamKey) (sid : Nat) : Prop :=
  ∃ e ∈ st.entries lp, e.hashtag = key.hashTag ∧ e.sid = sid

instance (lp : TadmaLocal) (st : TadmaState) (key : StreamKey) (sid : Nat)
    : Decidable (Registered lp st key sid) :=
  inferInstanceAs (Decidable (∃ e ∈ _, _))

/-- The stream id of the entry that an add stores in chain `i`. -/
def sidFor (st : TadmaState) (stream : TadmaStream) (i : Nat) : Nat :=
  entrySid (tadmaHashLookupStream (st.streamHash i) stream.key.hashTag)
    (startCounters st stream.start)

/-- An add that stores an entry takes no stream id that another pair has, and where packets of its pair
wait, the one whose ring they are in.
-/
def SidFits (lp : TadmaLocal) (s : TadmaFlow) (request : AddRequest) : Prop :=
  ∀ stream ∈ request.stream,
    stream.count ≤ maxTrigCount
    → ∀ i ∈ tadmaBucket lp stream.key.hashTag,
      Adds lp s.st request stream (tadmaHashLookupStream (s.st.streamHash i) stream.key.hashTag)
      → (∀ e ∈ s.st.entries lp, e.sid = sidFor s.st stream i → e.hashtag = stream.key.hashTag)
        ∧ ∀ w ∈ s.waiting,
          w.packet.key.hashTag = stream.key.hashTag → w.sid = sidFor s.st stream i

instance (lp : TadmaLocal) (s : TadmaFlow) (request : AddRequest)
    : Decidable (SidFits lp s request) :=
  inferInstanceAs (Decidable (∀ stream ∈ request.stream, _))

/-- A lookup finds no entry of another pair. -/
def LooksUpOwn (lp : TadmaLocal) (st : TadmaState) (tag : HashTag) : Prop :=
  ∀ i ∈ tadmaBucket lp tag, ∀ e ∈ tadmaHashLookupStream (st.streamHash i) tag, e.hashtag = tag

instance (lp : TadmaLocal) (st : TadmaState) (tag : HashTag) : Decidable (LooksUpOwn lp st tag) :=
  inferInstanceAs (Decidable (∀ i ∈ tadmaBucket lp tag, _))

/-- A packet with this tag is not sent away from the ring of its pair: the lookup, where streams are
classified, finds no entry of another pair, and where they are not, its pair has the first ring.
-/
def SendsHome (lp : TadmaLocal) (s : TadmaFlow) (tag : HashTag) : Prop :=
  if s.st.getSid ≠ 0 then LooksUpOwn lp s.st tag
  else s.settled ≠ some .off → ∀ e ∈ s.st.entries lp, e.hashtag = tag → e.sid = stridBe

instance (lp : TadmaLocal) (s : TadmaFlow) (tag : HashTag) : Decidable (SendsHome lp s tag) :=
  inferInstanceAs (Decidable (ite _ _ _))

/-- Each packet that waits is in the ring of its pair, for the pairs of the table. -/
def AtHome (lp : TadmaLocal) (s : TadmaFlow) : Prop :=
  ∀ w ∈ s.waiting, ∀ e ∈ s.st.entries lp, e.hashtag = w.packet.key.hashTag → e.sid = w.sid

instance (lp : TadmaLocal) (s : TadmaFlow) : Decidable (AtHome lp s) :=
  inferInstanceAs (Decidable (∀ w ∈ s.waiting, ∀ e ∈ s.st.entries lp, _))

/-- What must hold of a step. A packet is not sent away from the ring of its pair. An add gives its pair
a stream id of its own, in whose ring its packets wait; what the best effort has taken in the meantime
does not belong elsewhere. A schedule is programmed once the classifier is on, each stream id in the
table is that of a slot, and the pair of every packet that waits has been added. It is turned off under
a schedule, or when nothing waits in other rings than the first.
-/
def FlowFits (lp : TadmaLocal) (s : TadmaFlow) : FlowEvent → Prop
  | .xmit packet _ _ => SendsHome lp s packet.key.hashTag
  | .fetch _ => True
  | .ioctl (.strAdd request) => SidFits lp s request ∧ (s.settled = some .off → AtHome lp s)
  | .ioctl .strFlush => True
  | .ioctl .progAll =>
      s.st.getSid ≠ 0
      ∧ (∀ e ∈ s.st.entries lp,
        s.st.Fetches lp e.sid ∨ ∃ other ∈ s.st.entries lp, other.sfm % 256 = e.sid)
      ∧ ∀ w ∈ s.waiting, ∃ e ∈ s.st.entries lp, e.hashtag = w.packet.key.hashTag
  | .ioctl .off => s.settled = none → ∀ w ∈ s.waiting, w.sid = stridBe

instance (lp : TadmaLocal) (s : TadmaFlow) : (event : FlowEvent) → Decidable (FlowFits lp s event)
  | .xmit _ _ _ => inferInstanceAs (Decidable (SendsHome _ _ _))
  | .fetch _ | .ioctl .strFlush => inferInstanceAs (Decidable True)
  | .ioctl (.strAdd _) => inferInstanceAs (Decidable (SidFits _ _ _ ∧ (_ → AtHome _ _)))
  | .ioctl .progAll => inferInstanceAs (Decidable (_ ∧ _ ∧ _))
  | .ioctl .off => inferInstanceAs (Decidable (_ → ∀ w ∈ _, _))

-----------------------------------------------------------------------------------------
-- The fetch memory
-----------------------------------------------------------------------------------------

variable {active : Sfm} {regs : Nat → U32} {slot sid : Nat} {tticks count : U32}

/-- Every valid slot carries the low byte of its own number. -/
def OwnIds (active : Sfm) (regs : Nat → U32) : Prop :=
  ∀ slot sid, (sfmRead active regs slot).Carries sid → sid = slot % 256

theorem carries_words (slot : Nat) (tticks count : U32)
    : (sfmWords slot tticks count).Carries (slot % 256) :=
  ⟨sfmWords_valid, sfmWords_sid⟩

theorem OwnIds.write (own : OwnIds active regs) (sfm : SfmEntry)
    (fits : ∀ sid, sfm.Carries sid → sid = slot % 256)
    : OwnIds active (sfmWrite active regs slot sfm) := by
  intro other sid carries
  by_cases same : slot = other
  · subst same
    rw [(sfm_independent active).same] at carries
    exact fits sid carries
  · rw [(sfm_independent active).other _ _ _ _ same] at carries
    exact own other sid carries

theorem OwnIds.program (own : OwnIds active regs) (slot : Nat) (tticks count : U32)
    : OwnIds active (tadmaSfmProgram active regs slot tticks count) := by
  refine own.write (sfmWords slot tticks count) fun sid carries => ?_
  rw [← carries.2, sfmWords_sid]

theorem OwnIds.control (own : OwnIds active regs) (offset : Nat) (value : U32)
    (control : offset < xtadmaUsfmOffset)
    : OwnIds active (tadmaIow regs offset value) := by
  intro slot sid carries
  rw [sfmRead_iow control] at carries
  exact own slot sid carries

theorem fetchedIn_control {offset : Nat} (value : U32) (control : offset < xtadmaUsfmOffset)
    : FetchedIn lp active (tadmaIow regs offset value) sid ↔ FetchedIn lp active regs sid := by
  simp only [FetchedIn, sfmRead_iow control]

/-- Programming a slot takes no stream off the memory, since the slot carries its own number before
and after.
-/
theorem OwnIds.fetchedIn_program (own : OwnIds active regs) (slot : Nat) (tticks count : U32)
    (fetched : FetchedIn lp active regs sid)
    : FetchedIn lp active (tadmaSfmProgram active regs slot tticks count) sid := by
  obtain ⟨other, inMemory, carries⟩ := fetched
  refine ⟨other, inMemory, ?_⟩
  by_cases same : slot = other
  · subst same
    obtain rfl := own slot sid carries
    have written : sfmRead active (tadmaSfmProgram active regs slot tticks count) slot
        = sfmWords slot tticks count := (sfm_independent active).same _ _ _
    rw [written]
    exact carries_words slot tticks count
  · have kept : sfmRead active (tadmaSfmProgram active regs slot tticks count) other
        = sfmRead active regs other := (sfm_independent active).other _ _ _ _ same
    rw [kept]
    exact carries

theorem fetchedIn_programmed (inMemory : slot ∈ sfmSlots lp)
    : FetchedIn lp active (tadmaSfmProgram active regs slot tticks count) (slot % 256) := by
  have written : sfmRead active (tadmaSfmProgram active regs slot tticks count) slot
      = sfmWords slot tticks count := (sfm_independent active).same _ _ _
  refine ⟨slot, inMemory, ?_⟩
  rw [written]
  exact carries_words slot tticks count

/-- The loop of `axienet_tadma_program`. -/
def programAll (active : Sfm) (regs : Nat → U32) (entries : List StreamEntry) : Nat → U32 :=
  entries.foldl
    (fun regs entry => tadmaSfmProgram active regs entry.sfm entry.tticks entry.count) regs

/-- Programming entry by entry, by induction on them. -/
theorem OwnIds.programAll (own : OwnIds active regs) (lp : TadmaLocal) (entries : List StreamEntry)
    : OwnIds active (programAll active regs entries)
      ∧ (∀ sid, FetchedIn lp active regs sid
        → FetchedIn lp active (programAll active regs entries) sid)
      ∧ ∀ e ∈ entries, e.sfm ∈ sfmSlots lp
        → FetchedIn lp active (programAll active regs entries) (e.sfm % 256) := by
  induction entries generalizing regs with
  | nil => exact ⟨own, fun _ fetched => fetched, fun _ member => absurd member List.not_mem_nil⟩
  | cons first rest ih =>
      obtain ⟨ownRest, kept, programmed⟩ := ih (own.program first.sfm first.tticks first.count)
      refine ⟨ownRest, fun sid fetched => ?_, fun e member inMemory => ?_⟩
      · exact kept sid (own.fetchedIn_program first.sfm first.tticks first.count fetched)
      · rcases List.mem_cons.mp member with rfl | later
        · exact kept _ (fetchedIn_programmed inMemory)
        · exact programmed e later inMemory

theorem OwnIds.flush (own : OwnIds active regs) (count : Nat)
    : OwnIds active (flushSlots active regs count) := by
  unfold flushSlots
  induction List.range count generalizing regs with
  | nil => exact own
  | cons first rest ih =>
      rw [List.foldl_cons]
      refine ih (own.write ⟨0, 0⟩ fun sid carries => ?_)
      exact absurd rfl carries.1

-----------------------------------------------------------------------------------------
-- The invariant
-----------------------------------------------------------------------------------------

/-- The table gives each stream id to one pair, and each pair one, and names slots that exist; the fetch
memory carries slot numbers; what waits is at home, unless the schedule is off; and what the last
request settled is in force.
-/
structure FlowInv (lp : TadmaLocal) (s : TadmaFlow) : Prop where
  consistent : Consistent lp s.st
  single : ∀ e ∈ s.st.entries lp, ∀ other ∈ s.st.entries lp, e.sid = other.sid
    → e.hashtag = other.hashtag
  paired : ∀ e ∈ s.st.entries lp, ∀ other ∈ s.st.entries lp, e.hashtag = other.hashtag
    → e.sid = other.sid
  slots : ∀ e ∈ s.st.entries lp, e.sfm ∈ sfmSlots lp
  own : OwnIds s.st.activeSfm s.st.regs
  home : s.settled ≠ some .off → AtHome lp s
  programmed
    : s.settled = some .programmed
      → s.st.getSid ≠ 0
        ∧ (∀ e ∈ s.st.entries lp, s.st.Fetches lp e.sid)
        ∧ ∀ w ∈ s.waiting, ∃ e ∈ s.st.entries lp, e.hashtag = w.packet.key.hashTag
  off
    : s.settled = some .off
      → s.st.getSid = 0 ∧ s.st.Fetches lp stridBe ∧ ∀ w ∈ s.waiting, OnItsWay lp s w

variable {s next : TadmaFlow} {st st' : TadmaState} {w : Waiting} {key : StreamKey}

theorem FlowInv.owns (inv : FlowInv lp s) (registered : Registered lp s.st key sid)
    : Owns lp s.st key sid := by
  obtain ⟨e, live, tag, same⟩ := registered
  exact ⟨⟨e, live, same⟩, fun other live' same' =>
    (inv.single other live' e live (same'.trans same.symm)).trans tag⟩

theorem Owns.table (owns : Owns lp st key sid) (table : st'.streamHash = st.streamHash)
    : Owns lp st' key sid := by
  have entries : st'.entries lp = st.entries lp := by
    rw [TadmaState.entries, table]
    rfl
  exact ⟨entries ▸ owns.used, entries ▸ owns.alone⟩

theorem flowInv_opened : FlowInv lp .opened := by
  have nothing : ∀ i, (openStreamTable .loaded).streamHash i = [] := fun _ => rfl
  have none : (openStreamTable .loaded).entries lp = [] := by
    simp [TadmaState.entries, Chains.entries, nothing]
  have clear : OwnIds .upper (fun _ => 0) := by
    intro slot sid carries
    exact absurd BitVec.zero_and carries.1
  refine ⟨Consistent.empty nothing, ?_, ?_, ?_, ?_, ?_, ?_, ?_⟩
  · simp [TadmaFlow.opened, none]
  · simp [TadmaFlow.opened, none]
  · simp [TadmaFlow.opened, none]
  · have enabled := clear.control xtadmaIntEnOffset intEnable (by decide)
    exact (enabled.program stridBe nsecPerMsec 0).control xtadmaCrOffset xtadmaCfgDone (by decide)
  · exact fun _ w waits => absurd waits List.not_mem_nil
  · simp [TadmaFlow.opened]
  · simp [TadmaFlow.opened]

/-- A packet that waits under a schedule is on its way. -/
theorem FlowInv.onItsWay (inv : FlowInv lp s) (last : s.settled = some .programmed)
    (member : w ∈ s.waiting)
    : OnItsWay lp s w := by
  obtain ⟨-, carried, named⟩ := inv.programmed last
  obtain ⟨e, live, tag⟩ := named w member
  have same := inv.home (by simp [last]) w member e live tag
  exact ⟨same ▸ carried e live, .inl (inv.owns ⟨e, live, tag, same⟩)⟩

/-- The invariant is what is asked. -/
theorem FlowInv.right (inv : FlowInv lp s) : FlowRight lp s := by
  intro settled w member
  cases last : s.settled with
  | none => exact absurd last settled
  | some mode =>
      cases mode with
      | programmed => exact inv.onItsWay last member
      | off => exact (inv.off last).2.2 w member

-----------------------------------------------------------------------------------------
-- Packets
-----------------------------------------------------------------------------------------

/-- What a lookup finds is in the table. -/
theorem FlowInv.looked_mem (inv : FlowInv lp s) {i : Nat} {tag : HashTag} {e : StreamEntry}
    (looked : tadmaHashLookupStream (s.st.streamHash i) tag = some e)
    : e ∈ s.st.entries lp :=
  inv.consistent.chained.mem_entries.mpr ⟨i, (lookup_some looked).1⟩

/-- Where streams are classified, a packet goes to the ring of an entry of its pair. -/
theorem FlowInv.classified (inv : FlowInv lp s) {packet : TrdpPacket} {id : Int}
    (active : s.st.getSid ≠ 0) (own : LooksUpOwn lp s.st packet.key.hashTag)
    (found : tadmaGetStrid lp s.st packet = some id) (queued : 0 ≤ id)
    : Registered lp s.st packet.key id.toNat := by
  rw [tadmaGetStrid, if_neg active, packet_tag] at found
  obtain ⟨i, bucket, answer⟩ := Option.map_eq_some_iff.mp found
  cases looked : tadmaHashLookupStream (s.st.streamHash i) packet.key.hashTag with
  | none =>
      rw [looked] at answer
      exact absurd queued (by rw [← answer]; decide)
  | some e =>
      rw [looked] at answer
      refine ⟨e, inv.looked_mem looked, own i bucket e looked, ?_⟩
      rw [← answer]
      rfl

/-- A transmission goes to the ring of the packet's pair, and with the schedule off to the best effort.
-/
theorem FlowInv.xmit (inv : FlowInv lp s) {packet : TrdpPacket} {numFrag : Nat} {room : Bool}
    (fits : FlowFits lp s (.xmit packet numFrag room))
    (step : flowStep lp s (.xmit packet numFrag room) = some next)
    : FlowInv lp next := by
  obtain ⟨id, found, rfl⟩ := Option.map_eq_some_iff.mp step
  have fits : SendsHome lp s packet.key.hashTag := fits
  unfold SendsHome at fits
  by_cases queued : 0 ≤ id ∧ room = true
  · rw [if_pos queued]
    have cases : ∀ w ∈ s.waiting ++ List.replicate (numFrag + 1) ⟨id.toNat, packet⟩,
        w ∈ s.waiting ∨ w = ⟨id.toNat, packet⟩ :=
      fun w member => (List.mem_append.mp member).imp_right List.eq_of_mem_replicate
    refine ⟨inv.consistent, inv.single, inv.paired, inv.slots, inv.own, ?_, ?_, ?_⟩
    · intro last w member e live tag
      rcases cases w member with earlier | rfl
      · exact inv.home last w earlier e live tag
      · by_cases active : s.st.getSid = 0
        · rw [tadmaGetStrid, if_pos active] at found
          obtain rfl := Option.some.inj found
          rw [if_neg (not_not.mpr active)] at fits
          exact fits last e live tag
        · rw [if_pos active] at fits
          obtain ⟨e', live', tag', same⟩ := inv.classified active fits found queued.1
          exact (inv.paired e live e' live' (tag.trans tag'.symm)).trans same
    · intro last
      obtain ⟨active, carried, named⟩ := inv.programmed last
      refine ⟨active, carried, fun w member => ?_⟩
      rcases cases w member with earlier | rfl
      · exact named w earlier
      · rw [if_pos active] at fits
        obtain ⟨e, live, tag, -⟩ := inv.classified active fits found queued.1
        exact ⟨e, live, tag⟩
    · intro last
      obtain ⟨inactive, carried, ways⟩ := inv.off last
      refine ⟨inactive, carried, fun w member => ?_⟩
      rcases cases w member with earlier | rfl
      · exact ⟨(ways w earlier).fetched, (ways w earlier).owned⟩
      · rw [tadmaGetStrid, if_pos inactive] at found
        obtain rfl := Option.some.inj found
        exact ⟨carried, .inr ⟨last, rfl⟩⟩
  · rw [if_neg queued]
    exact inv

/-- Fewer packets wait. -/
theorem FlowInv.fewer (inv : FlowInv lp s) {waiting : List Waiting}
    (among : ∀ w ∈ waiting, w ∈ s.waiting)
    : FlowInv lp { s with waiting } := by
  refine ⟨inv.consistent, inv.single, inv.paired, inv.slots, inv.own, ?_, ?_, ?_⟩
  · exact fun last w member => inv.home last w (among w member)
  · intro last
    obtain ⟨active, carried, named⟩ := inv.programmed last
    exact ⟨active, carried, fun w member => named w (among w member)⟩
  · intro last
    obtain ⟨inactive, carried, ways⟩ := inv.off last
    refine ⟨inactive, carried, fun w member => ?_⟩
    exact ⟨(ways w (among w member)).fetched, (ways w (among w member)).owned⟩

theorem FlowInv.fetch (inv : FlowInv lp s) (sid : Nat) : FlowInv lp (s.fetch lp sid) := by
  unfold TadmaFlow.fetch
  split
  · exact inv.fewer fun w member => List.mem_of_mem_eraseP member
  · exact inv

-----------------------------------------------------------------------------------------
-- Requests
-----------------------------------------------------------------------------------------

/-- What an add leaves alone, and what it stores. -/
theorem addStep_cases {request : AddRequest} (step : addStep lp st request = some st')
    : st'.activeSfm = st.activeSfm ∧ st'.regs = st.regs
      ∧ (st'.streamHash = st.streamHash
        ∨ ∃ stream idx found, AddReaches lp st request stream idx found
          ∧ Adds lp st request stream found
          ∧ st'.streamHash
            = Chains.push st.streamHash idx
                (stream.entry found (startCounters st stream.start))) := by
  obtain ⟨out, done, rfl⟩ := Option.map_eq_some_iff.mp step
  obtain ⟨⟨result, counted⟩, entry, rfl⟩ := Option.map_eq_some_iff.mp done
  have memory : ∀ (stream : TadmaStream) (found : Option StreamEntry),
      (countSid found (startCounters st stream.start)).activeSfm = st.activeSfm
        ∧ (countSid found (startCounters st stream.start)).regs = st.regs := by
    intro stream found
    unfold startCounters
    cases found <;> split <;> exact ⟨rfl, rfl⟩
  rcases newStreamEntry_cases entry with ⟨err, rfl, rfl⟩ | ⟨stream, idx, found, reaches, outcome⟩
  · exact ⟨rfl, rfl, .inl rfl⟩
  · obtain ⟨active, regs⟩ := memory stream found
    rcases outcome with ⟨err, rfl, rfl⟩ | ⟨adds, rfl, rfl⟩
    · exact ⟨active, regs, .inl (by simp)⟩
    · exact ⟨active, regs, .inr ⟨stream, idx, found, reaches, adds, by simp⟩⟩

/-- An entry of a pair that has others gets their stream id. -/
theorem FlowInv.pushed_sid (inv : FlowInv lp s) {request : AddRequest} {stream : TadmaStream}
    {idx : Nat} {found : Option StreamEntry}
    (reaches : AddReaches lp s.st request stream idx found)
    (alone : ∀ e ∈ s.st.entries lp,
      e.sid = entrySid found (startCounters s.st stream.start) → e.hashtag = stream.key.hashTag)
    {e : StreamEntry} (live : e ∈ s.st.entries lp) (tag : e.hashtag = stream.key.hashTag)
    : e.sid = entrySid found (startCounters s.st stream.start) := by
  have chained := inv.consistent.chained.member live (tag ▸ reaches.bucket)
  have looked := reaches.lookup
  cases found with
  | none =>
      have apart := lookup_none.mp looked e chained
      rw [tag, hashTagEqual_refl] at apart
      cases apart
  | some e' =>
      have live' := inv.looked_mem looked
      exact inv.paired e live e' live' (tag.trans (alone e' live' rfl).symm)

theorem FlowInv.add (inv : FlowInv lp s) {request : AddRequest}
    (fits : FlowFits lp s (.ioctl (.strAdd request))) (step : addStep lp s.st request = some st')
    : FlowInv lp { s with st := st', settled := none } := by
  obtain ⟨sidFits, offHome⟩ := fits
  have home : AtHome lp s := by
    by_cases last : s.settled = some .off
    · exact offHome last
    · exact inv.home last
  have consistent : Consistent lp st' := by
    obtain ⟨⟨result, st'⟩, done, rfl⟩ := Option.map_eq_some_iff.mp step
    have done : tadmaIoctl lp s.st (.strAdd request) = some (result, st') := done
    exact tadmaIoctl_consistent inv.consistent done
  obtain ⟨active, regs, table⟩ := addStep_cases step
  have own : OwnIds st'.activeSfm st'.regs := by
    rw [active, regs]
    exact inv.own
  rcases table with same | ⟨stream, idx, found, reaches, adds, pushed⟩
  · have entries : st'.entries lp = s.st.entries lp := by
      rw [TadmaState.entries, same]
      rfl
    refine ⟨consistent, ?_, ?_, ?_, own, fun _ w member => ?_, by simp, by simp⟩
    · rw [entries]
      exact inv.single
    · rw [entries]
      exact inv.paired
    · rw [entries]
      exact inv.slots
    · rw [entries]
      exact home w member
  · let new := stream.entry found (startCounters s.st stream.start)
    have members : ∀ e, e ∈ st'.entries lp ↔ e = new ∨ e ∈ s.st.entries lp :=
      mem_entries_push reaches.bucket pushed
    have free := sidFits stream reaches.copied reaches.count idx reaches.bucket
    rw [sidFor, reaches.lookup] at free
    obtain ⟨alone, waits⟩ := free adds
    have paired : ∀ e ∈ s.st.entries lp, e.hashtag = new.hashtag → e.sid = new.sid :=
      fun e live tag => inv.pushed_sid reaches alone live tag
    refine ⟨consistent, ?_, ?_, ?_, own, ?_, by simp, by simp⟩
    · intro e live other live' same
      rcases (members e).mp live with rfl | live
      · rcases (members other).mp live' with rfl | live'
        · rfl
        · exact (alone other live' same.symm).symm
      · rcases (members other).mp live' with rfl | live'
        · exact alone e live same
        · exact inv.single e live other live' same
    · intro e live other live' same
      rcases (members e).mp live with rfl | live
      · rcases (members other).mp live' with rfl | live'
        · rfl
        · exact (paired other live' same.symm).symm
      · rcases (members other).mp live' with rfl | live'
        · exact paired e live same
        · exact inv.paired e live other live' same
    · intro e live
      rcases (members e).mp live with rfl | live
      · exact List.mem_range.mpr (lt_max_of_lt_right adds.sfm)
      · exact inv.slots e live
    · intro _ w member e live tag
      rcases (members e).mp live with rfl | live
      · exact (waits w member tag.symm).symm
      · exact home w member e live tag

theorem FlowInv.flush (inv : FlowInv lp s)
    : FlowInv lp { s with st := axienetTadmaFlushStream lp s.st, settled := none } := by
  have nothing := flush_empty inv.consistent.chained
  have none : (axienetTadmaFlushStream lp s.st).entries lp = [] := by
    simp [TadmaState.entries, Chains.entries, nothing]
  refine ⟨Consistent.empty nothing, ?_, ?_, ?_, ?_, ?_, by simp, by simp⟩
  · simp [none]
  · simp [none]
  · simp [none]
  · exact (inv.own.control xtadmaCrOffset 0 (by decide)).flush lp.numEntries
  · simp [AtHome, none]

/-- Programming gives every stream id of the table a fetch entry, if each is that of a slot. -/
theorem FlowInv.program (inv : FlowInv lp s) (fits : FlowFits lp s (.ioctl .progAll))
    : FlowInv lp
        { s with st := axienetTadmaProgram lp s.st, settled := some .programmed } := by
  obtain ⟨active, numbered, named⟩ := fits
  obtain ⟨own, kept, programmed⟩ := inv.own.programAll lp (s.st.entries lp)
  have carried : ∀ e ∈ s.st.entries lp, (axienetTadmaProgram lp s.st).Fetches lp e.sid := by
    intro e live
    refine (fetchedIn_control _ (by decide)).mpr ((fetchedIn_control _ (by decide)).mpr ?_)
    rcases numbered e live with fetched | ⟨other, live', number⟩
    · exact kept _ fetched
    · exact number ▸ programmed other live' (inv.slots other live')
  refine ⟨inv.consistent.same rfl, inv.single, inv.paired, inv.slots, ?_, fun _ => ?_,
    fun _ => ⟨active, carried, named⟩, by simp⟩
  · exact (own.control _ _ (by decide)).control _ _ (by decide)
  · -- the classifier is off after an off, so the last request was none
    exact inv.home fun last => active (inv.off last).1

/-- Turning the schedule off gives the best effort its fetch entry, and takes none away. -/
theorem FlowInv.turnOff (inv : FlowInv lp s) (fits : FlowFits lp s (.ioctl .off))
    : FlowInv lp { s with st := axienetTadmaOff s.st, settled := some .off } := by
  have enabled := inv.own.control xtadmaIntEnOffset intEnable (by decide)
  have fetched : ∀ sid, s.st.Fetches lp sid → (axienetTadmaOff s.st).Fetches lp sid := by
    intro sid fetched
    refine (fetchedIn_control _ (by decide)).mpr (enabled.fetchedIn_program _ _ _ ?_)
    exact (fetchedIn_control _ (by decide)).mpr fetched
  have first : stridBe ∈ sfmSlots lp := List.mem_range.mpr (lt_max_of_lt_left Nat.one_pos)
  have best : (axienetTadmaOff s.st).Fetches lp stridBe := by
    refine (fetchedIn_control _ (by decide)).mpr ?_
    exact fetchedIn_programmed first
  refine ⟨inv.consistent.same rfl, inv.single, inv.paired, inv.slots, ?_, by simp, by simp,
    fun _ => ⟨rfl, best, fun w member => ?_⟩⟩
  · exact (enabled.program _ _ _).control _ _ (by decide)
  · by_cases first : w.sid = stridBe
    · exact ⟨first ▸ best, .inr ⟨rfl, first⟩⟩
    · have way := inv.right (fun none => first (fits none w member)) w member
      refine ⟨fetched _ way.fetched, .inl ?_⟩
      exact (way.owned.resolve_right fun off => first off.2).table rfl

/-- Every step that fits keeps the invariant, by cases on the step. -/
theorem FlowInv.step (inv : FlowInv lp s) {event : FlowEvent} (fits : FlowFits lp s event)
    (step : flowStep lp s event = some next)
    : FlowInv lp next := by
  cases event with
  | xmit packet numFrag room => exact inv.xmit fits step
  | fetch sid =>
      obtain rfl := Option.some.inj step
      exact inv.fetch sid
  | ioctl op =>
      obtain ⟨st, done, rfl⟩ := Option.map_eq_some_iff.mp step
      cases op with
      | strAdd request => exact inv.add fits done
      | strFlush =>
          obtain rfl := Option.some.inj done
          exact inv.flush
      | progAll =>
          obtain rfl := Option.some.inj done
          exact inv.program fits
      | off =>
          obtain rfl := Option.some.inj done
          exact inv.turnOff fits

/-- In every run whose steps fit, everything that waits is on its way in every state reached once
the schedule is programmed or turned off.
-/
theorem reconfiguration_routes {events : List FlowEvent}
    (fits : Along (faulting (flowStep lp)) (BeforeFault (FlowFits lp)) (some .opened) events)
    (reached : run (faulting (flowStep lp)) (some .opened) events = some s)
    : FlowRight lp s := by
  have keeps : ∀ s event next, FlowInv lp s → FlowFits lp s event
      → flowStep lp s event = some next → FlowInv lp next :=
    fun _ _ _ inv fits step => inv.step fits step
  exact (faulting_invariant keeps flowInv_opened fits reached).right

def flowAfter (events : List FlowEvent) : TadmaFlow :=
  (run (faulting (flowStep defaultLocal)) (some .opened) events).getD .opened

def packet1001 : TrdpPacket := ⟨groupIp, #v[0, 0, 3, 0xe9]⟩

/-- Two streams, and a packet of each. -/
def twoStreams : List FlowEvent :=
  [.ioctl .strFlush, .ioctl (.strAdd (addAt 1000 100000 1)), .ioctl (.strAdd (addAt 1001 200000 0)),
    .ioctl .progAll, .xmit packet1000 0 true, .xmit packet1001 1 true]

/-- The second stream is drained and goes; the first gets its stream id back. -/
def shrunk : List FlowEvent :=
  twoStreams
  ++ [.fetch 1, .fetch 1, .ioctl .strFlush, .ioctl (.strAdd (addAt 1000 300000 1)), .ioctl .progAll]

theorem shrunk_reached
    : run (faulting (flowStep defaultLocal)) (some .opened) shrunk = some (flowAfter shrunk) := rfl

theorem reconfiguration_routes_shrunk : FlowRight defaultLocal (flowAfter shrunk) := by
  refine reconfiguration_routes ?_ shrunk_reached
  decide +kernel

/-- The streams change places while the packets of both wait. -/
def reordered : List FlowEvent :=
  twoStreams
  ++ [.ioctl .strFlush, .ioctl (.strAdd (addAt 1001 100000 1)),
    .ioctl (.strAdd (addAt 1000 200000 0)), .ioctl .progAll]

/-- A stream with two triggers goes, and another comes without a start flag. -/
def renumbered : List FlowEvent :=
  [.ioctl .strFlush, .ioctl (.strAdd (addAt 1000 100000 1)), .ioctl (.strAdd (addAt 1000 200000 0)),
    .ioctl .strFlush, .ioctl (.strAdd (addAt 1001 100000 0)), .ioctl .progAll,
    .xmit packet1001 0 true]

/-- In the first run the packet of communication id 1000 waits in the ring that is now that of 1001.
In the second that of 1001 waits in ring 1, while the only fetch entry names stream 2.
-/
theorem reconfiguration_misroutes
    : (run (faulting (flowStep defaultLocal)) (some .opened) reordered = some (flowAfter reordered)
        ∧ ¬ FlowRight defaultLocal (flowAfter reordered))
      ∧ run (faulting (flowStep defaultLocal)) (some .opened) renumbered
          = some (flowAfter renumbered)
        ∧ ¬ FlowRight defaultLocal (flowAfter renumbered) := by
  refine ⟨⟨rfl, fun right => ?_⟩, rfl, fun right => ?_⟩
  · have waits : ⟨0, packet1000⟩ ∈ (flowAfter reordered).waiting := by decide +kernel
    rcases (right (by decide +kernel) _ waits).owned with owns | ⟨off, -⟩
    · have alone := owns.alone
      revert alone
      decide +kernel
    · revert off
      decide +kernel
  · have waits : ⟨1, packet1001⟩ ∈ (flowAfter renumbered).waiting := by decide +kernel
    have fetched := (right (by decide +kernel) _ waits).fetched
    revert fetched
    decide +kernel

end TsnTrdp.Tadma
