import TsnTrdp.Tadma.StreamTable

/-! Which stream an outgoing packet is put into, against the pairs that were registered: the
table answers exactly for every pair that the tag comparison can tell from the registered
ones of its chain.
-/

namespace TsnTrdp.Tadma

open TsnTrdp Run

/-- `tadma_get_strid`. -/
def tadmaGetStrid (lp : TadmaLocal) (st : TadmaState) (packet : TrdpPacket) : Option Int :=
  if st.getSid = 0 then some 0
  else
    let tag := hashTag packet.daddr (ntohl (load32 packet.comId))
    (tadmaBucket lp tag).map fun idx =>
      match tadmaHashLookupStream (st.streamHash idx) tag with
      | some entry => (entry.sid : Int)
      | none => -1

/-- The tag is that of the pair which the packet carries. -/
theorem packet_tag (packet : TrdpPacket)
    : hashTag packet.daddr (ntohl (load32 packet.comId)) = packet.key.hashTag := by
  rw [ntohl_load32]
  rfl

/-- The driver with the stream id that `add_stream` recorded last for each pair since the
table was flushed.
-/
structure Classifier where
  st : TadmaState
  registry : StreamKey → Option Nat

/-- A successful add records its pair; a flush forgets all pairs. -/
def Classifier.record (lp : TadmaLocal) (s : Classifier) : TadmaIoctl → StreamKey → Option Nat
  | .strAdd request =>
      match newStreamEntry lp s.st request, request.stream with
      | some (.ok (_, entry), _), some stream =>
          Function.update s.registry stream.key (some entry.sid)
      | _, _ => s.registry
  | .strFlush => fun _ => none
  | _ => s.registry

def classifierStep (lp : TadmaLocal) (s : Classifier) (op : TadmaIoctl) : Option Classifier :=
  (tadmaIoctl lp s.st op).map fun out => ⟨out.2, s.record lp op⟩

/-- The driver after `axienet_tadma_open`, with any counters from before. -/
def Classifier.start (st : TadmaState) : Classifier := ⟨openStreamTable st, fun _ => none⟩

/-- The answer for a pair: its recorded stream id, or -1. -/
def registeredSid (registry : StreamKey → Option Nat) (key : StreamKey) : Int :=
  match registry key with
  | some sid => sid
  | none => -1

/-- The pair has a chain, and if it is not registered then no registered pair of that chain
agrees with it in the address and the low half of the communication id.
-/
def Distinguished (lp : TadmaLocal) (registry : StreamKey → Option Nat) (key : StreamKey)
    : Prop :=
  (tadmaBucket lp key.hashTag).isSome = true
  ∧ (registry key = none
    → ∀ other sid, registry other = some sid
      → tadmaBucket lp other.hashTag = tadmaBucket lp key.hashTag → ¬ other.SameLow key)

variable {lp : TadmaLocal} {s : Classifier}

/-- Entries are in the chains of their tags, which are those of pairs, and entries of one
chain that the comparison takes for equal share their stream id.
-/
structure Consistent (lp : TadmaLocal) (st : TadmaState) : Prop where
  chained : Chained lp st
  tagged : ∀ i, ∀ e ∈ st.streamHash i, ∃ key : StreamKey, e.hashtag = key.hashTag
  shared
    : ∀ i, ∀ e ∈ st.streamHash i, ∀ e' ∈ st.streamHash i,
        hashTagEqual e.hashtag e'.hashtag = true → e.sid = e'.sid

variable {st next : TadmaState}

theorem Consistent.empty (nothing : ∀ i, st.streamHash i = []) : Consistent lp st where
  chained := fun i e member => by simp [nothing i] at member
  tagged := fun i e member => by simp [nothing i] at member
  shared := fun i e member => by simp [nothing i] at member

theorem Consistent.same (inv : Consistent lp st) (table : next.streamHash = st.streamHash)
    : Consistent lp next where
  chained := by simpa only [Chained, table] using inv.chained
  tagged := by simpa only [table] using inv.tagged
  shared := by simpa only [table] using inv.shared

/-- The new entry's stream id is that of every entry which the comparison takes for it. -/
theorem Consistent.entry_shared (inv : Consistent lp st) {request : AddRequest}
    {stream : TadmaStream} {idx : Nat} {found : Option StreamEntry} {counters : TadmaState}
    (reaches : AddReaches lp st request stream idx found) {e : StreamEntry}
    (member : e ∈ st.streamHash idx)
    (same : hashTagEqual e.hashtag stream.key.hashTag = true)
    : e.sid = (stream.entry found counters).sid := by
  cases found with
  | none =>
      have apart := lookup_none.mp reaches.lookup e member
      rw [same] at apart
      cases apart
  | some e' =>
      obtain ⟨member', same'⟩ := lookup_some reaches.lookup
      exact inv.shared idx e member e' member'
        (hashTagEqual_trans same (hashTagEqual_symm same'))

theorem Consistent.added (inv : Consistent lp st) {request : AddRequest}
    {stream : TadmaStream} {idx : Nat} {found : Option StreamEntry} (counters : TadmaState)
    (reaches : AddReaches lp st request stream idx found)
    (table : next.streamHash = Chains.push st.streamHash idx (stream.entry found counters))
    : Consistent lp next := by
  refine ⟨?_, ?_, ?_⟩
  · rw [Chained, table]
    exact Chains.Placed.push inv.chained reaches.bucket
  · intro i e member
    rw [table, Chains.mem_push] at member
    rcases member with ⟨-, rfl⟩ | member
    · exact ⟨stream.key, rfl⟩
    · exact inv.tagged i e member
  · intro i e member e' member' equal
    rw [table, Chains.mem_push] at member member'
    rcases member with ⟨rfl, rfl⟩ | member
    · rcases member' with ⟨-, rfl⟩ | member'
      · rfl
      · exact (inv.entry_shared reaches member' (hashTagEqual_symm equal)).symm
    · rcases member' with ⟨rfl, rfl⟩ | member'
      · exact inv.entry_shared reaches member equal
      · exact inv.shared i e member e' member' equal

/-- Every request keeps the table consistent, by cases on what it does to it. -/
theorem tadmaIoctl_consistent {op : TadmaIoctl} {result : Except Errno Unit}
    (inv : Consistent lp st) (done : tadmaIoctl lp st op = some (result, next))
    : Consistent lp next := by
  cases op with
  | strAdd request =>
      obtain ⟨⟨outcome, st'⟩, entry, same⟩ := Option.map_eq_some_iff.mp done
      rcases newStreamEntry_cases entry with ⟨err, rfl, rfl⟩ | ⟨stream, idx, found, reaches, cases⟩
      · cases same
        exact inv
      · rcases cases with ⟨err, rfl, rfl⟩ | ⟨-, rfl, rfl⟩
        · cases same
          exact inv.same (by simp)
        · cases same
          exact inv.added (startCounters st stream.start) reaches (by simp)
  | progAll =>
      cases done
      exact inv.same rfl
  | strFlush =>
      cases done
      exact Consistent.empty (flush_empty inv.chained)
  | off =>
      cases done
      exact inv.same rfl

/-- Packets of an entry's pair are put into the entry's stream. -/
theorem Consistent.answers (inv : Consistent lp st) (active : st.getSid ≠ 0) {i : Nat}
    {e : StreamEntry} (member : e ∈ st.streamHash i) {packet : TrdpPacket}
    (tag : e.hashtag = packet.key.hashTag)
    : tadmaGetStrid lp st packet = some (e.sid : Int) := by
  have place := inv.chained.bucket member
  have equal : hashTagEqual e.hashtag packet.key.hashTag = true := by
    rw [tag]
    exact hashTagEqual_refl _
  rw [tag] at place
  rw [tadmaGetStrid, if_neg active, packet_tag]
  simp only [place, Option.map_some]
  cases found : tadmaHashLookupStream (st.streamHash i) packet.key.hashTag with
  | none =>
      have apart := lookup_none.mp found e member
      rw [equal] at apart
      cases apart
  | some e' =>
      obtain ⟨member', equal'⟩ := lookup_some found
      have same := inv.shared i e' member' e member
        (hashTagEqual_trans equal' (hashTagEqual_symm equal))
      exact congrArg (fun sid : Nat => some (sid : Int)) same

/-- The table and the registry agree: each entry is under a registered pair with that
pair's stream id, and every registered pair has an entry.
-/
structure ClassifierInv (lp : TadmaLocal) (s : Classifier) : Prop extends
    Consistent lp s.st where
  known
    : ∀ i, ∀ e ∈ s.st.streamHash i,
        ∃ key, e.hashtag = key.hashTag ∧ s.registry key = some e.sid
  stored
    : ∀ key sid, s.registry key = some sid
      → ∃ i, ∃ e ∈ s.st.streamHash i, e.hashtag = key.hashTag ∧ e.sid = sid

theorem ClassifierInv.empty {s : Classifier} (nothing : ∀ i, s.st.streamHash i = [])
    (unregistered : ∀ key, s.registry key = none)
    : ClassifierInv lp s where
  toConsistent := Consistent.empty nothing
  known := fun i e member => by simp [nothing i] at member
  stored := fun key sid found => by simp [unregistered key] at found

/-- A step that touches neither the table nor the registry keeps their agreement. -/
theorem ClassifierInv.same {s' : Classifier} (inv : ClassifierInv lp s)
    (table : s'.st.streamHash = s.st.streamHash) (registry : s'.registry = s.registry)
    : ClassifierInv lp s' where
  toConsistent := inv.toConsistent.same table
  known := by simpa only [table, registry] using inv.known
  stored := by simpa only [table, registry] using inv.stored

/-- Adding an entry under a pair keeps the agreement when the pair is recorded with the
entry's stream id.
-/
theorem ClassifierInv.added (inv : ClassifierInv lp s) {request : AddRequest}
    {stream : TadmaStream} {idx : Nat} {found : Option StreamEntry} {counters : TadmaState}
    {next : Classifier} (reaches : AddReaches lp s.st request stream idx found)
    (table : next.st.streamHash = Chains.push s.st.streamHash idx (stream.entry found counters))
    (registry
      : next.registry
        = Function.update s.registry stream.key (some (stream.entry found counters).sid))
    : ClassifierInv lp next := by
  refine ⟨inv.toConsistent.added counters reaches table, ?_, ?_⟩
  · intro i e member
    rw [table, Chains.mem_push] at member
    rcases member with ⟨rfl, rfl⟩ | member
    · exact ⟨stream.key, rfl, by rw [registry, Function.update_self]⟩
    · obtain ⟨key, tag, known⟩ := inv.known i e member
      refine ⟨key, tag, ?_⟩
      by_cases same : key = stream.key
      · subst same
        have place := inv.chained.bucket member
        rw [tag] at place
        obtain rfl : idx = i := Option.some.inj (reaches.bucket.symm.trans place)
        have equal : hashTagEqual e.hashtag stream.key.hashTag = true := by
          rw [tag]
          exact hashTagEqual_refl _
        rw [registry, Function.update_self, inv.entry_shared reaches member equal]
      · rw [registry, Function.update_of_ne same]
        exact known
  · intro key sid known
    rw [registry] at known
    by_cases same : key = stream.key
    · subst same
      rw [Function.update_self] at known
      refine ⟨idx, stream.entry found counters, ?_, rfl, Option.some.inj known⟩
      rw [table, Chains.mem_push]
      exact Or.inl ⟨rfl, rfl⟩
    · rw [Function.update_of_ne same] at known
      obtain ⟨i, e, member, tag, sid⟩ := inv.stored key sid known
      refine ⟨i, e, ?_, tag, sid⟩
      rw [table, Chains.mem_push]
      exact Or.inr member

/-- Every request keeps the agreement, by cases on what it does to the table. -/
theorem classifierStep_keeps {s next : Classifier} {op : TadmaIoctl} (inv : ClassifierInv lp s)
    (step : classifierStep lp s op = some next)
    : ClassifierInv lp next := by
  obtain ⟨out, done, rfl⟩ := Option.map_eq_some_iff.mp step
  cases op with
  | strAdd request =>
      obtain ⟨⟨result, st'⟩, entry, rfl⟩ := Option.map_eq_some_iff.mp done
      simp only [Classifier.record, entry]
      rcases newStreamEntry_cases entry with
        ⟨err, rfl, rfl⟩ | ⟨stream, idx, found, reaches, outcome⟩
      · exact inv.same rfl rfl
      · rcases outcome with ⟨err, rfl, rfl⟩ | ⟨-, rfl, rfl⟩
        · exact inv.same (by simp) rfl
        · simp only [reaches.copied]
          exact inv.added reaches (by simp) rfl
  | progAll =>
      cases done
      exact inv.same rfl rfl
  | strFlush =>
      cases done
      exact ClassifierInv.empty (flush_empty inv.chained) fun _ => rfl
  | off =>
      cases done
      exact inv.same rfl rfl

/-- A registered pair is answered with its stream id. -/
theorem ClassifierInv.answers (inv : ClassifierInv lp s) (active : s.st.getSid ≠ 0)
    {packet : TrdpPacket} {sid : Nat} (known : s.registry packet.key = some sid)
    : tadmaGetStrid lp s.st packet = some (sid : Int) := by
  obtain ⟨i, e, member, tag, rfl⟩ := inv.stored _ _ known
  exact inv.toConsistent.answers active member tag

/-- A pair that is not registered is answered with -1 exactly where no registered pair of
its chain compares equal to it.
-/
theorem ClassifierInv.rejects (inv : ClassifierInv lp s) (active : s.st.getSid ≠ 0)
    {packet : TrdpPacket} (unknown : s.registry packet.key = none)
    : tadmaGetStrid lp s.st packet = some (-1)
      ↔ Distinguished lp s.registry packet.key := by
  rw [tadmaGetStrid, if_neg active, packet_tag, Option.map_eq_some_iff]
  constructor
  · rintro ⟨i, place, answer⟩
    refine ⟨by rw [place]; rfl, ?_⟩
    intro _ other sid known chain low
    obtain ⟨j, e, member, tag, -⟩ := inv.stored _ _ known
    have place' := inv.chained.bucket member
    rw [tag, chain, place] at place'
    obtain rfl : i = j := Option.some.inj place'
    cases found : tadmaHashLookupStream (s.st.streamHash i) packet.key.hashTag with
    | none =>
        have apart := lookup_none.mp found e member
        rw [tag, hashTagEqual_iff.mpr low] at apart
        cases apart
    | some e' =>
        rw [found] at answer
        exact absurd answer (by simp)
  · rintro ⟨chain, apart⟩
    obtain ⟨i, place⟩ := Option.isSome_iff_exists.mp chain
    refine ⟨i, place, ?_⟩
    have missing : tadmaHashLookupStream (s.st.streamHash i) packet.key.hashTag = none := by
      apply lookup_none.mpr
      intro e member
      obtain ⟨key, tag, known⟩ := inv.known i e member
      have place' := inv.chained.bucket member
      rw [tag] at place' ⊢
      rw [Bool.eq_false_iff, Ne, hashTagEqual_iff]
      exact apart unknown key _ known (place'.trans place.symm)
    rw [missing]

/-- In every state that the driver reaches, a packet is put into the stream recorded for
its pair, or into none if the pair is not registered, exactly when the pair is
distinguished; distinguished packets of different pairs share a stream only where both
pairs were registered with it. Witness: the agreement of the table with the registry.
-/
theorem packet_classified {st : TadmaState} {ops : List TadmaIoctl}
    (reached : run (faulting (classifierStep lp)) (some (.start st)) ops = some s)
    (active : s.st.getSid ≠ 0)
    : (∀ packet, tadmaGetStrid lp s.st packet = some (registeredSid s.registry packet.key)
          ↔ Distinguished lp s.registry packet.key)
      ∧ ∀ packet other sid, packet.key ≠ other.key
        → Distinguished lp s.registry packet.key → Distinguished lp s.registry other.key
        → tadmaGetStrid lp s.st packet = some (Int.ofNat sid)
        → tadmaGetStrid lp s.st other = some (Int.ofNat sid)
        → s.registry packet.key = some sid ∧ s.registry other.key = some sid := by
  have start : ClassifierInv lp (.start st) := ClassifierInv.empty (fun _ => rfl) fun _ => rfl
  have inv : ClassifierInv lp s :=
    faulting_reaches (fun _ _ _ inv step => classifierStep_keeps inv step) start reached
  have single : ∀ packet sid, Distinguished lp s.registry packet.key
      → tadmaGetStrid lp s.st packet = some (Int.ofNat sid)
      → s.registry packet.key = some sid := by
    intro packet sid distinguished answer
    cases known : s.registry packet.key with
    | none =>
        rw [(inv.rejects active known).mpr distinguished] at answer
        cases answer
    | some sid' =>
        rw [inv.answers active known] at answer
        cases answer
        rfl
  refine ⟨?_, ?_⟩
  · intro packet
    unfold registeredSid
    cases known : s.registry packet.key with
    | none => exact inv.rejects active known
    | some sid =>
        refine ⟨fun _ => ⟨?_, by simp [known]⟩, fun _ => inv.answers active known⟩
        obtain ⟨i, e, member, tag, -⟩ := inv.stored _ _ known
        rw [← tag, inv.chained.bucket member]
        rfl
  · intro packet other sid _ distinguished distinguished' answer answer'
    exact ⟨single packet sid distinguished answer, single other sid distinguished' answer'⟩

/-- One stream, for communication id 1000 at 239.0.0.1. -/
def oneStream : List TadmaIoctl := [.strAdd (addAt 1000 100000 1)]

/-- The state after that request. -/
def oneStreamState : Classifier :=
  (run (faulting (classifierStep defaultLocal)) (some (.start .loaded)) oneStream).getD
    (.start .loaded)

theorem oneStream_reached
    : run (faulting (classifierStep defaultLocal)) (some (.start .loaded)) oneStream
      = some oneStreamState := rfl

/-- Communication ids on the wire: 1000, and 132072, whose low half is that of 1000. -/
def packet1000 : TrdpPacket := ⟨groupIp, #v[0, 0, 3, 0xe8]⟩
def packet132072 : TrdpPacket := ⟨groupIp, #v[0, 2, 3, 0xe8]⟩

theorem packet_classified_registered
    : tadmaGetStrid defaultLocal oneStreamState.st packet1000
        = some (registeredSid oneStreamState.registry packet1000.key)
      ↔ Distinguished defaultLocal oneStreamState.registry packet1000.key :=
  (packet_classified oneStream_reached (by decide)).1 packet1000

/-- The packet of the other communication id hashes into the same chain and is put into the
registered stream, although its pair is not registered.
-/
theorem packet_misclassified
    : ∃ ops s packet,
        run (faulting (classifierStep defaultLocal)) (some (.start .loaded)) ops = some s
        ∧ s.st.getSid ≠ 0
        ∧ s.registry packet.key = none
        ∧ tadmaGetStrid defaultLocal s.st packet = some 0
        ∧ registeredSid s.registry packet.key = -1 :=
  ⟨oneStream, oneStreamState, packet132072, oneStream_reached, by decide, by decide,
    by decide, by decide⟩

end TsnTrdp.Tadma
