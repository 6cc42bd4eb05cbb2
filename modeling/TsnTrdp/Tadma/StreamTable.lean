import TsnTrdp.Tadma.HashTag
import TsnTrdp.Lib.Chains
import TsnTrdp.Lib.Run

/-! The stream table of the driver: the hash table of stream entries, the counters that
number streams and fetch slots, and the device registers that a schedule is programmed
into, with the ioctls that work on them.
-/

namespace TsnTrdp.Tadma

open TsnTrdp

/-- `struct tadma_stream`: one add-stream request. -/
structure TadmaStream where
  ip : IpBytes
  comid : U32
  trigger : U32
  count : U32
  start : Byte
  deriving DecidableEq, Repr

/-- `struct tadma_stream_entry`. -/
structure StreamEntry where
  hashtag : HashTag
  tticks : U32
  sid : Nat
  sfm : Nat
  count : U32
  deriving DecidableEq, Repr

/-- The device tree values, non-negative `int`s, and the hash bits that
`axienet_tadma_probe` takes from the lowest set bit of `num_streams`.
-/
structure TadmaLocal where
  numStreams : Nat
  numEntries : Nat
  hashBits : Nat
  numStreams_lt : numStreams < 2 ^ 31
  numEntries_lt : numEntries < 2 ^ 31
  lowestBit : numStreams.testBit hashBits = true ∧ ∀ bit < hashBits, numStreams.testBit bit = false

/-- The defaults of `axienet_tadma_probe`. -/
def defaultLocal : TadmaLocal where
  numStreams := 8
  numEntries := 8
  hashBits := 3
  numStreams_lt := by decide
  numEntries_lt := by decide
  lowestBit := by decide

/-- `SFM_UPPER` and `SFM_LOWER`. -/
inductive Sfm
  | upper
  | lower
  deriving DecidableEq, Repr

/-- The stream table with its counters (`u32`), and the registers by byte offset. -/
structure TadmaState where
  streamHash : Nat → List StreamEntry
  getSid : U32
  getSfm : U32
  activeSfm : Sfm
  regs : Nat → U32

/-- The driver as it is loaded, on cleared registers. -/
def TadmaState.loaded : TadmaState where
  streamHash := fun _ => []
  getSid := 0
  getSfm := 0
  activeSfm := .upper
  regs := fun _ => 0

inductive Errno
  | efault
  | einval
  | enomem
  | eexist
  deriving DecidableEq, Repr

-----------------------------------------------------------------------------------------
-- Registers
-----------------------------------------------------------------------------------------

def xtadmaCrOffset : Nat := 0x0
def xtadmaIntEnOffset : Nat := 0x10

def tadmaIow (regs : Nat → U32) (offset : Nat) (value : U32) : Nat → U32 :=
  Function.update regs offset value

/-- `sfm_entry_offset`. -/
def sfmEntryOffset (active : Sfm) (sid : Nat) : Nat :=
  match active with
  | .upper => xtadmaUsfmOffset + sid * entrySize
  | .lower => xtadmaLsfmOffset + sid * entrySize

/-- `qt_st`. -/
def qtSt : U32 := 0

/-- The entry that `tadma_sfm_program` writes. -/
def sfmWords (sid : Nat) (tticks count : U32) : SfmEntry :=
  let cfg : U32 := 0 &&& ~~~(xtadmaStrIdMask ||| xtadmaStrQueTypeMask)
  let cfg := cfg ||| ((BitVec.ofNat 32 sid <<< xtadmaStrIdShift) &&& xtadmaStrIdMask)
  let cfg := cfg ||| ((qtSt <<< xtadmaStrQueTypeShift) &&& xtadmaStrQueTypeMask)
  let cfg := if count ≠ 0 then cfg &&& ~~~xtadmaStrContFetchEn else cfg ||| xtadmaStrContFetchEn
  let cfg := cfg ||| xtadmaStrEntryValid
  let count := if count > 0 then count - 1 else count
  ⟨tticks / 8, cfg ||| ((count <<< xtadmaStrNumFrmShift) &&& xtadmaStrNumFrmMask)⟩

/-- `tadma_sfm_program`: the number that selects the slot is also written as stream id. -/
def tadmaSfmProgram (active : Sfm) (regs : Nat → U32) (sid : Nat) (tticks count : U32)
    : Nat → U32 :=
  let offset := sfmEntryOffset active sid
  let sfm := sfmWords sid tticks count
  tadmaIow (tadmaIow regs offset sfm.tticks) (offset + 4) sfm.cfg

def nsecPerMsec : U32 := 1000000

/-- `STRID_BE`. -/
def stridBe : Nat := 0

/-- Interrupts enabled by every operation that programs the schedule. -/
def intEnable : U32 := xtadmaFfiIntEn ||| xtadmaIeIntEn

/-- The chain of a tag. There is none where the index lies outside the table, or where
`hash_64` would shift by 64.
-/
def tadmaBucket (lp : TadmaLocal) (tag : HashTag) : Option Nat :=
  let idx := (tadmaHashtagHash lp.hashBits tag).toNat
  if lp.hashBits ≠ 0 ∧ idx < lp.numEntries then some idx else none

/-- `tadma_hash_lookup_stream`. -/
def tadmaHashLookupStream (chain : List StreamEntry) (tag : HashTag) : Option StreamEntry :=
  chain.find? fun e => hashTagEqual e.hashtag tag

-----------------------------------------------------------------------------------------
-- Operations
-----------------------------------------------------------------------------------------

/-- `tadma_sfm_init`: the upper memory is active, with the best-effort slot programmed. -/
def tadmaSfmInit (st : TadmaState) : TadmaState :=
  { st with
    activeSfm := .upper
    regs := tadmaSfmProgram .upper st.regs stridBe nsecPerMsec 0 }

/-- `tadma_sfm_hash_init`, where its allocations succeed. -/
def tadmaSfmHashInit (st : TadmaState) : TadmaState := { st with streamHash := fun _ => [] }

/-- What `axienet_tadma_open` does to the table and the registers. The counters keep what
they had.
-/
def openStreamTable (st : TadmaState) : TadmaState :=
  let st := { st with regs := tadmaIow st.regs xtadmaIntEnOffset intEnable }
  let st := tadmaSfmHashInit (tadmaSfmInit st)
  { st with regs := tadmaIow st.regs xtadmaCrOffset xtadmaCfgDone }

/-- `axienet_tadma_off`. -/
def axienetTadmaOff (st : TadmaState) : TadmaState :=
  let regs := tadmaIow st.regs xtadmaIntEnOffset intEnable
  let regs := tadmaSfmProgram st.activeSfm regs stridBe nsecPerMsec 0
  { st with
    regs := tadmaIow regs xtadmaCrOffset xtadmaCfgDone
    getSid := 0 }

/-- The slots and chains that `axienet_tadma_flush_stream` clears, `count` of them. -/
def flushSlots (active : Sfm) (regs : Nat → U32) (count : Nat) : Nat → U32 :=
  (List.range count).foldl
    (fun regs hash =>
      let offset := sfmEntryOffset active hash
      tadmaIow (tadmaIow regs offset 0) (offset + 4) 0)
    regs

/-- `axienet_tadma_flush_stream`. -/
def axienetTadmaFlushStream (lp : TadmaLocal) (st : TadmaState) : TadmaState :=
  { st with
    streamHash := fun hash => if hash < lp.numEntries then [] else st.streamHash hash
    regs := flushSlots st.activeSfm (tadmaIow st.regs xtadmaCrOffset 0) lp.numEntries }

/-- Every live entry, in the order in which `axienet_tadma_program` visits them. -/
def TadmaState.entries (lp : TadmaLocal) (st : TadmaState) : List StreamEntry :=
  Chains.entries lp.numEntries st.streamHash

/-- `axienet_tadma_program`. -/
def axienetTadmaProgram (lp : TadmaLocal) (st : TadmaState) : TadmaState :=
  let regs := (st.entries lp).foldl
    (fun regs entry => tadmaSfmProgram st.activeSfm regs entry.sfm entry.tticks entry.count)
    st.regs
  let regs := tadmaIow regs xtadmaIntEnOffset intEnable
  { st with regs := tadmaIow regs xtadmaCrOffset (xtadmaCfgDone ||| xtadmaSchedEnable) }

/-- `MAX_TRIG_COUNT`. -/
def maxTrigCount : U32 := 4

/-- A request as the kernel sees it: `none` where `copy_from_user` fails, and whether the
allocation of the entry would succeed.
-/
structure AddRequest where
  stream : Option TadmaStream
  kzalloc : Bool
  deriving DecidableEq, Repr

/-- A request that is copied and whose memory is there. -/
def AddRequest.of (stream : TadmaStream) : AddRequest := ⟨some stream, true⟩

/-- The multicast group 239.0.0.1. -/
def groupIp : IpBytes := #v[239, 0, 0, 1]

/-- A request for one communication id at 239.0.0.1, with one frame at `trigger`. -/
def addAt (comid trigger : U32) (start : Byte) : AddRequest :=
  .of ⟨groupIp, comid, trigger, 1, start⟩

def TadmaStream.key (stream : TadmaStream) : StreamKey := ⟨stream.ip, stream.comid⟩

/-- The counters after the start flag has been looked at. -/
def startCounters (st : TadmaState) (start : Byte) : TadmaState :=
  if start ≠ 0 then { st with getSid := 0, getSfm := 0 } else st

/-- The stream id of a new entry: that of the entry found, or the next one. -/
def entrySid (found : Option StreamEntry) (st : TadmaState) : Nat :=
  match found with
  | some e => e.sid
  | none => st.getSid.toNat

/-- A new stream uses up a stream id. -/
def countSid (found : Option StreamEntry) (st : TadmaState) : TadmaState :=
  match found with
  | some _ => st
  | none => { st with getSid := st.getSid + 1 }

/-- `axienet_tadma_add_stream` up to the new entry and the chain it is for; an error leaves
the counters as far as they got. There is no result where the tag has no chain.
-/
def newStreamEntry (lp : TadmaLocal) (st : TadmaState) (request : AddRequest)
    : Option (Except Errno (Nat × StreamEntry) × TadmaState) :=
  match request.stream with
  | none => some (.error .efault, st)
  | some stream =>
      if stream.count > maxTrigCount then some (.error .einval, st)
      else
        let st := startCounters st stream.start
        let tag := stream.key.hashTag
        (tadmaBucket lp tag).map fun idx =>
          let found := tadmaHashLookupStream (st.streamHash idx) tag
          if found.any fun e => e.count == stream.count && e.tticks == stream.trigger then
            (.error .eexist, st)
          else
            let sid := entrySid found st
            let st := countSid found st
            if sid ≥ lp.numStreams then (.error .einval, st)
            else if st.getSfm.toNat ≥ lp.numEntries then (.error .einval, st)
            else if !request.kzalloc then (.error .enomem, st)
            else
              (.ok (idx, ⟨tag, stream.trigger, sid, st.getSfm.toNat, stream.count⟩),
                { st with getSfm := st.getSfm + 1 })

/-- `axienet_tadma_add_stream`: the new entry goes to the head of its chain. -/
def axienetTadmaAddStream (lp : TadmaLocal) (st : TadmaState) (request : AddRequest)
    : Option (Except Errno Unit × TadmaState) :=
  (newStreamEntry lp st request).map fun
    | (.error err, st) => (.error err, st)
    | (.ok (idx, entry), st) =>
        (.ok (), { st with streamHash := Chains.push st.streamHash idx entry })

/-- The requests that reach the stream table through `axienet_ioctl`. -/
inductive TadmaIoctl
  | strAdd (request : AddRequest)
  | progAll
  | strFlush
  | off
  deriving DecidableEq, Repr

def tadmaIoctl (lp : TadmaLocal) (st : TadmaState)
    : TadmaIoctl → Option (Except Errno Unit × TadmaState)
  | .strAdd request => axienetTadmaAddStream lp st request
  | .progAll => some (.ok (), axienetTadmaProgram lp st)
  | .strFlush => some (.ok (), axienetTadmaFlushStream lp st)
  | .off => some (.ok (), axienetTadmaOff st)

/-- The state after a request. -/
def tadmaStep (lp : TadmaLocal) (st : TadmaState) (op : TadmaIoctl) : Option TadmaState :=
  (tadmaIoctl lp st op).map Prod.snd

/-- The state after an add. -/
def addStep (lp : TadmaLocal) (st : TadmaState) (request : AddRequest) : Option TadmaState :=
  (axienetTadmaAddStream lp st request).map Prod.snd

variable {lp : TadmaLocal} {st st' : TadmaState} {request : AddRequest}

@[simp] theorem startCounters_streamHash (st : TadmaState) (start : Byte)
    : (startCounters st start).streamHash = st.streamHash := by
  unfold startCounters
  split <;> rfl

@[simp] theorem countSid_streamHash (found : Option StreamEntry) (st : TadmaState)
    : (countSid found st).streamHash = st.streamHash := by
  cases found <;> rfl

@[simp] theorem countSid_getSfm (found : Option StreamEntry) (st : TadmaState)
    : (countSid found st).getSfm = st.getSfm := by
  cases found <;> rfl

/-- A counter that has not reached the end counts on. -/
theorem counter_succ {counter : U32} (more : counter + 1 ≠ 0)
    : (counter + 1).toNat = counter.toNat + 1 := by
  bv_omega

/-- A counter below a limit that is an `int` has not reached the end. -/
theorem counter_more {counter : U32} {limit : Nat} (below : counter.toNat < limit)
    (int : limit < 2 ^ 31)
    : counter + 1 ≠ 0 := by
  bv_omega

/-- The request gets as far as its chain, `idx`, and the lookup finds `found` there. -/
structure AddReaches (lp : TadmaLocal) (st : TadmaState) (request : AddRequest)
    (stream : TadmaStream) (idx : Nat) (found : Option StreamEntry)
    : Prop where
  copied : request.stream = some stream
  count : stream.count ≤ maxTrigCount
  bucket : tadmaBucket lp stream.key.hashTag = some idx
  lookup : tadmaHashLookupStream (st.streamHash idx) stream.key.hashTag = found

/-- The entry that the request adds, given the counters after its start flag. -/
def TadmaStream.entry (stream : TadmaStream) (found : Option StreamEntry) (st : TadmaState)
    : StreamEntry :=
  ⟨stream.key.hashTag, stream.trigger, entrySid found st, st.getSfm.toNat, stream.count⟩

/-- The request passes the tests behind the lookup and gets its memory. -/
structure Adds (lp : TadmaLocal) (st : TadmaState) (request : AddRequest)
    (stream : TadmaStream) (found : Option StreamEntry)
    : Prop where
  alloc : request.kzalloc = true
  new : (found.any fun e => e.count == stream.count && e.tticks == stream.trigger) = false
  sid : entrySid found (startCounters st stream.start) < lp.numStreams
  sfm : (startCounters st stream.start).getSfm.toNat < lp.numEntries

instance (lp : TadmaLocal) (st : TadmaState) (request : AddRequest) (stream : TadmaStream)
    (found : Option StreamEntry)
    : Decidable (Adds lp st request stream found) :=
  decidable_of_iff (_ ∧ _ ∧ _ ∧ _)
    ⟨fun ⟨alloc, new, sid, sfm⟩ => ⟨alloc, new, sid, sfm⟩,
      fun adds => ⟨adds.alloc, adds.new, adds.sid, adds.sfm⟩⟩

/-- What a request that reached its chain leads to: an error that has used up a stream id
at most, or the new entry.
-/
theorem newStreamEntry_cases {result : Except Errno (Nat × StreamEntry)}
    (step : newStreamEntry lp st request = some (result, st'))
    : (∃ err, result = .error err ∧ st' = st)
      ∨ ∃ stream idx found, AddReaches lp st request stream idx found
        ∧ ((∃ err, result = .error err ∧ st' = countSid found (startCounters st stream.start))
          ∨ Adds lp st request stream found
            ∧ result = .ok (idx, stream.entry found (startCounters st stream.start))
            ∧ st' = { countSid found (startCounters st stream.start) with
                getSfm := (startCounters st stream.start).getSfm + 1 }) := by
  unfold newStreamEntry at step
  split at step
  · cases step
    exact Or.inl ⟨_, rfl, rfl⟩
  · rename_i stream copied
    split at step
    · cases step
      exact Or.inl ⟨_, rfl, rfl⟩
    · rename_i count
      obtain ⟨idx, bucket, outcome⟩ := Option.map_eq_some_iff.mp step
      simp only [startCounters_streamHash, countSid_getSfm] at outcome
      refine Or.inr ⟨stream, idx, tadmaHashLookupStream (st.streamHash idx) stream.key.hashTag,
        ⟨copied, BitVec.not_lt.mp count, bucket, rfl⟩, ?_⟩
      generalize tadmaHashLookupStream (st.streamHash idx) stream.key.hashTag = found at *
      split at outcome
      · rename_i old
        cases found with
        | none => cases old
        | some e =>
            cases outcome
            exact Or.inl ⟨_, rfl, rfl⟩
      · rename_i new
        split at outcome
        · cases outcome
          exact Or.inl ⟨_, rfl, rfl⟩
        · rename_i sid
          split at outcome
          · cases outcome
            exact Or.inl ⟨_, rfl, rfl⟩
          · rename_i sfm
            split at outcome
            · cases outcome
              exact Or.inl ⟨_, rfl, rfl⟩
            · rename_i alloc
              cases outcome
              exact Or.inr ⟨⟨by simpa using alloc, Bool.eq_false_iff.mpr new,
                Nat.lt_of_not_le sid, Nat.lt_of_not_le sfm⟩, rfl, rfl⟩

/-- A request that reaches its chain, passes the limits and gets its memory is added. -/
theorem newStreamEntry_adds {stream : TadmaStream} {idx : Nat} {found : Option StreamEntry}
    (reaches : AddReaches lp st request stream idx found)
    (adds : Adds lp st request stream found)
    : newStreamEntry lp st request
      = some (.ok (idx, stream.entry found (startCounters st stream.start)),
        { countSid found (startCounters st stream.start) with
          getSfm := (startCounters st stream.start).getSfm + 1 }) := by
  have count : ¬ stream.count > maxTrigCount := BitVec.not_lt.mpr reaches.count
  have sid : ¬ entrySid found (startCounters st stream.start) ≥ lp.numStreams :=
    Nat.not_le.mpr adds.sid
  have sfm : ¬ (startCounters st stream.start).getSfm.toNat ≥ lp.numEntries :=
    Nat.not_le.mpr adds.sfm
  simp only [newStreamEntry, reaches.copied, if_neg count, reaches.bucket, Option.map_some,
    startCounters_streamHash, reaches.lookup, adds.new, Bool.false_eq_true, if_false, if_neg sid,
    countSid_getSfm, if_neg sfm, adds.alloc, Bool.not_true]
  rfl

-----------------------------------------------------------------------------------------
-- Entries in their chains
-----------------------------------------------------------------------------------------

theorem tadmaBucket_lt {tag : HashTag} {i : Nat} (bucket : tadmaBucket lp tag = some i)
    : i < lp.numEntries := by
  simp only [tadmaBucket, Option.ite_none_right_eq_some, Option.some.injEq] at bucket
  obtain ⟨range, rfl⟩ := bucket
  exact range.2

/-- An entry that is put into its chain is one more in the table. -/
theorem entries_push {st st' : TadmaState} {tag : HashTag} {i : Nat} {e : StreamEntry}
    (bucket : tadmaBucket lp tag = some i)
    (table : st'.streamHash = Chains.push st.streamHash i e)
    : (st'.entries lp).Perm (e :: st.entries lp) := by
  rw [TadmaState.entries, table]
  exact Chains.entries_push (tadmaBucket_lt bucket)

theorem mem_entries_push {st st' : TadmaState} {tag : HashTag} {i : Nat} {e : StreamEntry}
    (bucket : tadmaBucket lp tag = some i)
    (table : st'.streamHash = Chains.push st.streamHash i e) (other : StreamEntry)
    : other ∈ st'.entries lp ↔ other = e ∨ other ∈ st.entries lp :=
  (entries_push bucket table).mem_iff.trans List.mem_cons

/-- A slot that no entry has goes to one entry. -/
theorem nodup_sfms_push {st st' : TadmaState} {tag : HashTag} {i : Nat} {e : StreamEntry}
    (bucket : tadmaBucket lp tag = some i)
    (table : st'.streamHash = Chains.push st.streamHash i e)
    (nodup : ((st.entries lp).map StreamEntry.sfm).Nodup)
    (free : ∀ other ∈ st.entries lp, other.sfm ≠ e.sfm)
    : ((st'.entries lp).map StreamEntry.sfm).Nodup := by
  rw [((entries_push bucket table).map StreamEntry.sfm).nodup_iff, List.map_cons,
    List.nodup_cons]
  refine ⟨fun taken => ?_, nodup⟩
  obtain ⟨other, live, same⟩ := List.mem_map.mp taken
  exact free other live same

/-- Entries stay in the chains of their tags. -/
def Chained (lp : TadmaLocal) (st : TadmaState) : Prop :=
  Chains.Placed (fun e => tadmaBucket lp e.hashtag) st.streamHash

theorem Chained.bucket {st : TadmaState} (chained : Chained lp st) {i : Nat} {e : StreamEntry}
    (member : e ∈ st.streamHash i)
    : tadmaBucket lp e.hashtag = some i :=
  chained i e member

theorem Chained.mem_entries {st : TadmaState} (chained : Chained lp st) {e : StreamEntry}
    : e ∈ st.entries lp ↔ ∃ i, e ∈ st.streamHash i := by
  rw [TadmaState.entries, Chains.mem_entries]
  constructor
  · rintro ⟨i, -, member⟩
    exact ⟨i, member⟩
  · rintro ⟨i, member⟩
    exact ⟨i, tadmaBucket_lt (chained.bucket member), member⟩

/-- Entries of one tag are in one chain. -/
theorem Chained.member {st : TadmaState} (chained : Chained lp st) {e : StreamEntry} {i : Nat}
    (live : e ∈ st.entries lp) (place : tadmaBucket lp e.hashtag = some i)
    : e ∈ st.streamHash i := by
  obtain ⟨j, member⟩ := chained.mem_entries.mp live
  obtain rfl : i = j := Option.some.inj (place.symm.trans (chained.bucket member))
  exact member

/-- Once its entries are in their chains, a flush leaves no entry. -/
theorem flush_empty {st : TadmaState} (chained : Chained lp st) (i : Nat)
    : (axienetTadmaFlushStream lp st).streamHash i = [] := by
  simp only [axienetTadmaFlushStream]
  split
  · rfl
  · rename_i outside
    apply List.eq_nil_iff_forall_not_mem.mpr
    intro e member
    exact outside (tadmaBucket_lt (chained.bucket member))

/-- What a lookup finds is in the chain and compares equal to the tag. -/
theorem lookup_some {chain : List StreamEntry} {tag : HashTag} {e : StreamEntry}
    (found : tadmaHashLookupStream chain tag = some e)
    : e ∈ chain ∧ hashTagEqual e.hashtag tag = true :=
  ⟨List.mem_of_find?_eq_some found, by simpa using List.find?_some found⟩

theorem lookup_none {chain : List StreamEntry} {tag : HashTag}
    : tadmaHashLookupStream chain tag = none
      ↔ ∀ e ∈ chain, hashTagEqual e.hashtag tag = false := by
  simp [tadmaHashLookupStream]

end TsnTrdp.Tadma
