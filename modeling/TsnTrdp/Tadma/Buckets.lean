import TsnTrdp.Tadma.Classification

/-! The buckets of the stream table. The width of the hash comes from the number of streams in the
device tree, the number of buckets from the number of fetch entries.
-/

namespace TsnTrdp.Tadma

open TsnTrdp Run

/-- What `axienet_tadma_probe` reads of the TADMA's node; `none` where a property is absent. -/
structure TadmaNode where
  /-- `of_address_to_resource` succeeds. -/
  address : Bool
  irq : Nat
  numBuffersPerStream : Option U32
  numStreams : Option U32
  numFetchEntries : Option U32

/-- What it reads of the device's own node, with the nodes that `axistream-connected-tx` lists. -/
structure EndpointNode where
  numTc : Option (BitVec 16)
  connectedTx : Int → Option TadmaNode

/-- What it sets. The three numbers are `int`s. -/
structure ProbedTadma where
  tadmaIrq : Nat
  numTadmaBuffers : U32
  numStreams : U32
  numEntries : U32
  tadmaHashBits : Byte
  deriving DecidableEq, Repr

inductive ProbeErrno
  | enodev
  deriving DecidableEq, Repr

/-- `XAE_MAX_TSN_TC`. -/
def xaeMaxTsnTc : BitVec 16 := 3

/-- `TADMA_MAX_NO_STREAM`. -/
def tadmaMaxNoStream : Nat := 128

/-- The loop `while (!((lp->num_streams >> count) & 1)) count++`, for as long as the shift is
defined.
-/
def scanHashBits (numStreams : U32) : Nat → Nat → Option Nat
  | 0, _ => none
  | fuel + 1, count =>
      if numStreams.sshiftRight count &&& 1 = 0 then scanHashBits numStreams fuel (count + 1)
      else some count

/-- `axienet_tadma_probe`. There is no result where the loop does not end. -/
def axienetTadmaProbe (dev : EndpointNode) : Option (Except ProbeErrno ProbedTadma) :=
  let numTc := dev.numTc.getD xaeMaxTsnTc
  match dev.connectedTx (Int.ofNat numTc.toNat - 1) with
  | none => some (.error .enodev)
  | some np =>
      if !np.address then some (.error .enodev)
      else
        let numStreams := np.numStreams.getD 8
        (scanHashBits numStreams 32 0).map fun count =>
          .ok {
            tadmaIrq := np.irq
            numTadmaBuffers := np.numBuffersPerStream.getD 64
            numStreams
            numEntries := np.numFetchEntries.getD 8
            tadmaHashBits := BitVec.ofNat 8 count
          }

/-- Which allocations of `tadma_sfm_hash_init` the kernel has memory for. -/
structure HashMemory where
  cb : Bool
  streamHash : Bool
  deriving DecidableEq, Repr

/-- `sizeof(struct hlist_head *)`. -/
def hlistHeadSize : Nat := 8

/-- The buckets that `tadma_sfm_hash_init` leaves behind. `kcalloc` fails where the size, which the
`int` becomes on its way, overflows.
-/
def ProbedTadma.buckets (probed : ProbedTadma) (memory : HashMemory) : Nat :=
  let count := (probed.numEntries.signExtend 64).toNat
  if memory.cb && count * hlistHeadSize < 2 ^ 64 && memory.streamHash then count else 0

/-- The driver runs on the values that have been probed. -/
structure ProbedTadma.Local (probed : ProbedTadma) (lp : TadmaLocal) : Prop where
  numStreams : probed.numStreams.toNat = lp.numStreams
  numEntries : probed.numEntries.toNat = lp.numEntries
  hashBits : probed.tadmaHashBits.toNat = lp.hashBits

/-- The index of every tag is that of a bucket. -/
def IndexesAllocated (probed : ProbedTadma) (memory : HashMemory) : Prop :=
  ∀ tag, (tadmaHashtagHash probed.tadmaHashBits.toNat tag).toNat < probed.buckets memory

/-- In each run of requests no index is outside the table, whatever state the run gets to is emptied
by a flush, and a program visits every entry of it.
-/
def AllBucketsServed (lp : TadmaLocal) : Prop :=
  ∀ st ops, ∃ s, run (faulting (tadmaStep lp)) (some (openStreamTable st)) ops = some s
    ∧ (∀ i, (axienetTadmaFlushStream lp s).streamHash i = [])
    ∧ ∀ i, ∀ e ∈ s.streamHash i, e ∈ s.entries lp

/-- Every bucket that is used is allocated, flushed and programmed. -/
def BucketsServed (probed : ProbedTadma) (memory : HashMemory) : Prop :=
  IndexesAllocated probed memory ∧ ∃ lp, probed.Local lp ∧ AllBucketsServed lp

/-- There are as many fetch entries as streams, and memory for the buckets. -/
structure EnoughBuckets (probed : ProbedTadma) (memory : HashMemory) : Prop where
  cb : memory.cb = true
  streamHash : memory.streamHash = true
  entries : probed.numStreams.toInt ≤ probed.numEntries.toInt

variable {probed : ProbedTadma} {memory : HashMemory} {lp : TadmaLocal}

/-- The bit that the loop looks at. -/
theorem low_bit_eq_zero {x : U32} {count : Nat} (bound : count < 32)
    : x.sshiftRight count &&& 1 = 0 ↔ x.toNat.testBit count = false := by
  have bit : (x.sshiftRight count).getLsbD 0 = x.toNat.testBit count := by
    rw [BitVec.getLsbD_sshiftRight, ← BitVec.testBit_toNat]
    simp [bound]
  rw [← bit]
  constructor
  · intro zero
    have first := congrArg (BitVec.getLsbD · 0) zero
    simpa using first
  · intro clear
    apply BitVec.eq_of_getLsbD_eq
    intro i _
    by_cases first : i = 0
    · subst first
      rw [BitVec.getLsbD_and, clear, Bool.false_and]
      rfl
    · simp [first]

/-- The loop ends at the lowest bit that is set. By induction on what is left of the word. -/
theorem scanHashBits_eq {x : U32} {low : Nat} (set : x.toNat.testBit low = true)
    (clear : ∀ bit < low, x.toNat.testBit bit = false) {fuel count : Nat}
    (before : count ≤ low) (within : low < count + fuel) (word : count + fuel ≤ 32)
    : scanHashBits x fuel count = some low := by
  induction fuel generalizing count with
  | zero => omega
  | succ fuel ih =>
      rw [scanHashBits]
      by_cases reached : count = low
      · subst reached
        rw [if_neg]
        rw [low_bit_eq_zero (by omega), set]
        decide
      · rw [if_pos ((low_bit_eq_zero (by omega)).mpr (clear count (by omega)))]
        exact ih (by omega) (by omega) (by omega)

/-- A power of two has one bit. -/
theorem scanHashBits_two_pow {x : U32} {k : Nat} (power : x.toNat = 2 ^ k)
    : scanHashBits x 32 0 = some k := by
  have bound : 2 ^ k < 2 ^ 32 := power ▸ x.isLt
  have word : k < 32 := (Nat.pow_lt_pow_iff_right Nat.one_lt_two).mp bound
  refine scanHashBits_eq ?_ ?_ (Nat.zero_le k) (by omega) (Nat.le_refl _)
  · rw [power, Nat.testBit_two_pow_self]
  · intro bit below
    rw [power]
    exact Nat.testBit_two_pow_of_ne (by omega)

/-- What an accepted device tree leaves in the driver's data. -/
theorem probe_cases {dev : EndpointNode} (accepted : axienetTadmaProbe dev = some (.ok probed))
    : ∃ count, scanHashBits probed.numStreams 32 0 = some count
        ∧ probed.tadmaHashBits = BitVec.ofNat 8 count := by
  simp only [axienetTadmaProbe] at accepted
  split at accepted
  · cases accepted
  · split at accepted
    · cases accepted
    · obtain ⟨count, scan, same⟩ := Option.map_eq_some_iff.mp accepted
      cases same
      exact ⟨count, scan, rfl⟩

/-- Where the number of streams is a power of two, it gives the width of the hash. -/
theorem probe_hashBits {dev : EndpointNode} (accepted : axienetTadmaProbe dev = some (.ok probed))
    {k : Nat} (power : probed.numStreams.toNat = 2 ^ k)
    : probed.tadmaHashBits.toNat = k := by
  obtain ⟨count, scan, bits⟩ := probe_cases accepted
  rw [scanHashBits_two_pow power] at scan
  obtain rfl := Option.some.inj scan
  have bound : 2 ^ k < 2 ^ 32 := power ▸ probed.numStreams.isLt
  have word : k < 32 := (Nat.pow_lt_pow_iff_right Nat.one_lt_two).mp bound
  rw [bits, BitVec.toNat_ofNat, Nat.mod_eq_of_lt (by omega)]

/-- A hash has no more bits than are asked for. -/
theorem hash64_lt (value : BitVec 64) (bits : Nat) (word : bits ≤ 32)
    : (hash64 value bits).toNat < 2 ^ bits := by
  have product : (value * goldenRatio64).toNat < 2 ^ bits * 2 ^ (64 - bits) := by
    rw [← Nat.pow_add, Nat.add_sub_cancel' (by omega)]
    exact (value * goldenRatio64).isLt
  rw [hash64, BitVec.toNat_setWidth, BitVec.toNat_ushiftRight, Nat.shiftRight_eq_div_pow]
  exact Nat.lt_of_le_of_lt (Nat.mod_le _ _) (Nat.div_lt_of_lt_mul (by rwa [Nat.mul_comm]))

/-- A tag that the golden ratio multiplies to a word of ones. -/
def lastTag : HashTag := #v[0x3d, 0x73, 0x37, 0x99, 0xe1, 0x83, 0xde, 0xf1]

/-- The last index of every width is that of a tag. -/
theorem lastTag_hash (bits : Nat) (width : bits ≤ 32)
    : (tadmaHashtagHash bits lastTag).toNat = 2 ^ bits - 1 := by
  have ones : getUnaligned64 lastTag * goldenRatio64 = BitVec.allOnes 64 := by decide
  rw [tadmaHashtagHash, hash64, ones]
  interval_cases bits <;> rfl

/-- As many buckets as entries, if that is no negative number and there is memory for them. -/
theorem buckets_eq (probed : ProbedTadma) (memory : HashMemory)
    : probed.buckets memory
      = if memory.cb = true ∧ memory.streamHash = true ∧ 0 ≤ probed.numEntries.toInt
        then probed.numEntries.toNat else 0 := by
  have extended : (probed.numEntries.signExtend 64).toNat
      = probed.numEntries.toNat
        + if probed.numEntries.toInt < 0 then 2 ^ 64 - 2 ^ 32 else 0 := by
    rw [BitVec.toNat_signExtend, BitVec.toNat_setWidth_of_le (by decide), BitVec.msb_eq_toInt]
    simp only [decide_eq_true_eq]
  have value := BitVec.toInt_eq_toNat_cond probed.numEntries
  have bound := probed.numEntries.isLt
  rw [ProbedTadma.buckets, hlistHeadSize, extended]
  by_cases negative : probed.numEntries.toInt < 0
  · have huge : ¬ (probed.numEntries.toNat + (2 ^ 64 - 2 ^ 32)) * 8 < 2 ^ 64 := by omega
    rw [if_pos negative, decide_eq_false huge, Bool.and_false, Bool.false_and, if_neg (by simp),
      if_neg (fun enough => absurd enough.2.2 (Int.not_le.mpr negative))]
  · have fits : probed.numEntries.toNat * 8 < 2 ^ 64 := by omega
    have positive := Int.not_lt.mp negative
    rw [if_neg negative, Nat.add_zero, decide_eq_true fits, Bool.and_true]
    simp [positive]

/-- With enough buckets there is one for every index, and only with enough. -/
theorem indexesAllocated_iff (memory : HashMemory) {k : Nat}
    (power : probed.numStreams.toNat = 2 ^ k) (bits : probed.tadmaHashBits.toNat = k)
    (small : k ≤ 7)
    : IndexesAllocated probed memory ↔ EnoughBuckets probed memory := by
  have most : 2 ^ k ≤ 2 ^ 7 := Nat.pow_le_pow_right (by decide) small
  have streams : probed.numStreams.toInt = (2 ^ k : Nat) := by
    rw [BitVec.toInt_eq_toNat_of_lt (by omega), power]
  have positive : 0 < 2 ^ k := Nat.two_pow_pos k
  rw [IndexesAllocated, buckets_eq, bits]
  constructor
  · intro all
    -- the tag with the last index of all needs as many entries as there are indexes
    have last := all lastTag
    rw [lastTag_hash k (by omega)] at last
    split at last
    · rename_i enough
      obtain ⟨cb, streamHash, entries⟩ := enough
      refine ⟨cb, streamHash, ?_⟩
      have value := BitVec.toInt_eq_toNat_cond probed.numEntries
      rw [streams]
      split at value <;> omega
    · omega
  · rintro ⟨cb, streamHash, entries⟩ tag
    have index := hash64_lt (getUnaligned64 tag) k (by omega)
    have value := BitVec.toInt_eq_toNat_cond probed.numEntries
    rw [streams] at entries
    rw [if_pos ⟨cb, streamHash, by omega⟩, tadmaHashtagHash]
    split at value <;> omega

/-- Every tag has a bucket where its index is below their number. -/
theorem tadmaBucket_some (width : lp.hashBits ≠ 0)
    (index : ∀ tag, (tadmaHashtagHash lp.hashBits tag).toNat < lp.numEntries) (tag : HashTag)
    : ∃ i, tadmaBucket lp tag = some i :=
  ⟨_, if_pos ⟨width, index tag⟩⟩

/-- A request is answered where every tag has a bucket. -/
theorem tadmaIoctl_answers (bucket : ∀ tag, ∃ i, tadmaBucket lp tag = some i) (st : TadmaState)
    (op : TadmaIoctl)
    : ∃ out, tadmaIoctl lp st op = some out := by
  cases op with
  | strAdd request =>
      suffices ∃ entry, newStreamEntry lp st request = some entry by
        obtain ⟨entry, answered⟩ := this
        exact ⟨_, congrArg (Option.map _) answered⟩
      unfold newStreamEntry
      split
      · exact ⟨_, rfl⟩
      · rename_i stream copied
        split
        · exact ⟨_, rfl⟩
        · obtain ⟨i, place⟩ := bucket stream.key.hashTag
          exact ⟨_, congrArg (Option.map _) place⟩
  | progAll => exact ⟨_, rfl⟩
  | strFlush => exact ⟨_, rfl⟩
  | off => exact ⟨_, rfl⟩

/-- Where every tag has a chain, a run of requests is answered. By induction on the run. -/
theorem tadma_run_answers (bucket : ∀ tag, ∃ i, tadmaBucket lp tag = some i) (st : TadmaState)
    (ops : List TadmaIoctl)
    : ∃ s, run (faulting (tadmaStep lp)) (some st) ops = some s := by
  induction ops generalizing st with
  | nil => exact ⟨st, rfl⟩
  | cons op rest ih =>
      obtain ⟨out, answered⟩ := tadmaIoctl_answers bucket st op
      have step : tadmaStep lp st op = some out.2 := congrArg (Option.map Prod.snd) answered
      rw [run_cons, faulting, Option.bind_some, step]
      exact ih out.2

/-- Where each tag has a bucket, the entries of every table are in the buckets that are served. -/
theorem allBucketsServed (bucket : ∀ tag, ∃ i, tadmaBucket lp tag = some i)
    : AllBucketsServed lp := by
  intro st ops
  obtain ⟨s, reached⟩ := tadma_run_answers bucket (openStreamTable st) ops
  have keeps : ∀ state op next, Consistent lp state → tadmaStep lp state op = some next
      → Consistent lp next := by
    intro state op next inv step
    obtain ⟨⟨result, after⟩, done, rfl⟩ := Option.map_eq_some_iff.mp step
    exact tadmaIoctl_consistent inv done
  have inv : Consistent lp s := faulting_reaches keeps (Consistent.empty fun _ => rfl) reached
  exact ⟨s, reached, flush_empty inv.chained,
    fun i e member => inv.chained.mem_entries.mpr ⟨i, member⟩⟩

/-- The values of an accepted device tree are values of the driver, if its numbers are not negative.
-/
theorem probed_local {k : Nat} (power : probed.numStreams.toNat = 2 ^ k)
    (bits : probed.tadmaHashBits.toNat = k) (small : k ≤ 7)
    (entries : probed.numEntries.toNat < 2 ^ 31)
    : ∃ lp, probed.Local lp := by
  have most : 2 ^ k ≤ 2 ^ 7 := Nat.pow_le_pow_right (by decide) small
  have lowest : probed.numStreams.toNat.testBit k = true
      ∧ ∀ bit < k, probed.numStreams.toNat.testBit bit = false := by
    rw [power]
    exact ⟨Nat.testBit_two_pow_self, fun bit below => Nat.testBit_two_pow_of_ne (by omega)⟩
  exact ⟨⟨probed.numStreams.toNat, probed.numEntries.toNat, k, by omega, entries, lowest⟩,
    rfl, rfl, bits⟩

/-- On every device tree that is accepted with a power of two, from 2 to 128, as its number of
streams, every bucket that is used is allocated, flushed and programmed exactly if there are at
least as many fetch entries as streams and the kernel has memory for the table.
-/
theorem buckets_served (dev : EndpointNode)
    (accepted : axienetTadmaProbe dev = some (.ok probed))
    (power : ∃ k, probed.numStreams.toNat = 2 ^ k) (least : 2 ≤ probed.numStreams.toNat)
    (most : probed.numStreams.toNat ≤ tadmaMaxNoStream) (memory : HashMemory)
    : BucketsServed probed memory ↔ EnoughBuckets probed memory := by
  obtain ⟨k, power⟩ := power
  have bound : probed.numStreams.toNat ≤ 2 ^ 7 := most
  have small : k ≤ 7 := (Nat.pow_le_pow_iff_right Nat.one_lt_two).mp (power ▸ bound)
  have wide : k ≠ 0 := by
    rintro rfl
    omega
  have bits := probe_hashBits accepted power
  have indexes := indexesAllocated_iff memory power bits small
  constructor
  · exact fun served => indexes.mp served.1
  · intro enough
    have allocated := indexes.mpr enough
    have value := BitVec.toInt_eq_toNat_cond probed.numEntries
    have entries : probed.numEntries.toNat < 2 ^ 31 ∧ 0 ≤ probed.numEntries.toInt := by
      have streams : probed.numStreams.toInt = probed.numStreams.toNat :=
        BitVec.toInt_eq_toNat_of_lt (by omega)
      have := enough.entries
      split at value <;> omega
    have count : probed.buckets memory = probed.numEntries.toNat := by
      rw [buckets_eq, if_pos ⟨enough.cb, enough.streamHash, entries.2⟩]
    obtain ⟨lp, values⟩ := probed_local power bits small entries.1
    refine ⟨allocated, lp, values, allBucketsServed (tadmaBucket_some ?_ ?_)⟩
    · rw [← values.hashBits, bits]
      exact wide
    · intro tag
      rw [← values.hashBits, ← values.numEntries, ← count]
      exact allocated tag

/-- A device tree with eight streams and `entries` fetch entries. -/
def eightStreams (entries : U32) : EndpointNode where
  numTc := none
  connectedTx := fun _ => some ⟨true, 1, none, some 8, some entries⟩

/-- What is set for it. -/
def eightProbed (entries : U32) : ProbedTadma := ⟨1, 64, 8, entries, 3⟩

theorem buckets_served_eight
    : BucketsServed (eightProbed 8) ⟨true, true⟩ ↔ EnoughBuckets (eightProbed 8) ⟨true, true⟩ :=
  buckets_served (eightStreams 8) rfl ⟨3, rfl⟩ (by decide) (by decide) ⟨true, true⟩

/-- With half as many entries, the last index is outside the table. -/
theorem buckets_short
    : axienetTadmaProbe (eightStreams 4) = some (.ok (eightProbed 4))
      ∧ (eightProbed 4).buckets ⟨true, true⟩ = 4
      ∧ (tadmaHashtagHash (eightProbed 4).tadmaHashBits.toNat lastTag).toNat = 7
      ∧ ¬ BucketsServed (eightProbed 4) ⟨true, true⟩ := by
  have index : (tadmaHashtagHash (eightProbed 4).tadmaHashBits.toNat lastTag).toNat = 7 :=
    lastTag_hash 3 (by decide)
  have count : (eightProbed 4).buckets ⟨true, true⟩ = 4 := by decide
  refine ⟨rfl, count, index, ?_⟩
  rintro ⟨allocated, -⟩
  have last := allocated lastTag
  omega

end TsnTrdp.Tadma
