import TsnTrdp.Tadma.Classification

/-! The add-stream request of the TRDP application. `tadma_conf.h` declares its own structure
for it, with one byte for the count, and takes the address in host order; the driver
copies a longer structure, with four bytes for the count, and takes network order.
-/

namespace TsnTrdp.Config

open TsnTrdp Tadma

/-- `tadma_stream` of `tadma_conf.h`. -/
structure ConfStream where
  dstIp : U32
  comId : U32
  trigger : U32
  count : Byte
  start : Byte
  deriving DecidableEq, Repr

/-- The structure that `tadma_streamAdd` fills in. -/
def tadmaStreamAdd (dstIp comId trigger : U32) (count start : Byte) : ConfStream where
  dstIp := dstIp
  comId := comId
  trigger := trigger
  count := count
  start := start

/-- Byte `i` of a little-endian word. -/
def byteOf (x : U32) (i : Nat) : Byte := x.extractLsb' (8 * i) 8

/-- How many bytes beyond the structure the driver copies. -/
abbrev copiedBeyond : Nat := 4

/-- The caller's memory from the structure on: its fields, two bytes of padding, and what
follows it.
-/
def ConfStream.memory (stream : ConfStream) (pad : Vector Byte 2)
    (after : Vector Byte copiedBeyond)
    : Vector Byte 20 :=
  #v[byteOf stream.dstIp 0, byteOf stream.dstIp 1, byteOf stream.dstIp 2, byteOf stream.dstIp 3,
    byteOf stream.comId 0, byteOf stream.comId 1, byteOf stream.comId 2, byteOf stream.comId 3,
    byteOf stream.trigger 0, byteOf stream.trigger 1, byteOf stream.trigger 2,
    byteOf stream.trigger 3,
    stream.count, stream.start, pad[0], pad[1],
    after[0], after[1], after[2], after[3]]

/-- The driver's `copy_from_user` of a `struct tadma_stream`. -/
def copyStream (mem : Vector Byte 20) : TadmaStream where
  ip := #v[mem[0], mem[1], mem[2], mem[3]]
  comid := load32 #v[mem[4], mem[5], mem[6], mem[7]]
  trigger := load32 #v[mem[8], mem[9], mem[10], mem[11]]
  count := load32 #v[mem[12], mem[13], mem[14], mem[15]]
  start := mem[16]

/-- The bytes of a host-order word in network order. -/
def networkBytes (x : U32) : Vector Byte 4 := #v[byteOf x 3, byteOf x 2, byteOf x 1, byteOf x 0]

/-- A packet to an address and communication id given in host order. -/
def packetTo (dstIp comId : U32) : TrdpPacket := ⟨networkBytes dstIp, networkBytes comId⟩

/-- What is asked of the request that the driver sees: the fields that the application
gave, and the pair of the packets to that address and communication id.
-/
structure RequestAgrees (request : TadmaStream) (dstIp comId trigger : U32) (count start : Byte)
    : Prop where
  ip : request.ip = networkBytes dstIp
  comid : request.comid = comId
  trigger : request.trigger = trigger
  count : request.count = count.setWidth 32
  start : request.start ≠ 0 ↔ start ≠ 0
  packets : request.key = (packetTo dstIp comId).key

/-- The address reads the same in both byte orders. -/
def Palindrome (x : U32) : Prop := byteOf x 0 = byteOf x 3 ∧ byteOf x 1 = byteOf x 2

instance (x : U32) : Decidable (Palindrome x) := inferInstanceAs (Decidable (_ ∧ _))

theorem load32_bytes (x : U32)
    : load32 #v[byteOf x 0, byteOf x 1, byteOf x 2, byteOf x 3] = x := by
  have joined : ∀ low high : Nat, x.extractLsb' (8 * low + 8) high ++ byteOf x low
      = x.extractLsb' (8 * low) (high + 8) := fun _ _ =>
    BitVec.extractLsb'_append_extractLsb'_eq_extractLsb' rfl
  calc load32 #v[byteOf x 0, byteOf x 1, byteOf x 2, byteOf x 3]
      = x.extractLsb' 24 8 ++ byteOf x 2 ++ byteOf x 1 ++ byteOf x 0 := rfl
    _ = x.extractLsb' 0 32 := by rw [joined 2, joined 1, joined 0]
    _ = x := BitVec.extractLsb'_eq_self

theorem packetTo_comId (dstIp comId : U32) : (packetTo dstIp comId).key.comId = comId :=
  load32_bytes comId

/-- A loaded byte is the low byte of its word, and the only one exactly when the other bytes
are zero.
-/
theorem load32_low {b0 b1 b2 b3 : Byte}
    : load32 #v[b0, b1, b2, b3] = b0.setWidth 32 ↔ b1 = 0 ∧ b2 = 0 ∧ b3 = 0 := by
  have widened : b0.setWidth 32 = (0 : Byte) ++ (0 : Byte) ++ (0 : Byte) ++ b0 := by
    rw [BitVec.setWidth_eq_append (by decide)]
    rfl
  change b3 ++ b2 ++ b1 ++ b0 = b0.setWidth 32 ↔ _
  rw [widened, append_inj, append_inj, append_inj]
  constructor
  · rintro ⟨⟨⟨three, two⟩, one⟩, -⟩
    exact ⟨one, two, three⟩
  · rintro ⟨one, two, three⟩
    exact ⟨⟨⟨three, two⟩, one⟩, rfl⟩

variable {dstIp comId trigger : U32} {count start : Byte} {pad : Vector Byte 2}
  {after : Vector Byte copiedBeyond}

/-- The request as the driver sees it, field by field. -/
theorem copied_comid
    : (copyStream ((tadmaStreamAdd dstIp comId trigger count start).memory pad after)).comid
      = comId :=
  load32_bytes comId

theorem copied_trigger
    : (copyStream ((tadmaStreamAdd dstIp comId trigger count start).memory pad after)).trigger
      = trigger :=
  load32_bytes trigger

theorem copied_ip
    : (copyStream ((tadmaStreamAdd dstIp comId trigger count start).memory pad after)).ip
        = networkBytes dstIp
      ↔ Palindrome dstIp := by
  have bytes : #v[byteOf dstIp 0, byteOf dstIp 1, byteOf dstIp 2, byteOf dstIp 3]
        = networkBytes dstIp
      ↔ Palindrome dstIp := by
    simp only [networkBytes, Vector.mk_eq, Array.mk.injEq, List.cons.injEq, and_true, Palindrome]
    constructor
    · rintro ⟨outer, inner, -, -⟩
      exact ⟨outer, inner⟩
    · rintro ⟨outer, inner⟩
      exact ⟨outer, inner, inner.symm, outer.symm⟩
  exact bytes

theorem copied_count
    : (copyStream ((tadmaStreamAdd dstIp comId trigger count start).memory pad after)).count
        = count.setWidth 32
      ↔ start = 0 ∧ pad[0] = 0 ∧ pad[1] = 0 :=
  load32_low

/-- The driver sees the request that the application made exactly when the start flag is
off, the padding and the byte after the structure are zero, and the address reads the same
in both byte orders. Witness: the fields of the copied structure one by one.
-/
theorem request_agrees
    : RequestAgrees (copyStream ((tadmaStreamAdd dstIp comId trigger count start).memory pad after))
        dstIp comId trigger count start
      ↔ start = 0 ∧ pad[0] = 0 ∧ pad[1] = 0 ∧ after[0] = 0 ∧ Palindrome dstIp := by
  have flag : (copyStream
      ((tadmaStreamAdd dstIp comId trigger count start).memory pad after)).start = after[0] := rfl
  constructor
  · intro agrees
    obtain ⟨off, low, high⟩ := copied_count.mp agrees.count
    have unset := agrees.start
    rw [flag, off] at unset
    exact ⟨off, low, high, by simpa using unset, copied_ip.mp agrees.ip⟩
  · rintro ⟨off, low, high, next, palindrome⟩
    exact {
      ip := copied_ip.mpr palindrome
      comid := copied_comid
      trigger := copied_trigger
      count := copied_count.mpr ⟨off, low, high⟩
      start := by rw [flag, next, off]
      packets := StreamKey.ext (copied_ip.mpr palindrome)
        (copied_comid.trans (packetTo_comId dstIp comId).symm) }

/-- The first stream of the application: 239.0.0.1, one frame, with the start flag. The
driver sees the address reversed and a count of at least 257, which it rejects.
-/
theorem request_differs
    : ¬ RequestAgrees
          (copyStream ((tadmaStreamAdd 0xEF000001 1000 50000 1 1).memory #v[0, 0] #v[0, 0, 0, 0]))
          0xEF000001 1000 50000 1 1
      ∧ axienetTadmaAddStream defaultLocal .loaded
          (.of (copyStream
            ((tadmaStreamAdd 0xEF000001 1000 50000 1 1).memory #v[0, 0] #v[0, 0, 0, 0])))
        = some (.error .einval, .loaded) := by
  refine ⟨?_, rfl⟩
  intro agrees
  exact absurd agrees.count (by decide)

end TsnTrdp.Config
