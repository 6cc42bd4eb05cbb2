import TsnTrdp.Trdp.Receive
import TsnTrdp.Trdp.Withdraw

/-! Copies to the frame of an element. The code compares no size with that of the frame, so that
what is put, or what the statistics are, may run over it. Where nothing does, the frame keeps the
length that it was allocated with.
-/

namespace TsnTrdp.Trdp

open TsnTrdp.Queue

/-- `trdp_pdPut`: the bytes that it copies to the frame of the element. -/
def putCopies (marshall : Option TrdpMarshall) (bytes : List U8) (dataSize : U32) (ele : PdEle)
    : List U8 :=
  match (if Has ele.pktFlags trdpFlagsMarshall then marshall else none) with
  | none => if trdpMaxPdDataSize < dataSize.toNat then [] else bytes.take dataSize.toNat
  | some marshall => (marshall ele.addr.comId (bytes.take dataSize.toNat)).2.1

/-- A put copies no more than the frame has room for. First data get a frame of their own size, and
are not copied without one.
-/
def PutWithin (marshall : Option TrdpMarshall) (alloc : Bool) (pData : Option (List U8))
    (dataSize : U32) (ele : PdEle)
    : Prop :=
  dataSize ≠ 0
  → (ele.dataSize = 0 → alloc = true)
  → ∀ bytes ∈ pData,
      (putCopies marshall bytes dataSize ele).length
        ≤ (pdEnlarge alloc dataSize ele).2.pFrame.data.length

instance (marshall : Option TrdpMarshall) (alloc : Bool) (pData : Option (List U8)) (dataSize : U32)
    (ele : PdEle)
    : Decidable (PutWithin marshall alloc pData dataSize ele) :=
  inferInstanceAs (Decidable (_ → _ → ∀ bytes ∈ pData, _))

/-- `tlp_put` copies within the frame of its publisher. -/
def TlpPutWithin (handle : Nat) (alloc : Bool) (pData : Option (List U8)) (dataSize : U32)
    (session : TrdpSession)
    : Prop :=
  ∀ ele ∈ session.pSndQueue.find? (PdEle.isAt handle),
    PutWithin session.marshall alloc pData dataSize ele

instance (handle : Nat) (alloc : Bool) (pData : Option (List U8)) (dataSize : U32)
    (session : TrdpSession)
    : Decidable (TlpPutWithin handle alloc pData dataSize session) :=
  inferInstanceAs (Decidable (∀ ele ∈ session.pSndQueue.find? _, _))

/-- `tlp_publish` copies the first data within the frame that it has allocated for them. -/
def TlpPublishWithin (env : PublishEnv) (args : PublishArgs) (session : TrdpSession) : Prop :=
  PublishAsks env args session
  → env.allocFrame = true
  → ∀ socketIdx ∈ env.socket.toOption,
      PutWithin session.marshall env.allocLate args.pData args.dataSize
        (newPublisher env args session socketIdx)

instance (env : PublishEnv) (args : PublishArgs) (session : TrdpSession)
    : Decidable (TlpPublishWithin env args session) :=
  inferInstanceAs (Decidable (_ → _ → ∀ socketIdx ∈ env.socket.toOption, _))

/-- `tlp_request` copies the data within the frame that it has allocated for them. -/
def TlpRequestWithin (env : PublishEnv) (args : RequestArgs) (session : TrdpSession) : Prop :=
  ¬ (args.comId = 0 ∧ args.replyComId = 0 ∨ args.destIpAddr = 0)
  → env.allocEle = true
  → env.allocFrame = true
  → ∀ sub ∈ session.pRcvQueue.find? (PdEle.isAt args.subHandle),
      ∀ socketIdx ∈ env.socket.toOption,
        PutWithin session.marshall env.allocLate args.pData args.dataSize
          (newRequest env args session sub socketIdx)

instance (env : PublishEnv) (args : RequestArgs) (session : TrdpSession)
    : Decidable (TlpRequestWithin env args session) :=
  inferInstanceAs (Decidable (_ → _ → _ → ∀ sub ∈ session.pRcvQueue.find? _,
    ∀ socketIdx ∈ env.socket.toOption, _))

/-- A request for the statistics writes them within the frame of their publisher. -/
def PullWithin (statistics : List U8) (head : PdHeader) (session : TrdpSession) : Prop :=
  head.comId = trdpStatisticsPullComid
  → ∀ ele ∈ trdpQueueFindComId session.pSndQueue head.pulledComId,
      statistics.length ≤ ele.pFrame.data.length

instance (statistics : List U8) (head : PdHeader) (session : TrdpSession)
    : Decidable (PullWithin statistics head session) :=
  inferInstanceAs (Decidable (_ → ∀ ele ∈ trdpQueueFindComId session.pSndQueue _, _))

variable {marshall : Option TrdpMarshall} {alloc : Bool} {pData : Option (List U8)} {dataSize : U32}
  {ele : PdEle}

/-- A put of later data is within the frame exactly if the frame keeps its length. -/
theorem putWithin_iff (later : ele.dataSize ≠ 0)
    : PutWithin marshall alloc pData dataSize ele
      ↔ (trdpPdPut marshall alloc pData dataSize ele).2.pFrame.data.length
        = ele.pFrame.data.length := by
  have enlarged : pdEnlarge alloc dataSize ele = (true, ele) := if_neg later
  have unempty : ¬ (ele.dataSize = 0 ∧ dataSize = 0) := fun both => later both.1
  unfold PutWithin trdpPdPut
  rw [if_neg unempty, enlarged]
  cases pData with
  | none => simp
  | some bytes =>
      by_cases sized : dataSize = 0
      · simp [sized]
      simp only [sized, if_false, ne_eq, not_false_eq_true, later, false_implies, forall_const,
        Option.mem_def, Option.some.injEq, forall_eq', putCopies]
      cases used : (if Has ele.pktFlags trdpFlagsMarshall then marshall else none) with
      | none =>
          by_cases large : trdpMaxPdDataSize < dataSize.toNat
          · simp [large]
          · simp only [large, if_false, PdEle.setValid, length_memcpy]
            omega
      | some marshaller =>
          dsimp only
          generalize marshaller ele.addr.comId (bytes.take dataSize.toNat) = result
          obtain ⟨err, written, size⟩ := result
          have copied : written.length ≤ ele.pFrame.data.length
              ↔ (memcpy ele.pFrame.data written).length = ele.pFrame.data.length := by
            rw [length_memcpy]
            omega
          dsimp only
          rw [copied]
          repeat' split
          all_goals exact Iff.rfl

/-- The statistics are within the frame exactly if the frame keeps its length. -/
theorem length_pdPrepareStats_iff (etbTopoCnt opTrnTopoCnt : U32) (statistics : List U8)
    (head : PdHeader)
    : statistics.length ≤ ele.pFrame.data.length
      ↔ (pdPrepareStats etbTopoCnt opTrnTopoCnt statistics head ele).pFrame.data.length
        = ele.pFrame.data.length := by
  have data : (pdPrepareStats etbTopoCnt opTrnTopoCnt statistics head ele).pFrame.data
      = memcpy ele.pFrame.data statistics := rfl
  rw [data, length_memcpy]
  omega

end TsnTrdp.Trdp
