import TsnTrdp.Trdp.Network

/-! Why what a device delivers was given: the frames of the publishers hold what was put, the datagrams
hold what the frames held, and the subscriptions what the datagrams brought.
-/

namespace TsnTrdp.Trdp

open TsnTrdp.Queue TsnTrdp.Run TsnTrdp.Provenance

variable {given more : List (U32 × List U8)} {ele ele' : PdEle} {session : TrdpSession}

-----------------------------------------------------------------------------------------
-- Publishers
-----------------------------------------------------------------------------------------

/-- An element whose header, sizes and frame belong together. -/
structure PdEle.Framed (ele : PdEle) : Prop where
  datasetLength : ele.pFrame.frameHead.datasetLength = ele.dataSize
  grossSize : ele.grossSize = trdpPacketSizePd ele.dataSize
  length : ele.pFrame.data.length = ele.grossSize.toNat - trdpMinPdHeaderSize

/-- Its data were given, if they are valid and a telegram can have their size. -/
def PdEle.Carrying (given : List (U32 × List U8)) (ele : PdEle) : Prop :=
  ¬ Has ele.privFlags trdpInvalidData
  → ele.dataSize.toNat ≤ trdpMaxPdDataSize
  → (ele.addr.comId, ele.pFrame.data.take ele.dataSize.toNat) ∈ given

/-- An element that sends what was given, unless it sends the statistics. -/
structure PdEle.Sends (given : List (U32 × List U8)) (ele : PdEle) : Prop where
  comId : ele.pFrame.frameHead.comId = ele.addr.comId
  framed : ele.addr.comId ≠ trdpGlobalStatisticsComid → ele.Framed
  carrying : ele.addr.comId ≠ trdpGlobalStatisticsComid → ele.Carrying given

/-- What matters to it stays. -/
structure SameFrame (ele ele' : PdEle) : Prop where
  comId : ele'.addr.comId = ele.addr.comId
  headComId : ele'.pFrame.frameHead.comId = ele.pFrame.frameHead.comId
  datasetLength : ele'.pFrame.frameHead.datasetLength = ele.pFrame.frameHead.datasetLength
  dataSize : ele'.dataSize = ele.dataSize
  grossSize : ele'.grossSize = ele.grossSize
  data : ele'.pFrame.data = ele.pFrame.data
  valid : Has ele'.privFlags trdpInvalidData ↔ Has ele.privFlags trdpInvalidData

theorem SameFrame.refl (ele : PdEle) : SameFrame ele ele :=
  ⟨rfl, rfl, rfl, rfl, rfl, rfl, Iff.rfl⟩

theorem SameFrame.trans {a b c : PdEle} (first : SameFrame a b) (second : SameFrame b c)
    : SameFrame a c where
  comId := second.comId.trans first.comId
  headComId := second.headComId.trans first.headComId
  datasetLength := second.datasetLength.trans first.datasetLength
  dataSize := second.dataSize.trans first.dataSize
  grossSize := second.grossSize.trans first.grossSize
  data := second.data.trans first.data
  valid := second.valid.trans first.valid

theorem SameFrame.sends (same : SameFrame ele ele') (sends : ele.Sends given) : ele'.Sends given where
  comId := by rw [same.headComId, same.comId, sends.comId]
  framed other := by
    rw [same.comId] at other
    obtain ⟨datasetLength, grossSize, length⟩ := sends.framed other
    exact ⟨by rw [same.datasetLength, same.dataSize, datasetLength],
      by rw [same.grossSize, same.dataSize, grossSize], by rw [same.data, same.grossSize, length]⟩
  carrying other valid small := by
    rw [same.comId] at other
    rw [same.dataSize] at small
    rw [same.comId, same.data, same.dataSize]
    exact sends.carrying other (mt same.valid.mpr valid) small

theorem PdEle.Sends.mono (sends : ele.Sends given) (grows : given ⊆ more) : ele.Sends more where
  comId := sends.comId
  framed := sends.framed
  carrying other valid small := grows (sends.carrying other valid small)

-----------------------------------------------------------------------------------------
-- Puts
-----------------------------------------------------------------------------------------

variable {put : Put} {bytes : List U8}

/-- The data of a put fit the frame. -/
def Put.Fits (put : Put) (ele : PdEle) : Prop :=
  put.dataSize = ele.dataSize ∨ ele.dataSize = 0 ∧ put.alloc = true

/-- Data that are copied to a frame of their size, or to one that is made for them. -/
theorem Put.on_fits (some' : put.bytes = some bytes) (plain : put.marshall = none)
    (fits : put.Fits ele)
    : put.on ele
      = if trdpMaxPdDataSize < put.dataSize.toNat then (.paramErr, put.enlarged ele)
        else (.noErr, ((put.enlarged ele).writeData bytes).setValid) := by
  refine Put.on_plain some' ?_ ?_
  · intro first
    rcases fits with same | ⟨-, alloc⟩
    · exact absurd (same.trans first) (Put.bytes_some some').1
    · exact alloc
  · unfold Put.marshalled
    rw [plain, Option.map_none, ite_self]

/-- The frame is then of that size. -/
theorem Put.enlarged_framed (framed : ele.Framed) (fits : put.Fits ele)
    : (put.enlarged ele).Framed ∧ (put.enlarged ele).dataSize = put.dataSize := by
  by_cases first : ele.dataSize = 0
  · rw [put.enlarged_first first]
    exact ⟨⟨rfl, rfl, List.length_replicate⟩, rfl⟩
  · rw [put.enlarged_later first]
    rcases fits with same | ⟨none, -⟩
    · exact ⟨framed, same.symm⟩
    · exact absurd none first

/-- Data of a size that a telegram can have are the start of the frame that they are copied to. -/
theorem take_writeData (framed : ele.Framed) (size : bytes.length = ele.dataSize.toNat)
    (small : ele.dataSize.toNat ≤ trdpMaxPdDataSize)
    : (ele.writeData bytes).Framed
      ∧ (ele.writeData bytes).pFrame.data.take ele.dataSize.toNat = bytes := by
  have gross := trdpPacketSizePd_small small
  have room := framed.length
  rw [framed.grossSize, gross] at room
  have fits : bytes.length ≤ ele.pFrame.data.length := by
    unfold trdpMinPdHeaderSize at room
    omega
  refine ⟨⟨framed.datasetLength, framed.grossSize, ?_⟩, ?_⟩
  · have kept : (memcpy ele.pFrame.data bytes).length = ele.pFrame.data.length := by
      rw [length_memcpy, Nat.max_eq_right fits]
    exact kept.trans framed.length
  · exact List.take_left' size

/-- Copied data leave the frame and its sizes together, and are the data that were given. -/
theorem Put.framed (framed : ele.Framed) (plain : put.marshall = none) (fits : put.Fits ele)
    (some' : put.bytes = some bytes)
    (taken : (put.on ele).1 = .noErr → (ele.addr.comId, bytes) ∈ given)
    : (put.on ele).2.Framed ∧ (put.on ele).2.Carrying given := by
  have result := Put.on_fits some' plain fits
  obtain ⟨enlarged, size⟩ := put.enlarged_framed framed fits
  by_cases large : trdpMaxPdDataSize < put.dataSize.toNat
  · rw [if_pos large] at result
    rw [result]
    refine ⟨enlarged, fun _ small => ?_⟩
    rw [size] at small
    exact absurd small (not_le.mpr large)
  · rw [if_neg large] at result
    rw [result] at taken ⊢
    have length : bytes.length = (put.enlarged ele).dataSize.toNat := by
      rw [size, Put.length_bytes some']
    obtain ⟨written, data⟩ := take_writeData enlarged length (by rw [size]; exact not_lt.mp large)
    refine ⟨⟨written.datasetLength, written.grossSize, written.length⟩, fun _ _ => ?_⟩
    have holds : (ele.addr.comId, ((put.enlarged ele).writeData bytes).pFrame.data.take
        (put.enlarged ele).dataSize.toNat) ∈ given := by
      rw [data]
      exact taken rfl
    rw [← (put.enlarged_keeps ele).2] at holds
    exact holds

/-- Without data a publisher is only set valid, if it has none. -/
theorem Put.on_empty (none' : put.bytes = none)
    : put.on ele = (.noErr, if ele.dataSize = 0 ∧ put.dataSize = 0 then ele.setValid else ele) := by
  unfold Put.on trdpPdPut
  split
  · rfl
  · rcases Put.bytes_none none' with zero | absent
    · cases put.pData with
      | none => rfl
      | some bytes => exact if_pos zero
    · rw [absent]

/-- No put changes the comId. -/
theorem Put.headComId (plain : put.marshall = none) (fits : put.Fits ele)
    : (put.on ele).2.pFrame.frameHead.comId = ele.pFrame.frameHead.comId := by
  cases given : put.bytes with
  | none =>
      rw [Put.on_empty given]
      dsimp only
      split <;> rfl
  | some bytes =>
      have enlarged : (put.enlarged ele).pFrame.frameHead.comId = ele.pFrame.frameHead.comId := by
        by_cases first : ele.dataSize = 0
        · rw [put.enlarged_first first]
          rfl
        · rw [put.enlarged_later first]
      rw [Put.on_fits given plain fits]
      split
      · exact enlarged
      · exact enlarged

theorem givenData_bytes (some' : put.bytes = some bytes)
    : givenData put.pData put.dataSize = some bytes := by
  rw [givenData, if_neg (Put.bytes_some some').1]
  unfold Put.bytes at some'
  rwa [if_neg (Put.bytes_some some').1] at some'

/-- A put leaves an element that sends what was given. -/
theorem Put.sends (put : Put) (sends : ele.Sends given) (plain : put.marshall = none) (fits : put.Fits ele)
    : (put.on ele).2.Sends
        (given ++ takenData (put.on ele).1 ele.addr.comId (givenData put.pData put.dataSize)) := by
  have addr : (put.on ele).2.addr = ele.addr := (trdpPdPut_keeps _ _ _ _ _).same.addr
  have comId : (put.on ele).2.pFrame.frameHead.comId = (put.on ele).2.addr.comId := by
    rw [Put.headComId plain fits, addr, sends.comId]
  cases some' : put.bytes with
  | none =>
      have grows : given ⊆ given ++ takenData (put.on ele).1 ele.addr.comId
          (givenData put.pData put.dataSize) := List.subset_append_left _ _
      rw [Put.on_empty some'] at addr comId grows ⊢
      dsimp only at addr comId grows ⊢
      split
      · next empty =>
          refine ⟨sends.comId, fun other => ?_, fun _ _ _ => ?_⟩
          · obtain ⟨datasetLength, grossSize, length⟩ := sends.framed other
            exact ⟨datasetLength, grossSize, length⟩
          · have none' : ele.setValid.pFrame.data.take ele.setValid.dataSize.toNat = [] := by
              have zero : ele.setValid.dataSize = 0 := empty.1
              rw [zero]
              rfl
            rw [none', givenData, if_pos empty.2]
            exact List.mem_append_right _ (List.mem_singleton_self _)
      · exact sends.mono grows
  | some bytes =>
      have taken : (put.on ele).1 = .noErr → (ele.addr.comId, bytes)
          ∈ given ++ takenData (put.on ele).1 ele.addr.comId
            (givenData put.pData put.dataSize) := by
        intro done
        rw [givenData_bytes some', done]
        exact List.mem_append_right _ (List.mem_singleton_self _)
      refine ⟨comId, fun other => ?_, fun other => ?_⟩
      · rw [addr] at other
        exact (Put.framed (sends.framed other) plain fits some' taken).1
      · rw [addr] at other
        exact (Put.framed (sends.framed other) plain fits some' taken).2

-----------------------------------------------------------------------------------------
-- New elements
-----------------------------------------------------------------------------------------

variable {env : PublishEnv} {args : PublishArgs} {socketIdx : Int}

/-- A new publisher has no valid data. -/
theorem newPublisher_sends (env : PublishEnv) (args : PublishArgs) (session : TrdpSession)
    (socketIdx : Int)
    : (newPublisher env args session socketIdx).Sends given where
  comId := rfl
  framed _ := ⟨rfl, rfl, List.length_replicate⟩
  carrying _ valid := by
    refine absurd ?_ valid
    have flags : (newPublisher env args session socketIdx).privFlags
        = if args.redId ≠ 0 ∧ tlpGetRedundant args.redId session = some false then
            trdpInvalidData ||| trdpRedundant
          else trdpInvalidData := rfl
    rw [flags]
    split <;> decide

/-- Its first data are those that were given. -/
theorem publishedEle_sends (given : List (U32 × List U8)) (env : PublishEnv) (socketIdx : Int)
    (plain : session.marshall = none)
    (enough : Enough args.pData args.dataSize)
    : (publishedEle env args session socketIdx).2.Sends
        (given
          ++ if args.dataSize = 0 then []
            else takenData (publishedEle env args session socketIdx).1 args.comId
              (givenData args.pData args.dataSize)) := by
  unfold publishedEle
  dsimp only
  by_cases empty : args.dataSize = 0
  · rw [if_pos empty, if_neg (not_not.mpr empty)]
    exact newPublisher_sends env args session socketIdx
  · rw [if_neg empty, if_pos empty]
    let put : Put := ⟨session.marshall, env.allocLate, args.pData, args.dataSize, enough⟩
    exact put.sends (newPublisher_sends env args session socketIdx) plain (.inl rfl)

variable {asks : RequestArgs} {sub : PdEle}

theorem newRequest_framed (env : PublishEnv) (asks : RequestArgs) (session : TrdpSession)
    (sub : PdEle) (socketIdx : Int)
    : (newRequest env asks session sub socketIdx).Framed :=
  ⟨rfl, rfl, List.length_replicate⟩

/-- `tlp_request`: the new element with its data. -/
def askedEle (env : PublishEnv) (asks : RequestArgs) (session : TrdpSession) (sub : PdEle)
    (socketIdx : Int)
    : TrdpErr × PdEle :=
  let ele := newRequest env asks session sub socketIdx
  if asks.pData.isSome ∧ 0 < asks.dataSize then
    trdpPdPut session.marshall env.allocLate asks.pData asks.dataSize ele
  else (.noErr, ele)

/-- A request is valid at once: without data it has none. -/
theorem askedEle_sends (given : List (U32 × List U8)) (env : PublishEnv) (sub : PdEle)
    (socketIdx : Int) (plain : session.marshall = none)
    (enough : Enough asks.pData asks.dataSize) (sized : asks.pData = none → asks.dataSize = 0)
    : (askedEle env asks session sub socketIdx).2.Sends
        (given
          ++ takenData (askedEle env asks session sub socketIdx).1 asks.comId
            (givenData asks.pData asks.dataSize)) := by
  have framed := newRequest_framed env asks session sub socketIdx
  unfold askedEle
  dsimp only
  by_cases empty : asks.dataSize = 0
  · have unsized : ¬ (asks.pData.isSome ∧ 0 < asks.dataSize) := by
      rw [empty]
      exact fun both => absurd both.2 (by decide)
    rw [if_neg unsized]
    refine ⟨rfl, fun _ => framed, fun _ _ _ => ?_⟩
    have size : (newRequest env asks session sub socketIdx).dataSize = 0 := empty
    rw [size, givenData, if_pos empty]
    exact List.mem_append_right _ (List.mem_singleton_self _)
  · obtain ⟨bytes, pData⟩ := Option.ne_none_iff_exists'.mp (mt sized empty)
    have pos : 0 < asks.dataSize := asks.dataSize.pos_iff_ne_zero.mpr empty
    rw [if_pos ⟨by rw [pData]; rfl, pos⟩]
    let put : Put := ⟨session.marshall, env.allocLate, asks.pData, asks.dataSize, enough⟩
    let ele := newRequest env asks session sub socketIdx
    have fits : put.Fits ele := .inl rfl
    have taken : put.bytes = some (bytes.take asks.dataSize.toNat) := by
      rw [Put.bytes, if_neg empty]
      exact congrArg (Option.map _) pData
    have given' : (put.on ele).1 = .noErr → (ele.addr.comId, bytes.take asks.dataSize.toNat)
        ∈ given ++ takenData (put.on ele).1 asks.comId (givenData asks.pData asks.dataSize) := by
      have sized := givenData_bytes taken
      intro done
      rw [done, sized]
      exact List.mem_append_right _ (List.mem_singleton_self _)
    obtain ⟨framed', carrying⟩ := Put.framed framed plain fits taken given'
    have addr : (put.on ele).2.addr = ele.addr := (trdpPdPut_keeps _ _ _ _ _).same.addr
    have comId : (put.on ele).2.pFrame.frameHead.comId = (put.on ele).2.addr.comId := by
      rw [Put.headComId plain fits, addr]
      rfl
    exact ⟨comId, fun _ => framed', fun _ => carrying⟩

-----------------------------------------------------------------------------------------
-- Passes
-----------------------------------------------------------------------------------------

variable {etbTopoCnt opTrnTopoCnt : U32} {now : TrdpTime} {udp : UdpSend} {telegram : Telegram}

theorem pdPrepare_sameFrame (ele : PdEle) : SameFrame ele (pdPrepare ele) := by
  unfold pdPrepare trdpPdUpdate
  split
  · split <;> exact ⟨rfl, rfl, rfl, rfl, rfl, rfl, Iff.rfl⟩
  · split <;> exact ⟨rfl, rfl, rfl, rfl, rfl, rfl, Iff.rfl⟩

theorem trdpPdSend_sameFrame (udp : UdpSend) (ele : PdEle)
    : SameFrame ele (trdpPdSend udp ele).2 := by
  unfold trdpPdSend
  dsimp only
  split
  · exact ⟨rfl, rfl, rfl, rfl, rfl, rfl, Iff.rfl⟩
  · split <;> exact ⟨rfl, rfl, rfl, rfl, rfl, rfl, Iff.rfl⟩

theorem pdTransmit_sameFrame (etbTopoCnt opTrnTopoCnt : U32) (now : TrdpTime) (udp : UdpSend)
    (ele : PdEle)
    : SameFrame ele (pdTransmit etbTopoCnt opTrnTopoCnt now udp ele).1 := by
  have prepared := pdPrepare_sameFrame ele
  have sent := prepared.trans (trdpPdSend_sameFrame udp (pdPrepare ele))
  unfold pdTransmit
  split
  · exact .refl ele
  dsimp only
  split
  · exact prepared
  split
  · exact prepared
  split
  · exact prepared
  split
  · next ele' result =>
      rw [result] at sent
      exact sent.trans ⟨rfl, rfl, rfl, rfl, rfl, rfl, Iff.rfl⟩
  · next err ele' _ result =>
      rw [result] at sent
      exact sent

theorem pdReschedule_sameFrame (now : TrdpTime) (ele : PdEle)
    : SameFrame ele (pdReschedule now ele) := by
  have apart : Field.Disjoint trdpReq2bSent trdpInvalidData := by decide
  unfold pdReschedule
  dsimp only
  split
  · exact ⟨rfl, rfl, rfl, rfl, rfl, rfl, has_without_of_disjoint apart⟩
  · split <;> exact ⟨rfl, rfl, rfl, rfl, rfl, rfl, has_without_of_disjoint apart⟩

/-- A turn leaves the frame of an element that stays. -/
theorem pdSendTurn_sameFrame {left : PdEle}
    (stays : (pdSendTurn etbTopoCnt opTrnTopoCnt now udp ele).ele = some left)
    : SameFrame ele left := by
  have same := (pdTransmit_sameFrame etbTopoCnt opTrnTopoCnt now udp ele).trans
    (pdReschedule_sameFrame now _)
  unfold pdSendTurn at stays
  split at stays
  · dsimp only at stays
    split at stays
    · cases stays
    · exact Option.some.inj stays ▸ same
  · exact Option.some.inj stays ▸ .refl ele

/-- A datagram that is too short for a header, or has one with its check sum: and unless it is of the
statistics, or announces more data than a telegram can have, its data were given for its comId.
-/
def Travels (given : List (U32 × List U8)) (wire : List U8) : Prop :=
  wire.length < trdpMinPdHeaderSize
  ∨ ∃ head payload,
    wire = PdHeader.bytes head ++ payload
    ∧ head.frameCheckSum = head.fcs
    ∧ (head.comId ≠ trdpGlobalStatisticsComid
      → head.datasetLength.toNat ≤ trdpMaxPdDataSize
      → head.datasetLength.toNat ≤ payload.length
        ∧ payload.length ≤ trdpMaxPdDataSize
        ∧ (head.comId, payload.take head.datasetLength.toNat) ∈ given)

theorem Travels.mono {wire : List U8} (travels : Travels given wire) (grows : given ⊆ more)
    : Travels more wire := by
  rcases travels with short | ⟨head, payload, same, valid, given⟩
  · exact .inl short
  · refine .inr ⟨head, payload, same, valid, fun other small => ?_⟩
    obtain ⟨covers, fits, member⟩ := given other small
    exact ⟨covers, fits, grows member⟩

/-- What is sent for an element are the data that it was given. -/
theorem PdEle.Sends.travels (sends : ele.Sends given)
    (sent : (pdSendTurn etbTopoCnt opTrnTopoCnt now udp ele).telegram = some telegram)
    : Travels given telegram.wire := by
  have same := pdPrepare_sameFrame ele
  have valid := mt same.valid.mp (pdSendTurn_telegram sent).2.2.1
  obtain ⟨frame, size⟩ := pdSendTurn_sent sent
  have check := pdPrepare_fcs ele
  replace sends := same.sends sends
  generalize pdPrepare ele = prepared at sends valid frame size check
  unfold Telegram.wire
  rw [frame, size]
  rcases Nat.lt_or_ge prepared.grossSize.toNat trdpMinPdHeaderSize with short | long
  · refine .inl (Nat.lt_of_le_of_lt ?_ short)
    rw [List.length_take]
    exact Nat.min_le_left _ _
  · refine .inr ⟨prepared.pFrame.frameHead,
      prepared.pFrame.data.take (prepared.grossSize.toNat - trdpMinPdHeaderSize), ?_, check, ?_⟩
    · rw [List.take_append, PdHeader.length_bytes, List.take_of_length_le]
      rw [PdHeader.length_bytes]
      exact long
    · intro other small
      rw [sends.comId] at other ⊢
      have framed := sends.framed other
      rw [framed.datasetLength] at small ⊢
      have gross := trdpPacketSizePd_small small
      rw [← framed.grossSize] at gross
      have length := framed.length
      rw [List.take_of_length_le length.le, length]
      unfold trdpMinPdHeaderSize trdpMaxPdDataSize at *
      exact ⟨by omega, by omega, sends.carrying other valid small⟩

-----------------------------------------------------------------------------------------
-- Datagrams
-----------------------------------------------------------------------------------------

variable {found : Recvmsg} {datagram : Datagram} {frame : PdPacket} {wires : List (List U8)}

/-- What a datagram brings to any session that it passes the header check of was given. -/
def Brings (given : List (U32 × List U8)) (found : Recvmsg) : Prop :=
  ∀ (session : TrdpSession) (datagram : Datagram) (frame : PdPacket),
    sane found session = some (datagram, frame)
    → frame.frameHead.comId ≠ trdpGlobalStatisticsComid
    → (frame.frameHead.comId, frame.data.take frame.frameHead.datasetLength.toNat) ∈ given

/-- Nothing but a datagram passes the header check. -/
theorem sane_datagram (arrives : sane found session = some (datagram, frame))
    : ∃ bytes srcIpAddr destIpAddr, found = .datagram bytes srcIpAddr destIpAddr
        ∧ datagram.bytes = bytes.take trdpMaxPdPacketSize := by
  obtain ⟨socket, valid, -⟩ := sane_eq_some.mp arrives
  cases found with
  | datagram bytes srcIpAddr destIpAddr =>
      dsimp only [vosSockReceiveUdp] at socket
      split at socket
      · cases socket
      · exact ⟨bytes, srcIpAddr, destIpAddr, rfl, Except.ok.inj socket ▸ rfl⟩
  | connReset =>
      obtain rfl := Except.ok.inj socket
      exact absurd (trdpPdCheck_noErr valid).1 (by decide)
  | wouldBlock | failed | noSocket => cases socket

/-- A datagram that arrives as it was sent. -/
theorem Travels.brings {bytes : List U8} (travels : Travels given bytes) (srcIpAddr destIpAddr : U32)
    : Brings given (.datagram bytes srcIpAddr destIpAddr) := by
  intro session datagram frame arrives other
  obtain ⟨_, _, _, same, received⟩ := sane_datagram arrives
  obtain ⟨rfl, -, -⟩ := Recvmsg.datagram.inj same
  obtain ⟨head, data⟩ := sane_frame arrives
  obtain ⟨-, valid, -⟩ := sane_eq_some.mp arrives
  obtain ⟨long, small⟩ := trdpPdCheck_noErr valid
  have whole : datagram.bytes.length ≤ bytes.length := by
    rw [received]
    exact List.length_take_le' _ _
  rcases travels with short | ⟨sent, payload, rfl, -, given⟩
  · omega
  · have start : datagram.bytes.take trdpMinPdHeaderSize = sent.bytes := by
      rw [received, List.take_take, Nat.min_eq_left (by decide)]
      exact List.take_left' sent.length_bytes
    have header : datagram.head = sent := by
      rw [Datagram.head, start, PdHeader.ofBytes_bytes]
    rw [header] at head small
    rw [head] at other ⊢
    obtain ⟨covers, fits, member⟩ := given other small
    have rest : datagram.payload = payload := by
      have length : (sent.bytes ++ payload).length ≤ trdpMaxPdPacketSize := by
        rw [List.length_append, sent.length_bytes]
        unfold trdpMaxPdPacketSize
        omega
      rw [Datagram.payload, received, List.take_of_length_le length]
      exact List.drop_left' sent.length_bytes
    rw [data, rest, List.take_append_of_le_length covers]
    exact member

/-- A datagram with an error in its header that the check sum tells brings nothing. -/
theorem Travels.brings_damaged {bytes error : List U8} (travels : Travels given bytes)
    (same : error.length = bytes.length)
    (detectable : Detectable (error.take trdpMinPdHeaderSize)) (srcIpAddr destIpAddr : U32)
    : Brings given (.datagram (List.zipWith (· ^^^ ·) bytes error) srcIpAddr destIpAddr) := by
  intro session datagram frame arrives
  obtain ⟨_, _, _, same', received⟩ := sane_datagram arrives
  obtain ⟨rfl, -, -⟩ := Recvmsg.datagram.inj same'
  obtain ⟨-, valid, -⟩ := sane_eq_some.mp arrives
  have long := (trdpPdCheck_noErr valid).1
  have length : datagram.bytes.length ≤ bytes.length := by
    rw [received, List.length_take, List.length_zipWith, same, Nat.min_self]
    exact Nat.min_le_right _ _
  rcases travels with short | ⟨sent, payload, rfl, check, -⟩
  · omega
  · have whole : (error.take trdpMinPdHeaderSize).length = trdpMinPdHeaderSize := by
      rw [List.length_take, same]
      exact Nat.min_eq_left (by omega)
    have start : datagram.bytes.take trdpMinPdHeaderSize
        = List.zipWith (· ^^^ ·) sent.bytes (error.take trdpMinPdHeaderSize) := by
      rw [received, List.take_take, Nat.min_eq_left (by decide), List.take_zipWith,
        List.take_left' sent.length_bytes]
    have header : datagram.head.bytes
        = List.zipWith (· ^^^ ·) sent.bytes (error.take trdpMinPdHeaderSize) := by
      rw [Datagram.head, start, PdHeader.bytes_ofBytes]
      rw [List.length_zipWith, sent.length_bytes, whole, Nat.min_self]
    have short : datagram.bytes.length ≤ trdpMaxPdPacketSize := by
      rw [received]
      exact List.length_take_le _ _
    have refused := detectable.trdpPdCheck check whole header long short
    exact absurd (valid.symm.trans refused) (by decide)

/-- What the network carries brings what was given. -/
theorem Carries.brings (carries : Carries wires found)
    (travels : ∀ wire ∈ wires, Travels given wire)
    : Brings given found := by
  cases carries with
  | whole bytes sent srcIpAddr destIpAddr => exact (travels bytes sent).brings _ _
  | damaged bytes error sent same detectable srcIpAddr destIpAddr =>
      exact (travels bytes sent).brings_damaged same detectable _ _
  | nothing _ quiet =>
      intro session datagram frame arrives
      obtain ⟨bytes, srcIpAddr, destIpAddr, same, -⟩ := sane_datagram arrives
      exact absurd same (quiet _ _ _)

-----------------------------------------------------------------------------------------
-- Subscriptions
-----------------------------------------------------------------------------------------

/-- A subscription that holds what was given, if it has received anything. -/
structure PdEle.Holds (given : List (U32 × List U8)) (ele : PdEle) : Prop where
  empty : Has ele.privFlags trdpInvalidData → ele.dataSize = 0
  data
    : ¬ Has ele.privFlags trdpInvalidData
      → ele.addr.comId ≠ trdpGlobalStatisticsComid
      → (ele.addr.comId, ele.pFrame.data.take ele.dataSize.toNat) ∈ given

/-- What it holds stays. -/
structure SameHeld (ele ele' : PdEle) : Prop where
  comId : ele'.addr.comId = ele.addr.comId
  dataSize : ele'.dataSize = ele.dataSize
  data : ele'.pFrame.data = ele.pFrame.data
  valid : Has ele'.privFlags trdpInvalidData ↔ Has ele.privFlags trdpInvalidData

theorem SameHeld.holds (same : SameHeld ele ele') (holds : ele.Holds given) : ele'.Holds given where
  empty invalid := same.dataSize.trans (holds.empty (same.valid.mp invalid))
  data valid other := by
    rw [same.comId] at other ⊢
    rw [same.data, same.dataSize]
    exact holds.data (mt same.valid.mpr valid) other

theorem PdEle.Holds.mono (holds : ele.Holds given) (grows : given ⊆ more) : ele.Holds more where
  empty := holds.empty
  data valid other := grows (holds.data valid other)

theorem newSubscription_holds (env : SubscribeEnv) (args : SubscribeArgs) (session : TrdpSession)
    (socketIdx : Int)
    : (newSubscription env args session socketIdx).Holds given where
  empty _ := rfl
  data valid := by
    refine absurd ?_ valid
    have flags : (newSubscription env args session socketIdx).privFlags
        = if vosIsMulticast args.destIpAddr then trdpMcJoint ||| trdpInvalidData
          else trdpInvalidData := rfl
    rw [flags]
    split <;> decide

theorem timeOut_sameHeld (ele : PdEle) : SameHeld ele ele.timeOut :=
  ⟨rfl, rfl, rfl, has_or_of_disjoint (by decide)⟩

theorem startTimer_sameHeld (now : TrdpTime) (sub : PdEle) : SameHeld sub (sub.startTimer now) := by
  have apart : Field.Disjoint trdpTimedOut trdpInvalidData := by decide
  unfold PdEle.startTimer
  split
  · exact ⟨rfl, rfl, rfl, has_without_of_disjoint apart⟩
  · exact ⟨rfl, rfl, rfl, Iff.rfl⟩

theorem resubscribed_sameHeld (args : ResubscribeArgs) (socketIdx : Int) (ele : PdEle)
    : SameHeld ele (ele.resubscribed args socketIdx) :=
  ⟨rfl, rfl, rfl, Iff.rfl⟩

theorem receiveCallback_delivery {destIpAddr : U32} {err : TrdpErr} {callback : PdCallback}
    (member : callback ∈ receiveCallback destIpAddr err ele)
    : callback.delivery
      = ⟨err, ele.addr.comId, ele.pFrame.data.take ele.pFrame.frameHead.datasetLength.toNat⟩ := by
  unfold receiveCallback at member
  split at member
  · obtain ⟨function, -, rfl⟩ := List.mem_map.mp member
    rfl
  · cases member

/-- A subscription after a datagram that was given for its comId. -/
theorem pdHandle_holds {alloc informUser : Bool} {now : TrdpTime} {srcIpAddr destIpAddr : U32}
    {handled : Handled} (holds : ele.Holds given)
    (brings
      : ele.addr.comId ≠ trdpGlobalStatisticsComid
        → (ele.addr.comId, frame.data.take frame.frameHead.datasetLength.toNat) ∈ given)
    (handles : pdHandle alloc informUser now frame srcIpAddr destIpAddr ele = some handled)
    : handled.ele.Holds given ∧ ∀ callback ∈ handled.callbacks, callback.delivery.Genuine given := by
  obtain ⟨check, list, -, ⟨-, accepts⟩ | ⟨-, ignored⟩⟩ := pdHandle_cases handles
  · have comId : handled.ele.addr.comId = ele.addr.comId := (pdHandle_heardFrom handles).comId
    have holds' : handled.ele.pFrame = frame
        ∧ handled.ele.dataSize = frame.frameHead.datasetLength
        ∧ ¬ Has handled.ele.privFlags trdpInvalidData := by
      rw [accepts.ele]
      exact ⟨rfl, rfl, not_has_without⟩
    obtain ⟨pFrame, dataSize, valid⟩ := holds'
    constructor
    · refine ⟨fun invalid => absurd invalid valid, fun _ other => ?_⟩
      rw [comId] at other ⊢
      rw [pFrame, dataSize]
      exact brings other
    · intro callback member other
      rw [accepts.callbacks] at member
      split at member
      · rw [receiveCallback_delivery member, comId] at other ⊢
        rw [pFrame]
        exact .inl (brings other)
      · cases member
  · have same : SameHeld ele handled.ele := by
      rw [ignored.ele]
      exact ⟨rfl, rfl, rfl, Iff.rfl⟩
    constructor
    · exact same.holds holds
    · rw [ignored.callbacks]
      exact fun _ member => absurd member List.not_mem_nil

/-- A late subscription reports what it holds, or nothing. -/
theorem PdEle.Holds.timeOutCallback (holds : ele.Holds given) {callback : PdCallback}
    (member : callback ∈ timeOutCallback ele)
    : callback.delivery.Genuine given := by
  obtain ⟨function, -, rfl⟩ := List.mem_map.mp member
  intro other
  by_cases invalid : Has ele.privFlags trdpInvalidData
  · refine .inr ⟨rfl, ?_⟩
    have none : ele.dataSize = 0 := holds.empty invalid
    change ele.pFrame.data.take ele.dataSize.toNat = []
    rw [none]
    rfl
  · exact .inl (holds.data invalid other)

-----------------------------------------------------------------------------------------
-- Sessions
-----------------------------------------------------------------------------------------

/-- A session without marshalling functions, of which the publishers send and the subscriptions hold
what was given.
-/
structure SessionSound (given : List (U32 × List U8)) (session : TrdpSession) : Prop where
  marshall : session.marshall = none
  unmarshall : session.unmarshall = none
  sends : ∀ ele ∈ session.pSndQueue, ele.Sends given
  holds : ∀ ele ∈ session.pRcvQueue, ele.Holds given

theorem SessionSound.mono (sound : SessionSound given session) (grows : given ⊆ more)
    : SessionSound more session where
  marshall := sound.marshall
  unmarshall := sound.unmarshall
  sends ele member := (sound.sends ele member).mono grows
  holds ele member := (sound.holds ele member).mono grows

/-- A pass sends what was given, and leaves it so. -/
theorem SessionSound.passes (sends : ∀ ele ∈ session.pSndQueue, ele.Sends given) (env : SendEnv)
    : (∀ ele ∈ (trdpPdSendQueued env session).2.1.pSndQueue, ele.Sends given)
      ∧ ∀ telegram ∈ (trdpPdSendQueued env session).2.2, Travels given telegram.wire := by
  constructor
  · intro left member
    obtain ⟨k, ele, found, stays⟩ := mem_trdpPdSendQueued.mp member
    exact (pdSendTurn_sameFrame stays).sends (sends ele (List.mem_of_getElem? found))
  · intro telegram member
    obtain ⟨k, ele, found, sent⟩ := mem_telegrams.mp member
    exact (sends ele (List.mem_of_getElem? found)).travels sent

/-- The publisher of a pull request, marked for its answer. -/
theorem PdEle.Sends.pulled (sends : ele.Sends given) {head : PdHeader} {statistics : List U8}
    {address : U32}
    : ((ele.statisticsFor session statistics head).pulled address).Sends given := by
  have same : SameFrame ele (ele.pulled address) :=
    ⟨rfl, rfl, rfl, rfl, rfl, rfl, has_or_of_disjoint (by decide)⟩
  unfold PdEle.statisticsFor
  split
  · exact ⟨rfl, fun other => absurd rfl other, fun other => absurd rfl other⟩
  · exact same.sends sends

theorem pdDeliver_marshalling {recv : RecvEnv} {informUser : Bool} {telegrams : List Telegram}
    {result : RecvResult}
    (delivers : pdDeliver recv informUser datagram session telegrams = some result)
    : result.session.marshall = session.marshall
      ∧ result.session.unmarshall = session.unmarshall := by
  cases matched : trdpQueueFindSubAddr session.pRcvQueue
      (datagram.addr session.pNewFrame.frameHead) with
  | none =>
      rw [pdDeliver_none matched] at delivers
      obtain rfl := Option.some.inj delivers
      exact ⟨rfl, rfl⟩
  | some sub =>
      rw [pdDeliver_some matched] at delivers
      obtain ⟨handled, -, rfl⟩ := Option.map_eq_some_iff.mp delivers
      exact ⟨rfl, rfl⟩

theorem trdpPdReceive_marshalling {recv : RecvEnv} {result : RecvResult}
    (received : trdpPdReceive recv found session = some result)
    : result.session.marshall = session.marshall
      ∧ result.session.unmarshall = session.unmarshall := by
  unfold trdpPdReceive at received
  split at received
  · obtain rfl := Option.some.inj received
    exact ⟨rfl, rfl⟩
  dsimp only at received
  split at received
  · obtain rfl := Option.some.inj received
    exact ⟨rfl, rfl⟩
  split at received
  · obtain rfl := Option.some.inj received
    exact ⟨rfl, rfl⟩
  split at received
  · have same := pdDeliver_marshalling received
    exact same
  · next answered pulled =>
      have same := pdDeliver_marshalling received
      split at pulled
      · obtain ⟨ele, -, rfl⟩ := Option.map_eq_some_iff.mp pulled
        exact same
      · cases pulled

/-- A reception leaves the session sound, and delivers and sends what was given. -/
theorem SessionSound.receives (sound : SessionSound given session) (brings : Brings given found)
    {recv : RecvEnv} {result : RecvResult}
    (received : trdpPdReceive recv found session = some result)
    : SessionSound given result.session
      ∧ (∀ telegram ∈ result.telegrams, Travels given telegram.wire)
      ∧ ∀ callback ∈ result.callbacks, callback.delivery.Genuine given := by
  obtain ⟨marshall, unmarshall⟩ := trdpPdReceive_marshalling received
  have sent : (∀ ele ∈ result.session.pSndQueue, ele.Sends given)
      ∧ ∀ telegram ∈ result.telegrams, Travels given telegram.wire := by
    rcases trdpPdReceive_sends received with
      ⟨-, same, none⟩ | ⟨_, head, srcIpAddr, marked, -, -, pulled, passed, telegrams⟩
    · rw [same, none]
      exact ⟨sound.sends, fun _ member => absurd member List.not_mem_nil⟩
    · rw [passed, telegrams]
      refine SessionSound.passes ?_ recv.send
      rw [pulled]
      exact forall_modifyFirst sound.sends fun ele sends => sends.pulled
  have heard : (∀ ele ∈ result.session.pRcvQueue, ele.Holds given)
      ∧ ∀ callback ∈ result.callbacks, callback.delivery.Genuine given := by
    cases trdpPdReceive_cases received with
    | refused _ refused =>
        rw [refused.pRcvQueue, refused.callbacks]
        exact ⟨sound.holds, fun _ member => absurd member List.not_mem_nil⟩
    | unsubscribed _ _ _ _ _ pRcvQueue callbacks _ _ =>
        rw [pRcvQueue, callbacks]
        exact ⟨sound.holds, fun _ member => absurd member List.not_mem_nil⟩
    | routed datagram frame ele _ handled arrives matched handles _ pRcvQueue callbacks _ _ =>
        have matches' : ele.matchesSubAddr (datagram.addr frame.frameHead) := List.find?_some matched
        have comId : ele.addr.comId = frame.frameHead.comId := (of_decide_eq_true matches').1
        have own := brings session datagram frame arrives
        rw [← comId] at own
        have member := List.mem_of_find?_eq_some matched
        obtain ⟨holds, genuine⟩ := pdHandle_holds (sound.holds ele member) own handles
        rw [pRcvQueue, callbacks]
        refine ⟨fun other member => ?_, genuine⟩
        rcases mem_modifyFirst member with old | ⟨_, _, rfl⟩
        · exact sound.holds other old
        · exact holds
  exact ⟨⟨marshall.trans sound.marshall, unmarshall.trans sound.unmarshall, sent.1, heard.1⟩,
    sent.2, heard.2⟩

/-- Reading a socket until an error. Induction on what waits in it. -/
theorem SessionSound.drains {recv : Nat → RecvEnv} {k : Nat} {waiting : List Recvmsg}
    (sound : SessionSound given session) (brings : ∀ found ∈ waiting, Brings given found)
    {drained : Drained} (drains : drain recv k waiting session = some drained)
    : SessionSound given drained.session
      ∧ (∀ telegram ∈ drained.telegrams, Travels given telegram.wire)
      ∧ ∀ callback ∈ drained.callbacks, callback.delivery.Genuine given := by
  induction waiting generalizing k session drained with
  | nil =>
      obtain ⟨result, received, rfl⟩ := Option.map_eq_some_iff.mp drains
      have quiet : Brings given .wouldBlock := by
        intro session datagram frame arrives
        obtain ⟨_, _, _, same, -⟩ := sane_datagram arrives
        cases same
      exact sound.receives quiet received
  | cons found rest ih =>
      obtain ⟨first, later⟩ := List.forall_mem_cons.mp brings
      obtain ⟨result, received, drains⟩ := Option.bind_eq_some_iff.mp drains
      obtain ⟨sound', travels, genuine⟩ := sound.receives first received
      split at drains
      · obtain ⟨others, reads, rfl⟩ := Option.map_eq_some_iff.mp drains
        obtain ⟨sound', travels', genuine'⟩ := ih sound' later reads
        refine ⟨sound', fun telegram member => ?_, fun callback member => ?_⟩
        · rcases List.mem_append.mp member with now | then'
          · exact travels telegram now
          · exact travels' telegram then'
        · rcases List.mem_append.mp member with now | then'
          · exact genuine callback now
          · exact genuine' callback then'
      · obtain rfl := Option.some.inj drains
        exact ⟨sound', travels, genuine⟩

/-- What a read finds keeps the session sound; where the session blocks, it leaves the socket alone. -/
theorem SessionSound.drainsFor {recv : Nat → RecvEnv} {waiting : List Recvmsg}
    (sound : SessionSound given session) (brings : ∀ found ∈ waiting, Brings given found)
    {drained : Drained} (drains : pdDrain recv waiting session = some drained)
    : SessionSound given drained.session
      ∧ (∀ telegram ∈ drained.telegrams, Travels given telegram.wire)
      ∧ ∀ callback ∈ drained.callbacks, callback.delivery.Genuine given := by
  unfold pdDrain at drains
  split at drains
  · obtain rfl := Option.some.inj drains
    exact ⟨sound, fun _ member => absurd member List.not_mem_nil,
      fun _ member => absurd member List.not_mem_nil⟩
  · exact sound.drains brings drains

section
variable {now : TrdpTime} {pDataSize : Option U32} {after : PdEle}

/-- Reading a subscription leaves what it holds. -/
theorem pdRead_sameHeld {err : TrdpErr} {data : Option (List U8 × U32)}
    (read : pdRead none now pDataSize ele = (err, after, data))
    : SameHeld ele after := by
  have same : (pdRead none now pDataSize ele).2.1 = ele
      ∨ (pdRead none now pDataSize ele).2.1 = { ele with getPkts := ele.getPkts + 1 } := by
    unfold pdRead trdpPdGet
    simp only [ite_self]
    split
    · exact .inl rfl
    · right
      split
      · rfl
      split
      · rfl
      cases pDataSize with
      | none => rfl
      | some size =>
          dsimp only
          split <;> rfl
  rw [read] at same
  rcases same with same | same
  · obtain rfl : after = _ := same
    exact ⟨rfl, rfl, rfl, Iff.rfl⟩
  · obtain rfl : after = _ := same
    exact ⟨rfl, rfl, rfl, Iff.rfl⟩

/-- Invalid data are not read. -/
theorem pdRead_valid {data : List U8} {size : U32}
    (read : pdRead none now pDataSize ele = (.noErr, after, some (data, size)))
    : ¬ Has ele.privFlags trdpInvalidData := by
  intro invalid
  unfold pdRead trdpPdGet at read
  split at read
  · cases read
  · rw [if_pos invalid] at read
    cases read

end

/-- `tlp_get` delivers what was given, and leaves the session sound. -/
theorem SessionSound.reads (sound : SessionSound given session) {handle : Nat}
    {recv : Nat → RecvEnv} {clock : Clock} {pDataSize : Option U32} {waiting : List Recvmsg}
    {drained : Drained} {result : GetResult}
    (drains : pdDrain recv waiting session = some drained)
    (drained' : SessionSound given drained.session)
    (reads : tlpGet handle recv clock pDataSize waiting session = some result)
    : SessionSound given result.session
      ∧ ∀ delivery ∈ result.delivery, delivery.Genuine given := by
  have reads' : (pdDrain recv waiting session).bind _ = some result := reads
  rw [drains, Option.bind_some] at reads'
  obtain ⟨ele, found, rfl⟩ := Option.map_eq_some_iff.mp reads'
  have holds := drained'.holds ele (List.mem_of_find?_eq_some found)
  rw [sound.unmarshall]
  generalize same : pdRead none clock.time pDataSize ele = read
  obtain ⟨err, after, data⟩ := read
  have held := pdRead_sameHeld same
  constructor
  · refine ⟨drained'.marshall, drained'.unmarshall, drained'.sends, ?_⟩
    intro other member
    rcases mem_modifyFirst member with old | ⟨_, _, rfl⟩
    · exact drained'.holds other old
    · exact held.holds holds
  · intro delivery member other
    unfold GetResult.delivery at member
    dsimp only at member
    split at member
    · next done =>
        obtain ⟨⟨bytes, size⟩, data', rfl⟩ := List.mem_map.mp member
        rw [Option.mem_toList] at data'
        obtain rfl := done
        obtain rfl : data = some (bytes, size) := data'
        refine .inl ?_
        have valid := pdRead_valid same
        have comId : after.addr.comId = ele.addr.comId := held.comId
        rw [pdRead_data same]
        change (after.addr.comId, _) ∈ given
        change after.addr.comId ≠ _ at other
        rw [comId] at other ⊢
        exact holds.data valid other
    · cases member

/-- Spreading the publishers in time changes nothing that they send. -/
theorem Retimed.sends {queue queue' : List PdEle} (retimed : Retimed queue queue')
    (sends : ∀ ele ∈ queue, ele.Sends given)
    : ∀ ele ∈ queue', ele.Sends given := by
  induction retimed with
  | nil => exact sends
  | @cons ele ele' _ _ same _ ih =>
      obtain ⟨first, later⟩ := List.forall_mem_cons.mp sends
      have frame : SameFrame ele ele' := by
        rw [same]
        exact ⟨rfl, rfl, rfl, rfl, rfl, rfl, Iff.rfl⟩
      exact List.forall_mem_cons.mpr ⟨frame.sends first, ih later⟩

theorem SessionSound.publishes (sound : SessionSound given session)
    (distributes : env.trdpPdDistribute = trdpPdDistribute)
    (enough : Enough args.pData args.dataSize)
    : SessionSound
        (given
          ++ if args.dataSize = 0 then []
            else takenData (tlpPublish env args session).1 args.comId
              (givenData args.pData args.dataSize))
        (tlpPublish env args session).2 := by
  by_cases queued : PublishAsks env args session ∧ (∃ socketIdx, env.socket = .ok socketIdx)
      ∧ env.allocFrame = true
  · obtain ⟨asks, ⟨socketIdx, socket⟩, allocFrame⟩ := queued
    obtain ⟨queue, retimed, -, eq⟩ := tlpPublish_queued asks socket allocFrame distributes
    have own := publishedEle_sends given env socketIdx sound.marshall enough
    rw [eq]
    refine ⟨sound.marshall, sound.unmarshall, retimed.sends ?_, fun ele member => ?_⟩
    · intro ele member
      rcases List.mem_append.mp member with old | new
      · exact (sound.sends ele old).mono (List.subset_append_left _ _)
      · exact List.mem_singleton.mp new ▸ own
    · exact (sound.holds ele member).mono (List.subset_append_left _ _)
  · rcases tlpPublish_cases env args session distributes with ⟨-, same⟩ | ⟨_, _, _, publishes⟩
    · rw [same]
      exact sound.mono (List.subset_append_left _ _)
    · exact absurd ⟨publishes.asks, ⟨_, publishes.socket⟩, publishes.allocFrame⟩ queued

theorem SessionSound.puts (sound : SessionSound given session) {handle : Nat} {alloc : Bool}
    {pData : Option (List U8)} {dataSize : U32} (enough : Enough pData dataSize)
    (fits
      : ∀ ele ∈ session.pSndQueue.find? (PdEle.isAt handle),
          dataSize = ele.dataSize ∨ ele.dataSize = 0 ∧ alloc = true)
    : SessionSound
        (given
          ++ (session.pSndQueue.find? (PdEle.isAt handle)).toList.flatMap fun ele =>
            takenData (tlpPut handle alloc pData dataSize session).1 ele.addr.comId
              (givenData pData dataSize))
        (tlpPut handle alloc pData dataSize session).2 := by
  let put : Put := ⟨session.marshall, alloc, pData, dataSize, enough⟩
  unfold tlpPut
  cases found : session.pSndQueue.find? (PdEle.isAt handle) with
  | none => exact sound.mono (List.subset_append_left _ _)
  | some ele =>
      have own := put.sends (sound.sends ele (List.mem_of_find?_eq_some found))
        sound.marshall (fits ele found)
      simp only [Option.toList_some, List.flatMap_cons, List.flatMap_nil, List.append_nil]
      refine ⟨sound.marshall, sound.unmarshall, fun other member => ?_, fun other member => ?_⟩
      · rcases mem_modifyFirst member with old | ⟨chosen, found', rfl⟩
        · exact (sound.sends other old).mono (List.subset_append_left _ _)
        · obtain rfl := Option.some.inj (found.symm.trans found')
          exact own
      · exact (sound.holds other member).mono (List.subset_append_left _ _)

theorem SessionSound.requests (sound : SessionSound given session)
    (enough : Enough asks.pData asks.dataSize) (sized : asks.pData = none → asks.dataSize = 0)
    : SessionSound
        (given
          ++ takenData (tlpRequest env asks session).1 asks.comId
            (givenData asks.pData asks.dataSize))
        (tlpRequest env asks session).2 := by
  have unchanged : ∀ more : List (U32 × List U8), SessionSound (given ++ more) session :=
    fun more => sound.mono (List.subset_append_left _ _)
  unfold tlpRequest
  split
  · exact unchanged _
  split
  · exact unchanged _
  next sub _ =>
    split
    · exact unchanged _
    split
    · exact unchanged _
    split
    · exact unchanged _
    next socketIdx _ =>
      have own := askedEle_sends given env sub socketIdx sound.marshall enough sized
      unfold askedEle at own
      dsimp only at own ⊢
      generalize (if asks.pData.isSome ∧ 0 < asks.dataSize then
        trdpPdPut session.marshall env.allocLate asks.pData asks.dataSize
          (newRequest env asks session sub socketIdx)
        else (.noErr, newRequest env asks session sub socketIdx)) = requested at own ⊢
      obtain ⟨ret, ele⟩ := requested
      have marked : SameFrame ele { ele with privFlags := ele.privFlags ||| trdpReq2bSent } :=
        ⟨rfl, rfl, rfl, rfl, rfl, rfl, has_or_of_disjoint (by decide)⟩
      have sound' := unchanged (takenData ret asks.comId (givenData asks.pData asks.dataSize))
      refine ⟨sound.marshall, sound.unmarshall, ?_, ?_⟩
      · exact List.forall_mem_cons.mpr ⟨marked.sends own, sound'.sends⟩
      · exact forall_modifyFirst sound'.holds fun sub holds =>
          (startTimer_sameHeld env.clock.time sub).holds holds

theorem PdEle.Sends.republished (sends : ele.Sends given)
    (etbTopoCnt opTrnTopoCnt srcIpAddr destIpAddr : U32)
    : (ele.republished etbTopoCnt opTrnTopoCnt srcIpAddr destIpAddr).Sends given where
  comId := rfl
  framed other := ⟨rfl, (sends.framed other).grossSize, (sends.framed other).length⟩
  carrying := sends.carrying

/-- A session that changes its publishers only. -/
theorem SessionSound.changes {queue : List PdEle} (sound : SessionSound given session)
    (sends : ∀ ele ∈ queue, ele.Sends given)
    : SessionSound given { session with pSndQueue := queue } :=
  ⟨sound.marshall, sound.unmarshall, sends, sound.holds⟩

theorem SessionSound.republishes (sound : SessionSound given session) (handle : Nat)
    (etbTopoCnt opTrnTopoCnt srcIpAddr destIpAddr : U32)
    : SessionSound given
        (tlpRepublish handle etbTopoCnt opTrnTopoCnt srcIpAddr destIpAddr session).2 := by
  unfold tlpRepublish
  split
  · exact sound
  · exact sound.changes (forall_modifyFirst sound.sends fun ele sends => sends.republished _ _ _ _)

theorem SessionSound.unpublishes (sound : SessionSound given session) (handle : Nat)
    : SessionSound given (tlpUnpublish handle session).2 := by
  unfold tlpUnpublish
  split
  · exact sound
  · exact sound.changes ((pdReshape_retimed _ _).sends fun ele member =>
      sound.sends ele (List.mem_of_mem_eraseP member))

theorem SessionSound.setsRedundant (sound : SessionSound given session) (redId : U32)
    (leader : Bool)
    : SessionSound given (tlpSetRedundant redId leader session).2 := by
  have apart : Field.Disjoint trdpRedundant trdpInvalidData := by decide
  refine sound.changes fun changed member => ?_
  obtain ⟨ele, old, rfl⟩ := List.mem_map.mp member
  refine SameFrame.sends ?_ (sound.sends ele old)
  split
  · refine ⟨rfl, rfl, rfl, rfl, rfl, rfl, ?_⟩
    cases leader with
    | true => exact has_without_of_disjoint apart
    | false => exact has_or_of_disjoint apart
  · exact .refl ele

/-- A session that changes its subscriptions only. -/
theorem SessionSound.rearranges {queue : List PdEle} (sound : SessionSound given session)
    (holds : ∀ ele ∈ queue, ele.Holds given)
    : SessionSound given { session with pRcvQueue := queue } :=
  ⟨sound.marshall, sound.unmarshall, sound.sends, holds⟩

theorem SessionSound.subscribes (sound : SessionSound given session) (env : SubscribeEnv)
    (args : SubscribeArgs)
    : SessionSound given (tlpSubscribe env args session).2 := by
  rcases tlpSubscribe_cases env args session with ⟨err, same, -⟩ | ⟨socketIdx, same⟩
  · rw [same]
    exact sound
  · rw [same]
    refine sound.rearranges fun ele member => ?_
    rcases List.mem_append.mp member with old | new
    · exact sound.holds ele old
    · exact List.mem_singleton.mp new ▸ newSubscription_holds _ _ _ _

theorem SessionSound.unsubscribes (sound : SessionSound given session) (handle : Nat)
    : SessionSound given (tlpUnsubscribe handle session).2 := by
  unfold tlpUnsubscribe
  split
  · exact sound
  · exact sound.rearranges fun ele member => sound.holds ele (List.mem_of_mem_eraseP member)

theorem SessionSound.resubscribes (sound : SessionSound given session)
    (socket : Except TrdpErr Int) (handle : Nat) (args : ResubscribeArgs)
    : SessionSound given (tlpResubscribe socket handle args session).2 := by
  have keeps : ∀ socketIdx (ele : PdEle), ele.Holds given
      → (ele.resubscribed args socketIdx).Holds given :=
    fun socketIdx ele holds => (resubscribed_sameHeld args socketIdx ele).holds holds
  unfold tlpResubscribe
  split
  · exact sound
  · split
    · split
      · exact sound.unsubscribes handle
      · exact sound.rearranges (forall_modifyFirst sound.holds (keeps _))
    · exact sound.rearranges (forall_modifyFirst sound.holds (keeps _))

theorem SessionSound.timesOut (sound : SessionSound given session) (clock : Clock)
    : SessionSound given (trdpPdHandleTimeOuts clock session).1
      ∧ ∀ callback ∈ (trdpPdHandleTimeOuts clock session).2, callback.delivery.Genuine given := by
  constructor
  · refine ⟨sound.marshall, sound.unmarshall, sound.sends, fun changed member => ?_⟩
    obtain ⟨ele, old, rfl⟩ := List.mem_map.mp member
    split
    · exact (timeOut_sameHeld ele).holds (sound.holds ele old)
    · exact sound.holds ele old
  · intro callback member
    obtain ⟨ele, late, member⟩ := List.mem_flatMap.mp member
    exact (sound.holds ele (List.mem_of_mem_filter late)).timeOutCallback member

-----------------------------------------------------------------------------------------
-- Runs
-----------------------------------------------------------------------------------------

/-- What holds of every telegram and callback holds of the datagrams and the deliveries. -/
theorem travels_map {telegrams : List Telegram}
    (travels : ∀ telegram ∈ telegrams, Travels given telegram.wire)
    : ∀ wire ∈ telegrams.map Telegram.wire, Travels given wire := by
  intro wire member
  obtain ⟨telegram, sent, rfl⟩ := List.mem_map.mp member
  exact travels telegram sent

theorem genuine_map {callbacks : List PdCallback}
    (genuine : ∀ callback ∈ callbacks, callback.delivery.Genuine given)
    : ∀ delivery ∈ callbacks.map PdCallback.delivery, delivery.Genuine given := by
  intro delivery member
  obtain ⟨callback, called, rfl⟩ := List.mem_map.mp member
  exact genuine callback called

/-- Every call that is made as it has to be keeps the session sound. One case for each call. -/
theorem deviceStep_keeps {call : DeviceCall}
    {output : Output TrdpSession (List U8) (U32 × List U8) PdDelivery}
    (sound : SessionSound given session) (travels : ∀ wire ∈ wires, Travels given wire)
    (callable : Callable wires session call) (stepped : deviceStep call session = some output)
    : SessionSound (given ++ output.given) output.state
      ∧ (∀ wire ∈ output.wires, Travels (given ++ output.given) wire)
      ∧ ∀ delivery ∈ output.delivered, delivery.Genuine (given ++ output.given) := by
  have quiet : ∀ {α : Type} {P : α → Prop}, ∀ a ∈ ([] : List α), P a :=
    fun _ member => absurd member List.not_mem_nil
  cases call with
  | publish env args =>
      obtain rfl := Option.some.inj stepped
      exact ⟨sound.publishes callable.1 callable.2, quiet, quiet⟩
  | put handle alloc pData dataSize =>
      obtain rfl := Option.some.inj stepped
      exact ⟨sound.puts callable.1 callable.2, quiet, quiet⟩
  | request env args =>
      obtain rfl := Option.some.inj stepped
      exact ⟨sound.requests callable.1 callable.2, quiet, quiet⟩
  | republish handle etbTopoCnt opTrnTopoCnt srcIpAddr destIpAddr =>
      obtain rfl := Option.some.inj stepped
      rw [List.append_nil]
      exact ⟨sound.republishes _ _ _ _ _, quiet, quiet⟩
  | unpublish handle =>
      obtain rfl := Option.some.inj stepped
      rw [List.append_nil]
      exact ⟨sound.unpublishes handle, quiet, quiet⟩
  | setRedundant redId leader =>
      obtain rfl := Option.some.inj stepped
      rw [List.append_nil]
      exact ⟨sound.setsRedundant redId leader, quiet, quiet⟩
  | subscribe env args =>
      obtain rfl := Option.some.inj stepped
      rw [List.append_nil]
      exact ⟨sound.subscribes env args, quiet, quiet⟩
  | resubscribe socket handle args =>
      obtain rfl := Option.some.inj stepped
      rw [List.append_nil]
      exact ⟨sound.resubscribes socket handle args, quiet, quiet⟩
  | unsubscribe handle =>
      obtain rfl := Option.some.inj stepped
      rw [List.append_nil]
      exact ⟨sound.unsubscribes handle, quiet, quiet⟩
  | get handle recv clock pDataSize waiting =>
      obtain ⟨drained, drains, stepped⟩ := Option.bind_eq_some_iff.mp stepped
      obtain ⟨result, reads, rfl⟩ := Option.map_eq_some_iff.mp stepped
      rw [List.append_nil]
      obtain ⟨sound', sent, genuine⟩ := sound.drainsFor (fun found member =>
        (callable.1 found member).brings travels) drains
      obtain ⟨sound'', read⟩ := sound.reads drains sound' reads
      refine ⟨sound'', travels_map sent, fun delivery member => ?_⟩
      rcases List.mem_append.mp member with called | returned
      · exact genuine_map genuine delivery called
      · exact read delivery returned
  | sendQueued env =>
      obtain rfl := Option.some.inj stepped
      rw [List.append_nil]
      obtain ⟨sends, sent⟩ := SessionSound.passes sound.sends env
      exact ⟨⟨sound.marshall, sound.unmarshall, sends, sound.holds⟩, travels_map sent, quiet⟩
  | receive env found =>
      obtain ⟨result, received, rfl⟩ := Option.map_eq_some_iff.mp stepped
      rw [List.append_nil]
      obtain ⟨sound', sent, genuine⟩ := sound.receives (Carries.brings callable.1 travels) received
      exact ⟨sound', travels_map sent, genuine_map genuine⟩
  | handleTimeOuts clock =>
      obtain rfl := Option.some.inj stepped
      rw [List.append_nil]
      obtain ⟨sound', genuine⟩ := sound.timesOut clock
      exact ⟨sound', quiet, genuine_map genuine⟩

/-- What the sessions send, hold and deliver goes back to what the devices were given. -/
theorem device_justified
    : Justified deviceStep Callable SessionSound Travels
        fun given delivery => PdDelivery.Genuine given delivery where
  sound_mono _ _ _ grows sound := sound.mono grows
  travels_mono _ _ _ grows travels := travels.mono grows
  right_mono _ _ _ grows genuine other := (genuine other).imp_left fun member => grows member
  keeps _ _ _ _ _ sound travels callable stepped :=
    deviceStep_keeps sound travels callable stepped

theorem DeviceConfig.session_sound (config : DeviceConfig) : SessionSound [] config.session where
  marshall := rfl
  unmarshall := rfl
  sends _ member := absurd member List.not_mem_nil
  holds _ member := absurd member List.not_mem_nil

variable {ι : Type*} [DecidableEq ι]
  {net : Network ι TrdpSession (List U8) (U32 × List U8) PdDelivery}

/-- However many devices call each other in whatever order, and whatever the network loses, repeats,
delays and damages in a way that the check sum tells: all data that are ever delivered for a comId,
some device was given for it before.
-/
theorem delivered_given (configs : ι → DeviceConfig) (calls : List (ι × DeviceCall))
    (callable
      : Along (faulting (Network.step deviceStep)) (BeforeFault (Network.Admits Callable))
        (some (Network.start fun i => (configs i).session)) calls)
    (reached
      : run (faulting (Network.step deviceStep)) (some (Network.start fun i => (configs i).session))
          calls
        = some net)
    : ∀ delivery ∈ net.delivered, delivery.Genuine net.given :=
  device_justified.delivered (fun i => (configs i).session_sound) callable reached

/-- Devices without defaults of their own, one at each address. -/
def plainDevices (i : Nat) : DeviceConfig :=
  ⟨0x0a000001 + BitVec.ofNat 32 i, ⟨none, 0, 1000000, .keepLastValue⟩, false, false⟩

/-- One device publishes and sends, another one subscribes. -/
def firstCalls : List (Nat × DeviceCall) :=
  [
    (0, .publish { publishEnv 1 with trdpPdDistribute } (cyclicPublisher (some [1, 2, 3, 4]))),
    (1, .subscribe (subscribeAt (clockAt 0) 1) (polled 0 0)),
    (0, .sendQueued (passAt 8000 44))
  ]

/-- The network after these calls, unless one of them faults. -/
def sentNetwork : Option (Network Nat TrdpSession (List U8) (U32 × List U8) PdDelivery) :=
  run (faulting (Network.step deviceStep)) (some (Network.start fun i => (plainDevices i).session))
    firstCalls

/-- The subscriber finds the telegram damaged. -/
def hears : Nat × DeviceCall :=
  (1, .receive (receiveAt (clockAt 8001))
    (.datagram (List.zipWith (· ^^^ ·) firstTelegram.wire (burstError ++ [0, 0, 0, 0])) 0x0a000001
      0xef000001))

/-- It reads, and finds it as it was sent. -/
def reads : Nat × DeviceCall :=
  (1, .get 1 (fun _ => receiveAt (clockAt 8002)) (clockAt 8002) (some 4)
    [.datagram firstTelegram.wire 0x0a000001 0xef000001])

/-- The network after all of these calls. -/
def calledNetwork : Network Nat TrdpSession (List U8) (U32 × List U8) PdDelivery :=
  (run (faulting (Network.step deviceStep))
    (some (Network.start fun i => (plainDevices i).session)) (firstCalls ++ [hears, reads])).get
    (by decide +kernel)

theorem delivered_given_calls
    : calledNetwork.delivered = [⟨.noErr, 1000, [1, 2, 3, 4]⟩]
      ∧ ∀ delivery ∈ calledNetwork.delivered, delivery.Genuine calledNetwork.given := by
  have burst : Detectable ((burstError ++ [0, 0, 0, 0]).take trdpMinPdHeaderSize) :=
    .inl ⟨32, 272, bitsOfBytes [0xff, 0x81], by decide +kernel, by decide +kernel, by decide +kernel⟩
  have sent : sentNetwork.map Network.wires = some [firstTelegram.wire] := by decide +kernel
  have still : (faulting (Network.step deviceStep) sentNetwork hears).map Network.wires
      = some [firstTelegram.wire] := by
    decide +kernel
  refine ⟨by decide +kernel, delivered_given plainDevices (firstCalls ++ [hears, reads]) ?_ ?_⟩
  · refine (along_append firstCalls [hears, reads]).mpr ⟨⟨?_, ?_, ?_, trivial⟩, ?_, ?_, trivial⟩
    · exact fun _ _ => ⟨rfl, fun bytes same => by cases same; decide⟩
    · exact fun _ _ => trivial
    · exact fun _ _ => trivial
    · intro net reached
      have wires : net.wires = [firstTelegram.wire] :=
        Option.some.inj ((congrArg (Option.map Network.wires) reached).symm.trans sent)
      refine ⟨.damaged _ _ ?_ (by decide +kernel) burst _ _, fun _ _ _ => Nat.zero_le _⟩
      rw [wires]
      exact List.mem_singleton_self _
    · intro net reached
      refine ⟨fun found member => ?_, fun _ _ _ _ => Nat.zero_le _⟩
      have wires : net.wires = [firstTelegram.wire] :=
        Option.some.inj ((congrArg (Option.map Network.wires) reached).symm.trans still)
      obtain rfl := List.mem_singleton.mp member
      refine .whole _ ?_ _ _
      rw [wires]
      exact List.mem_singleton_self _
  · exact (Option.some_get _).symm

end TsnTrdp.Trdp
