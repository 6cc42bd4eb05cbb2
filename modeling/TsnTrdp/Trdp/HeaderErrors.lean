import TsnTrdp.Lib.Crc
import TsnTrdp.Trdp.Reception

/-! The check sum of a header: what `vos_crc32` computes, and which errors on the way of a telegram it
finds.
-/

namespace TsnTrdp.Trdp

open TsnTrdp.Crc

/-- The polynomial of IEEE 802.3, lowest bit first. -/
def ieeePoly : U32 := 0xedb88320#32

/-- The bits of bytes, in the order in which they are on the wire. -/
def bitsOfBytes (data : List U8) : List Bool := data.flatMap bitsOf

/-- The table holds what eight single shifts leave of its index. -/
theorem fcsTable_eq : ∀ i < 256, fcsTable.getD i 0 = shifts ieeePoly 8 (BitVec.ofNat 32 i) := by
  decide +kernel

/-- The remainder of the bits of the data, one by one. -/
theorem vosCrc32_eq (crc : U32) (data : List U8)
    : vosCrc32 crc data = ~~~ feed ieeePoly crc (bitsOfBytes data) :=
  congrArg (~~~ ·) (foldl_tableByte (by decide) fcsTable_eq)

/-- The check sum without a table: each byte is added to the low bits, which are then divided off one by
one.
-/
def crc32Bitwise (crc : U32) (data : List U8) : U32 :=
  ~~~ data.foldl (fun crc byte => shifts ieeePoly 8 (crc ^^^ byte.setWidth 32)) crc

/-- The table is an optimisation only. -/
theorem vosCrc32_bitwise (crc : U32) (data : List U8)
    : vosCrc32 crc data = crc32Bitwise crc data := by
  have same : tableByte (fcsTable.getD · 0)
      = fun (crc : U32) (byte : U8) => shifts ieeePoly 8 (crc ^^^ byte.setWidth 32) := by
    funext crc byte
    rw [tableByte_eq (by decide) fcsTable_eq,
      feed_eq_shifts (by rw [bitsOf_length]; decide), bitsOf_length, word_bitsOf]
  exact congrArg (fun step => ~~~ data.foldl step crc) same

theorem ieeePoly_top : ieeePoly.getLsbD (32 - 1) = true := by decide

/-- As far as a header is long. -/
theorem ieeePoly_separates : Separates ieeePoly 319 := by
  decide +kernel

-----------------------------------------------------------------------------------------
-- Headers with their check sum
-----------------------------------------------------------------------------------------

/-- What a header with its check sum leaves. -/
def residue : U32 := shifts ieeePoly 32 (BitVec.allOnes 32)

/-- The check sum is on the wire as its bits are, lowest first. -/
theorem word_be32_reverse (x : U32) : word (bitsOfBytes (be32 x).reverse) = x := by
  refine BitVec.eq_of_getLsbD_eq fun i inside => ?_
  simp only [bitsOfBytes, be32, List.reverse_cons, List.reverse_nil, List.nil_append, List.cons_append,
    List.flatMap_cons, List.flatMap_nil, bitsOf, getLsbD_word, inside, decide_true, Bool.true_and]
  have bits : ∀ i < 32, (List.map (x.extractLsb' 0 8).getLsbD (List.range 8)
      ++ (List.map (x.extractLsb' 8 8).getLsbD (List.range 8)
      ++ (List.map (x.extractLsb' 16 8).getLsbD (List.range 8)
      ++ (List.map (x.extractLsb' 24 8).getLsbD (List.range 8) ++ [])))).getD i false
        = x.getLsbD i := by
    intro i inside
    interval_cases i <;> simp [List.range_succ]
  exact bits i inside

/-- A header carries its check sum exactly if all of it leaves the residue. -/
theorem fcs_iff_residue (head : PdHeader)
    : head.frameCheckSum = head.fcs ↔ feed ieeePoly initFcs (bitsOfBytes head.bytes) = residue := by
  have split : bitsOfBytes head.bytes
      = bitsOfBytes (head.bytes.take 36) ++ bitsOfBytes (be32 head.frameCheckSum).reverse := by
    rw [bitsOfBytes, bitsOfBytes, bitsOfBytes, ← List.flatMap_append]
    rfl
  have length : (bitsOfBytes (be32 head.frameCheckSum).reverse).length = 32 := by
    simp [bitsOfBytes, be32, bitsOf]
  rw [split, feed_append, feed_eq_shifts length.le, length, word_be32_reverse, PdHeader.fcs,
    vosCrc32_eq, residue]
  constructor
  · intro right
    rw [right, ← BitVec.xor_allOnes, ← BitVec.xor_assoc, BitVec.xor_self, BitVec.zero_xor]
  · intro same
    rw [← BitVec.xor_allOnes, ← shifts_injective ieeePoly_top same, ← BitVec.xor_assoc,
      BitVec.xor_self, BitVec.zero_xor]

-----------------------------------------------------------------------------------------
-- Errors on the way
-----------------------------------------------------------------------------------------

/-- What the check sum finds: what is wrong is within 32 bits in a row, or up to three bits. -/
def Detectable (error : List U8) : Prop :=
  Burst 32 (bitsOfBytes error)
    ∨ true ∈ bitsOfBytes error ∧ (bitsOfBytes error).count true ≤ 3

theorem bitsOfBytes_length (data : List U8) : (bitsOfBytes data).length = 8 * data.length := by
  simp [bitsOfBytes, List.length_flatMap, bitsOf_length, Nat.mul_comm]

theorem Detectable.detected {error : List U8} (detectable : Detectable error)
    (whole : error.length = trdpMinPdHeaderSize)
    : feed ieeePoly 0#32 (bitsOfBytes error) ≠ 0#32 := by
  rcases detectable with burst | ⟨some_wrong, few⟩
  · exact burst.detected ieeePoly_top
  · refine ieeePoly_separates.detected ieeePoly_top ?_ some_wrong few
    rw [bitsOfBytes_length, whole]
    decide

/-- Of two headers that differ by a detectable error, one at most carries its check sum. -/
theorem Detectable.fcs_ne {sent received : PdHeader} {error : List U8} (detectable : Detectable error)
    (valid : sent.frameCheckSum = sent.fcs) (whole : error.length = trdpMinPdHeaderSize)
    (differs : received.bytes = List.zipWith (· ^^^ ·) sent.bytes error)
    : received.frameCheckSum ≠ received.fcs := by
  intro passes
  have before := (fcs_iff_residue sent).mp valid
  have after := (fcs_iff_residue received).mp passes
  have same : sent.bytes.length = error.length := sent.length_bytes.trans whole.symm
  have lengths : (bitsOfBytes sent.bytes).length = (bitsOfBytes error).length := by
    rw [bitsOfBytes_length, bitsOfBytes_length, same]
  refine detectable.detected whole ?_
  calc
    feed ieeePoly 0#32 (bitsOfBytes error)
        = residue ^^^ (residue ^^^ feed ieeePoly 0#32 (bitsOfBytes error)) := by
          rw [← BitVec.xor_assoc, BitVec.xor_self, BitVec.zero_xor]
    _ = residue ^^^ feed ieeePoly (initFcs ^^^ 0#32)
          (List.zipWith xor (bitsOfBytes sent.bytes) (bitsOfBytes error)) := by
          rw [feed_xor lengths, before]
    _ = residue ^^^ feed ieeePoly initFcs (bitsOfBytes received.bytes) := by
          rw [BitVec.xor_zero, differs, bitsOfBytes, bitsOfBytes, bitsOfBytes, flatMap_bitsOf_xor same]
    _ = 0#32 := by rw [after, BitVec.xor_self]

-----------------------------------------------------------------------------------------
-- Headers in memory
-----------------------------------------------------------------------------------------

theorem getLsbD_append32 (a b : U16) (i : Nat)
    : (a ++ b : U32).getLsbD i = if i < 16 then b.getLsbD i else a.getLsbD (i - 16) :=
  BitVec.getLsbD_append

theorem getLsbD_append16 (a b : U8) (i : Nat)
    : (a ++ b : U16).getLsbD i = if i < 8 then b.getLsbD i else a.getLsbD (i - 8) :=
  BitVec.getLsbD_append

theorem be16_append (a b : U8) : be16 (a ++ b : U16) = [a, b] := by
  have first : (a ++ b : U16).extractLsb' 8 8 = a := by
    refine BitVec.eq_of_getLsbD_eq fun i inside => ?_
    rw [BitVec.getLsbD_extractLsb', getLsbD_append16, if_neg (by omega), Nat.add_sub_cancel_left,
      decide_eq_true inside, Bool.true_and]
  have second : (a ++ b : U16).extractLsb' 0 8 = b := by
    refine BitVec.eq_of_getLsbD_eq fun i inside => ?_
    rw [BitVec.getLsbD_extractLsb', getLsbD_append16, if_pos (by omega), Nat.zero_add,
      decide_eq_true inside, Bool.true_and]
  rw [be16, first, second]

/-- The bytes of a word are those of its halves. -/
theorem be32_append (a b : U16) : be32 (a ++ b : U32) = be16 a ++ be16 b := by
  have high (k : Nat) (fits : k + 8 ≤ 16)
      : (a ++ b : U32).extractLsb' (16 + k) 8 = a.extractLsb' k 8 := by
    refine BitVec.eq_of_getLsbD_eq fun i inside => ?_
    rw [BitVec.getLsbD_extractLsb', BitVec.getLsbD_extractLsb', getLsbD_append32, if_neg (by omega),
      Nat.add_assoc, Nat.add_sub_cancel_left]
  have low (k : Nat) (fits : k + 8 ≤ 16) : (a ++ b : U32).extractLsb' k 8 = b.extractLsb' k 8 := by
    refine BitVec.eq_of_getLsbD_eq fun i inside => ?_
    rw [BitVec.getLsbD_extractLsb', BitVec.getLsbD_extractLsb', getLsbD_append32, if_pos (by omega)]
  rw [be32, high 8 (by decide), high 0 (by decide), low 8 (by decide), low 0 (by decide)]
  rfl

variable {bytes : List U8} {k : Nat}

/-- A word that is read is stored as it was. -/
theorem be16_read16 (inside : k + 2 ≤ bytes.length) : be16 (read16 bytes k) = (bytes.drop k).take 2 := by
  rw [read16, be16_append, List.getD_eq_getElem?_getD, List.getElem?_eq_getElem (by omega),
    List.getD_eq_getElem?_getD, List.getElem?_eq_getElem (by omega),
    List.drop_eq_getElem_cons (by omega), List.drop_eq_getElem_cons (by omega)]
  rfl

theorem be32_read32 (inside : k + 4 ≤ bytes.length) : be32 (read32 bytes k) = (bytes.drop k).take 4 := by
  rw [read32, be32_append, be16_read16 (by omega), be16_read16 (by omega), ← List.drop_drop,
    ← List.take_add]

/-- The header that memory holds is stored as it was. -/
theorem PdHeader.bytes_ofBytes (whole : bytes.length = trdpMinPdHeaderSize)
    : (PdHeader.ofBytes bytes).bytes = bytes := by
  have long : bytes.length = 40 := whole
  have join (n k : Nat) : bytes.take n ++ (bytes.drop n).take k = bytes.take (n + k) :=
    List.take_add.symm
  have check : ((bytes.drop 36).take 4).reverse.length = 4 := by simp [long]
  have sum : (be32 (read32 ((bytes.drop 36).take 4).reverse 0)).reverse = (bytes.drop 36).take 4 := by
    rw [be32_read32 (by omega), List.drop_zero, List.take_of_length_le (by omega), List.reverse_reverse]
  have start : be32 (read32 bytes 0) = bytes.take 4 := be32_read32 (by omega)
  simp only [PdHeader.bytes, PdHeader.ofBytes]
  rw [sum, start, be16_read16 (by omega), be16_read16 (by omega), be32_read32 (by omega),
    be32_read32 (by omega), be32_read32 (by omega), be32_read32 (by omega), be32_read32 (by omega),
    be32_read32 (by omega), be32_read32 (by omega), join, join, join, join, join, join, join, join, join,
    join]
  exact List.take_of_length_le long.le

/-- A word is made up of its bytes. -/
theorem append_extractLsb16 (x : U16) : (x.extractLsb' 8 8 ++ x.extractLsb' 0 8 : U16) = x := by
  refine BitVec.eq_of_getLsbD_eq fun i inside => ?_
  rw [getLsbD_append16]
  split
  · rw [BitVec.getLsbD_extractLsb', Nat.zero_add, decide_eq_true (by omega), Bool.true_and]
  · rw [BitVec.getLsbD_extractLsb', decide_eq_true (by omega), Bool.true_and]
    congr 1
    omega

theorem append_extractLsb32 (x : U32)
    : ((x.extractLsb' 24 8 ++ x.extractLsb' 16 8 : U16)
        ++ (x.extractLsb' 8 8 ++ x.extractLsb' 0 8 : U16) : U32) = x := by
  refine BitVec.eq_of_getLsbD_eq fun i inside => ?_
  rw [getLsbD_append32]
  split
  · rw [getLsbD_append16]
    split
    · rw [BitVec.getLsbD_extractLsb', Nat.zero_add, decide_eq_true (by omega), Bool.true_and]
    · rw [BitVec.getLsbD_extractLsb', decide_eq_true (by omega), Bool.true_and]
      congr 1
      omega
  · rw [getLsbD_append16]
    split
    · rw [BitVec.getLsbD_extractLsb', decide_eq_true (by omega), Bool.true_and]
      congr 1
      omega
    · rw [BitVec.getLsbD_extractLsb', decide_eq_true (by omega), Bool.true_and]
      congr 1
      omega

/-- The header that was stored is read. -/
theorem PdHeader.ofBytes_bytes (head : PdHeader) : PdHeader.ofBytes head.bytes = head := by
  have check : (PdHeader.bytes head).drop 36 = (be32 head.frameCheckSum).reverse := rfl
  rw [PdHeader.ofBytes, check]
  cases head
  simp only [PdHeader.bytes, be32, be16, read32, read16, PdHeader.mk.injEq, List.cons_append,
    List.nil_append, List.getD_cons_zero, List.getD_cons_succ, List.reverse_cons, List.reverse_nil,
    List.take_succ_cons, List.take_zero]
  exact ⟨append_extractLsb32 _, append_extractLsb16 _, append_extractLsb16 _, append_extractLsb32 _,
    append_extractLsb32 _, append_extractLsb32 _, append_extractLsb32 _, append_extractLsb32 _,
    append_extractLsb32 _, append_extractLsb32 _, append_extractLsb32 _⟩

-----------------------------------------------------------------------------------------
-- Telegrams with errors in their headers
-----------------------------------------------------------------------------------------

theorem pdPrepare_fcs (ele : PdEle)
    : (pdPrepare ele).pFrame.frameHead.frameCheckSum = (pdPrepare ele).pFrame.frameHead.fcs := by
  unfold pdPrepare trdpPdUpdate
  split
  · split <;> rfl
  · split <;> rfl

/-- What is sent for an element is its frame as it was prepared. -/
theorem pdSendTurn_sent {etbTopoCnt opTrnTopoCnt : U32} {now : TrdpTime} {udp : UdpSend}
    {ele : PdEle} {telegram : Telegram}
    (sent : (pdSendTurn etbTopoCnt opTrnTopoCnt now udp ele).telegram = some telegram)
    : telegram.frame = (pdPrepare ele).pFrame ∧ telegram.size = (pdPrepare ele).grossSize := by
  have transmitted : (pdTransmit etbTopoCnt opTrnTopoCnt now udp ele).2.1 = some telegram := by
    unfold pdSendTurn at sent
    split at sent
    · dsimp only at sent
      split at sent <;> exact sent
    · cases sent
  unfold pdTransmit at transmitted
  split at transmitted
  · cases transmitted
  dsimp only at transmitted
  split at transmitted
  · cases transmitted
  split at transmitted
  · cases transmitted
  split at transmitted
  · cases transmitted
  split at transmitted <;> exact (Option.some.inj transmitted) ▸ ⟨rfl, rfl⟩

/-- Every telegram is sent with its check sum. -/
theorem telegram_fcs {env : SendEnv} {session : TrdpSession} {telegram : Telegram}
    (sent : telegram ∈ (trdpPdSendQueued env session).2.2)
    : telegram.frame.frameHead.frameCheckSum = telegram.frame.frameHead.fcs := by
  obtain ⟨k, ele, -, sent⟩ := mem_telegrams.mp sent
  rw [(pdSendTurn_sent sent).1]
  exact pdPrepare_fcs ele

/-- What the header check says of an error that the check sum finds. -/
theorem Detectable.trdpPdCheck {sent received : PdHeader} {error : List U8} {packetSize : Nat}
    (detectable : Detectable error) (valid : sent.frameCheckSum = sent.fcs)
    (whole : error.length = trdpMinPdHeaderSize)
    (differs : received.bytes = List.zipWith (· ^^^ ·) sent.bytes error)
    (long : trdpMinPdHeaderSize ≤ packetSize) (short : packetSize ≤ trdpMaxPdPacketSize)
    : Trdp.trdpPdCheck received packetSize = .crcErr := by
  unfold Trdp.trdpPdCheck
  rw [if_neg (by omega), if_pos (detectable.fcs_ne valid whole differs)]

/-- A telegram whose header is hit on its way by a burst of up to 32 bits, or in up to three bits, is
dropped by every receiver: only its receive buffer and the count of such errors change.
-/
theorem trdpPdReceive_headerError {sendEnv : SendEnv} {sender : TrdpSession} {telegram : Telegram}
    {error payload : List U8} (sent : telegram ∈ (trdpPdSendQueued sendEnv sender).2.2)
    (whole : error.length = trdpMinPdHeaderSize) (detectable : Detectable error) (env : RecvEnv)
    (srcIpAddr destIpAddr : U32) (session : TrdpSession)
    : ∃ pNewFrame,
        trdpPdReceive env
            (.datagram (List.zipWith (· ^^^ ·) telegram.frame.frameHead.bytes error ++ payload)
              srcIpAddr destIpAddr)
            session
          = some
            { err := .crcErr
              session :=
                { session with
                  pNewFrame
                  stats := { session.stats with numCrcErr := session.stats.numCrcErr + 1 } }
              telegrams := []
              callbacks := []
              routed := none
              accepted := false } := by
  have length : (List.zipWith (· ^^^ ·) telegram.frame.frameHead.bytes error).length = 40 := by
    rw [List.length_zipWith, whole, PdHeader.length_bytes, Nat.min_self]
    rfl
  generalize received : List.zipWith (· ^^^ ·) telegram.frame.frameHead.bytes error = bytes at length ⊢
  let datagram : Datagram := ⟨(bytes ++ payload).take trdpMaxPdPacketSize, srcIpAddr, destIpAddr⟩
  have start : datagram.bytes.take trdpMinPdHeaderSize = bytes := by
    rw [List.take_take, List.take_append_of_le_length (by rw [length]; decide)]
    exact List.take_of_length_le (length.le.trans (by decide))
  have long : trdpMinPdHeaderSize ≤ datagram.bytes.length := by
    have both := congrArg List.length start
    rw [List.length_take, length] at both
    exact min_eq_left_iff.mp both
  have short : datagram.bytes.length ≤ trdpMaxPdPacketSize := List.length_take_le _ _
  have arrived : vosSockReceiveUdp (.datagram (bytes ++ payload) srcIpAddr destIpAddr) = .ok datagram :=
    if_neg (by
      intro empty
      rw [List.append_eq_nil_iff] at empty
      rw [empty.1] at length
      cases length)
  have differs : (session.pNewFrame.store datagram.bytes).frameHead.bytes
      = List.zipWith (· ^^^ ·) telegram.frame.frameHead.bytes error := by
    rw [session.pNewFrame.store_frameHead long, Datagram.head, start, PdHeader.bytes_ofBytes length,
      received]
  have checked := detectable.trdpPdCheck (telegram_fcs sent) whole differs long short
  refine ⟨session.pNewFrame.store datagram.bytes, ?_⟩
  simp only [trdpPdReceive, arrived, checked]
  rfl

/-- The first telegram of a publisher. -/
def firstTelegram : Telegram :=
  (trdpPdSendQueued (passAt 8000 44) (publishedSession (some [1, 2, 3, 4]))).2.2.get
    ⟨0, by decide +kernel⟩

/-- Ten bits are wrong, within two bytes. -/
def burstError : List U8 := List.replicate 4 0 ++ [0xff, 0x81] ++ List.replicate 34 0

theorem trdpPdReceive_headerError_burst
    : ∃ pNewFrame,
        trdpPdReceive (receiveAt (clockAt 8001))
            (.datagram
              (List.zipWith (· ^^^ ·) firstTelegram.frame.frameHead.bytes burstError ++ [1, 2, 3, 4])
              0x0a000001 0xef000001)
            polledSession
          = some
            { err := .crcErr
              session :=
                { polledSession with
                  pNewFrame
                  stats := { polledSession.stats with numCrcErr := polledSession.stats.numCrcErr + 1 } }
              telegrams := []
              callbacks := []
              routed := none
              accepted := false } :=
  trdpPdReceive_headerError (List.get_mem _ _) (by simp [burstError, trdpMinPdHeaderSize])
    (.inl ⟨32, 272, bitsOfBytes [0xff, 0x81], by decide +kernel, by decide +kernel, by decide +kernel⟩)
    _ _ _ _

end TsnTrdp.Trdp
