import TsnTrdp.Trdp.Time

/-! Process data frames: the header with its check sum, what a datagram leaves in a frame
buffer, and the check that every received frame has to pass.
-/

namespace TsnTrdp.Trdp

abbrev U8 : Type := BitVec 8
abbrev U16 : Type := BitVec 16
abbrev U32 : Type := BitVec 32

/-- The result codes that process data uses. -/
inductive TrdpErr
  | noErr
  | paramErr
  | noinitErr
  | timeoutErr
  | nodataErr
  | sockErr
  | ioErr
  | memErr
  | mutexErr
  | blockErr
  | nosubErr
  | nopubErr
  | crcErr
  | wireErr
  | topoErr
  | comidErr
  | stateErr
  | marshallingErr
  deriving DecidableEq, Repr

def trdpProtoVer : U16 := 0x0100
def trdpProtocolVersionCheckMask : U16 := 0xFF00
def trdpMinPdHeaderSize : Nat := 40
def trdpMaxPdDataSize : Nat := 1432
def trdpMaxPdPacketSize : Nat := trdpMaxPdDataSize + trdpMinPdHeaderSize

def trdpMsgPd : U16 := 0x5064
def trdpMsgPp : U16 := 0x5070
def trdpMsgPr : U16 := 0x5072
def trdpMsgPe : U16 := 0x5065

/-- `fcs_table`. -/
def fcsTable : List U32 :=
  [
    0x00000000, 0x77073096, 0xee0e612c, 0x990951ba, 0x076dc419, 0x706af48f, 0xe963a535, 0x9e6495a3,
    0x0edb8832, 0x79dcb8a4, 0xe0d5e91e, 0x97d2d988, 0x09b64c2b, 0x7eb17cbd, 0xe7b82d07, 0x90bf1d91,
    0x1db71064, 0x6ab020f2, 0xf3b97148, 0x84be41de, 0x1adad47d, 0x6ddde4eb, 0xf4d4b551, 0x83d385c7,
    0x136c9856, 0x646ba8c0, 0xfd62f97a, 0x8a65c9ec, 0x14015c4f, 0x63066cd9, 0xfa0f3d63, 0x8d080df5,
    0x3b6e20c8, 0x4c69105e, 0xd56041e4, 0xa2677172, 0x3c03e4d1, 0x4b04d447, 0xd20d85fd, 0xa50ab56b,
    0x35b5a8fa, 0x42b2986c, 0xdbbbc9d6, 0xacbcf940, 0x32d86ce3, 0x45df5c75, 0xdcd60dcf, 0xabd13d59,
    0x26d930ac, 0x51de003a, 0xc8d75180, 0xbfd06116, 0x21b4f4b5, 0x56b3c423, 0xcfba9599, 0xb8bda50f,
    0x2802b89e, 0x5f058808, 0xc60cd9b2, 0xb10be924, 0x2f6f7c87, 0x58684c11, 0xc1611dab, 0xb6662d3d,
    0x76dc4190, 0x01db7106, 0x98d220bc, 0xefd5102a, 0x71b18589, 0x06b6b51f, 0x9fbfe4a5, 0xe8b8d433,
    0x7807c9a2, 0x0f00f934, 0x9609a88e, 0xe10e9818, 0x7f6a0dbb, 0x086d3d2d, 0x91646c97, 0xe6635c01,
    0x6b6b51f4, 0x1c6c6162, 0x856530d8, 0xf262004e, 0x6c0695ed, 0x1b01a57b, 0x8208f4c1, 0xf50fc457,
    0x65b0d9c6, 0x12b7e950, 0x8bbeb8ea, 0xfcb9887c, 0x62dd1ddf, 0x15da2d49, 0x8cd37cf3, 0xfbd44c65,
    0x4db26158, 0x3ab551ce, 0xa3bc0074, 0xd4bb30e2, 0x4adfa541, 0x3dd895d7, 0xa4d1c46d, 0xd3d6f4fb,
    0x4369e96a, 0x346ed9fc, 0xad678846, 0xda60b8d0, 0x44042d73, 0x33031de5, 0xaa0a4c5f, 0xdd0d7cc9,
    0x5005713c, 0x270241aa, 0xbe0b1010, 0xc90c2086, 0x5768b525, 0x206f85b3, 0xb966d409, 0xce61e49f,
    0x5edef90e, 0x29d9c998, 0xb0d09822, 0xc7d7a8b4, 0x59b33d17, 0x2eb40d81, 0xb7bd5c3b, 0xc0ba6cad,
    0xedb88320, 0x9abfb3b6, 0x03b6e20c, 0x74b1d29a, 0xead54739, 0x9dd277af, 0x04db2615, 0x73dc1683,
    0xe3630b12, 0x94643b84, 0x0d6d6a3e, 0x7a6a5aa8, 0xe40ecf0b, 0x9309ff9d, 0x0a00ae27, 0x7d079eb1,
    0xf00f9344, 0x8708a3d2, 0x1e01f268, 0x6906c2fe, 0xf762575d, 0x806567cb, 0x196c3671, 0x6e6b06e7,
    0xfed41b76, 0x89d32be0, 0x10da7a5a, 0x67dd4acc, 0xf9b9df6f, 0x8ebeeff9, 0x17b7be43, 0x60b08ed5,
    0xd6d6a3e8, 0xa1d1937e, 0x38d8c2c4, 0x4fdff252, 0xd1bb67f1, 0xa6bc5767, 0x3fb506dd, 0x48b2364b,
    0xd80d2bda, 0xaf0a1b4c, 0x36034af6, 0x41047a60, 0xdf60efc3, 0xa867df55, 0x316e8eef, 0x4669be79,
    0xcb61b38c, 0xbc66831a, 0x256fd2a0, 0x5268e236, 0xcc0c7795, 0xbb0b4703, 0x220216b9, 0x5505262f,
    0xc5ba3bbe, 0xb2bd0b28, 0x2bb45a92, 0x5cb36a04, 0xc2d7ffa7, 0xb5d0cf31, 0x2cd99e8b, 0x5bdeae1d,
    0x9b64c2b0, 0xec63f226, 0x756aa39c, 0x026d930a, 0x9c0906a9, 0xeb0e363f, 0x72076785, 0x05005713,
    0x95bf4a82, 0xe2b87a14, 0x7bb12bae, 0x0cb61b38, 0x92d28e9b, 0xe5d5be0d, 0x7cdcefb7, 0x0bdbdf21,
    0x86d3d2d4, 0xf1d4e242, 0x68ddb3f8, 0x1fda836e, 0x81be16cd, 0xf6b9265b, 0x6fb077e1, 0x18b74777,
    0x88085ae6, 0xff0f6a70, 0x66063bca, 0x11010b5c, 0x8f659eff, 0xf862ae69, 0x616bffd3, 0x166ccf45,
    0xa00ae278, 0xd70dd2ee, 0x4e048354, 0x3903b3c2, 0xa7672661, 0xd06016f7, 0x4969474d, 0x3e6e77db,
    0xaed16a4a, 0xd9d65adc, 0x40df0b66, 0x37d83bf0, 0xa9bcae53, 0xdebb9ec5, 0x47b2cf7f, 0x30b5ffe9,
    0xbdbdf21c, 0xcabac28a, 0x53b39330, 0x24b4a3a6, 0xbad03605, 0xcdd70693, 0x54de5729, 0x23d967bf,
    0xb3667a2e, 0xc4614ab8, 0x5d681b02, 0x2a6f2b94, 0xb40bbe37, 0xc30c8ea1, 0x5a05df1b, 0x2d02ef8d
  ]

def initFcs : U32 := 0xffffffff

/-- `vos_crc32`. -/
def vosCrc32 (crc : U32) (data : List U8) : U32 :=
  ~~~ data.foldl
    (fun crc byte =>
      (crc >>> 8) ^^^ fcsTable.getD ((crc ^^^ byte.setWidth 32) &&& 0xff).toNat 0)
    crc

/-- `PD_HEADER_T`, in host order. -/
structure PdHeader where
  sequenceCounter : U32
  protocolVersion : U16
  msgType : U16
  comId : U32
  etbTopoCnt : U32
  opTrnTopoCnt : U32
  datasetLength : U32
  reserved : U32
  replyComId : U32
  replyIpAddress : U32
  frameCheckSum : U32
  deriving DecidableEq, Repr

/-- A word in network order. -/
def be16 (word : U16) : List U8 := [word.extractLsb' 8 8, word.extractLsb' 0 8]

def be32 (word : U32) : List U8 :=
  [word.extractLsb' 24 8, word.extractLsb' 16 8, word.extractLsb' 8 8, word.extractLsb' 0 8]

/-- The header as it lies in memory; the check sum is little-endian. -/
def PdHeader.bytes (head : PdHeader) : List U8 :=
  be32 head.sequenceCounter ++ be16 head.protocolVersion ++ be16 head.msgType
    ++ be32 head.comId ++ be32 head.etbTopoCnt ++ be32 head.opTrnTopoCnt
    ++ be32 head.datasetLength ++ be32 head.reserved ++ be32 head.replyComId
    ++ be32 head.replyIpAddress ++ (be32 head.frameCheckSum).reverse

def read16 (bytes : List U8) (at' : Nat) : U16 := bytes.getD at' 0 ++ bytes.getD (at' + 1) 0

def read32 (bytes : List U8) (at' : Nat) : U32 := read16 bytes at' ++ read16 bytes (at' + 2)

/-- The header that memory holds. -/
def PdHeader.ofBytes (bytes : List U8) : PdHeader where
  sequenceCounter := read32 bytes 0
  protocolVersion := read16 bytes 4
  msgType := read16 bytes 6
  comId := read32 bytes 8
  etbTopoCnt := read32 bytes 12
  opTrnTopoCnt := read32 bytes 16
  datasetLength := read32 bytes 20
  reserved := read32 bytes 24
  replyComId := read32 bytes 28
  replyIpAddress := read32 bytes 32
  frameCheckSum := read32 ((bytes.drop 36).take 4).reverse 0

/-- The check sum of the fields before it. -/
def PdHeader.fcs (head : PdHeader) : U32 := vosCrc32 initFcs (head.bytes.take 36)

/-- `PD_PACKET_T`. -/
structure PdPacket where
  frameHead : PdHeader
  data : List U8
  deriving DecidableEq, Repr

/-- Zeroed memory for a frame of `size` bytes of data. -/
def PdPacket.zero (size : Nat) : PdPacket := ⟨⟨0, 0, 0, 0, 0, 0, 0, 0, 0, 0, 0⟩, .replicate size 0⟩

/-- The frame after `bytes` were written to its start. -/
def PdPacket.store (frame : PdPacket) (bytes : List U8) : PdPacket where
  frameHead :=
    .ofBytes (bytes.take trdpMinPdHeaderSize ++ frame.frameHead.bytes.drop bytes.length)
  data :=
    bytes.drop trdpMinPdHeaderSize ++ frame.data.drop (bytes.length - trdpMinPdHeaderSize)

/-- `trdp_packetSizePD`. -/
def trdpPacketSizePd (dataSize : U32) : U32 :=
  if dataSize = 0 then 40
  else if dataSize &&& 0x3 ≠ 0 then 40 + dataSize + (4 - dataSize % 4)
  else 40 + dataSize

/-- `trdp_pdCheck`. -/
def trdpPdCheck (head : PdHeader) (packetSize : Nat) : TrdpErr :=
  if packetSize < trdpMinPdHeaderSize ∨ trdpMaxPdPacketSize < packetSize then .wireErr
  else if head.frameCheckSum ≠ head.fcs then .crcErr
  else if
    head.protocolVersion &&& trdpProtocolVersionCheckMask
        ≠ trdpProtoVer &&& trdpProtocolVersionCheckMask
      ∨ trdpMaxPdDataSize < head.datasetLength.toNat then
    .wireErr
  else if
    head.msgType ≠ trdpMsgPd ∧ head.msgType ≠ trdpMsgPp ∧ head.msgType ≠ trdpMsgPr
      ∧ head.msgType ≠ trdpMsgPe then
    .wireErr
  else .noErr

end TsnTrdp.Trdp
