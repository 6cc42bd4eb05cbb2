import TsnTrdp.Lib.Memory

/-! Marshalling. A data set of the host, laid out as the compiler lays out its structure, is packed
into network byte order, and unpacked again at the receiver. Data sets nest, and an array can take its
length from the element before it.
-/

namespace TsnTrdp.Marshall

open TsnTrdp.Memory

abbrev U32 : Type := BitVec 32

/-- `TAU_MAX_DS_LEVEL`. -/
def tauMaxDsLevel : Nat := 5

/-- `TDRP_VAR_SIZE`. -/
def tdrpVarSize : U32 := 0

/-- `TRDP_TYPE_MAX`. -/
def trdpTypeMax : U32 := 30

/-- `TRDP_ERR_T`, as far as these functions return it, without `TRDP_NO_ERR`. -/
inductive TrdpErr
  | paramErr
  | comIdErr
  | stateErr
  | marshallingErr
  deriving DecidableEq, Repr

/-- `TRDP_DATASET_ELEMENT_T`, without the texts for its display. -/
structure Element where
  type : U32
  size : U32
  deriving DecidableEq, Repr

/-- `TRDP_DATASET_T`; `numElement` is the length of the list. -/
structure Dataset where
  id : U32
  pElement : List Element
  deriving DecidableEq, Repr

/-- `TAU_MARSHALL_INFO_T`, without the level, and the memory. -/
structure Info where
  pSrc : Nat
  pSrcEnd : Nat
  pDst : Nat
  pDstEnd : Nat
  mem : Bytes

/-- How the types are treated: numbers of 1, 2 or 4 bytes, whose value can be the size of a later
array; numbers of 8 bytes; the two structures for times; and types that nothing is done for.
-/
inductive Kind
  | number (width : Nat)
  | wide
  | timedate48
  | timedate64
  | unknown
  deriving DecidableEq, Repr

/-- The `switch` over `TRDP_DATA_TYPE_T`. -/
def kindOf (type : U32) : Kind :=
  if type = 1 ∨ type = 2 ∨ type = 4 ∨ type = 8 then .number 1 -- BITSET8, CHAR8, INT8, UINT8
  else if type = 3 ∨ type = 5 ∨ type = 9 then .number 2 -- UTF16, INT16, UINT16
  else if type = 6 ∨ type = 10 ∨ type = 12 ∨ type = 14 then .number 4 -- INT32, UINT32, REAL32, TIMEDATE32
  else if type = 15 then .timedate48
  else if type = 16 then .timedate64
  else if type = 7 ∨ type = 11 ∨ type = 13 then .wide -- INT64, UINT64, REAL64
  else .unknown

/-- `alignePtr`: the next address that is a multiple of the alignment. -/
def alignePtr (p alignment : Nat) : Nat := (p + (alignment - 1)) / alignment * alignment

/-- `f` so many times. -/
def times {σ : Type*} (f : σ → σ) : Nat → σ → σ
  | 0, s => s
  | n + 1, s => times f n (f s)

/-- `f` so many times, until it fails. -/
def timesM {σ ε : Type*} (f : σ → Except ε σ) : Nat → σ → Except ε σ
  | 0, s => .ok s
  | n + 1, s => (f s).bind (timesM f n)

-----------------------------------------------------------------------------------------
-- The walk over a data set
-----------------------------------------------------------------------------------------

/-- What the walks differ in: what they do with the items of an element, given `var_size`, and
what they compare with the end of the source. A failed walk keeps its state.
-/
structure Walk (σ : Type*) where
  items : U32 → U32 → U32 → σ → Except (TrdpErr × σ) (σ × U32)
  pSrc : σ → Nat
  pSrcEnd : σ → Nat

variable {σ : Type*}

/-- The loop over the elements, from some element on. The items of a data set are walked over by
`nested`.
-/
def walkElements (walk : Walk σ) (nested : U32 → σ → Except (TrdpErr × σ) σ)
    : List Element → U32 → σ → Except (TrdpErr × σ) σ
  | [], _, s => .ok s
  | element :: rest, varSize, s =>
      if walk.pSrcEnd s > walk.pSrc s then
        let noOfItems := if element.size = tdrpVarSize then varSize else element.size
        if element.type > trdpTypeMax then
          (timesM (nested element.type) noOfItems.toNat s).bind fun s =>
            walkElements walk nested rest varSize s
        else
          (walk.items element.type noOfItems varSize s).bind fun (s, varSize) =>
            walkElements walk nested rest varSize s
      else .ok s

/-- One item that is a data set: it is looked for, and walked over. -/
def nestedDs (findDs : U32 → Option Dataset) (inner : Dataset → σ → Except (TrdpErr × σ) σ)
    (type : U32) (s : σ)
    : Except (TrdpErr × σ) σ :=
  match findDs type with
  | none => .error (.comIdErr, s)
  | some dataset => inner dataset s

/-- `marshallDs` and `unmarshallDs`, by the levels that are left. -/
def walkDs (walk : Walk σ) (findDs : U32 → Option Dataset)
    : Nat → Dataset → σ → Except (TrdpErr × σ) σ
  | 0, _, s => .error (.stateErr, s)
  | levels + 1, dataset, s =>
      let nested := nestedDs findDs (walkDs walk findDs levels)
      (walkElements walk nested dataset.pElement 0 s).bind fun s =>
        if walk.pSrc s > walk.pSrcEnd s then .error (.marshallingErr, s) else .ok s

-----------------------------------------------------------------------------------------
-- marshallDs
-----------------------------------------------------------------------------------------

/-- A number of the host at `pSrc`, in network order at `pDst`. -/
def Info.put (width : Nat) (s : Info) : Info :=
  { s with
    mem := writeNetwork s.mem s.pDst width (read s.mem s.pSrc width)
    pSrc := s.pSrc + width
    pDst := s.pDst + width }

/-- One `TIMEDATE48`: its seconds and ticks, and past the two bytes that end the structure. -/
def Info.putTimedate48 (s : Info) : Info :=
  let s := { s with pSrc := alignePtr s.pSrc 4 }.put 4
  let s := { s with pSrc := alignePtr s.pSrc 2 }.put 2
  { s with pSrc := s.pSrc + 2 }

/-- `(pDst + noOfItems * width) > pInfo->pDstEnd`, the product a `UINT32`. -/
def Info.TooSmall (s : Info) (noOfItems : U32) (width : Nat) : Prop :=
  s.pDst + (noOfItems * BitVec.ofNat 32 width).toNat > s.pDstEnd

instance (s : Info) (noOfItems : U32) (width : Nat) : Decidable (s.TooSmall noOfItems width) :=
  inferInstanceAs (Decidable (_ > _))

/-- The items of an element in `marshallDs`. `var_size` is the first of them. -/
def marshallItems (type noOfItems varSize : U32) (s : Info)
    : Except (TrdpErr × Info) (Info × U32) :=
  match kindOf type with
  | .number width =>
      let aligned := { s with pSrc := alignePtr s.pSrc width }
      if s.TooSmall noOfItems width then .error (.paramErr, s)
      else .ok (times (Info.put width) noOfItems.toNat aligned,
        BitVec.ofNat 32 (read s.mem aligned.pSrc width))
  | .wide =>
      let aligned := { s with pSrc := alignePtr s.pSrc 8 }
      if s.TooSmall noOfItems 8 then .error (.paramErr, s)
      else .ok (times (Info.put 8) noOfItems.toNat aligned, varSize)
  | .timedate48 =>
      if s.TooSmall noOfItems 6 then .error (.paramErr, s)
      else .ok (times Info.putTimedate48 noOfItems.toNat s, varSize)
  | .timedate64 =>
      let aligned := { s with pSrc := alignePtr s.pSrc 4 }
      if s.TooSmall noOfItems 8 then .error (.paramErr, s)
      else .ok (times (fun s => (s.put 4).put 4) noOfItems.toNat aligned, varSize)
  | .unknown => .ok (s, varSize)

def marshallWalk : Walk Info := ⟨marshallItems, Info.pSrc, Info.pSrcEnd⟩

/-- `marshallDs`. -/
def marshallDs (findDs : U32 → Option Dataset) (levels : Nat) (dataset : Dataset) (s : Info)
    : Except (TrdpErr × Info) Info :=
  walkDs marshallWalk findDs levels dataset s

-----------------------------------------------------------------------------------------
-- unmarshallDs
-----------------------------------------------------------------------------------------

/-- A number in network order at `pSrc`, as one of the host at `pDst`. -/
def Info.get (width : Nat) (s : Info) : Info :=
  { s with
    mem := write s.mem s.pDst width (readNetwork s.mem s.pSrc width)
    pSrc := s.pSrc + width
    pDst := s.pDst + width }

def Info.getTimedate48 (s : Info) : Info :=
  let s := { s with pDst := alignePtr s.pDst 4 }.get 4
  let s := { s with pDst := alignePtr s.pDst 2 }.get 2
  { s with pDst := s.pDst + 2 }

/-- The numbers of an element, with the last of them as `var_size`. -/
def getNumber (width : Nat) (state : Info × U32) : Info × U32 :=
  (state.1.get width, BitVec.ofNat 32 (readNetwork state.1.mem state.1.pSrc width))

/-- One `TIMEDATE64`. Each goes to the same place: `pDst` moves on after the last of them. -/
def getTimedate64 (pDst : Nat) (s : Info) : Info :=
  let s := { s with pDst := alignePtr pDst 4 }.get 4
  { s with pDst := alignePtr s.pDst 4 }.get 4

/-- The items of an element in `unmarshallDs`. The room is checked from where `pDst` is before it is
aligned.
-/
def unmarshallItems (type noOfItems varSize : U32) (s : Info)
    : Except (TrdpErr × Info) (Info × U32) :=
  match kindOf type with
  | .number width =>
      let aligned := { s with pDst := alignePtr s.pDst width }
      if s.TooSmall noOfItems width then .error (.paramErr, s)
      else .ok (times (getNumber width) noOfItems.toNat (aligned, varSize))
  | .wide =>
      let aligned := { s with pDst := alignePtr s.pDst 8 }
      if s.TooSmall noOfItems 8 then .error (.paramErr, s)
      else .ok (times (Info.get 8) noOfItems.toNat aligned, varSize)
  | .timedate48 =>
      if s.TooSmall noOfItems 6 then .error (.paramErr, s)
      else .ok (times Info.getTimedate48 noOfItems.toNat s, varSize)
  | .timedate64 =>
      if s.TooSmall noOfItems 8 then .error (.paramErr, s)
      else .ok (times (getTimedate64 s.pDst) noOfItems.toNat s, varSize)
  | .unknown => .ok (s, varSize)

def unmarshallWalk : Walk Info := ⟨unmarshallItems, Info.pSrc, Info.pSrcEnd⟩

/-- `unmarshallDs`. -/
def unmarshallDs (findDs : U32 → Option Dataset) (levels : Nat) (dataset : Dataset) (s : Info)
    : Except (TrdpErr × Info) Info :=
  walkDs unmarshallWalk findDs levels dataset s

-----------------------------------------------------------------------------------------
-- The calls
-----------------------------------------------------------------------------------------

/-- `TRDP_COMID_DSID_MAP_T`. -/
structure ComIdDsIdMap where
  comId : U32
  datasetId : U32
  deriving DecidableEq, Repr

/-- The tables that `tau_initMarshall` sorts and keeps. -/
structure Tables where
  sComIdDsIdMap : List ComIdDsIdMap
  sDataSets : List Dataset

/-- `findDs`: `vos_bsearch` in the sorted table. `pCachedDS` of an element is what this finds. -/
def Tables.findDs (tables : Tables) (datasetId : U32) : Option Dataset :=
  tables.sDataSets.find? (·.id = datasetId)

/-- `findDSFromComId`. -/
def Tables.findDsFromComId (tables : Tables) (comId : U32) : Option Dataset :=
  (tables.sComIdDsIdMap.find? (·.comId = comId)).bind fun entry => tables.findDs entry.datasetId

/-- What a call returns, `none` for `TRDP_NO_ERR`, and stores: `*pDestSize`, `*ppDSPointer` and the
memory.
-/
structure Converted where
  err : Option TrdpErr
  pDestSize : Option U32
  ppDSPointer : Option (Option Dataset)
  mem : Bytes

/-- What a walk leaves, also one that fails. -/
def Converted.ofWalk (pDest : Nat) (ppDSPointer : Option (Option Dataset))
    : Except (TrdpErr × Info) Info → Converted
  | .ok s => ⟨none, some (BitVec.ofNat 32 (s.pDst - pDest)), ppDSPointer, s.mem⟩
  | .error (err, s) => ⟨some err, some (BitVec.ofNat 32 (s.pDst - pDest)), ppDSPointer, s.mem⟩

/-- What the four calls do with the data set that they find. The pointers are 0 for `NULL`, and `none`
stands for a `NULL` of `pDestSize` and `ppDSPointer`.
-/
def Tables.convert (tables : Tables) (walk : Walk Info) (found : Option Dataset) (id : U32)
    (pSrc : Nat) (srcSize : U32) (pDest : Nat) (pDestSize : Option U32)
    (ppDSPointer : Option (Option Dataset)) (mem : Bytes)
    : Converted :=
  match pDestSize with
  | none => ⟨some .paramErr, pDestSize, ppDSPointer, mem⟩
  | some destSize =>
      if id = 0 ∨ pSrc = 0 ∨ pDest = 0 ∨ destSize = 0 then
        ⟨some .paramErr, pDestSize, ppDSPointer, mem⟩
      else
        -- A data set that was found before is used again.
        let ppDSPointer := ppDSPointer.map fun cached => cached.or found
        match ppDSPointer.getD found with
        | none => ⟨some .comIdErr, pDestSize, ppDSPointer, mem⟩
        | some dataset =>
            .ofWalk pDest ppDSPointer (walkDs walk tables.findDs tauMaxDsLevel dataset
              ⟨pSrc, pSrc + srcSize.toNat, pDest, pDest + destSize.toNat, mem⟩)

/-- `tau_marshall`. -/
def Tables.tauMarshall (tables : Tables) (comId : U32) :=
  tables.convert marshallWalk (tables.findDsFromComId comId) comId

/-- `tau_unmarshall`. -/
def Tables.tauUnmarshall (tables : Tables) (comId : U32) :=
  tables.convert unmarshallWalk (tables.findDsFromComId comId) comId

/-- `tau_marshallDs`. -/
def Tables.tauMarshallDs (tables : Tables) (dsId : U32) :=
  tables.convert marshallWalk (tables.findDs dsId) dsId

/-- `tau_unmarshallDs`. -/
def Tables.tauUnmarshallDs (tables : Tables) (dsId : U32) :=
  tables.convert unmarshallWalk (tables.findDs dsId) dsId

end TsnTrdp.Marshall
