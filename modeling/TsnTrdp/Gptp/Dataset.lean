import Mathlib

/-! The data sets of grandmasters that a clock hears of, and how two of them are compared. -/

namespace TsnTrdp.Gptp

abbrev U8 : Type := BitVec 8
abbrev U16 : Type := BitVec 16

/-- `struct ClockIdentity`: eight octets as a number, the first one highest. -/
abbrev ClockIdentity : Type := BitVec 64

structure PortIdentity where
  clockIdentity : ClockIdentity
  portNumber : U16
  deriving DecidableEq, Repr

/-- The octets in memory, as `memcmp` goes through them. Port numbers are little-endian. -/
def PortIdentity.octets (id : PortIdentity) : BitVec 80 :=
  id.clockIdentity ++ (id.portNumber.extractLsb' 0 8 ++ id.portNumber.extractLsb' 8 8 : U16)

/-- The sign of `memcmp`. -/
def memcmp {w : Nat} (a b : BitVec w) : Int := if a < b then -1 else if b < a then 1 else 0

structure ClockQuality where
  clockClass : U8
  clockAccuracy : U8
  offsetScaledLogVariance : U16
  deriving DecidableEq, Repr

/-- `struct dataset`. -/
structure Dataset where
  priority1 : U8
  identity : ClockIdentity
  quality : ClockQuality
  priority2 : U8
  localPriority : U8
  stepsRemoved : U16
  sender : PortIdentity
  receiver : PortIdentity
  deriving DecidableEq, Repr

def aBetterTopo : Int := 2
def aBetter : Int := 1
def bBetter : Int := -1
def bBetterTopo : Int := -2

/-- `dscmp2`. -/
def dscmp2 (a b : Dataset) : Int :=
  let A := a.stepsRemoved.toNat
  let B := b.stepsRemoved.toNat
  if A + 1 < B then aBetter
  else if B + 1 < A then bBetter
  else if A < B then
    let diff := memcmp b.receiver.octets b.sender.octets
    if diff < 0 then aBetter else if diff > 0 then aBetterTopo else 0
  else if A > B then
    let diff := memcmp a.receiver.octets a.sender.octets
    if diff < 0 then bBetter else if diff > 0 then bBetterTopo else 0
  else
    let diff := memcmp a.sender.octets b.sender.octets
    if diff < 0 then aBetterTopo
    else if diff > 0 then bBetterTopo
    else if a.receiver.portNumber < b.receiver.portNumber then aBetterTopo
    else if a.receiver.portNumber > b.receiver.portNumber then bBetterTopo
    else 0

/-- One field decides, or `rest` does. -/
def orElseBy {w : Nat} (a b : BitVec w) (rest : Int) : Int :=
  if a < b then aBetter else if a > b then bBetter else rest

/-- `dscmp` of two data sets. -/
def compareDatasets (a b : Dataset) : Int :=
  let diff := memcmp a.identity b.identity
  if diff = 0 then dscmp2 a b
  else
    orElseBy a.priority1 b.priority1
    <| orElseBy a.quality.clockClass b.quality.clockClass
    <| orElseBy a.quality.clockAccuracy b.quality.clockAccuracy
    <| orElseBy a.quality.offsetScaledLogVariance b.quality.offsetScaledLogVariance
    <| orElseBy a.priority2 b.priority2
    <| if diff < 0 then aBetter else bBetter

/-- `telecom_dscmp` of two data sets. -/
def compareTelecom (a b : Dataset) : Int :=
  orElseBy a.quality.clockClass b.quality.clockClass
  <| orElseBy a.quality.clockAccuracy b.quality.clockAccuracy
  <| orElseBy a.quality.offsetScaledLogVariance b.quality.offsetScaledLogVariance
  <| orElseBy a.priority2 b.priority2
  <| orElseBy a.localPriority b.localPriority
  <| if a.quality.clockClass.toNat ≤ 127 then dscmp2 a b
    else
      let diff := memcmp a.identity b.identity
      if diff = 0 then dscmp2 a b else if diff < 0 then aBetter else bBetter

/-- Any data set is better than none. -/
def comparePointers (compare : Dataset → Dataset → Int) : Option Dataset → Option Dataset → Int
  | none, none => 0
  | some _, none => aBetter
  | none, some _ => bBetter
  | some a, some b => compare a b

/-- `dscmp`. -/
def dscmp : Option Dataset → Option Dataset → Int := comparePointers compareDatasets

/-- `telecom_dscmp`. -/
def telecomDscmp : Option Dataset → Option Dataset → Int := comparePointers compareTelecom

end TsnTrdp.Gptp
