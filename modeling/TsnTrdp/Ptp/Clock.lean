import TsnTrdp.Tadma.Registers

/-! The PTP clock: a counter that runs freely, and the offset registers that `xlnx_ptp_settime` and
`xlnx_ptp_adjtime` write. The time that the clock displays is the sum of both.
-/

namespace TsnTrdp.Ptp.Clock

open TsnTrdp.Tadma (U32)

structure Timespec64 where
  tvSec : Int
  tvNsec : Int
  deriving DecidableEq, Repr

/-- In nanoseconds. -/
def Timespec64.total (ts : Timespec64) : Int := ts.tvSec * 1000000000 + ts.tvNsec

/-- `set_normalized_timespec64`: the nanoseconds are brought below a second, and are not negative.
-/
def setNormalizedTimespec64 (sec nsec : Int) : Timespec64 :=
  ⟨sec + nsec / 1000000000, nsec % 1000000000⟩

def timespec64Add (lhs rhs : Timespec64) : Timespec64 :=
  setNormalizedTimespec64 (lhs.tvSec + rhs.tvSec) (lhs.tvNsec + rhs.tvNsec)

def timespec64Sub (lhs rhs : Timespec64) : Timespec64 :=
  setNormalizedTimespec64 (lhs.tvSec - rhs.tvSec) (lhs.tvNsec - rhs.tvNsec)

def nsToTimespec64 (nsec : Int) : Timespec64 := setNormalizedTimespec64 0 nsec

/-- The counter, in nanoseconds, and the registers of the offset. -/
structure XlnxPtpTimer where
  raw : Nat
  rtcOffsetSecH : U32
  rtcOffsetSecL : U32
  rtcOffsetNs : U32
  deriving DecidableEq, Repr

def XlnxPtpTimer.offset (timer : XlnxPtpTimer) : Nat :=
  (timer.rtcOffsetSecH.toNat * 2 ^ 32 + timer.rtcOffsetSecL.toNat) * 1000000000
    + timer.rtcOffsetNs.toNat

/-- The time that the clock displays, in nanoseconds. -/
def XlnxPtpTimer.displayed (timer : XlnxPtpTimer) : Nat := timer.raw + timer.offset

/-- The registers of the current time; the seconds are those of the lower one. -/
def xlnxTodRead (timer : XlnxPtpTimer) : Timespec64 :=
  ⟨(timer.displayed / 1000000000 % 2 ^ 32 : Nat), (timer.displayed % 1000000000 : Nat)⟩

def xlnxRtcOffsetWrite (timer : XlnxPtpTimer) (ts : Timespec64) : XlnxPtpTimer :=
  { timer with
    rtcOffsetSecH := 0
    rtcOffsetSecL := BitVec.ofInt 32 ts.tvSec
    rtcOffsetNs := BitVec.ofInt 32 ts.tvNsec }

def xlnxRtcOffsetRead (timer : XlnxPtpTimer) : Timespec64 :=
  ⟨timer.rtcOffsetSecL.toNat, timer.rtcOffsetNs.toNat⟩

def xlnxPtpAdjtime (timer : XlnxPtpTimer) (delta : Int) : XlnxPtpTimer :=
  let adjusted := nsToTimespec64 delta
  let now := xlnxRtcOffsetRead timer
  xlnxRtcOffsetWrite timer (timespec64Add now adjusted)

def xlnxPtpSettime (timer : XlnxPtpTimer) (ts : Timespec64) : XlnxPtpTimer :=
  let timer := xlnxRtcOffsetWrite timer ⟨0, 0⟩
  let tod := xlnxTodRead timer
  let delta := timespec64Sub ts tod
  let written : Timespec64 :=
    if delta.tvSec ≤ 0 then ⟨0, if delta.tvNsec < 0 then 0 else delta.tvNsec⟩ else delta
  xlnxRtcOffsetWrite timer written

inductive ClockCall
  | settime (ts : Timespec64)
  | adjtime (delta : Int)
  deriving DecidableEq, Repr

def clockStep (timer : XlnxPtpTimer) : ClockCall → XlnxPtpTimer
  | .settime ts => xlnxPtpSettime timer ts
  | .adjtime delta => xlnxPtpAdjtime timer delta

/-- A normalised time of which the seconds fit a register. -/
structure Timespec64.Fits (ts : Timespec64) : Prop where
  sec_nonneg : 0 ≤ ts.tvSec
  sec_lt : ts.tvSec < 2 ^ 32
  nsec_nonneg : 0 ≤ ts.tvNsec
  nsec_lt : ts.tvNsec < 1000000000

/-- What may be asked of the clock: such a time, or a change that does not make the offset negative.
-/
def Asked (timer : XlnxPtpTimer) : ClockCall → Prop
  | .settime ts => ts.Fits
  | .adjtime delta => 0 ≤ timer.offset + delta

/-- The displayed time becomes the one asked for, or that of the counter where this is later; or it
changes by what was asked for.
-/
def CallRight (timer : XlnxPtpTimer) (call : ClockCall) : Prop :=
  match call with
  | .settime ts =>
      let next := clockStep timer call
      (timer.raw ≤ ts.total → next.displayed = ts.total)
      ∧ (ts.total < timer.raw → next.displayed = timer.raw ∧ next.offset = 0)
  | .adjtime delta => (clockStep timer call).displayed = timer.displayed + delta

/-- The time is not before the counter's, or before it by whole seconds of the lower register; or
the offset will fit the lower register.
-/
def CallFits (timer : XlnxPtpTimer) : ClockCall → Prop
  | .settime ts =>
      timer.raw ≤ ts.total
      ∨ ts.tvNsec = timer.raw % 1000000000 ∧ ts.tvSec ≤ timer.raw / 1000000000 % 2 ^ 32
  | .adjtime delta => timer.offset + delta < 2 ^ 32 * 1000000000

theorem setNormalizedTimespec64_eq (sec nsec : Int)
    : setNormalizedTimespec64 sec nsec
      = ⟨(sec * 1000000000 + nsec) / 1000000000, (sec * 1000000000 + nsec) % 1000000000⟩ := by
  have quotient : sec + nsec / 1000000000 = (sec * 1000000000 + nsec) / 1000000000 := by omega
  have remainder : nsec % 1000000000 = (sec * 1000000000 + nsec) % 1000000000 := by omega
  rw [setNormalizedTimespec64, quotient, remainder]

theorem timespec64Sub_eq (lhs rhs : Timespec64)
    : timespec64Sub lhs rhs
      = ⟨(lhs.total - rhs.total) / 1000000000, (lhs.total - rhs.total) % 1000000000⟩ := by
  have difference : (lhs.tvSec - rhs.tvSec) * 1000000000 + (lhs.tvNsec - rhs.tvNsec)
      = lhs.total - rhs.total := by
    simp only [Timespec64.total]
    omega
  rw [timespec64Sub, setNormalizedTimespec64_eq, difference]

theorem timespec64Add_ns (now : Timespec64) (delta : Int)
    : timespec64Add now (nsToTimespec64 delta)
      = ⟨(now.total + delta) / 1000000000, (now.total + delta) % 1000000000⟩ := by
  have sum : (now.tvSec + (0 + delta / 1000000000)) * 1000000000
        + (now.tvNsec + delta % 1000000000)
      = now.total + delta := by
    simp only [Timespec64.total]
    omega
  rw [timespec64Add, setNormalizedTimespec64_eq, nsToTimespec64, setNormalizedTimespec64]
  dsimp only
  rw [sum]

/-- The seconds that are written lose what the lower register does not hold. -/
theorem xlnxRtcOffsetWrite_offset (timer : XlnxPtpTimer) (ts : Timespec64)
    (nonneg : 0 ≤ ts.tvNsec) (below : ts.tvNsec < 1000000000)
    : ((xlnxRtcOffsetWrite timer ts).offset : Int)
      = ts.tvSec % 2 ^ 32 * 1000000000 + ts.tvNsec := by
  have high : (0 : U32).toNat = 0 := rfl
  simp only [xlnxRtcOffsetWrite, XlnxPtpTimer.offset, BitVec.toNat_ofInt, high]
  omega

/-- What `xlnx_ptp_settime` reads of the counter. -/
theorem xlnxTodRead_zero (timer : XlnxPtpTimer)
    : xlnxTodRead (xlnxRtcOffsetWrite timer ⟨0, 0⟩)
      = ⟨(timer.raw / 1000000000 % 2 ^ 32 : Nat), (timer.raw % 1000000000 : Nat)⟩ := by
  have zero : (xlnxRtcOffsetWrite timer ⟨0, 0⟩).offset = 0 := by
    have write := xlnxRtcOffsetWrite_offset timer ⟨0, 0⟩ le_rfl (by decide)
    exact Int.natCast_eq_zero.mp (write.trans (by decide))
  have raw : (xlnxRtcOffsetWrite timer ⟨0, 0⟩).raw = timer.raw := rfl
  rw [xlnxTodRead, XlnxPtpTimer.displayed, zero, raw, Nat.add_zero]

/-- How far a time is ahead of what is read of the counter. -/
def XlnxPtpTimer.ahead (timer : XlnxPtpTimer) (ts : Timespec64) : Int :=
  ts.total
    - (timer.raw / 1000000000 % 2 ^ 32 * 1000000000 + timer.raw % 1000000000 : Nat)

/-- Where the time is not ahead by a second, the nanoseconds of the difference are kept. -/
theorem xlnxPtpSettime_offset (timer : XlnxPtpTimer) (ts : Timespec64)
    : ((xlnxPtpSettime timer ts).offset : Int)
      = if timer.ahead ts / 1000000000 ≤ 0 then timer.ahead ts % 1000000000
        else timer.ahead ts / 1000000000 % 2 ^ 32 * 1000000000 + timer.ahead ts % 1000000000 := by
  have delta : timespec64Sub ts (xlnxTodRead (xlnxRtcOffsetWrite timer ⟨0, 0⟩))
      = ⟨timer.ahead ts / 1000000000, timer.ahead ts % 1000000000⟩ := by
    rw [timespec64Sub_eq, xlnxTodRead_zero]
    rfl
  have nonneg : 0 ≤ timer.ahead ts % 1000000000 := by omega
  have below : timer.ahead ts % 1000000000 < 1000000000 := by omega
  simp only [xlnxPtpSettime]
  -- a normalised difference has no negative nanoseconds, so the second clamp is never met
  rw [delta, if_neg (not_lt.mpr nonneg)]
  by_cases within : timer.ahead ts / 1000000000 ≤ 0
  · -- the seconds are cleared, the nanoseconds of the difference stay
    rw [if_pos within, if_pos within, xlnxRtcOffsetWrite_offset _ _ nonneg below]
    simp
  · rw [if_neg within, if_neg within, xlnxRtcOffsetWrite_offset _ _ nonneg below]

theorem xlnxPtpAdjtime_offset (timer : XlnxPtpTimer) (delta : Int)
    : ((xlnxPtpAdjtime timer delta).offset : Int)
      = ((xlnxRtcOffsetRead timer).total + delta) / 1000000000 % 2 ^ 32 * 1000000000
        + ((xlnxRtcOffsetRead timer).total + delta) % 1000000000 := by
  have nonneg : 0 ≤ ((xlnxRtcOffsetRead timer).total + delta) % 1000000000 := by omega
  have below : ((xlnxRtcOffsetRead timer).total + delta) % 1000000000 < 1000000000 := by omega
  simp only [xlnxPtpAdjtime]
  rw [timespec64Add_ns, xlnxRtcOffsetWrite_offset timer _ nonneg below]

theorem settime_right (timer : XlnxPtpTimer) {ts : Timespec64} (fits : ts.Fits)
    : CallRight timer (.settime ts) ↔ CallFits timer (.settime ts) := by
  have offset := xlnxPtpSettime_offset timer ts
  have raw : (xlnxPtpSettime timer ts).raw = timer.raw := rfl
  obtain ⟨secNonneg, secLt, nsecNonneg, nsecLt⟩ := fits
  have ahead : timer.ahead ts
      = ts.tvSec * 1000000000 + ts.tvNsec
        - (timer.raw / 1000000000 % 2 ^ 32 * 1000000000 + timer.raw % 1000000000 : Nat) := rfl
  simp only [CallRight, CallFits, clockStep, XlnxPtpTimer.displayed, raw, Timespec64.total]
  by_cases within : timer.ahead ts / 1000000000 ≤ 0
  · rw [if_pos within] at offset
    omega
  · rw [if_neg within] at offset
    omega

theorem adjtime_right (timer : XlnxPtpTimer) {delta : Int} (nonneg : 0 ≤ timer.offset + delta)
    : CallRight timer (.adjtime delta) ↔ CallFits timer (.adjtime delta) := by
  have offset := xlnxPtpAdjtime_offset timer delta
  have raw : (xlnxPtpAdjtime timer delta).raw = timer.raw := rfl
  have before : (timer.offset : Int)
      = timer.rtcOffsetSecH.toNat * (2 ^ 32 * 1000000000) + (xlnxRtcOffsetRead timer).total := by
    simp only [XlnxPtpTimer.offset, xlnxRtcOffsetRead, Timespec64.total]
    omega
  simp only [CallRight, CallFits, clockStep, XlnxPtpTimer.displayed, raw]
  omega

/-- For every counter and all offset registers: setting a normalised time with 32-bit seconds, and a
change that leaves the offset non-negative, do what was asked for exactly if the time is not before
the counter's, or before it by whole seconds, and the offset stays below 2 ^ 32 seconds.
-/
theorem clock_call_right (timer : XlnxPtpTimer) (call : ClockCall) (asked : Asked timer call)
    : CallRight timer call ↔ CallFits timer call := by
  cases call with
  | settime ts => exact settime_right timer asked
  | adjtime delta => exact adjtime_right timer asked

/-- The counter at ten seconds, with no offset. -/
def atTenSeconds : XlnxPtpTimer := ⟨10000000000, 0, 0, 0⟩

theorem clock_call_right_ten_seconds
    : CallRight atTenSeconds (.settime ⟨12, 500⟩) ∧ CallRight atTenSeconds (.adjtime 7) :=
  ⟨(clock_call_right atTenSeconds (.settime ⟨12, 500⟩)
      ⟨by decide, by decide, by decide, by decide⟩).mpr (.inl (by decide)),
    (clock_call_right atTenSeconds (.adjtime 7) (by decide : (0 : Int) ≤ _)).mpr
      (by decide : (_ : Int) < _)⟩

/-- Set half a second back, the clock goes half a second forward. -/
theorem earlier_time_adds_nanoseconds
    : (clockStep atTenSeconds (.settime ⟨9, 500000000⟩)).displayed = 10500000000
      ∧ ¬ CallRight atTenSeconds (.settime ⟨9, 500000000⟩) := by
  have displayed : (clockStep atTenSeconds (.settime ⟨9, 500000000⟩)).displayed = 10500000000 := by
    decide
  refine ⟨displayed, fun right => ?_⟩
  have kept := (right.2 (by decide)).1
  rw [displayed] at kept
  cases kept

end TsnTrdp.Ptp.Clock
