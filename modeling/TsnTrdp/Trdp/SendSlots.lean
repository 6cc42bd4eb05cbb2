import TsnTrdp.Trdp.SendSchedule
import TsnTrdp.Trdp.Withdraw

/-! The slots in which publishers start. A comId gives the ten milliseconds of its first telegram by
its remainder to 100, and puts it off by another second by its remainder to 128. Two comIds of one
window meet if they are 100 apart, or 96 across the wrap-around, and are put off alike.
-/

namespace TsnTrdp.Trdp

open TrdpTime

/-- The ten milliseconds that a time lies in. -/
def sendSlot (t : TrdpTime) : Int := t.usecs / 10000

/-- Publications of `n` consecutive comIds as cyclic ones, each in a session as it is then. -/
structure Publications (comId : U32) (n : Nat) where
  env : Nat → PublishEnv
  args : Nat → PublishArgs
  session : Nat → TrdpSession
  comIds : ∀ i < n, (args i).comId = comId + BitVec.ofNat 32 i
  cyclic : ∀ i < n, (args i).interval ≠ 0

variable {comId : U32} {n i j : Nat}

/-- The first time that `tlp_publish` gives to the element of a publication. Where traffic is
shaped, `trdp_pdDistribute` deals with the times after that.
-/
def Publications.StartsAt (calls : Publications comId n) (i : Nat) (t : TrdpTime) : Prop :=
  ∃ socketIdx ele queue,
    Publishes (calls.env i) (calls.args i) (calls.session i) socketIdx ele queue
    ∧ ele.timeToGo = t

/-- The time at which a publication is made. -/
def Publications.now (calls : Publications comId n) (i : Nat) : TrdpTime := (calls.env i).clock.time

/-- All in the same second of the clock. -/
def Publications.OneSecond (calls : Publications comId n) : Prop :=
  ∀ i j, i < j → j < n → (calls.now i).tvSec = (calls.now j).tvSec

/-- One after the other, in less than a second. -/
def Publications.Quick (calls : Publications comId n) : Prop :=
  ∀ i j, i < j → j < n → (calls.now i).usecs ≤ (calls.now j).usecs
    ∧ (calls.now j).usecs < (calls.now i).usecs + 1000000

/-- No two of the publishers start at the same time, nor in the same ten milliseconds. -/
def Publications.Separated (calls : Publications comId n) : Prop :=
  ∀ i j, i < j → j < n → ∀ t t', calls.StartsAt i t → calls.StartsAt j t'
    → t ≠ t' ∧ sendSlot t ≠ sendSlot t'

/-- At most 96 comIds; or a window without a wrap-around, in which every comId that has another 100
after it is put off by another second than that one; or at most 28 comIds before the wrap-around.
-/
def SlotsSpaced (comId : U32) (n : Nat) : Prop :=
  n ≤ 96 ∨
    if comId.toNat + n ≤ 2 ^ 32 then n ≤ 100 ∨ (comId.toNat + 28) % 128 + n ≤ 156
    else 2 ^ 32 ≤ comId.toNat + 28

/-- At most 96 comIds; or a window without a wrap-around, in which every comId that has another 100
after it starts a second earlier than that one.
-/
def SlotsSpacedQuick (comId : U32) (n : Nat) : Prop :=
  n ≤ 96 ∨ comId.toNat + n ≤ 2 ^ 32 ∧ (n ≤ 100 ∨ comId.toNat % 128 + n ≤ 128)

instance (comId : U32) (n : Nat) : Decidable (SlotsSpaced comId n) :=
  inferInstanceAs (Decidable (_ ∨ _))

instance (comId : U32) (n : Nat) : Decidable (SlotsSpacedQuick comId n) :=
  inferInstanceAs (Decidable (_ ∨ _))

theorem usecs_firstTimeToGo (comId : U32) (now : TrdpTime)
    : (firstTimeToGo comId now).usecs
      = ((now.tvSec + 2 + (comId.toNat % 128 / 100 : Nat)) * 100 + (comId.toNat % 100 : Nat))
        * 10000 := by
  unfold firstTimeToGo usecs
  push_cast
  ring

theorem sendSlot_firstTimeToGo (comId : U32) (now : TrdpTime)
    : sendSlot (firstTimeToGo comId now)
      = (now.tvSec + 2 + (comId.toNat % 128 / 100 : Nat)) * 100 + (comId.toNat % 100 : Nat) := by
  rw [sendSlot, usecs_firstTimeToGo, Int.mul_ediv_cancel _ (by decide)]

/-- Two publishers start in the same slot if their comIds name the same one and are put off to the
same second.
-/
theorem sendSlot_eq_iff (comId comId' : U32) (now now' : TrdpTime)
    : sendSlot (firstTimeToGo comId now) = sendSlot (firstTimeToGo comId' now')
      ↔ comId.toNat % 100 = comId'.toNat % 100
        ∧ now.tvSec + (comId.toNat % 128 / 100 : Nat)
          = now'.tvSec + (comId'.toNat % 128 / 100 : Nat) := by
  have small := Nat.mod_lt comId.toNat (show 0 < 100 by decide)
  have small' := Nat.mod_lt comId'.toNat (show 0 < 100 by decide)
  rw [sendSlot_firstTimeToGo, sendSlot_firstTimeToGo]
  omega

/-- What 100 more make of the seconds by which a comId is put off. -/
theorem putOff_hundred (x : Nat)
    : (x + 100) % 128 / 100 = x % 128 / 100 ∧ 28 ≤ x % 128 ∧ x % 128 < 100
      ∨ (x + 100) % 128 / 100 = x % 128 / 100 + 1 ∧ x % 128 < 28
      ∨ (x + 100) % 128 / 100 + 1 = x % 128 / 100 ∧ 100 ≤ x % 128 := by
  omega

theorem toNat_window (comId : U32) (i : Nat)
    : (comId + BitVec.ofNat 32 i).toNat = (comId.toNat + i) % 2 ^ 32 := by
  rw [BitVec.toNat_add, BitVec.toNat_ofNat, Nat.add_mod_mod]

/-- In a window of at most 128, comIds of one hundredth are 100 apart without a wrap-around between
them, or 96 with it.
-/
theorem window_meet (apart : i < j) (near : j < i + 128)
    (hundredth : (comId + BitVec.ofNat 32 i).toNat % 100 = (comId + BitVec.ofNat 32 j).toNat % 100)
    : (comId + BitVec.ofNat 32 j).toNat = (comId + BitVec.ofNat 32 i).toNat + 100 ∧ j = i + 100
      ∨ (comId + BitVec.ofNat 32 i).toNat = 2 ^ 32 - 96 + (comId + BitVec.ofNat 32 j).toNat
        ∧ j = i + 96 := by
  have small := comId.isLt
  rw [toNat_window, toNat_window] at hundredth ⊢
  by_cases wraps : (comId.toNat + i) % 2 ^ 32 + (j - i) < 2 ^ 32
  · have after : (comId.toNat + j) % 2 ^ 32 = (comId.toNat + i) % 2 ^ 32 + (j - i) := by omega
    rw [after] at hundredth ⊢
    omega
  · have after : (comId.toNat + i) % 2 ^ 32 + (j - i) = (comId.toNat + j) % 2 ^ 32 + 2 ^ 32 := by
      omega
    omega

/-- Spaced comIds do not meet while the clock shows one second. -/
theorem SlotsSpaced.apart (spaced : SlotsSpaced comId n) (window : n ≤ 128) {now now' : TrdpTime}
    (second : now.tvSec = now'.tvSec) (apart : i < j) (within : j < n)
    : sendSlot (firstTimeToGo (comId + BitVec.ofNat 32 i) now)
      ≠ sendSlot (firstTimeToGo (comId + BitVec.ofNat 32 j) now') := by
  intro same
  obtain ⟨hundredth, putOff⟩ := (sendSlot_eq_iff _ _ _ _).mp same
  have small := comId.isLt
  unfold SlotsSpaced at spaced
  rcases window_meet apart (by omega) hundredth with ⟨after, rfl⟩ | ⟨across, rfl⟩
  · have later := putOff_hundred (comId + BitVec.ofNat 32 i).toNat
    rw [after] at putOff
    rw [toNat_window] at after later putOff
    rw [toNat_window] at after
    split at spaced <;> omega
  · rw [toNat_window] at across putOff
    rw [toNat_window] at across putOff
    split at spaced <;> omega

/-- Quickly spaced comIds do not meet either when the clock goes on to the next second. -/
theorem SlotsSpacedQuick.apart (spaced : SlotsSpacedQuick comId n) (window : n ≤ 128)
    {now now' : TrdpTime} (order : now.tvSec ≤ now'.tvSec) (apart : i < j) (within : j < n)
    : sendSlot (firstTimeToGo (comId + BitVec.ofNat 32 i) now)
      ≠ sendSlot (firstTimeToGo (comId + BitVec.ofNat 32 j) now') := by
  intro same
  obtain ⟨hundredth, putOff⟩ := (sendSlot_eq_iff _ _ _ _).mp same
  have small := comId.isLt
  unfold SlotsSpacedQuick at spaced
  rcases window_meet apart (by omega) hundredth with ⟨after, rfl⟩ | ⟨across, rfl⟩
  · have later := putOff_hundred (comId + BitVec.ofNat 32 i).toNat
    rw [after] at putOff
    rw [toNat_window] at after later putOff
    rw [toNat_window] at after
    omega
  · rw [toNat_window] at across putOff
    rw [toNat_window] at across putOff
    omega

theorem Publications.StartsAt.eq {calls : Publications comId n} {t : TrdpTime}
    (starts : calls.StartsAt i t) (within : i < n)
    : t = firstTimeToGo (comId + BitVec.ofNat 32 i) (calls.now i) := by
  obtain ⟨socketIdx, ele, queue, publishes, rfl⟩ := starts
  rw [publishes.keeps.timeToGo, ← calls.comIds i within]
  exact if_neg (calls.cyclic i within)

theorem Publications.separated_of_apart {calls : Publications comId n}
    (apart : ∀ i j, i < j → j < n
      → sendSlot (firstTimeToGo (comId + BitVec.ofNat 32 i) (calls.now i))
        ≠ sendSlot (firstTimeToGo (comId + BitVec.ofNat 32 j) (calls.now j)))
    : calls.Separated := by
  intro i j before within t t' starts starts'
  have slots := apart i j before within
  rw [← starts.eq (before.trans within), ← starts'.eq within] at slots
  exact ⟨fun same => slots (congrArg sendSlot same), slots⟩

/-- Publications for which nothing fails, up to one at one time and after that at another. -/
def publicationsAt (comId : U32) (n i : Nat) (clock clock' : Clock) : Publications comId n where
  env m :=
    { publishEnv m with
      clock := if m ≤ i then clock else clock'
      trdpPdDistribute }
  args m := { cyclicPublisher none with comId := comId + BitVec.ofNat 32 m }
  session _ := openedSession
  comIds _ _ := rfl
  cyclic _ _ := show (100000 : U32) ≠ 0 by decide

theorem publicationsAt_startsAt (comId : U32) (n i m : Nat) (clock clock' : Clock)
    : (publicationsAt comId n i clock clock').StartsAt m
        (firstTimeToGo (comId + BitVec.ofNat 32 m)
          ((publicationsAt comId n i clock clock').now m)) := by
  have asks : PublishAsks ((publicationsAt comId n i clock clock').env m)
      ((publicationsAt comId n i clock clock').args m) openedSession :=
    ⟨show ¬ ((100000 : U32) ≠ 0 ∧ (100000 : U32).toNat < trdpTimerGranularity) by decide, rfl, rfl⟩
  obtain ⟨queue, retimed, unshaped, eq⟩ := tlpPublish_queued asks rfl rfl rfl
  have keeps := publishedEle_keeps ((publicationsAt comId n i clock clock').env m)
    ((publicationsAt comId n i clock clock').args m) openedSession 0
  exact ⟨0, _, queue, ⟨asks, rfl, rfl, keeps, retimed, unshaped, congrArg Prod.snd eq⟩,
    keeps.timeToGo⟩

/-- Where two comIds meet, their publishers start in one slot. -/
theorem publicationsAt_not_separated (comId : U32) {n : Nat} (clock clock' : Clock) (apart : i < j)
    (within : j < n)
    (same : sendSlot (firstTimeToGo (comId + BitVec.ofNat 32 i) clock.time)
      = sendSlot (firstTimeToGo (comId + BitVec.ofNat 32 j) clock'.time))
    : ¬ (publicationsAt comId n i clock clock').Separated := by
  intro separated
  refine (separated i j apart within _ _ (publicationsAt_startsAt ..)
    (publicationsAt_startsAt ..)).2 ?_
  have first : (publicationsAt comId n i clock clock').now i = clock.time := by
    simp [Publications.now, publicationsAt]
  have second : (publicationsAt comId n i clock clock').now j = clock'.time := by
    simp [Publications.now, publicationsAt, Nat.not_le.mpr apart]
  rw [first, second]
  exact same

theorem publicationsAt_oneSecond (comId : U32) (n i : Nat) {clock clock' : Clock}
    (second : clock.time.tvSec = clock'.time.tvSec)
    : (publicationsAt comId n i clock clock').OneSecond := by
  intro m m' _ _
  dsimp only [Publications.now, publicationsAt]
  split <;> split <;> simp_all

theorem publicationsAt_quick (comId : U32) (n i : Nat) {clock clock' : Clock}
    (order : clock.time.usecs ≤ clock'.time.usecs)
    (quick : clock'.time.usecs < clock.time.usecs + 1000000)
    : (publicationsAt comId n i clock clock').Quick := by
  intro m m' before _
  dsimp only [Publications.now, publicationsAt]
  split <;> split <;> omega

/-- ComIds that are not spaced meet while the clock shows one second. -/
theorem meet_of_not_spaced (window : n ≤ 128) (unspaced : ¬ SlotsSpaced comId n) (now : TrdpTime)
    : ∃ i j, i < j ∧ j < n
        ∧ sendSlot (firstTimeToGo (comId + BitVec.ofNat 32 i) now)
          = sendSlot (firstTimeToGo (comId + BitVec.ofNat 32 j) now) := by
  have small := comId.isLt
  unfold SlotsSpaced at unspaced
  rw [not_or] at unspaced
  obtain ⟨long, unspaced⟩ := unspaced
  split at unspaced
  · rw [not_or] at unspaced
    let i := 56 - (comId.toNat + 28) % 128
    have early : i + 100 < n := by omega
    refine ⟨i, i + 100, by omega, early, (sendSlot_eq_iff _ _ _ _).mpr ?_⟩
    rw [toNat_window, toNat_window]
    omega
  · let i := 2 ^ 32 - comId.toNat - 96
    have early : i + 96 < n := by omega
    refine ⟨i, i + 96, by omega, early, (sendSlot_eq_iff _ _ _ _).mpr ?_⟩
    rw [toNat_window, toNat_window]
    omega

/-- ComIds that are not quickly spaced meet at the turn of a second, if not before. -/
theorem meet_of_not_spacedQuick (window : n ≤ 128) (unspaced : ¬ SlotsSpacedQuick comId n)
    : ∃ i j, i < j ∧ j < n ∧ ∃ clock clock' : Clock,
        clock.time.usecs ≤ clock'.time.usecs ∧ clock'.time.usecs < clock.time.usecs + 1000000
        ∧ sendSlot (firstTimeToGo (comId + BitVec.ofNat 32 i) clock.time)
          = sendSlot (firstTimeToGo (comId + BitVec.ofNat 32 j) clock'.time) := by
  by_cases spaced : SlotsSpaced comId n
  · let clock : Clock := ⟨⟨0, 999999⟩, by decide, by decide, by decide⟩
    let clock' : Clock := ⟨⟨1, 0⟩, by decide, by decide, by decide⟩
    have small := comId.isLt
    unfold SlotsSpacedQuick at unspaced
    unfold SlotsSpaced at spaced
    rw [not_or] at unspaced
    obtain ⟨long, unspaced⟩ := unspaced
    split at spaced
    · rename_i straight
      let i := 28 - comId.toNat % 128
      have early : i + 100 < n := by omega
      refine ⟨i, i + 100, by omega, early, clock, clock', by decide, by decide,
        (sendSlot_eq_iff _ _ _ _).mpr ?_⟩
      rw [toNat_window, toNat_window]
      dsimp only [clock, clock']
      omega
    · refine ⟨0, 96, by omega, by omega, clock, clock', by decide, by decide,
        (sendSlot_eq_iff _ _ _ _).mpr ?_⟩
      rw [toNat_window, toNat_window]
      dsimp only [clock, clock']
      omega
  · let clock : Clock := ⟨.cleared, normal_cleared⟩
    obtain ⟨i, j, apart, within, same⟩ := meet_of_not_spaced window spaced clock.time
    exact ⟨i, j, apart, within, clock, clock, le_rfl, by omega, same⟩

/-- The publishers of at most 128 consecutive comIds start apart exactly if the comIds are spaced:
those published in the same second of the clock, and those published in less than a second.
-/
theorem initial_slots_separated (comId : U32) {n : Nat} (window : n ≤ 128)
    : ((∀ calls : Publications comId n, calls.OneSecond → calls.Separated) ↔ SlotsSpaced comId n)
      ∧ ((∀ calls : Publications comId n, calls.Quick → calls.Separated)
        ↔ SlotsSpacedQuick comId n) := by
  constructor
  · constructor
    · intro separated
      by_contra unspaced
      let clock : Clock := ⟨.cleared, normal_cleared⟩
      obtain ⟨i, j, apart, within, same⟩ := meet_of_not_spaced window unspaced clock.time
      exact publicationsAt_not_separated comId clock clock apart within same
        (separated _ (publicationsAt_oneSecond comId n i rfl))
    · intro spaced calls second
      exact Publications.separated_of_apart fun i j apart within =>
        spaced.apart window (second i j apart within) apart within
  · constructor
    · intro separated
      by_contra unspaced
      obtain ⟨i, j, apart, within, clock, clock', order, quick, same⟩ :=
        meet_of_not_spacedQuick window unspaced
      exact publicationsAt_not_separated comId clock clock' apart within same
        (separated _ (publicationsAt_quick comId n i order quick))
    · intro spaced calls quick
      refine Publications.separated_of_apart fun i j apart within => ?_
      have order := (quick i j apart within).1
      have normal := (calls.env i).clock.normal
      have normal' := (calls.env j).clock.normal
      refine spaced.apart window ?_ apart within
      obtain ⟨-, usec, carry⟩ := normal
      obtain ⟨-, usec', carry'⟩ := normal'
      unfold usecs Publications.now at *
      omega

/-- One hundred comIds from 1000 on, which do not wrap around, the second half of them published
400 ms after the first.
-/
theorem initial_slots_separated_hundred
    : (publicationsAt 1000 100 49 ⟨⟨5, 0⟩, by decide, by decide, by decide⟩
        ⟨⟨5, 400000⟩, by decide, by decide, by decide⟩).Separated :=
  (initial_slots_separated 1000 (by decide)).2.mpr (by decide) _
    (publicationsAt_quick 1000 100 49 (by decide) (by decide))

/-- The comIds 28 and 128 name the first slot of a second, and neither is put off. -/
theorem slots_28_128_meet
    : ¬ ∀ calls : Publications 28 101, calls.OneSecond → calls.Separated := by
  intro separated
  let clock : Clock := ⟨⟨5, 0⟩, by decide, by decide, by decide⟩
  exact publicationsAt_not_separated (i := 0) (j := 100) 28 clock clock (by decide) (by decide)
    (by decide) (separated _ (publicationsAt_oneSecond 28 101 0 rfl))

end TsnTrdp.Trdp
