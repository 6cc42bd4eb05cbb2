import Mathlib.Tactic.Linarith

/-! Time values of the TRDP stack, as `struct timeval` and the `timer` macros have them. -/

namespace TsnTrdp.Trdp

/-- `TRDP_TIME_T`. -/
structure TrdpTime where
  tvSec : Int
  tvUsec : Int
  deriving DecidableEq, Repr

namespace TrdpTime

/-- `timerisset`. -/
def IsSet (t : TrdpTime) : Prop := t.tvSec ≠ 0 ∨ t.tvUsec ≠ 0

instance (t : TrdpTime) : Decidable t.IsSet := inferInstanceAs (Decidable (_ ∨ _))

/-- `timerclear`. -/
def cleared : TrdpTime := ⟨0, 0⟩

/-- `timercmp(a, b, >)`. -/
def After (a b : TrdpTime) : Prop :=
  if a.tvSec = b.tvSec then a.tvUsec > b.tvUsec else a.tvSec > b.tvSec

instance (a b : TrdpTime) : Decidable (a.After b) := inferInstanceAs (Decidable (ite _ _ _))

/-- `timeradd`. -/
def timeradd (a b : TrdpTime) : TrdpTime :=
  let tvSec := a.tvSec + b.tvSec
  let tvUsec := a.tvUsec + b.tvUsec
  if tvUsec ≥ 1000000 then ⟨tvSec + 1, tvUsec - 1000000⟩ else ⟨tvSec, tvUsec⟩

/-- `timersub`. -/
def timersub (a b : TrdpTime) : TrdpTime :=
  let tvSec := a.tvSec - b.tvSec
  let tvUsec := a.tvUsec - b.tvUsec
  if tvUsec < 0 then ⟨tvSec - 1, tvUsec + 1000000⟩ else ⟨tvSec, tvUsec⟩

/-- A time as microseconds. -/
def usecs (t : TrdpTime) : Int := t.tvSec * 1000000 + t.tvUsec

/-- A normalised time that is not negative. -/
structure Normal (t : TrdpTime) : Prop where
  sec : 0 ≤ t.tvSec
  usec : 0 ≤ t.tvUsec
  carry : t.tvUsec < 1000000

end TrdpTime

open TrdpTime

/-- `vos_addTime`. -/
def vosAddTime (time add : TrdpTime) : TrdpTime := timeradd time add

/-- `vos_subTime`. -/
def vosSubTime (time sub : TrdpTime) : TrdpTime := timersub time sub

/-- `vos_cmpTime`. -/
def vosCmpTime (time cmp : TrdpTime) : Int :=
  if time.After cmp then 1 else if cmp.After time then -1 else 0

/-- What `vos_getTime` reads. -/
structure Clock where
  time : TrdpTime
  normal : time.Normal

variable {a b t : TrdpTime}

@[simp] theorem TrdpTime.not_after_self {a : TrdpTime} : ¬ a.After a := by simp [After]

theorem TrdpTime.after_lex
    : a.After b ↔ b.tvSec < a.tvSec ∨ (a.tvSec = b.tvSec ∧ b.tvUsec < a.tvUsec) := by
  unfold After
  split <;> omega

theorem TrdpTime.after_iff (ha : a.Normal) (hb : b.Normal) : a.After b ↔ b.usecs < a.usecs := by
  obtain ⟨-, aUsec, aCarry⟩ := ha
  obtain ⟨-, bUsec, bCarry⟩ := hb
  unfold After usecs
  split <;> omega

theorem TrdpTime.isSet_iff (h : t.Normal) : t.IsSet ↔ 0 < t.usecs := by
  obtain ⟨sec, usec, -⟩ := h
  unfold IsSet usecs
  omega

@[simp] theorem TrdpTime.usecs_cleared : cleared.usecs = 0 := rfl

theorem TrdpTime.normal_cleared : cleared.Normal := ⟨le_rfl, le_rfl, by decide⟩

@[simp] theorem usecs_vosAddTime (time add : TrdpTime)
    : (vosAddTime time add).usecs = time.usecs + add.usecs := by
  unfold vosAddTime timeradd usecs
  dsimp only
  split <;> dsimp only <;> omega

theorem normal_vosAddTime (ha : a.Normal) (hb : b.Normal) : (vosAddTime a b).Normal := by
  obtain ⟨aSec, aUsec, aCarry⟩ := ha
  obtain ⟨bSec, bUsec, bCarry⟩ := hb
  unfold vosAddTime timeradd
  dsimp only
  split
  · refine ⟨?_, ?_, ?_⟩ <;> dsimp only <;> omega
  · refine ⟨?_, ?_, ?_⟩ <;> dsimp only <;> omega

@[simp] theorem usecs_vosSubTime (time sub : TrdpTime)
    : (vosSubTime time sub).usecs = time.usecs - sub.usecs := by
  unfold vosSubTime timersub usecs
  dsimp only
  split <;> dsimp only <;> omega

theorem vosCmpTime_pos_iff : vosCmpTime a b > 0 ↔ a.After b := by
  unfold vosCmpTime
  split <;> [skip; split] <;> simp_all

theorem vosCmpTime_neg_iff : vosCmpTime a b < 0 ↔ b.After a := by
  unfold vosCmpTime
  split
  · next later =>
      rw [after_lex] at *
      omega
  · split <;> simp_all

theorem vosCmpTime_nonpos_iff (ha : a.Normal) (hb : b.Normal)
    : vosCmpTime a b ≤ 0 ↔ a.usecs ≤ b.usecs := by
  by_cases later : a.After b
  · have gt := (after_iff ha hb).mp later
    simp only [vosCmpTime, if_pos later]
    omega
  · have le := mt (after_iff ha hb).mpr later
    simp only [vosCmpTime, if_neg later]
    split <;> omega

/-- A number of microseconds as seconds and microseconds, the way the interface splits one. -/
def TrdpTime.ofUsecs (count : Nat) : TrdpTime := ⟨(count / 1000000 : Nat), (count % 1000000 : Nat)⟩

@[simp] theorem TrdpTime.usecs_ofUsecs (count : Nat) : (ofUsecs count).usecs = count := by
  unfold ofUsecs usecs
  dsimp only
  omega

theorem TrdpTime.normal_ofUsecs (count : Nat) : (ofUsecs count).Normal := by
  unfold ofUsecs
  refine ⟨?_, ?_, ?_⟩ <;> dsimp only <;> omega

end TsnTrdp.Trdp
