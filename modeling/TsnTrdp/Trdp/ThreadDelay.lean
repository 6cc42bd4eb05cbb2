import TsnTrdp.Lib.Loop
import TsnTrdp.Trdp.SendThread

/-! The delay of a thread. It goes on as long as `errno` says that a sleep was interrupted, which a
sleep that comes to its end does not take back.
-/

namespace TsnTrdp.Trdp

open TsnTrdp.Run TsnTrdp.Loop

def eintr : Int := 4

structure Timespec where
  tvSec : Nat
  tvNsec : Nat
  deriving DecidableEq, Repr

/-- A time as nanoseconds. -/
def Timespec.nsecs (t : Timespec) : Nat := t.tvSec * 1000000000 + t.tvNsec

/-- So many nanoseconds, normalised. -/
def Timespec.ofNsecs (count : Nat) : Timespec := ⟨count / 1000000000, count % 1000000000⟩

/-- What `nanosleep` returns, what it leaves in `errno` and in its second argument, and how long it
has slept.
-/
structure Nanosleep where
  ret : Int
  errno : Int
  remaining : Timespec
  slept : Nat
  deriving DecidableEq, Repr

/-- `nanosleep`, to its end or to a signal that arrives after so many nanoseconds. -/
def nanosleep (signal : Option Nat) (errno : Int) (wanted remaining : Timespec) : Nanosleep :=
  match signal with
  | none => ⟨0, errno, remaining, wanted.nsecs⟩
  | some after =>
      ⟨-1, eintr, .ofNsecs (wanted.nsecs - after), min after wanted.nsecs⟩

/-- `vos_threadDelay`: `errno`, the two times, how long was slept and how often. -/
structure Delaying where
  errno : Int
  wantedDelay : Timespec
  remainingDelay : Timespec
  slept : Nat
  sleeps : Nat
  deriving DecidableEq, Repr

/-- `vos_threadDelay`: one round of its loop, where `signals` has the signal of each sleep. -/
def delayRound (signals : Nat → Option Nat) (s : Delaying) : Delaying :=
  let result := nanosleep (signals s.sleeps) s.errno s.wantedDelay s.remainingDelay
  { errno := result.errno
    wantedDelay :=
      if result.ret = -1 ∧ result.errno = eintr then result.remaining else s.wantedDelay
    remainingDelay := result.remaining
    slept := s.slept + result.slept
    sleeps := s.sleeps + 1 }

def delaysAgain (s : Delaying) : Bool := s.errno = eintr

/-- `vos_threadDelay` as its loop begins. -/
def Delaying.start (delay : U32) (errno : Int) : Delaying where
  errno
  wantedDelay := ⟨(delay / 1000000).toNat, (delay % 1000000).toNat * 1000⟩
  remainingDelay := ⟨0, 0⟩
  slept := 0
  sleeps := 0

/-- The results of `vos_threadDelay`. -/
inductive VosErr
  | noErr
  | paramErr
  deriving DecidableEq, Repr

/-- What a delay meets: the result of `sched_yield`, and the signals that arrive while it sleeps. -/
structure DelayEnv where
  schedYield : Int
  signals : Nat → Option Nat

/-- `vos_threadDelay`, for `fuel` rounds of its loop at most. -/
def vosThreadDelay (fuel : Nat) (env : DelayEnv) (delay : U32) (errno : Int)
    : Option (VosErr × Delaying) :=
  if delay = 0 then
    some (if env.schedYield ≠ 0 then .paramErr else .noErr, .start delay errno)
  else
    (doWhile (delayRound env.signals) delaysAgain fuel (.start delay errno)).map (VosErr.noErr, ·)

/-- The delay returns with this `errno`, and has slept for the time asked for, and not more. -/
def Delays (env : DelayEnv) (delay : U32) (errno errno' : Int) : Prop :=
  ∃ fuel err s, vosThreadDelay fuel env delay errno = some (err, s) ∧ s.errno = errno'
    ∧ s.slept = delay.toNat * 1000

/-- There is nothing to sleep for, or `errno` does not say that a sleep was interrupted and the
first sleep is not.
-/
def DelayFits (env : DelayEnv) (delay : U32) (errno : Int) : Prop :=
  delay = 0 ∨ errno ≠ eintr ∧ env.signals 0 = none

instance (env : DelayEnv) (delay : U32) (errno : Int) : Decidable (DelayFits env delay errno) :=
  inferInstanceAs (Decidable (_ ∨ _))

variable {env : DelayEnv} {delay : U32} {errno errno' : Int}

theorem nsecs_start (delay : U32) (errno : Int)
    : (Delaying.start delay errno).wantedDelay.nsecs = delay.toNat * 1000 := by
  have million : (1000000 : U32).toNat = 1000000 := rfl
  simp only [Delaying.start, Timespec.nsecs, BitVec.toNat_udiv, BitVec.toNat_umod, million]
  omega

/-- Once `errno` says that a sleep was interrupted, every round leads to another. -/
theorem not_ends_of_eintr {signals : Nat → Option Nat} {s final : Delaying}
    (interrupted : s.errno = eintr)
    : ¬ Ends (delayRound signals) delaysAgain s final := by
  have goes : ∀ s : Delaying, s.errno = eintr
      → delaysAgain (delayRound signals s) = true ∧ (delayRound signals s).errno = eintr := by
    intro s interrupted
    have still : (delayRound signals s).errno = eintr := by
      unfold delayRound nanosleep
      cases signals s.sleeps with
      | none => exact interrupted
      | some after => rfl
    exact ⟨decide_eq_true still, still⟩
  exact not_ends_of_invariant goes interrupted

/-- A delay returns exactly if its loop ends, unless there is nothing to sleep for. -/
theorem delays_iff_ends (some : delay ≠ 0)
    : Delays env delay errno errno'
      ↔ ∃ s, Ends (delayRound env.signals) delaysAgain (.start delay errno) s
        ∧ s.errno = errno' ∧ s.slept = delay.toNat * 1000 := by
  simp only [Delays, vosThreadDelay, if_neg some, Ends]
  constructor
  · rintro ⟨fuel, err, s, returns, left, slept⟩
    obtain ⟨s', ends, same⟩ := Option.map_eq_some_iff.mp returns
    obtain rfl := (Prod.mk.inj same).2
    exact ⟨s', ⟨fuel, ends⟩, left, slept⟩
  · rintro ⟨s, ⟨fuel, ends⟩, left, slept⟩
    exact ⟨fuel, .noErr, s, by rw [ends]; rfl, left, slept⟩

/-- A delay returns only where it fits, and leaves `errno` as it was. -/
theorem delays_iff
    : Delays env delay errno errno' ↔ DelayFits env delay errno ∧ errno' = errno := by
  by_cases zero : delay = 0
  · subst zero
    constructor
    · rintro ⟨fuel, err, s, returns, left, -⟩
      rw [vosThreadDelay, if_pos rfl] at returns
      obtain ⟨-, rfl⟩ := Prod.mk.inj (Option.some.inj returns)
      exact ⟨.inl rfl, left.symm⟩
    · rintro ⟨-, rfl⟩
      exact ⟨0, _, .start 0 errno', if_pos rfl, rfl, rfl⟩
  · rw [delays_iff_ends zero]
    by_cases before : errno = eintr
    · refine iff_of_false ?_ ?_
      · rintro ⟨s, ends, -⟩
        exact not_ends_of_eintr before ends
      · rintro ⟨nothing | ⟨other, -⟩, -⟩
        · exact zero nothing
        · exact other before
    cases signal : env.signals 0 with
    | none =>
        -- the first sleep comes to its end
        have first : delayRound env.signals (.start delay errno)
            = { Delaying.start delay errno with slept := delay.toNat * 1000, sleeps := 1 } := by
          have whole := nsecs_start delay errno
          simp only [delayRound, Delaying.start, signal, nanosleep] at whole ⊢
          rw [whole, if_neg fun both => absurd both.1 (by decide), Nat.zero_add]
        have stops : delaysAgain (delayRound env.signals (.start delay errno)) = false := by
          rw [first]
          exact decide_eq_false before
        simp only [ends_iff_of_stop stops, first]
        constructor
        · rintro ⟨s, rfl, rfl, -⟩
          exact ⟨.inr ⟨before, signal⟩, rfl⟩
        · rintro ⟨-, rfl⟩
          exact ⟨_, rfl, rfl, rfl⟩
    | some after =>
        -- it is interrupted, and `errno` says so from then on
        have first : (delayRound env.signals (.start delay errno)).errno = eintr := by
          simp only [delayRound, Delaying.start, signal, nanosleep]
        have again : delaysAgain (delayRound env.signals (.start delay errno)) = true :=
          decide_eq_true first
        refine iff_of_false ?_ ?_
        · rintro ⟨s, ends, -⟩
          rw [ends_iff_of_again again] at ends
          exact not_ends_of_eintr first ends
        · rintro ⟨nothing | ⟨-, silent⟩, -⟩
          · exact zero nothing
          · cases signal.symm.trans silent

-----------------------------------------------------------------------------------------
-- The threads
-----------------------------------------------------------------------------------------

/-- What the delay in a round of a thread meets, and what the thread's other calls make of `errno`
until the next.
-/
structure ThreadEnv where
  delay : DelayEnv
  work : Int → Int

/-- A thread comes back from all of these delays, one after the other. -/
inductive ComesBack : Int → List (U32 × ThreadEnv) → Prop
  | nil {errno : Int} : ComesBack errno []
  | cons {errno errno' : Int} {delay : U32} {env : ThreadEnv} {rest : List (U32 × ThreadEnv)}
    (returns : Delays env.delay delay errno errno') (later : ComesBack (env.work errno') rest)
    : ComesBack errno ((delay, env) :: rest)

/-- `thread_process_pdSend`: the delays of its rounds. -/
def pdSendDelays (s : SendThread) : List (SendRound × ThreadEnv) → List (U32 × ThreadEnv)
  | [] => []
  | (round, env) :: rest =>
      (pdSendDelay round.getInterval s, env) :: pdSendDelays (threadProcessPdSend s round) rest

/-- `thread_process_pdGet`: the delays of its passes. -/
def pdGetDelays (envs : List ThreadEnv) : List (U32 × ThreadEnv) := envs.map ((5000, ·))

/-- `errno` as the next delay of a thread finds it. -/
def errnoStep (errno : Int) (env : ThreadEnv) : Int := env.work errno

/-- `errno` does not say that a sleep was interrupted, and the sleep is not. -/
def Undisturbed (errno : Int) (env : ThreadEnv) : Prop :=
  errno ≠ eintr ∧ env.delay.signals 0 = none

/-- Delays that have something to sleep for return exactly as long as they are undisturbed, by
induction on them.
-/
theorem comesBack_iff {delays : List (U32 × ThreadEnv)} (some : ∀ delay ∈ delays, delay.1 ≠ 0)
    (errno : Int)
    : ComesBack errno delays ↔ Along errnoStep Undisturbed errno (delays.map Prod.snd) := by
  induction delays generalizing errno with
  | nil => exact iff_of_true .nil trivial
  | cons head rest ih =>
      obtain ⟨delay, env⟩ := head
      obtain ⟨first, later⟩ := List.forall_mem_cons.mp some
      have fits : DelayFits env.delay delay errno ↔ Undisturbed errno env := or_iff_right first
      rw [List.map_cons, along_cons, ← fits]
      constructor
      · rintro (_ | ⟨returns, back⟩)
        obtain ⟨undisturbed, rfl⟩ := delays_iff.mp returns
        exact ⟨undisturbed, (ih later _).mp back⟩
      · rintro ⟨undisturbed, back⟩
        exact .cons (delays_iff.mpr ⟨undisturbed, rfl⟩) ((ih later _).mpr back)

/-- The sending thread never sleeps for nothing. -/
theorem pdSendDelay_ne_zero (env : IntervalEnv) (s : SendThread) : pdSendDelay env s ≠ 0 := by
  have delay := pdSendDelay_toNat env s
  have most : maxTv.usecs = 100000 := rfl
  have least : minTv.usecs = 1000 := rfl
  intro zero
  rw [zero] at delay
  rcases limitTv_cases s.tv with ⟨-, -, eq⟩ | ⟨-, eq⟩ | ⟨-, -, eq, sec, above, -⟩
  · rw [eq, most] at delay
    cases delay
  · rw [eq, least] at delay
    cases delay
  · rw [eq, TrdpTime.usecs, sec] at delay
    have none : ((0 : U32).toNat : Int) = 0 := rfl
    omega

theorem pdSendDelays_some (s : SendThread) (rounds : List (SendRound × ThreadEnv))
    : (∀ delay ∈ pdSendDelays s rounds, delay.1 ≠ 0)
      ∧ (pdSendDelays s rounds).map Prod.snd = rounds.map Prod.snd := by
  induction rounds generalizing s with
  | nil => exact ⟨fun _ member => absurd member List.not_mem_nil, rfl⟩
  | cons head rest ih =>
      obtain ⟨later, envs⟩ := ih (threadProcessPdSend s head.1)
      exact ⟨List.forall_mem_cons.mpr ⟨pdSendDelay_ne_zero _ s, later⟩,
        congrArg (head.2 :: ·) envs⟩

/-- A delay returns, having slept for the time asked for and not more, exactly if there is nothing
to sleep for, or `errno` does not say that a sleep was interrupted and the first sleep is not; and
the threads come back to their work exactly as long as that holds of their delays.
-/
theorem thread_delay_ends (errno : Int)
    : (∀ env delay, (∃ errno', Delays env delay errno errno') ↔ DelayFits env delay errno)
      ∧ (∀ s rounds,
          ComesBack errno (pdSendDelays s rounds)
            ↔ Along errnoStep Undisturbed errno (rounds.map Prod.snd))
      ∧ ∀ envs, ComesBack errno (pdGetDelays envs) ↔ Along errnoStep Undisturbed errno envs := by
  refine ⟨fun env delay => ?_, fun s rounds => ?_, fun envs => ?_⟩
  · simp only [delays_iff, exists_and_left, exists_eq, and_true]
  · obtain ⟨some, envs⟩ := pdSendDelays_some s rounds
    rw [comesBack_iff some, envs]
  · have some : ∀ delay ∈ pdGetDelays envs, delay.1 ≠ 0 := by
      intro delay member
      obtain ⟨env, -, rfl⟩ := List.mem_map.mp member
      exact (by decide : (5000 : U32) ≠ 0)
    have same : (pdGetDelays envs).map Prod.snd = envs := by
      rw [pdGetDelays, List.map_map]
      exact List.map_id envs
    rw [comesBack_iff some, same]

/-- One signal, 1 ms after the delay begins. -/
def oneSignal : DelayEnv := ⟨0, fun sleep => if sleep = 0 then some 1000000 else none⟩

/-- The thread that reads does not come back from a delay in which one signal arrives. -/
theorem one_signal_delays_forever
    : (∀ sleep, 1 ≤ sleep → oneSignal.signals sleep = none)
      ∧ ¬ (∃ errno', Delays oneSignal 5000 0 errno')
      ∧ ¬ ComesBack 0 (pdGetDelays [⟨oneSignal, id⟩]) := by
  have never : ∀ errno', ¬ Delays oneSignal 5000 0 errno' := by
    intro errno' returns
    rcases (delays_iff.mp returns).1 with zero | ⟨-, silent⟩
    · exact absurd zero (by decide)
    · cases silent
  refine ⟨fun sleep later => if_neg (by omega), fun ⟨errno', returns⟩ => never errno' returns, ?_⟩
  rintro (_ | ⟨returns, -⟩)
  exact never _ returns

end TsnTrdp.Trdp
