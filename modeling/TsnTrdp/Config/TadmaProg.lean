import TsnTrdp.Tadma.Schedule
import TsnTrdp.Lib.Qsort

/-! The configuration tool: it marks the first setting of the file, sorts by trigger, flushes
the driver, adds each stream and programs the schedule.
-/

namespace TsnTrdp.Config

open TsnTrdp Run Tadma

/-- One element of the `streams` list of the configuration file. -/
structure StreamSetting where
  ip : IpBytes
  comid : U32
  trigger : U32
  count : U32
  deriving DecidableEq, Repr

def StreamSetting.key (setting : StreamSetting) : StreamKey := ⟨setting.ip, setting.comid⟩

/-- The request of element `i`: `start` is `(unsigned char)i ? 0 : 1`. -/
def requestOf (i : Nat) (setting : StreamSetting) : TadmaStream where
  ip := setting.ip
  comid := setting.comid
  trigger := setting.trigger
  count := setting.count
  start := if BitVec.ofNat 8 i ≠ 0 then 0 else 1

/-- `sortbytrigger`: a `u32` difference, returned as `int`. -/
def sortbytrigger (a b : TadmaStream) : Int := (a.trigger - b.trigger).toInt

/-- One add-stream `ioctl` of the loop, with the results so far. -/
def progAdd (lp : TadmaLocal) (s : List (Except Errno Unit) × TadmaState) (stream : TadmaStream)
    : Option (List (Except Errno Unit) × TadmaState) :=
  (axienetTadmaAddStream lp s.2 (.of stream)).map fun out => (s.1 ++ [out.1], out.2)

/-- The tool on the settings of a file, from the driver's state `prior`: the results of its
add-stream requests and the state that it leaves. It gives up before the first request
where the list is empty or a count is too large.
-/
def tadmaProg (lp : TadmaLocal)
    (qsort : (TadmaStream → TadmaStream → Int) → List TadmaStream → List TadmaStream)
    (prior : TadmaState) (settings : List StreamSetting)
    : Option (List (Except Errno Unit) × TadmaState) :=
  if settings = [] ∨ ∃ setting ∈ settings, setting.count > 4 then some ([], prior)
  else
    let stream := qsort sortbytrigger (settings.mapIdx requestOf)
    let flushed := axienetTadmaFlushStream lp prior
    (run (faulting (progAdd lp)) (some ([], flushed)) stream).map fun out =>
      (out.1, axienetTadmaProgram lp out.2)

/-- What is asked of the tool: every add succeeds, every setting gets its own stream id and
its own fetch slot, and the first slots hold the triggers in non-decreasing order.
-/
structure ProgramsAll (lp : TadmaLocal) (settings : List StreamSetting)
    (results : List (Except Errno Unit)) (final : TadmaState)
    : Prop where
  succeeds : results = List.replicate settings.length (.ok ())
  streams
    : ((final.entries lp).map fun e => (e.hashtag, e.tticks, e.count)).Perm
        (settings.map fun setting => (setting.key.hashTag, setting.trigger, setting.count))
  sids : ((final.entries lp).map StreamEntry.sid).Nodup
  sfms : ((final.entries lp).map StreamEntry.sfm).Nodup
  slots
    : ∃ order : List StreamSetting, order.Perm settings
        ∧ order.Pairwise (fun a b => a.trigger ≤ b.trigger)
        ∧ ∀ i setting, order[i]? = some setting
          → (sfmRead final.activeSfm final.regs i).cfg &&& xtadmaStrEntryValid ≠ 0
            ∧ (sfmRead final.activeSfm final.regs i).tticks = setting.trigger / 8

/-- The file is one that the tool programs: its first setting has the smallest trigger, it
has at most 256 settings with triggers less than 2^31 apart, every pair has a chain, and
no two pairs of one chain agree in the address and the low half of the communication id.
-/
structure Programmable (lp : TadmaLocal) (settings : List StreamSetting) : Prop where
  short : settings.length ≤ 256
  first : ∀ a ∈ settings.head?, ∀ b ∈ settings.tail, a.trigger < b.trigger
  close : ∀ a ∈ settings, ∀ b ∈ settings, b.trigger.toNat < a.trigger.toNat + 2 ^ 31
  chained : ∀ a ∈ settings, (tadmaBucket lp a.key.hashTag).isSome = true
  apart
    : ∀ a ∈ settings, ∀ b ∈ settings, tadmaBucket lp a.key.hashTag = tadmaBucket lp b.key.hashTag
      → a.key.SameLow b.key → a.key = b.key

end TsnTrdp.Config
