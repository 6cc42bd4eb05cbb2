import TsnTrdp.Switch.FdbEvents

/-! The work queue as a list of pending changes: each has its two allocated blocks and its
reference, and applying them all to the CAM gives what the notifications ask for.
-/

namespace TsnTrdp.Switch.Fdb

open TsnTrdp Run Blocks

-----------------------------------------------------------------------------------------
-- What is asked of a run
-----------------------------------------------------------------------------------------

def Notification.key (n : Notification) : CamKey := ⟨n.addr, n.vid.setWidth 12⟩

/-- A notification of an added or deleted entry that finds memory for its work. -/
def Notification.Caught (n : Notification) : Prop :=
  n.workAllocated = true ∧ (n.event = .fdbAddToDevice ∨ n.event = .fdbDelToDevice)

instance (n : Notification) : Decidable n.Caught := inferInstanceAs (Decidable (_ ∧ _))

/-- An event that this driver handles, about one of its own ports and an entry with that key. -/
def Design.About (design : Design) (key : CamKey) : FdbEvent → Prop
  | .notify n => n.Caught ∧ design.ownPort n.dev = true ∧ n.key = key
  | .work _ => False

instance (design : Design) (key : CamKey) : (event : FdbEvent) → Decidable (design.About key event)
  | .notify _ => inferInstanceAs (Decidable (_ ∧ _))
  | .work _ => inferInstanceAs (Decidable False)

/-- What the CAM has for the key of a notification, once that has been applied. -/
def Design.entry (design : Design) (n : Notification) : Option Byte :=
  if n.event = .fdbAddToDevice then some (design.priv n.dev).switchPrt else none

/-- The CAM mirrors the bridge's entries for this switch: the last event that was handled about a
port of this driver decides each key, keys without one have what they had at the start, and what
has been allocated and taken since then has been given back.
-/
structure Design.Mirrors (design : Design) (start s : FdbState) (events : List FdbEvent)
    : Prop where
  last
    : ∀ before n after, events = before ++ .notify n :: after → design.About n.key (.notify n)
      → (∀ later ∈ after, ¬ design.About n.key later) → s.cam n.key = design.entry n
  others : ∀ key, (∀ event ∈ events, ¬ design.About key event) → s.cam key = start.cam key
  blocks : s.heap.block = start.heap.block
  refs : s.refs = start.refs

/-- A notification that is caught is about a port of this driver, and finds memory for the copy of
its address.
-/
def Design.Serves (design : Design) : FdbEvent → Prop
  | .notify n => n.Caught → design.ownPort n.dev = true ∧ n.addrAllocated = true
  | .work _ => True

instance (design : Design) : (event : FdbEvent) → Decidable (design.Serves event)
  | .notify _ => inferInstanceAs (Decidable (_ → _))
  | .work _ => inferInstanceAs (Decidable True)

variable {design : Design} {s s' start : FdbState} {n : Notification} {key : CamKey}

-----------------------------------------------------------------------------------------
-- Single calls
-----------------------------------------------------------------------------------------

/-- The states agree in all that the driver reads, but for addresses that have been given out. -/
structure FdbState.Same (s s' : FdbState) : Prop where
  block : s'.heap.block = s.heap.block
  next : s.heap.next ≤ s'.heap.next
  refs : s'.refs = s.refs
  queue : s'.queue = s.queue
  cam : s'.cam = s.cam

/-- A notification that is not caught leaves no trace. -/
theorem FdbState.event_of_not_caught (s : FdbState) (passed : ¬ n.Caught)
    : ∃ s', (s.xlnxSwitchdevEvent n).map (·.2) = some s' ∧ s.Same s' := by
  cases allocated : n.workAllocated with
  | false =>
      refine ⟨s, ?_, ⟨rfl, Nat.le_refl _, rfl, rfl, rfl⟩⟩
      simp [xlnxSwitchdevEvent, allocated]
  | true =>
      let work : Block := .work ⟨n.dev, n.event, n.vid, s.heap.next + 1⟩
      let freed := (s.heap.alloc work).without [s.heap.next]
      refine ⟨{ s with heap := freed }, ?_, ?_⟩
      · cases event : n.event with
        | fdbAddToDevice => exact absurd ⟨allocated, .inl event⟩ passed
        | fdbDelToDevice => exact absurd ⟨allocated, .inr event⟩ passed
        | fdbOffloaded | other =>
            simp only [xlnxSwitchdevEvent, allocated, event, if_true, kfree, freed, work]
            rw [s.heap.free_alloc]
            rfl
      · exact ⟨s.heap.block_without_alloc work, Nat.le_succ _, rfl, rfl, rfl⟩

/-- A notification that is caught, where both allocations succeed. -/
theorem FdbState.event_of_caught (s : FdbState) (caught : n.Caught)
    (allocated : n.addrAllocated = true)
    : (s.xlnxSwitchdevEvent n).map (·.2)
      = some { s with
          heap :=
            (s.heap.alloc (.work ⟨n.dev, n.event, n.vid, s.heap.next + 1⟩)).alloc (.addr n.addr)
          refs := Function.update s.refs n.dev (s.refs n.dev + 1)
          queue := s.queue ++ [s.heap.next] } := by
  obtain ⟨work, event⟩ := caught
  rcases event with event | event <;> simp [xlnxSwitchdevEvent, work, event, allocated]

/-- What a notification asks of the CAM. -/
def Design.apply (design : Design) (cam : Cam) (n : Notification) : Cam :=
  Function.update cam n.key (design.entry n)

/-- The ports of this driver are never refused. -/
theorem Design.fdbSet_of_own (own : design.ownPort n.dev = true) (adding : Bool) (cam : Cam)
    : design.xlnxSwitchFdbSet n.dev n.addr n.vid adding cam
      = (.ok (), Function.update cam n.key
          (if adding then some (design.priv n.dev).switchPrt else none)) := by
  obtain ⟨-, port⟩ := design.probed n.dev own
  have only : (design.priv n.dev).switchPrt &&& portExOnly = 0
      ∧ (design.priv n.dev).switchPrt &&& portExEp = 0 := by
    rcases List.mem_cons.mp port with port | port
    · rw [port]
      decide
    · rcases List.mem_pair.mp port with port | port <;> rw [port] <;> decide
  cases adding <;> simp [xlnxSwitchFdbSet, tsnSwitchCamSet, only, CamStruct.key, Notification.key]

-----------------------------------------------------------------------------------------
-- The pending changes
-----------------------------------------------------------------------------------------

/-- A change that waits in the queue: the address of its work item, and what it is about. The copy
of the MAC address was allocated right after the work item.
-/
structure Job where
  work : Nat
  about : Notification

/-- The blocks of a pending change. -/
structure Job.Held (job : Job) (heap : Heap Block) : Prop where
  work
    : heap.block job.work
      = some (.work ⟨job.about.dev, job.about.event, job.about.vid, job.work + 1⟩)
  addr : heap.block (job.work + 1) = some (.addr job.about.addr)

/-- The state between two steps of a run, with the changes that its queue stands for: what is
allocated and taken beyond the start is theirs, and applied in order they make the CAM what the
notifications ask for.
-/
structure Design.Pending (design : Design) (start s : FdbState) (want : Cam) (jobs : List Job)
    : Prop where
  queue : s.queue = jobs.map (·.work)
  apart : jobs.Pairwise fun job later => job.work + 1 < later.work
  held : ∀ job ∈ jobs, job.Held s.heap
  fresh : ∀ job ∈ jobs, start.heap.next ≤ job.work
  next : start.heap.next ≤ s.heap.next
  rest : ∀ a, (∀ job ∈ jobs, a ≠ job.work ∧ a ≠ job.work + 1) → s.heap.block a = start.heap.block a
  refs : ∀ dev, s.refs dev = start.refs dev + jobs.countP (·.about.dev = dev)
  served : ∀ job ∈ jobs, job.about.Caught ∧ design.ownPort job.about.dev = true
  cam : jobs.foldl (fun cam job => design.apply cam job.about) s.cam = want

variable {want : Cam} {job : Job} {jobs : List Job}

theorem FdbState.Same.held (same : s.Same s') (held : job.Held s.heap) : job.Held s'.heap := by
  constructor
  · rw [same.block]
    exact held.work
  · rw [same.block]
    exact held.addr

/-- Where nothing has changed, the same changes are pending. -/
theorem Design.Pending.same (pending : design.Pending start s want jobs) (same : s.Same s')
    : design.Pending start s' want jobs where
  queue := same.queue.trans pending.queue
  apart := pending.apart
  held := fun job member => same.held (pending.held job member)
  fresh := pending.fresh
  next := pending.next.trans same.next
  rest := fun a other => (congrFun same.block a).trans (pending.rest a other)
  refs := fun dev => (congrFun same.refs dev).trans (pending.refs dev)
  served := pending.served
  cam := by
    rw [same.cam]
    exact pending.cam

/-- The blocks of a pending change have been given out. -/
theorem Job.Held.lt_next (held : job.Held s.heap) : job.work + 1 < s.heap.next :=
  Heap.lt_next (by rw [held.addr]; rfl)

/-- Allocations leave what is held. -/
theorem Job.Held.alloc {heap : Heap Block} (held : job.Held heap) (content : Block)
    : job.Held (heap.alloc content) := by
  have grows := heap.extends_alloc content
  exact ⟨grows.block held.work, grows.block held.addr⟩

/-- A notification that is caught joins the pending changes. -/
theorem Design.Pending.caught (pending : design.Pending start s want jobs) (caught : n.Caught)
    (own : design.ownPort n.dev = true) (allocated : n.addrAllocated = true)
    : ∃ s', (s.xlnxSwitchdevEvent n).map (·.2) = some s'
        ∧ design.Pending start s' (design.apply want n) (jobs ++ [⟨s.heap.next, n⟩]) := by
  refine ⟨_, s.event_of_caught caught allocated, ?_⟩
  constructor
  case queue => simp [pending.queue]
  case apart =>
    refine List.pairwise_append.mpr ⟨pending.apart, List.pairwise_singleton _ _, ?_⟩
    intro job member later only
    rw [List.mem_singleton.mp only]
    exact (pending.held job member).lt_next
  case held =>
    intro job member
    rcases List.mem_append.mp member with earlier | new
    · exact ((pending.held job earlier).alloc _).alloc _
    · rw [List.mem_singleton.mp new]
      constructor <;> simp
  case fresh =>
    intro job member
    rcases List.mem_append.mp member with earlier | new
    · exact pending.fresh job earlier
    · rw [List.mem_singleton.mp new]
      exact pending.next
  case next => exact pending.next.trans (by simp only [Heap.next_alloc]; omega)
  case rest =>
    intro a other
    have new := other ⟨s.heap.next, n⟩ (by simp)
    simp only [Heap.block_alloc, Heap.next_alloc, if_neg new.1, if_neg new.2]
    exact pending.rest a fun job member => other job (List.mem_append_left _ member)
  case refs =>
    intro dev
    by_cases this : dev = n.dev
    · subst this
      simp [pending.refs, Nat.add_assoc]
    · have others : ¬ n.dev = dev := fun same => this same.symm
      simp [pending.refs, this, others]
  case served =>
    intro job member
    rcases List.mem_append.mp member with earlier | new
    · exact pending.served job earlier
    · rw [List.mem_singleton.mp new]
      exact ⟨caught, own⟩
  case cam => rw [List.foldl_append, pending.cam]; rfl

/-- The work of a port of this driver does what its notification asked for. -/
theorem Design.fdbApply_of_held (held : job.Held s.heap) (caught : job.about.Caught)
    (own : design.ownPort job.about.dev = true) (workAllocated : Bool)
    : ∃ s', design.fdbApply
          ⟨job.about.dev, job.about.event, job.about.vid, job.work + 1⟩ workAllocated s
        = some s'
      ∧ FdbState.Same { s with cam := design.apply s.cam job.about } s' := by
  rcases caught.2 with event | event
  · let info : Notification :=
      ⟨.fdbOffloaded, (design.priv job.about.dev).ndev, job.about.addr, job.about.vid,
        workAllocated, true⟩
    have passed : ¬ info.Caught := by simp [Notification.Caught, info]
    obtain ⟨s', told, same⟩ :=
      FdbState.event_of_not_caught { s with cam := design.apply s.cam job.about } passed
    refine ⟨s', ?_, same⟩
    simp only [fdbApply, held.addr, event, design.fdbSet_of_own own, if_true]
    rw [← told, xlnxSwFdbOffloadNotify, apply, entry, if_pos event]
  · refine ⟨{ s with cam := design.apply s.cam job.about }, ?_, rfl, Nat.le_refl _, rfl, rfl, rfl⟩
    simp [fdbApply, held.addr, event, design.fdbSet_of_own own, apply, entry]

/-- The first pending change is made, and what it held is given back. -/
theorem Design.Pending.work (pending : design.Pending start s want (job :: jobs))
    (workAllocated : Bool)
    : ∃ s', design.fdbStep s (.work workAllocated) = some s'
        ∧ design.Pending start s' want jobs := by
  obtain ⟨caught, own⟩ := pending.served job List.mem_cons_self
  have held := pending.held job List.mem_cons_self
  obtain ⟨first, apart⟩ := List.pairwise_cons.mp pending.apart
  obtain ⟨s', applied, same⟩ :=
    design.fdbApply_of_held (s := { s with queue := jobs.map (·.work) }) held caught own
      workAllocated
  have still : job.Held s'.heap := same.held held
  have refs : s'.refs = s.refs := same.refs
  have counted : s'.refs job.about.dev ≠ 0 := by simp [refs, pending.refs]
  have address : s'.kfree (job.work + 1)
      = some { s' with heap := s'.heap.without [job.work + 1] } := by
    simp [FdbState.kfree, Heap.free, still.addr]
  have item : FdbState.kfree { s' with heap := s'.heap.without [job.work + 1] } job.work
      = some { s' with heap := s'.heap.without [job.work + 1, job.work] } := by
    simp [FdbState.kfree, Heap.free, still.work, Heap.without_append]
  refine ⟨{ s' with
    heap := s'.heap.without [job.work + 1, job.work]
    refs := Function.update s'.refs job.about.dev (s'.refs job.about.dev - 1) }, ?_, ?_⟩
  · simp only [fdbStep, pending.queue, List.map_cons, xlnxSwitchdevEventWork, held.work, applied,
      Option.bind_eq_bind, Option.bind_some, address, item, FdbState.devPut,
      (design.probed _ own).1, if_neg counted]
  constructor
  case queue => exact same.queue
  case apart => exact apart
  case held =>
    intro later member
    have after := first later member
    have held := same.held (pending.held later (List.mem_cons_of_mem _ member))
    constructor
    · rw [Heap.block_without, if_neg (by simp; omega)]
      exact held.work
    · rw [Heap.block_without, if_neg (by simp; omega)]
      exact held.addr
  case fresh => exact fun later member => pending.fresh later (List.mem_cons_of_mem _ member)
  case next => exact pending.next.trans same.next
  case rest =>
    intro a other
    rw [Heap.block_without]
    by_cases freed : a ∈ [job.work + 1, job.work]
    · have fresh := pending.fresh job List.mem_cons_self
      have given : start.heap.next ≤ a := by
        rcases List.mem_pair.mp freed with rfl | rfl <;> omega
      rw [if_pos freed, start.heap.unused a given]
    · rw [if_neg freed, same.block]
      apply pending.rest a
      intro later member
      rcases List.mem_cons.mp member with rfl | member
      · simpa [and_comm] using freed
      · exact other later member
  case refs =>
    intro dev
    have before := pending.refs dev
    rw [refs]
    by_cases this : dev = job.about.dev
    · subst this
      simp at before ⊢
      omega
    · have others : ¬ job.about.dev = dev := fun same => this same.symm
      simpa [this, others] using before
  case served => exact fun later member => pending.served later (List.mem_cons_of_mem _ member)
  case cam =>
    have cam : s'.cam = design.apply s.cam job.about := same.cam
    rw [cam]
    exact pending.cam

-----------------------------------------------------------------------------------------
-- Whole runs
-----------------------------------------------------------------------------------------

/-- What the events up to now ask of the CAM. -/
def Design.wantStep (design : Design) (want : Cam) : FdbEvent → Cam
  | .notify n => if n.Caught ∧ design.ownPort n.dev = true then design.apply want n else want
  | .work _ => want

/-- An event changes what is wanted only for the key that it is about. -/
theorem Design.wantStep_of_not_about (want : Cam) (event : FdbEvent)
    (other : ¬ design.About key event)
    : design.wantStep want event key = want key := by
  cases event with
  | work _ => rfl
  | notify n =>
      rw [wantStep]
      split
      case isTrue handled =>
        have apart : key ≠ n.key := fun same => other ⟨handled.1, handled.2, same.symm⟩
        exact Function.update_of_ne apart _ _
      case isFalse => rfl

/-- A step of the run keeps the pending changes in line with what is wanted. -/
theorem Design.Pending.step (pending : design.Pending start s want jobs) {event : FdbEvent}
    (serves : design.Serves event)
    : ∃ s' jobs', design.fdbStep s event = some s'
        ∧ design.Pending start s' (design.wantStep want event) jobs' := by
  cases event with
  | notify n =>
      by_cases caught : n.Caught
      · obtain ⟨own, allocated⟩ := serves caught
        obtain ⟨s', stepped, later⟩ := pending.caught caught own allocated
        rw [wantStep, if_pos ⟨caught, own⟩]
        exact ⟨s', _, stepped, later⟩
      · obtain ⟨s', stepped, same⟩ := s.event_of_not_caught caught
        rw [wantStep, if_neg (fun handled => caught handled.1)]
        exact ⟨s', jobs, stepped, pending.same same⟩
  | work workAllocated =>
      cases jobs with
      | nil =>
          refine ⟨s, [], ?_, pending⟩
          simp [fdbStep, pending.queue]
      | cons job jobs =>
          obtain ⟨s', stepped, later⟩ := pending.work workAllocated
          exact ⟨s', jobs, stepped, later⟩

/-- A whole run keeps the jobs in step with what is wanted, and therefore never faults. -/
theorem Design.Pending.along (pending : design.Pending start s want jobs) {events : List FdbEvent}
    (serves : ∀ event ∈ events, design.Serves event)
    : ∃ s' jobs', run (faulting design.fdbStep) (some s) events = some s'
        ∧ design.Pending start s' (Run.run design.wantStep want events) jobs' := by
  induction events generalizing s want jobs with
  | nil => exact ⟨s, jobs, rfl, pending⟩
  | cons event rest ih =>
      obtain ⟨now, later⟩ := List.forall_mem_cons.mp serves
      obtain ⟨next, jobs', stepped, pending⟩ := pending.step now
      obtain ⟨s', jobs'', reached, pending⟩ := ih pending later
      refine ⟨s', jobs'', ?_, pending⟩
      rw [run_cons, faulting, Option.bind_some, stepped]
      exact reached

/-- With an empty queue, nothing is pending at the start. -/
theorem Design.Pending.of_idle (design : Design) (idle : s.queue = [])
    : design.Pending s s s.cam [] where
  queue := idle
  apart := .nil
  held := fun _ member => absurd member List.not_mem_nil
  fresh := fun _ member => absurd member List.not_mem_nil
  next := Nat.le_refl _
  rest := fun _ _ => rfl
  refs := fun _ => rfl
  served := fun _ member => absurd member List.not_mem_nil
  cam := rfl

/-- Where the queue has run empty, the CAM is what is wanted. -/
theorem Design.Pending.mirrors {events : List FdbEvent}
    (pending : design.Pending start s (Run.run design.wantStep start.cam events) jobs)
    (idle : s.queue = [])
    : design.Mirrors start s events := by
  have none : jobs = [] := List.map_eq_nil_iff.mp (pending.queue.symm.trans idle)
  subst none
  have cam : s.cam = Run.run design.wantStep start.cam events := pending.cam
  constructor
  case last =>
    rintro before n after rfl about last
    rw [cam, read_run_of_last (fun cam : Cam => cam n.key) design.wantStep_of_not_about last]
    rw [wantStep, if_pos ⟨about.1, about.2.1⟩]
    exact Function.update_self _ _ _
  case others =>
    intro key others
    rw [cam]
    exact read_run_of_others (fun cam : Cam => cam key) design.wantStep_of_not_about others
  case blocks => exact funext fun a => pending.rest a fun _ member => absurd member List.not_mem_nil
  case refs => exact funext pending.refs

/-- The queue of pending changes runs empty. -/
theorem Design.Pending.drains (pending : design.Pending start s want jobs) (workAllocated : Bool)
    : ∃ s',
        run (faulting design.fdbStep) (some s) (jobs.map fun _ => .work workAllocated) = some s'
          ∧ s'.queue = [] := by
  induction jobs generalizing s with
  | nil => exact ⟨s, rfl, pending.queue⟩
  | cons job jobs ih =>
      obtain ⟨next, stepped, pending⟩ := pending.work workAllocated
      obtain ⟨s', reached, idle⟩ := ih pending
      refine ⟨s', ?_, idle⟩
      rw [List.map_cons, run_cons, faulting, Option.bind_some, stepped]
      exact reached

/-- The CAM mirrors the bridge's entries for this switch: from a state with an empty queue, a run
whose notifications are about ports of this driver, where they are caught, and find memory for the
copies of their addresses, never faults, can always run its queue empty, and mirrors the bridge
whenever it has done so.
-/
theorem cam_mirrors (design : Design) (s : FdbState) (idle : s.queue = [])
    (events : List FdbEvent) (serves : ∀ event ∈ events, design.Serves event)
    : ∃ s', run (faulting design.fdbStep) (some s) events = some s'
        ∧ (s'.queue = [] → design.Mirrors s s' events)
        ∧ ∃ count last,
            run (faulting design.fdbStep) (some s') (List.replicate count (.work true)) = some last
              ∧ last.queue = [] := by
  obtain ⟨s', jobs, reached, pending⟩ := (Design.Pending.of_idle design idle).along serves
  obtain ⟨last, drained, empty⟩ := pending.drains true
  rw [List.map_const'] at drained
  exact ⟨s', reached, pending.mirrors, jobs.length, last, drained, empty⟩

/-- A port of this driver, at address 1, and another driver's device, at address 2, whose private
data start with its own address.
-/
def twoDevices : Design where
  priv := fun dev => ⟨dev, portMac1⟩
  ownPort := fun dev => dev == 1
  exEp := false
  packetSwitch := false
  probed := fun _ _ => ⟨rfl, by simp⟩

/-- Nothing is queued; each device is held once, by its driver. -/
def quiet : FdbState := ⟨.empty, fun _ => 1, [], fun _ => none⟩

def station : Mac := Vector.replicate 6 (0x11 : Byte)

/-- An entry for that station is added to, or deleted from, a device. -/
def stationEvent (event : SwitchdevEvent) (dev : Nat) (addrAllocated : Bool) : FdbEvent :=
  .notify ⟨event, dev, station, 5, true, addrAllocated⟩

/-- An entry comes, goes and comes again, while work runs in between. -/
def flapping : List FdbEvent :=
  [stationEvent .fdbAddToDevice 1 true, stationEvent .fdbDelToDevice 1 true, .work true,
    stationEvent .fdbAddToDevice 1 true, .work true, .work false]

theorem cam_mirrors_flapping
    : (run (faulting twoDevices.fdbStep) (some quiet) flapping).map (·.cam ⟨station, 5⟩)
        = some (some portMac1) := by
  obtain ⟨s', reached, mirrors, -⟩ := cam_mirrors twoDevices quiet rfl flapping (by decide)
  have drained
      : (run (faulting twoDevices.fdbStep) (some quiet) flapping).map (·.queue) = some [] := by
    decide
  rw [reached] at drained ⊢
  have last := (mirrors (Option.some.inj drained)).last
    [stationEvent .fdbAddToDevice 1 true, stationEvent .fdbDelToDevice 1 true, .work true]
    ⟨.fdbAddToDevice, 1, station, 5, true, true⟩ [.work true, .work false] rfl (by decide)
    (by decide)
  exact congrArg some last

/-- The same entry is added to another driver's device. -/
def foreign : List FdbEvent := [stationEvent .fdbAddToDevice 2 true, .work true]

/-- The CAM gets an entry for it, and a failed allocation of the address ends in a fault. -/
theorem cam_mirrors_foreign
    : (∃ s', run (faulting twoDevices.fdbStep) (some quiet) foreign = some s' ∧ s'.queue = []
        ∧ ¬ twoDevices.Mirrors quiet s' foreign)
      ∧ run (faulting twoDevices.fdbStep) (some quiet) [stationEvent .fdbAddToDevice 1 false]
        = none := by
  have added
      : (run (faulting twoDevices.fdbStep) (some quiet) foreign).map
          (fun s => (s.queue, s.cam ⟨station, 5⟩))
        = some ([], some portMac1) := by
    decide
  obtain ⟨s', reached, seen⟩ := Option.map_eq_some_iff.mp added
  obtain ⟨idle, cam⟩ := Prod.mk.inj seen
  refine ⟨⟨s', reached, idle, ?_⟩, by decide⟩
  intro mirrors
  have unchanged : s'.cam ⟨station, 5⟩ = none := mirrors.others ⟨station, 5⟩ (by decide)
  exact absurd (cam.symm.trans unchanged) (by decide)

end TsnTrdp.Switch.Fdb
