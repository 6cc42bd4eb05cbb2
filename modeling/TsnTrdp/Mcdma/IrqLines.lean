import Mathlib.Data.List.TakeWhile
import TsnTrdp.Lib.Held
import TsnTrdp.Mcdma.RingMemory

/-! The interrupt lines of the data path. An open requests those of the receive queues, those of the
transmit queues and that of the TADMA, and where it fails it frees lines queue by queue.
-/

namespace TsnTrdp.Mcdma.Rings

open TsnTrdp Held

/-- The queues and the numbers of their lines; the TADMA has none where its number is 0. -/
structure IrqLines where
  numTxQueues : Nat
  numRxQueues : Nat
  txIrq : Nat → Int
  rxIrq : Nat → Int
  tadmaIrq : Int

/-- What the kernel answers: to the requests of the lines, by queue, and to the allocations of
`axienet_tadma_open`, the first and those of its loop.
-/
structure IrqAnswers where
  rxIrq : Nat → Int
  txIrq : Nat → Int
  tadmaIrq : Int
  txBd : Bool
  txBds : Bool

/-- What a function returns, and the uses of lines that it has made. -/
abbrev LineUses := Int × List (Use Int)

/-- A loop that requests the lines of queues, up to the first that is refused. -/
def requestLines (irq request : Nat → Int) : List Nat → LineUses
  | [] => (0, [])
  | q :: rest =>
      if request q ≠ 0 then (request q, [])
      else
        let later := requestLines irq request rest
        (later.1, .take (irq q) :: later.2)

/-- `axienet_tadma_open`: its errors leave the line requested. -/
def axienetTadmaOpen (lines : IrqLines) (answers : IrqAnswers) : LineUses :=
  if lines.tadmaIrq ≠ 0 ∧ answers.tadmaIrq ≠ 0 then (answers.tadmaIrq, [])
  else
    let uses : List (Use Int) := if lines.tadmaIrq ≠ 0 then [.take lines.tadmaIrq] else []
    if !answers.txBd then (-enomem, uses)
    else if !answers.txBds then (-enomem, uses)
    else (0, uses)

/-- `free_irq(q->rx_irq, ndev)` for some queues. -/
def freeRxIrqs (lines : IrqLines) (count : Nat) : List (Use Int) :=
  (List.range count).map fun q => .give (lines.rxIrq q)

/-- The requests and the error paths of `tsn_data_path_open`. -/
def openLines (lines : IrqLines) (answers : IrqAnswers) : LineUses :=
  let rx := requestLines lines.rxIrq answers.rxIrq (List.range lines.numRxQueues)
  if rx.1 ≠ 0 then rx
  else
    let tx := requestLines lines.txIrq answers.txIrq (List.range lines.numTxQueues)
    let errDmaTxIrq := freeRxIrqs lines lines.numRxQueues
    if tx.1 ≠ 0 then (tx.1, rx.2 ++ tx.2 ++ errDmaTxIrq)
    else
      let tadma := axienetTadmaOpen lines answers
      -- the queues are the transmit queues, the lines those of reception
      let errTadma := freeRxIrqs lines lines.numTxQueues
      if tadma.1 ≠ 0 then (tadma.1, rx.2 ++ tx.2 ++ tadma.2 ++ errTadma ++ errDmaTxIrq)
      else (0, rx.2 ++ tx.2 ++ tadma.2)

/-- Where the open fails it leaves the lines held that were held before, and frees none that is not
held.
-/
def LinesReleased (lines : IrqLines) (answers : IrqAnswers) (held : Multiset Int) : Prop :=
  (openLines lines answers).1 ≠ 0 → after held (openLines lines answers).2 = some held

/-- If requests of lines are refused, the first is. -/
def FirstRefused (request : Nat → Int) (count : Nat) : Prop :=
  (∃ q < count, request q ≠ 0) → request 0 ≠ 0

/-- The requests are all granted. -/
def EachGranted (request : Nat → Int) (count : Nat) : Prop := ∀ q < count, request q = 0

/-- The TADMA is opened, or its line has not been requested and the lines of the transmit queues are
those that their queues have for reception.
-/
def TadmaOpenedOr (lines : IrqLines) (answers : IrqAnswers) : Prop :=
  (axienetTadmaOpen lines answers).1 ≠ 0
  → (axienetTadmaOpen lines answers).2 = []
    ∧ ((List.range lines.numTxQueues).map lines.txIrq).Perm
      ((List.range lines.numTxQueues).map lines.rxIrq)

/-- A failure comes first among the receive queues, or first among the transmit queues, or from the
TADMA where it leaves nothing to free.
-/
structure FailsFirst (lines : IrqLines) (answers : IrqAnswers) : Prop where
  rx : FirstRefused answers.rxIrq lines.numRxQueues
  tx
    : EachGranted answers.rxIrq lines.numRxQueues → FirstRefused answers.txIrq lines.numTxQueues
  tadma
    : EachGranted answers.rxIrq lines.numRxQueues → EachGranted answers.txIrq lines.numTxQueues
      → TadmaOpenedOr lines answers

variable {irq request : Nat → Int} {lines : IrqLines} {answers : IrqAnswers} {held : Multiset Int}

-----------------------------------------------------------------------------------------
-- Loops
-----------------------------------------------------------------------------------------

/-- The lines that a loop gets, up to the first that is refused. -/
def granted (irq request : Nat → Int) (queues : List Nat) : List Int :=
  (queues.takeWhile fun q => request q == 0).map irq

/-- By induction on the queues. -/
theorem requestLines_uses (irq request : Nat → Int) (queues : List Nat)
    : (requestLines irq request queues).2 = (granted irq request queues).map .take := by
  induction queues with
  | nil => rfl
  | cons q rest ih =>
      by_cases ok : request q = 0
      · simp [requestLines, granted, ok, ih]
      · simp [requestLines, granted, ok]

theorem requestLines_ret (irq request : Nat → Int) (queues : List Nat)
    : (requestLines irq request queues).1 = 0 ↔ ∀ q ∈ queues, request q = 0 := by
  induction queues with
  | nil => simp [requestLines]
  | cons q rest ih =>
      by_cases ok : request q = 0
      · simp [requestLines, ok, ih]
      · simp [requestLines, ok]

theorem requestLines_granted (irq request : Nat → Int) (count : Nat)
    : (requestLines irq request (List.range count)).1 = 0 ↔ EachGranted request count := by
  simp [requestLines_ret, EachGranted]

theorem granted_all {count : Nat} (all : EachGranted request count)
    : granted irq request (List.range count) = (List.range count).map irq := by
  have whole : (List.range count).takeWhile (fun q => request q == 0) = List.range count := by
    rw [List.takeWhile_eq_self_iff]
    intro q member
    simpa using all q (List.mem_range.mp member)
  rw [granted, whole]

/-- A loop that fails gets nothing exactly if the first request is refused. -/
theorem granted_nil_iff (irq : Nat → Int) {count : Nat} (fails : ¬ EachGranted request count)
    : granted irq request (List.range count) = [] ↔ FirstRefused request count := by
  cases count with
  | zero => exact absurd (fun q below => absurd below (Nat.not_lt_zero q)) fails
  | succ count =>
      have refused : ∃ q < count + 1, request q ≠ 0 := by
        by_contra none
        exact fails fun q below => by_contra fun refused => none ⟨q, below, refused⟩
      have first : FirstRefused request (count + 1) ↔ request 0 ≠ 0 :=
        ⟨fun first => first refused, fun zero _ => zero⟩
      rw [first, granted, List.range_succ_eq_map, List.takeWhile_cons]
      by_cases ok : request 0 = 0
      · simp [ok]
      · simp [ok]

-----------------------------------------------------------------------------------------
-- The open
-----------------------------------------------------------------------------------------

theorem axienetTadmaOpen_uses (lines : IrqLines) (answers : IrqAnswers)
    : ∃ taken : List Int, (axienetTadmaOpen lines answers).2 = taken.map .take := by
  unfold axienetTadmaOpen
  split
  · exact ⟨[], rfl⟩
  · have uses : ∃ taken : List Int,
        (if lines.tadmaIrq ≠ 0 then [.take lines.tadmaIrq] else [] : List (Use Int))
          = taken.map .take := by
      split
      · exact ⟨[lines.tadmaIrq], rfl⟩
      · exact ⟨[], rfl⟩
    dsimp only
    split
    · exact uses
    · split
      · exact uses
      · exact uses

theorem freeRxIrqs_eq (lines : IrqLines) (count : Nat)
    : freeRxIrqs lines count = ((List.range count).map lines.rxIrq).map .give := by
  rw [freeRxIrqs, List.map_map]
  rfl

/-- The receive lines, in the order of their queues. -/
def rxLines (lines : IrqLines) (count : Nat) : List Int := (List.range count).map lines.rxIrq

def txLines (lines : IrqLines) : List Int := (List.range lines.numTxQueues).map lines.txIrq

/-- A receive line is refused: nothing is freed. -/
theorem openLines_rx_refused (refused : ¬ EachGranted answers.rxIrq lines.numRxQueues)
    : (openLines lines answers).1 ≠ 0
      ∧ (openLines lines answers).2
        = (granted lines.rxIrq answers.rxIrq (List.range lines.numRxQueues)).map .take := by
  have ret := (requestLines_granted lines.rxIrq _ _).not.mpr refused
  simp only [openLines]
  rw [if_pos ret]
  exact ⟨ret, requestLines_uses ..⟩

/-- A transmit line is refused: the receive lines are freed. -/
theorem openLines_tx_refused (rx : EachGranted answers.rxIrq lines.numRxQueues)
    (refused : ¬ EachGranted answers.txIrq lines.numTxQueues)
    : (openLines lines answers).1 ≠ 0
      ∧ (openLines lines answers).2
        = (rxLines lines lines.numRxQueues
            ++ granted lines.txIrq answers.txIrq (List.range lines.numTxQueues)).map .take
          ++ (rxLines lines lines.numRxQueues).map .give := by
  have rxRet := (requestLines_granted lines.rxIrq _ _).mpr rx
  have ret := (requestLines_granted lines.txIrq _ _).not.mpr refused
  simp only [openLines]
  rw [if_neg (not_not_intro rxRet), if_pos ret, requestLines_uses, requestLines_uses,
    granted_all rx, freeRxIrqs_eq, List.map_append]
  exact ⟨ret, rfl⟩

/-- The TADMA is not opened: receive lines are freed, those of the transmit queues twice. -/
theorem openLines_tadma_failed (rx : EachGranted answers.rxIrq lines.numRxQueues)
    (tx : EachGranted answers.txIrq lines.numTxQueues) {tadma : List Int}
    (failed : (axienetTadmaOpen lines answers).1 ≠ 0)
    (taken : (axienetTadmaOpen lines answers).2 = tadma.map .take)
    : (openLines lines answers).1 ≠ 0
      ∧ (openLines lines answers).2
        = (rxLines lines lines.numRxQueues ++ txLines lines ++ tadma).map .take
          ++ (rxLines lines lines.numTxQueues ++ rxLines lines lines.numRxQueues).map .give := by
  have rxRet := (requestLines_granted lines.rxIrq _ _).mpr rx
  have txRet := (requestLines_granted lines.txIrq _ _).mpr tx
  simp only [openLines]
  rw [if_neg (not_not_intro rxRet), if_neg (not_not_intro txRet), if_pos failed,
    requestLines_uses, requestLines_uses, granted_all rx, granted_all tx, taken, freeRxIrqs_eq,
    freeRxIrqs_eq, List.map_append, List.map_append, List.map_append, List.append_assoc]
  exact ⟨failed, rfl⟩

theorem openLines_opened (rx : EachGranted answers.rxIrq lines.numRxQueues)
    (tx : EachGranted answers.txIrq lines.numTxQueues)
    (opened : (axienetTadmaOpen lines answers).1 = 0)
    : (openLines lines answers).1 = 0 := by
  have rxRet := (requestLines_granted lines.rxIrq _ _).mpr rx
  have txRet := (requestLines_granted lines.txIrq _ _).mpr tx
  simp only [openLines]
  rw [if_neg (not_not_intro rxRet), if_neg (not_not_intro txRet), if_neg (not_not_intro opened)]

/-- The lines of the queues and of the TADMA against those that are freed for them: the TADMA's line
would be one too many.
-/
theorem tadma_lines_perm {tadma : List Int}
    : (rxLines lines lines.numRxQueues ++ txLines lines ++ tadma).Perm
        (rxLines lines lines.numTxQueues ++ rxLines lines lines.numRxQueues)
      ↔ tadma = [] ∧ (txLines lines).Perm (rxLines lines lines.numTxQueues) := by
  have front : (rxLines lines lines.numTxQueues ++ rxLines lines lines.numRxQueues).Perm
      (rxLines lines lines.numRxQueues ++ rxLines lines lines.numTxQueues) :=
    List.perm_append_comm
  rw [List.append_assoc, front.congr_right, List.perm_append_left_iff]
  constructor
  · intro same
    have none : tadma = [] := by
      have count := same.length_eq
      simp only [txLines, rxLines, List.length_append, List.length_map, List.length_range] at count
      exact List.length_eq_zero_iff.mp (by omega)
    refine ⟨none, ?_⟩
    rwa [none, List.append_nil] at same
  · rintro ⟨rfl, same⟩
    rwa [List.append_nil]

/-- For every number of queues, all lines, all answers and whatever is held before, a failing open
leaves the same lines held and frees none that is not, exactly if it fails at the first request of
the receive or of the transmit queues, or at the TADMA where its line has not been requested and the
transmit queues have the same lines in both directions.
-/
theorem failed_open_releases (lines : IrqLines) (answers : IrqAnswers) (held : Multiset Int)
    : LinesReleased lines answers held ↔ FailsFirst lines answers := by
  by_cases rx : EachGranted answers.rxIrq lines.numRxQueues
  · have rxFirst : FirstRefused answers.rxIrq lines.numRxQueues :=
      fun ⟨q, below, refused⟩ => absurd (rx q below) refused
    by_cases tx : EachGranted answers.txIrq lines.numTxQueues
    · have txFirst : FirstRefused answers.txIrq lines.numTxQueues :=
        fun ⟨q, below, refused⟩ => absurd (tx q below) refused
      have fails : FailsFirst lines answers ↔ TadmaOpenedOr lines answers :=
        ⟨fun first => first.tadma rx tx, fun opened => ⟨rxFirst, fun _ => txFirst,
          fun _ _ => opened⟩⟩
      rw [fails]
      by_cases opened : (axienetTadmaOpen lines answers).1 = 0
      · constructor
        · exact fun _ failed => absurd opened failed
        · exact fun _ failed => absurd (openLines_opened rx tx opened) failed
      · -- `err_tadma`: for the transmit queues too, the lines of reception are freed
        obtain ⟨tadma, taken⟩ := axienetTadmaOpen_uses lines answers
        obtain ⟨ret, uses⟩ := openLines_tadma_failed rx tx opened taken
        rw [LinesReleased, uses, after_balanced, tadma_lines_perm, TadmaOpenedOr, taken,
          List.map_eq_nil_iff]
        exact ⟨fun released _ => released ret, fun released _ => released opened⟩
    · obtain ⟨ret, uses⟩ := openLines_tx_refused rx tx
      have fails : FailsFirst lines answers ↔ FirstRefused answers.txIrq lines.numTxQueues :=
        ⟨fun first => first.tx rx, fun first => ⟨rxFirst, fun _ => first,
          fun _ all => absurd all tx⟩⟩
      rw [fails, ← granted_nil_iff lines.txIrq tx, LinesReleased, uses, after_balanced]
      constructor
      · intro released
        have count := (released ret).length_eq
        rw [List.length_append] at count
        exact List.length_eq_zero_iff.mp (by omega)
      · intro none _
        rw [none, List.append_nil]
  · obtain ⟨ret, uses⟩ := openLines_rx_refused rx
    have fails : FailsFirst lines answers ↔ FirstRefused answers.rxIrq lines.numRxQueues :=
      ⟨fun first => first.rx, fun first => ⟨first, fun all => absurd all rx,
        fun all => absurd all rx⟩⟩
    have balanced := after_balanced held
      (granted lines.rxIrq answers.rxIrq (List.range lines.numRxQueues)) []
    rw [List.map_nil, List.append_nil, List.perm_nil] at balanced
    rw [fails, ← granted_nil_iff lines.rxIrq rx, LinesReleased, uses, balanced]
    exact ⟨fun released => released ret, fun none _ => none⟩

-----------------------------------------------------------------------------------------
-- The open with its rings
-----------------------------------------------------------------------------------------

/-- A loop with its initialisers returns what its requests do, by induction on the queues. -/
theorem openQueues_ret {init : AxienetLocal → Nat → Option (Int × AxienetLocal)}
    {queues : List Nat} {lp : AxienetLocal} {opened : Opened}
    (done : openQueues init request queues lp = some opened) (irq : Nat → Int)
    : opened.ret = (requestLines irq request queues).1 := by
  induction queues generalizing lp opened with
  | nil =>
      cases done
      rfl
  | cons q rest ih =>
      obtain ⟨⟨ret, next⟩, -, done⟩ := Option.bind_eq_some_iff.mp done
      dsimp only at done
      by_cases refused : request q ≠ 0
      · rw [if_pos refused] at done
        cases done
        simp only [requestLines, if_pos refused]
      · rw [if_neg refused] at done
        obtain ⟨later, loop, done⟩ := Option.bind_eq_some_iff.mp done
        cases done
        simp only [requestLines, if_neg refused]
        exact ih loop

/-- Freeing queues keeps their number, by induction on them. -/
theorem freeQueues_numTx {queues : List Nat} {lp next : AxienetLocal}
    (freed : queues.foldlM axienetMcdmaRxBdFree lp = some next)
    : next.numTxQueues = lp.numTxQueues := by
  induction queues generalizing lp with
  | nil =>
      cases freed
      rfl
  | cons q rest ih =>
      rw [List.foldlM_cons] at freed
      obtain ⟨one, first, later⟩ := Option.bind_eq_some_iff.mp freed
      obtain ⟨ring, -, first⟩ := Option.bind_eq_some_iff.mp first
      obtain ⟨bds, -, first⟩ := Option.bind_eq_some_iff.mp first
      obtain ⟨skbs, -, first⟩ := Option.bind_eq_some_iff.mp first
      obtain ⟨heap, -, first⟩ := Option.bind_eq_some_iff.mp first
      cases first
      have kept : next.numTxQueues = ({ lp with heap } : AxienetLocal).numTxQueues := ih later
      exact kept

theorem axienetMcdmaRxQInit_numTx {answers : Answers} {lp next : AxienetLocal} {q : Nat} {ret : Int}
    (done : axienetMcdmaRxQInit answers lp q = some (ret, next))
    : next.numTxQueues = lp.numTxQueues := by
  unfold axienetMcdmaRxQInit at done
  dsimp only at done
  split at done
  · split at done
    · cases done
      rfl
    · obtain ⟨after, freed, same⟩ := Option.map_eq_some_iff.mp done
      cases same
      have kept := freeQueues_numTx freed
      exact kept
  · obtain ⟨after, freed, same⟩ := Option.map_eq_some_iff.mp done
    cases same
    have kept := freeQueues_numTx freed
    exact kept

/-- Opening the receive queues leaves the number of transmit queues. -/
theorem openQueues_numTx {answers : Answers} {queues : List Nat} {lp : AxienetLocal}
    {opened : Opened}
    (done : openQueues (axienetMcdmaRxQInit answers) request queues lp = some opened)
    : opened.lp.numTxQueues = lp.numTxQueues := by
  induction queues generalizing lp opened with
  | nil =>
      cases done
      rfl
  | cons q rest ih =>
      obtain ⟨⟨ret, next⟩, init, done⟩ := Option.bind_eq_some_iff.mp done
      have first := axienetMcdmaRxQInit_numTx init
      dsimp only at done
      split at done
      · cases done
        exact first
      · obtain ⟨later, loop, done⟩ := Option.bind_eq_some_iff.mp done
        cases done
        exact (ih loop).trans first

/-- The open of the rings returns what the open of the lines does, with the same answers. -/
theorem tsnDataPathOpen_ret {granting : Answers} {lp : AxienetLocal} {opened : Opened}
    (tx : lines.numTxQueues = lp.numTxQueues) (rx : lines.numRxQueues = lp.numRxQueues)
    (txIrq : granting.txIrq = answers.txIrq) (rxIrq : granting.rxIrq = answers.rxIrq)
    (tadma : granting.tadmaOpen = (axienetTadmaOpen lines answers).1)
    (done : tsnDataPathOpen granting lp = some opened)
    : opened.ret = (openLines lines answers).1 := by
  obtain ⟨received, rxLoop, done⟩ := Option.bind_eq_some_iff.mp done
  have rxRet := openQueues_ret rxLoop lines.rxIrq
  rw [rxIrq, ← rx] at rxRet
  simp only [openLines]
  by_cases rxFailed : received.ret ≠ 0
  · rw [if_pos rxFailed] at done
    cases done
    rw [rxRet] at rxFailed ⊢
    rw [if_pos rxFailed]
  · rw [if_neg rxFailed] at done
    obtain ⟨sent, txLoop, done⟩ := Option.bind_eq_some_iff.mp done
    have txRet := openQueues_ret txLoop lines.txIrq
    rw [txIrq, openQueues_numTx rxLoop, ← tx] at txRet
    rw [rxRet] at rxFailed
    rw [if_neg rxFailed]
    dsimp only at done
    by_cases txFailed : sent.ret ≠ 0
    · rw [if_pos txFailed] at done
      cases done
      rw [txRet] at txFailed
      rw [if_pos txFailed]
      exact txRet
    · rw [if_neg txFailed] at done
      cases done
      rw [txRet] at txFailed
      rw [if_neg txFailed]
      by_cases opened : (axienetTadmaOpen lines answers).1 ≠ 0
      · rw [if_pos opened]
        exact tadma
      · rw [if_neg opened]
        exact tadma.trans (not_not.mp opened)

/-- One queue in each direction, with lines 40 and 41, and a TADMA with line 42. -/
def oneQueue : IrqLines := ⟨1, 1, fun _ => 40, fun _ => 41, 42⟩

/-- All requests are granted, and `axienet_tadma_open` gets no memory. -/
def noTadmaMemory : IrqAnswers := ⟨fun _ => 0, fun _ => 0, 0, false, false⟩

/-- The receive line is freed twice, and the lines of the transmit queue and of the TADMA stay. -/
theorem tadma_error_frees_twice
    : openLines oneQueue noTadmaMemory
        = (-enomem, [.take 41, .take 40, .take 42, .give 41, .give 41])
      ∧ after 0 (openLines oneQueue noTadmaMemory).2 = none
      ∧ ¬ LinesReleased oneQueue noTadmaMemory 0 := by
  have uses : openLines oneQueue noTadmaMemory
      = (-enomem, [.take 41, .take 40, .take 42, .give 41, .give 41]) := by decide
  have fault : after 0 (openLines oneQueue noTadmaMemory).2 = none := by
    rw [uses]
    decide
  refine ⟨uses, fault, fun released => ?_⟩
  have kept := released (by rw [uses]; decide)
  rw [fault] at kept
  cases kept

end TsnTrdp.Mcdma.Rings
