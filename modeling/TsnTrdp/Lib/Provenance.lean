import TsnTrdp.Lib.Run

/-! Components that send each other messages, and where what they deliver comes from. The network may
lose, repeat and delay messages, so that every message ever sent may still arrive.
-/

namespace TsnTrdp.Provenance

open TsnTrdp.Run

variable {ι σ ω κ δ ε : Type*}

/-- What a call of a component does: its state, the messages that it sends, what it was given, and
what it delivers.
-/
structure Output (σ ω κ δ : Type*) where
  state : σ
  wires : List ω
  given : List κ
  delivered : List δ

/-- The components, with all that was ever sent, given and delivered. -/
structure Network (ι σ ω κ δ : Type*) where
  states : ι → σ
  wires : List ω
  given : List κ
  delivered : List δ

/-- Nothing has happened yet. -/
def Network.start (states : ι → σ) : Network ι σ ω κ δ := ⟨states, [], [], []⟩

/-- A call of the component that the event names. -/
def Network.step [DecidableEq ι] (call : ε → σ → Option (Output σ ω κ δ))
    (net : Network ι σ ω κ δ) (event : ι × ε)
    : Option (Network ι σ ω κ δ) :=
  (call event.2 (net.states event.1)).map fun output =>
    { states := Function.update net.states event.1 output.state
      wires := net.wires ++ output.wires
      given := net.given ++ output.given
      delivered := net.delivered ++ output.delivered }

/-- What is required of a call: of the messages that may arrive, and of the component's state. -/
def Network.Admits (Allowed : List ω → σ → ε → Prop) (net : Network ι σ ω κ δ) (event : ι × ε)
    : Prop :=
  Allowed net.wires (net.states event.1) event.2

/-- States, messages and deliveries that go back to what was given. They do so still when more is
given, and calls that are allowed keep it so.
-/
structure Justified (call : ε → σ → Option (Output σ ω κ δ)) (Allowed : List ω → σ → ε → Prop)
    (Sound : List κ → σ → Prop) (Travels : List κ → ω → Prop) (Right : List κ → δ → Prop)
    : Prop where
  sound_mono : ∀ given more state, given ⊆ more → Sound given state → Sound more state
  travels_mono : ∀ given more wire, given ⊆ more → Travels given wire → Travels more wire
  right_mono : ∀ given more delivery, given ⊆ more → Right given delivery → Right more delivery
  keeps
    : ∀ given wires state event output,
        Sound given state
        → (∀ wire ∈ wires, Travels given wire)
        → Allowed wires state event
        → call event state = some output
        → Sound (given ++ output.given) output.state
          ∧ (∀ wire ∈ output.wires, Travels (given ++ output.given) wire)
          ∧ ∀ delivery ∈ output.delivered, Right (given ++ output.given) delivery

/-- All of it goes back to what was given so far. -/
structure Network.TracesBack (Sound : List κ → σ → Prop) (Travels : List κ → ω → Prop)
    (Right : List κ → δ → Prop) (net : Network ι σ ω κ δ)
    : Prop where
  states : ∀ i, Sound net.given (net.states i)
  wires : ∀ wire ∈ net.wires, Travels net.given wire
  delivered : ∀ delivery ∈ net.delivered, Right net.given delivery

variable [DecidableEq ι] {call : ε → σ → Option (Output σ ω κ δ)}
  {Allowed : List ω → σ → ε → Prop} {Sound : List κ → σ → Prop} {Travels : List κ → ω → Prop}
  {Right : List κ → δ → Prop} {net next : Network ι σ ω κ δ}

/-- A call of one component leaves the others and the messages sound. -/
theorem Network.TracesBack.step (sound : net.TracesBack Sound Travels Right)
    (rules : Justified call Allowed Sound Travels Right) {event : ι × ε}
    (allowed : net.Admits Allowed event) (stepped : net.step call event = some next)
    : next.TracesBack Sound Travels Right := by
  obtain ⟨output, called, rfl⟩ := Option.map_eq_some_iff.mp stepped
  obtain ⟨state, wires, delivered⟩ :=
    rules.keeps _ _ _ _ _ (sound.states event.1) sound.wires allowed called
  have more : net.given ⊆ net.given ++ output.given := List.subset_append_left _ _
  constructor
  case states =>
    intro i
    by_cases own : i = event.1
    · subst own
      simpa using state
    · simpa [own] using rules.sound_mono _ _ _ more (sound.states i)
  case wires =>
    intro wire member
    rcases List.mem_append.mp member with old | new
    · exact rules.travels_mono _ _ _ more (sound.wires wire old)
    · exact wires wire new
  case delivered =>
    intro delivery member
    rcases List.mem_append.mp member with old | new
    · exact rules.right_mono _ _ _ more (sound.delivered delivery old)
    · exact delivered delivery new

/-- Whatever the order of the calls, all that is ever delivered goes back to what was given before. -/
theorem Justified.delivered (rules : Justified call Allowed Sound Travels Right) {states : ι → σ}
    (sound : ∀ i, Sound [] (states i)) {events : List (ι × ε)}
    (allowed
      : Along (faulting (Network.step call)) (BeforeFault (Network.Admits Allowed))
        (some (Network.start states)) events)
    (reached : run (faulting (Network.step call)) (some (Network.start states)) events = some net)
    : ∀ delivery ∈ net.delivered, Right net.given delivery := by
  have start : (Network.start states : Network ι σ ω κ δ).TracesBack Sound Travels Right :=
    ⟨sound, fun _ member => absurd member List.not_mem_nil,
      fun _ member => absurd member List.not_mem_nil⟩
  have keeps : ∀ (net : Network ι σ ω κ δ) event next, net.TracesBack Sound Travels Right
      → net.Admits Allowed event → net.step call event = some next
      → next.TracesBack Sound Travels Right :=
    fun _ _ _ sound allowed stepped => sound.step rules allowed stepped
  exact (faulting_invariant keeps start allowed reached).delivered

end TsnTrdp.Provenance
