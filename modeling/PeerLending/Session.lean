import PeerLending.Simulation
import PeerLending.Provider

/-!
# Sessions

A session holds the latest snapshot and the latest list of operations, and decides when to run
the simulation again. Every transition takes the current time (milliseconds, from any origin) and
returns the events it produced; nothing is sent anywhere from here (see `Publisher`).

When to simulate:
* a new list of operations is simulated at once, and an empty one discards the simulation;
* a new snapshot is simulated at once if the debounce window has passed since the last run, and
  is otherwise left *pending* until `poll` finds the window passed;
* without a snapshot nothing is simulated and nothing changes.

Time may run backwards: the time since the last run then counts as zero.

An overflow in a view or a simulation stops the whole session (`Answer`'s `overflow`); any other
failure of the market or user views only leaves their event out.
-/

set_option autoImplicit false

namespace PeerLending

/-- How a session behaves. -/
structure SessionConfig where
  /-- The least time (ms) between two runs that new data starts. -/
  debounce : Nat
  /-- The health factor (wad) under which a final simulated state is flagged. -/
  healthThreshold : Word
deriving DecidableEq

/-- One second of debounce and a threshold of one. -/
def SessionConfig.standard : SessionConfig := ⟨1000, defaultHealthThreshold⟩

/-- A change made by a session transition. -/
inductive SessionEvent where
  | marketsUpdated (views : List MarketView)
  | userUpdated (view : UserView)
  /-- The final simulated state; none without a simulation or after a run that stopped. -/
  | simulationUpdated (state : Option SimulatedState)
  /-- The first issue; none when the last run had none. -/
  | simulationIssueUpdated (issue : Option SimulationIssue)

/-- The latest snapshot and list of operations, and what the last run made of them. -/
structure Session where
  config : SessionConfig
  snapshot : Option Snapshot
  operations : List Operation
  outcome : Option SimulationOutcome
  lastRun : Option Nat
  pending : Bool

/-- The result of a transition: the next session and its events. -/
abbrev Transitioned := Answer (Session × List SessionEvent)

/-- The event of a view, none when the view fails for want of data; an overflow stops. -/
def viewEvent {α : Type} (view : Answer α) (event : α → SessionEvent) : Answer (List SessionEvent) :=
  match view with
  | .ok v => .ok [event v]
  | .error .overflow => .error .overflow
  | .error _ => .ok []

namespace Session

/-- An empty session. -/
def new (config : SessionConfig) : Session := ⟨config, none, [], none, none, false⟩

/-- Whether the debounce window has passed since the last run (always, before the first). -/
def windowElapsed (s : Session) (now : Nat) : Bool :=
  match s.lastRun with
  | none => true
  | some last => decide (s.config.debounce ≤ now - last)

/-- Runs the simulation on the snapshot, when there is one; nothing is pending afterwards. -/
def runSimulation (s : Session) (now : Nat) : Transitioned :=
  let s := { s with pending := false }
  match s.snapshot with
  | none => .ok (s, [])
  | some snapshot => do
    let o ← simulateWithThreshold snapshot s.operations s.config.healthThreshold
    return ({ s with lastRun := some now, outcome := some o },
      [.simulationUpdated o.final, .simulationIssueUpdated o.issue])

/-- Drops the operations and the simulation. -/
def reset (s : Session) : Session × List SessionEvent :=
  ({ s with operations := [], outcome := none, pending := false },
    [.simulationUpdated none, .simulationIssueUpdated none])

/-- Replaces the snapshot with its market and user views; the operations are simulated again at
once or, inside the debounce window, later. -/
def applySnapshot (s : Session) (snapshot : Snapshot) (now : Nat) : Transitioned := do
  let markets ← viewEvent snapshot.marketsData .marketsUpdated
  let user ← viewEvent snapshot.userView .userUpdated
  let events := markets ++ user
  let s := { s with snapshot := some snapshot }
  if s.operations.isEmpty then return (s, events)
  else if s.windowElapsed now then
    let (s, more) ← s.runSimulation now
    return (s, events ++ more)
  else return ({ s with pending := true }, events)

/-- Replaces the operations and simulates them at once; an empty list is a reset. -/
def setOperations (s : Session) (ops : List Operation) (now : Nat) : Transitioned :=
  if ops.isEmpty then .ok s.reset
  else { s with operations := ops }.runSimulation now

/-- Runs a pending simulation once the debounce window has passed. -/
def poll (s : Session) (now : Nat) : Transitioned :=
  if s.pending && s.windowElapsed now then s.runSimulation now else .ok (s, [])

/-- Fetches a snapshot (latest block) and applies it. -/
def refresh (s : Session) (src : DataSource) (user : Option Address) (now : Nat) :
    Fetched Transitioned := do
  let snapshot ← fetchSnapshot src user none
  return s.applySnapshot snapshot now

/-- The snapshot, for queries. -/
def current (s : Session) : Answer Snapshot :=
  match s.snapshot with
  | some snapshot => .ok snapshot
  | none => .error (.missingData .snapshot)

/-- The market views of the snapshot. -/
def marketsData (s : Session) : Answer (List MarketView) := do (← s.current).marketsData

/-- The user view of the snapshot. -/
def userView (s : Session) : Answer UserView := do (← s.current).userView

/-- The user's per-market views of the snapshot. -/
def userMarketsData (s : Session) : Answer (List PositionView) := do (← s.current).userMarketsData

/-- The capacity of an operation on the snapshot. -/
def maxCapacity (s : Session) (market : Address) (kind : OperationKind) :
    Answer (Option CapacityLimit) := do
  (← s.current).userMaxCapacity market kind

end Session

/-- The latest value of every output of a session. -/
structure Publisher where
  markets : List MarketView
  user : Option UserView
  simulation : Option SimulatedState
  simulationIssue : Option SimulationIssue

namespace Publisher

/-- A publisher that has published nothing. -/
def empty : Publisher := ⟨[], none, none, none⟩

/-- Takes one event's value. -/
def take (p : Publisher) : SessionEvent → Publisher
  | .marketsUpdated views => { p with markets := views }
  | .userUpdated view => { p with user := some view }
  | .simulationUpdated state => { p with simulation := state }
  | .simulationIssueUpdated issue => { p with simulationIssue := issue }

/-- Takes every event's value, in order. -/
def publish (p : Publisher) (events : List SessionEvent) : Publisher := events.foldl take p

end Publisher

end PeerLending
