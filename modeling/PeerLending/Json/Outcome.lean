import PeerLending.Json.Views
import PeerLending.Simulation

/-!
# The JSON form of capacities and simulations

A capacity is its value and the name of what binds it; a simulated state is its snapshot with the
derived views; an issue is its position, the name of its kind and its operation (or `null`); an
outcome lists its steps, its final state and first issue (`null` when there are none), and whether
it stopped early.
-/

set_option autoImplicit false

namespace PeerLending

def CapacityLimit.toJson (c : CapacityLimit) : Json :=
  .object [("value", .ofWord c.value), ("reason", .string c.reason.name)]

def SimulatedState.toJson (st : SimulatedState) : Json :=
  .object [("snapshot", st.snapshot.toJson),
    ("markets", .array (st.markets.map MarketView.toJson)),
    ("user", st.user.toJson)]

def SimulationIssue.toJson (e : SimulationIssue) : Json :=
  .object [("index", .ofNat e.index), ("kind", .string e.kind.name),
    ("operation", .ofOption Operation.toJson e.operation)]

def SimulationOutcome.toJson (o : SimulationOutcome) : Json :=
  .object [("steps", .array (o.steps.map SimulatedState.toJson)),
    ("final_state", .ofOption SimulatedState.toJson o.final),
    ("error", .ofOption SimulationIssue.toJson o.issue),
    ("aborted", .bool o.aborted)]

end PeerLending
