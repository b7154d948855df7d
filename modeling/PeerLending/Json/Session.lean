import PeerLending.Json.Outcome
import PeerLending.Session

/-!
# The JSON form of session outputs

An event is an object with one key, the event's name; a publisher's outputs are written under
their channel names; an error is its kind with its message.
-/

set_option autoImplicit false

namespace PeerLending

def SessionEvent.toJson : SessionEvent → Json
  | .marketsUpdated views => .object [("MarketsUpdated", .array (views.map MarketView.toJson))]
  | .userUpdated view => .object [("UserUpdated", view.toJson)]
  | .simulationUpdated state => .object [("SimulationUpdated", .ofOption SimulatedState.toJson state)]
  | .simulationIssueUpdated issue =>
    .object [("SimulationErrorUpdated", .ofOption SimulationIssue.toJson issue)]

/-- The channel an event is sent on. -/
def SessionEvent.channel : SessionEvent → String
  | .marketsUpdated _ => "markets"
  | .userUpdated _ => "user"
  | .simulationUpdated _ => "simulation"
  | .simulationIssueUpdated _ => "simulation_error"

/-- The channels of a publisher, in order. -/
def Publisher.channels : List String := ["markets", "user", "simulation", "simulation_error"]

/-- The channels that some event was sent on, in the publisher's order. -/
def Publisher.changed (events : List SessionEvent) : List String :=
  Publisher.channels.filter fun c => events.any fun e => e.channel = c

def Publisher.toJson (p : Publisher) : Json :=
  .object [("markets", .array (p.markets.map MarketView.toJson)),
    ("user", .ofOption UserView.toJson p.user),
    ("simulation", .ofOption SimulatedState.toJson p.simulation),
    ("simulation_error", .ofOption SimulationIssue.toJson p.simulationIssue)]

/-- A short account of an outcome: how many steps, the first issue, and whether it stopped. -/
def SimulationOutcome.summaryJson (o : SimulationOutcome) : Json :=
  .object [("steps", .ofNat o.steps.length),
    ("error", .ofOption SimulationIssue.toJson o.issue),
    ("aborted", .bool o.aborted)]

/-- The kind of a query error, as data. -/
def QueryError.kind : QueryError → String
  | .missingData _ => "MissingData"
  | .unknownMarket _ => "UnknownMarket"
  | .missingConfig _ => "MissingConfig"
  | .unresolvedLimiter _ _ => "UnresolvedLimiter"
  | .overflow => "Overflow"

def QueryError.toJson (e : QueryError) : Json :=
  .object [("error", .string e.kind), ("message", .string e.message)]

/-- The kind of a provider error, as data. -/
def ProviderError.kind : ProviderError → String
  | .io _ => "Io"
  | .parse _ => "Parse"
  | .unknownUser _ => "UnknownUser"
  | .chainUnavailable => "GlobalUnavailable"

def ProviderError.toJson (e : ProviderError) : Json :=
  .object [("error", .string e.kind), ("message", .string e.message)]

def FetchedMarket.toJson (m : FetchedMarket) : Json :=
  .object [("state", m.state.toJson), ("config", m.config.toJson)]

def SessionConfig.toJson (c : SessionConfig) : Json :=
  .object [("debounce_ms", .ofNat c.debounce), ("health_factor_threshold", .ofWord c.healthThreshold)]

end PeerLending
