import PeerLending.User.View

/-!
# Views of a snapshot

The views of a whole snapshot, in two flavours:

* on the snapshot as it stands (`marketViews`, `marketView`, `positionViews`, `currentUserView`),
  used on snapshots that are already aged;
* aged first to the chain context's timestamp (`marketsData`, `userView`, `userMarketsData`),
  which need the chain context and say so when it is missing.

A position is viewed through the market and configuration stored under the *position's own*
market address; a position naming a market without state or without configuration makes the
whole user view fail, with the first such position (in address order) named.
-/

set_option autoImplicit false

namespace PeerLending

namespace Snapshot

/-- Views of every market that has a configuration, in address order, as they stand. -/
def marketViews (s : Snapshot) : List MarketView :=
  s.markets.entries.filterMap fun (address, state) =>
    (s.configs.get? address).map (MarketView.of state)

/-- The view of one market as it stands. -/
def marketView (s : Snapshot) (market : Address) : Answer MarketView :=
  match s.markets.get? market, s.configs.get? market with
  | none, _ => .error (.unknownMarket market)
  | some _, none => .error (.missingConfig market)
  | some state, some config => .ok (MarketView.of state config)

/-- The chain context, or the error saying it was never fetched. -/
def requireChain (s : Snapshot) : Answer ChainContext :=
  match s.chain with
  | some c => .ok c
  | none => .error (.missingData .chainContext)

/-- The view of one position, through the market stored under the position's own market. -/
def positionView (s : Snapshot) (chain : ChainContext) (p : Position) : Answer PositionView :=
  match s.markets.get? p.market, s.configs.get? p.market with
  | none, _ => .error (.unknownMarket p.market)
  | some _, none => .error (.missingConfig p.market)
  | some state, some config =>
    .ok (PositionView.of p (MarketView.of state config) (RiskParams.effective state config chain))

/-- Views of every position, in address order, as they stand. -/
def positionViews (s : Snapshot) : Answer (List PositionView) := do
  let chain ← s.requireChain
  s.positions.values.mapM (s.positionView chain)

/-- The user's view as the snapshot stands. -/
def currentUserView (s : Snapshot) : Answer UserView := do
  let views ← s.positionViews
  match UserView.aggregate (s.user.map (·.address)) views with
  | some u => .ok u
  | none => .error .overflow

/-- Views of every configured market, aged to the chain context's timestamp. -/
def marketsData (s : Snapshot) : Answer (List MarketView) := do
  let chain ← s.requireChain
  return (s.accrue chain.timestamp).marketViews

/-- The user's view, aged to the chain context's timestamp. -/
def userView (s : Snapshot) : Answer UserView := do
  let chain ← s.requireChain
  (s.accrue chain.timestamp).currentUserView

/-- Views of the positions that hold anything with the lending layer, aged to the chain
context's timestamp. Positions with only a wallet balance are left out. -/
def userMarketsData (s : Snapshot) : Answer (List PositionView) := do
  let chain ← s.requireChain
  let aged := s.accrue chain.timestamp
  let views ← aged.positionViews
  return views.filter fun v =>
    match aged.positions.get? v.market with
    | some p => p.holdsAny
    | none => false

end Snapshot

end PeerLending
