import PeerLending.Snapshot

/-!
# Where snapshots come from

A snapshot is assembled from three capabilities: the markets (states with their configurations),
the user's data (positions and the context that belongs to no market), and the chain context. A
capability may fail; `fetchSnapshot` asks for the chain context first and pins the block of
every later request to the chain context's block.

`StaticProvider` serves all three from a snapshot in memory, ignoring the block: a market is
served only with its configuration, and user data only for the snapshot's own user (or for anyone
when it has none).
-/

set_option autoImplicit false

namespace PeerLending

/-- A market's state together with its configuration. -/
structure FetchedMarket where
  state : MarketState
  config : MarketConfig

/-- Why a provider could not serve a request. -/
inductive ProviderError where
  /-- Reading a snapshot file failed. -/
  | io (cause : String)
  /-- A snapshot file could not be read as a snapshot. -/
  | parse (cause : String)
  /-- The provider has no data for this user. -/
  | unknownUser (user : Address)
  /-- The provider has no chain context. -/
  | chainUnavailable
deriving DecidableEq

/-- The words of a provider error. -/
def ProviderError.message : ProviderError → String
  | .io cause => "I/O error: " ++ cause
  | .parse cause => "Failed to parse snapshot: " ++ cause
  | .unknownUser user => "No positions for user " ++ user.checksummed
  | .chainUnavailable => "Global context unavailable"

/-- What a request to a provider gives back. -/
abbrev Fetched (α : Type) := Except ProviderError α

/-- The three capabilities a snapshot is assembled from; every request names a block, none for
the latest. -/
structure DataSource where
  markets : Option Nat → Fetched (List FetchedMarket)
  positions : Address → Option Nat → Fetched (List Position)
  account : Address → Option Nat → Fetched Account
  chain : Option Nat → Fetched ChainContext

/-- Assembles a snapshot: the chain context first, then every market and, for a user, their
context and positions, all at the chain context's block. -/
def fetchSnapshot (src : DataSource) (user : Option Address) (block : Option Nat) :
    Fetched Snapshot := do
  let chain ← src.chain block
  let pinned := some chain.block
  let markets ← src.markets pinned
  let s := markets.foldl (fun s m => s.withMarket m.state m.config) (Snapshot.empty.withChain chain)
  match user with
  | none => return s
  | some u =>
    let account ← src.account u pinned
    let s := { s with user := some account }
    let positions ← src.positions u pinned
    return positions.foldl Snapshot.withPosition s

/-- A provider serving one snapshot held in memory. -/
structure StaticProvider where
  snapshot : Snapshot

namespace StaticProvider

/-- Whether the provider holds data for `user`: the snapshot's own user, or anyone when the
snapshot has no user. -/
def serves (p : StaticProvider) (user : Address) : Bool :=
  match p.snapshot.user with
  | some context => context.address = user
  | none => true

/-- Every market that has a configuration, in address order. -/
def fetchMarkets (p : StaticProvider) : List FetchedMarket :=
  p.snapshot.markets.entries.filterMap fun (address, state) =>
    (p.snapshot.configs.get? address).map (FetchedMarket.mk state)

/-- The user's positions, when the provider serves the user. -/
def fetchPositions (p : StaticProvider) (user : Address) : Fetched (List Position) :=
  if p.serves user then .ok p.snapshot.positions.values else .error (.unknownUser user)

/-- The user's context, when it is the snapshot's own user. -/
def fetchAccount (p : StaticProvider) (user : Address) : Fetched Account :=
  match p.snapshot.user with
  | some context => if context.address = user then .ok context else .error (.unknownUser user)
  | none => .error (.unknownUser user)

/-- The chain context, when the snapshot has one. -/
def fetchChain (p : StaticProvider) : Fetched ChainContext :=
  match p.snapshot.chain with
  | some c => .ok c
  | none => .error .chainUnavailable

/-- The provider as all three capabilities, ignoring the block. -/
def source (p : StaticProvider) : DataSource where
  markets _ := .ok p.fetchMarkets
  positions user _ := p.fetchPositions user
  account user _ := p.fetchAccount user
  chain _ := p.fetchChain

end StaticProvider

end PeerLending
