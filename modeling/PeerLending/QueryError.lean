import PeerLending.Operation

/-!
# Why a query has no answer

A view, a capacity or a simulation step is asked of a snapshot that may lack what it needs. The
causes are kept apart, and `QueryError.message` words each one; addresses are written in their
checksummed spelling.

`overflow` is different in kind: it is not missing data but a signed accumulation leaving the
256-bit range, after which the machine stops the whole computation. Every caller passes it on
untouched instead of turning it into a simulation issue.
-/

set_option autoImplicit false

namespace PeerLending

/-- The part of a snapshot that a query found missing. -/
inductive SnapshotPart where
  | chainContext
  | userPosition
  | snapshot
deriving DecidableEq, Repr

/-- How a missing part is named in messages. -/
def SnapshotPart.label : SnapshotPart → String
  | .chainContext => "global context"
  | .userPosition => "user position"
  | .snapshot => "snapshot"

/-- Why a query over a snapshot has no answer. -/
inductive QueryError where
  /-- A part of the snapshot was never fetched. -/
  | missingData (part : SnapshotPart)
  /-- No market state under this address. -/
  | unknownMarket (market : Address)
  /-- No configuration under this address. -/
  | missingConfig (market : Address)
  /-- A capacity found a minimum that none of its candidates attains. -/
  | unresolvedLimiter (market : Address) (kind : OperationKind)
  /-- A signed accumulation left the 256-bit range. -/
  | overflow
deriving DecidableEq

/-- The words of a query error. -/
def QueryError.message : QueryError → String
  | .missingData part => "Missing " ++ part.label ++ " in snapshot"
  | .unknownMarket m => "Unknown market " ++ m.checksummed
  | .missingConfig m => "Missing config for market " ++ m.checksummed
  | .unresolvedLimiter m k =>
    "No limiter matched the " ++ k.title ++ " capacity on market " ++ m.checksummed
  | .overflow => "overflow"

/-- A query's result. -/
abbrev Answer (α : Type) := Except QueryError α

end PeerLending
