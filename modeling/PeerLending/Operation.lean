import PeerLending.Market.State

/-!
# Operations

A user operation has a kind, the address of the market's asset, an amount in the asset's native
units, and whether a payout comes as the chain's own coin instead of its wrapped token. The
largest word as an amount means "as much as allowed".

Kinds have one canonical name each (`supply`, `supplyCollateral`, …). `OperationKind.parse?`
reads a name leniently: underscores and hyphens are dropped and ASCII letters lowercased before
the comparison with the lowercased canonical names, so `withdraw_collateral` and
`Claim-Rewards` are read too. Every other character must match as it is.
-/

set_option autoImplicit false

namespace PeerLending

/-- The kinds of user operations. -/
inductive OperationKind where
  | supply
  | supplyCollateral
  | borrow
  | repay
  | withdraw
  | withdrawCollateral
  | claimRewards
  | wrap
deriving DecidableEq, Repr

namespace OperationKind

/-- Every kind, in display order. -/
def all : List OperationKind :=
  [supply, supplyCollateral, borrow, repay, withdraw, withdrawCollateral, claimRewards, wrap]

/-- The canonical name. -/
def name : OperationKind → String
  | supply => "supply"
  | supplyCollateral => "supplyCollateral"
  | borrow => "borrow"
  | repay => "repay"
  | withdraw => "withdraw"
  | withdrawCollateral => "withdrawCollateral"
  | claimRewards => "claimRewards"
  | wrap => "wrap"

/-- The name with a capital initial, as in a type's constructor list. -/
def title : OperationKind → String
  | supply => "Supply"
  | supplyCollateral => "SupplyCollateral"
  | borrow => "Borrow"
  | repay => "Repay"
  | withdraw => "Withdraw"
  | withdrawCollateral => "WithdrawCollateral"
  | claimRewards => "ClaimRewards"
  | wrap => "Wrap"

/-- Whether the operation can pay out the chain's coin instead of the wrapped token. -/
def supportsUnwrap : OperationKind → Bool
  | borrow | withdraw | withdrawCollateral => true
  | _ => false

/-- Whether the operation adds exposure to the market. -/
def opensExposure : OperationKind → Bool
  | supply | supplyCollateral | borrow => true
  | _ => false

/-- The kind with exactly this canonical name. -/
def ofName? (s : String) : Option OperationKind := all.find? (·.name == s)

/-- A name with underscores and hyphens dropped and ASCII letters lowercased. -/
def normalize (s : String) : String :=
  String.ofList ((s.toList.filter fun c => c ≠ '_' ∧ c ≠ '-').map Char.toLower)

/-- Reads a kind leniently: the normalized text against the lowercased canonical names. -/
def parse? (s : String) : Option OperationKind :=
  let target := normalize s
  all.find? fun k => String.ofList (k.name.toList.map Char.toLower) == target

/-- Why a text names no kind. -/
def parseFailure (s : String) : String := "Unknown operation '" ++ s ++ "'"

end OperationKind

/-- Whether a market's pause flags stop an operation of this kind. Claims and wraps are not
guarded by a market's flags. -/
def PauseFlags.stops (p : PauseFlags) : OperationKind → Bool
  | .supply => p.supplyPaused
  | .supplyCollateral => p.supplyCollateralPaused
  | .borrow => p.borrowPaused
  | .repay => p.repayPaused
  | .withdraw => p.withdrawPaused
  | .withdrawCollateral => p.withdrawCollateralPaused
  | .claimRewards | .wrap => false

/-- One hypothetical user operation. -/
structure Operation where
  kind : OperationKind
  /-- The address of the market's asset. -/
  market : Address
  /-- Native units, or the largest word for "as much as allowed". -/
  amount : Word
  /-- Pay out the chain's coin instead of the wrapped token. -/
  unwrap : Bool
deriving DecidableEq

namespace Operation

/-- The operation of a kind on a market, paying out the wrapped token; a claim takes every
pending reward whatever the amount given. -/
def ofKind (kind : OperationKind) (market : Address) (amount : Word) : Operation :=
  match kind with
  | .claimRewards => ⟨kind, market, Word.maxValue, false⟩
  | _ => ⟨kind, market, amount, false⟩

/-- The same operation paying out the chain's coin. -/
def withUnwrap (op : Operation) : Operation := { op with unwrap := true }

/-- Whether the amount is the "as much as allowed" sentinel. -/
def isMax (op : Operation) : Bool := op.amount == Word.maxValue

end Operation

end PeerLending
