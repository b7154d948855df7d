import PeerLending.Simulation.Step

/-!
# Simulating a list of operations

The snapshot is first aged to its chain context's timestamp, and then the operations are applied
one after the other, each on the state the previous one left. After every operation the views are
derived again and kept as a step.

Only the first issue of a run is kept. A blocking issue (or a view that cannot be derived) ends the
run with no final state; the other issues are only noted. When the run reaches the end of a
non-empty list, a final health factor under the threshold is noted as
`collateralCapacityReached` on the last operation.

An overflow in the signed net-APY sum ends everything: the run has no outcome at all.
-/

set_option autoImplicit false

namespace PeerLending

/-- The health factor under which a final state is flagged: one, in wad. -/
def defaultHealthThreshold : Word := wad

/-- An issue of a run, with the position of the operation it belongs to. -/
structure SimulationIssue where
  index : Nat
  kind : IssueKind
  /-- None when the issue belongs to no operation (an empty list that could not start). -/
  operation : Option Operation
deriving DecidableEq

/-- The words of an issue. -/
def SimulationIssue.text (e : SimulationIssue) : String :=
  e.kind.text ++ " at operation " ++ toString e.index

/-- A snapshot with the views derived from it. -/
structure SimulatedState where
  snapshot : Snapshot
  markets : List MarketView
  user : UserView

namespace SimulatedState

/-- Derives the views of a snapshot that is already aged. -/
def derive (s : Snapshot) : Answer SimulatedState := do
  let user ← s.currentUserView
  return ⟨s, s.marketViews, user⟩

/-- The view of a market, when it is known. -/
def market? (st : SimulatedState) (market : Address) : Option MarketView :=
  st.markets.find? fun v => v.underlying = market

end SimulatedState

/-- What a run produced: the state after every applied operation, the state at the end (none
when the run stopped), and its first issue. -/
structure SimulationOutcome where
  steps : List SimulatedState
  final : Option SimulatedState
  issue : Option SimulationIssue

/-- Whether the run stopped before the end of the list. -/
def SimulationOutcome.aborted (o : SimulationOutcome) : Bool := o.final.isNone

/-- Keeps the first issue: a later one is dropped. -/
def firstIssue (kept : Option SimulationIssue) (index : Nat) (kind : IssueKind)
    (op : Option Operation) : Option SimulationIssue :=
  match kept with
  | some e => some e
  | none => some ⟨index, kind, op⟩

/-- Claims pending rewards, at most all of them. -/
def claimRewards (s : Snapshot) (op : Operation) : Except StepFailure Transition :=
  match s.user with
  | none => .error (.blocked .missingData)
  | some user => do
    let requested ← resolveAmount s op
    let exceeds := decide (user.claimableRewards < requested)
    let amount := if exceeds then user.claimableRewards else requested
    let user := { user with
      claimableRewards := user.claimableRewards - amount
      rewardsBalance := user.rewardsBalance + amount }
    return ⟨{ s with user := some user }, amount, if exceeds then [.insufficientBalance] else []⟩

/-- Wraps chain coin into the market's wallet balance; a shortfall is noted and the balance
stops at zero. -/
def wrapCoin (s : Snapshot) (op : Operation) : Except StepFailure Transition :=
  match s.configs.get? op.market with
  | none => .error (.blocked .unknownMarket)
  | some config =>
    if !s.markets.contains op.market then .error (.blocked .unknownMarket)
    else if !config.wrappedNative then .error (.blocked .operationDisabled)
    else match s.user with
      | none => .error (.blocked .missingData)
      | some user => do
        let amount ← resolveAmount s op
        let issues := if user.nativeBalance < amount then [IssueKind.insufficientWalletBalance] else []
        let user := { user with nativeBalance := zeroFloorSub user.nativeBalance amount }
        let position := (s.positions.get? op.market).getD (Position.empty op.market)
        let position := { position with walletBalance := position.walletBalance + amount }
        return ⟨{ s with user := some user, positions := s.positions.insert op.market position },
          amount, issues⟩

/-- Performs a market operation on the work: a borrow is held against the borrow capacity the
user's view leaves (in the asset, at its efficiency-mode price), and a collateral withdrawal
against the headroom that keeps the debt covered. Claims and wraps leave the work alone. -/
def Work.perform (w : Work) (st : SimulatedState) (chain : ChainContext) (op : Operation)
    (amount : Word) : Work :=
  match op.kind with
  | .supply => w.supply amount
  | .supplyCollateral => w.supplyCollateral amount
  | .borrow =>
    let risk := RiskParams.effective w.market w.config chain
    let price := usdPrice risk.chainUsdPrice w.config.decimals
    w.borrow amount (fromUsd st.user.borrowCapacityRemaining price)
  | .repay => w.repay amount
  | .withdraw => w.withdraw amount
  | .withdrawCollateral =>
    w.withdrawCollateral amount ((st.user.position? op.market).bind (withdrawCollateralHeadroom st.user))
  | .claimRewards | .wrap => w

/-- Applies one operation to a state: the checks in order (a known market, the chain context,
the amount, a market that is not deprecated for new exposure, an operation that is not paused,
an unwrap the market allows), then the operation itself. -/
def applyOperation (st : SimulatedState) (op : Operation) : Except StepFailure Transition :=
  let s := st.snapshot
  match op.kind with
  | .claimRewards => claimRewards s op
  | .wrap => wrapCoin s op
  | kind =>
    match s.markets.get? op.market, s.configs.get? op.market with
    | some market, some config =>
      match s.chain with
      | none => .error (.blocked .missingData)
      | some chain => do
        let amount ← resolveAmount s op
        if config.pause.deprecated && kind.opensExposure then .error (.blocked .operationDisabled)
        else if config.pause.stops kind then .error (.blocked .operationPaused)
        else if op.unwrap && (!kind.supportsUnwrap || !config.wrappedNative) then
          .error (.blocked .operationDisabled)
        else if op.unwrap && s.user.isNone then .error (.blocked .missingData)
        else return ((Work.start s market config op.unwrap).perform st chain op amount).finish s
    | _, _ => .error (.blocked .unknownMarket)

/-- How a run went so far: the steps kept and the first issue. -/
structure RunLog where
  steps : List SimulatedState
  issue : Option SimulationIssue

/-- Notes an issue in the log, keeping the first. -/
def RunLog.note (log : RunLog) (index : Nat) (kind : IssueKind) (op : Option Operation) : RunLog :=
  { log with issue := firstIssue log.issue index kind op }

/-- Applies the operations from position `index` on; the log and the state reached, none when
the run stopped. -/
def runFrom : List Operation → Nat → SimulatedState → RunLog →
    Answer (RunLog × Option SimulatedState)
  | [], _, current, log => .ok (log, some current)
  | op :: rest, index, current, log =>
    match applyOperation current op with
    | .error .overflow => .error .overflow
    | .error (.blocked kind) => .ok (log.note index kind (some op), none)
    | .ok t =>
      let log := t.issues.foldl (fun l k => l.note index k (some op)) log
      match SimulatedState.derive t.snapshot with
      | .error .overflow => .error .overflow
      | .error e => .ok (log.note index (IssueKind.ofQueryError e) (some op), none)
      | .ok next => runFrom rest (index + 1) next { log with steps := log.steps ++ [next] }

/-- Simulates the operations on a snapshot, flagging a final health factor under `threshold`. -/
def simulateWithThreshold (s : Snapshot) (ops : List Operation) (threshold : Word) :
    Answer SimulationOutcome :=
  let stopped (kind : IssueKind) : SimulationOutcome :=
    ⟨[], none, firstIssue none 0 kind ops.head?⟩
  match s.chain with
  | none => .ok (stopped .missingData)
  | some chain =>
    match SimulatedState.derive (s.accrue chain.timestamp) with
    | .error .overflow => .error .overflow
    | .error e => .ok (stopped (IssueKind.ofQueryError e))
    | .ok start => do
      let (log, final) ← runFrom ops 0 start ⟨[], none⟩
      match final with
      | none => return ⟨log.steps, none, log.issue⟩
      | some current =>
        let log :=
          if ops ≠ [] ∧ current.user.healthFactor < threshold then
            log.note (ops.length - 1) .collateralCapacityReached ops.getLast?
          else log
        return ⟨log.steps, some current, log.issue⟩

/-- Simulates the operations on a snapshot with the default threshold. -/
def simulate (s : Snapshot) (ops : List Operation) : Answer SimulationOutcome :=
  simulateWithThreshold s ops defaultHealthThreshold

end PeerLending
