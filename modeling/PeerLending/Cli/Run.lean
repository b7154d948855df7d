import PeerLending.Cli.Command
import PeerLending.Cli.Render
import PeerLending.Json.Load
import PeerLending.Json.Outcome
import PeerLending.Capacity

/-!
# Running a command

A command runs in three steps:

1. the snapshot file is read and decoded (`Failed to load snapshot PATH` on failure);
2. it is assembled again through a provider serving it, for the snapshot's own user, which keeps
   only markets with a configuration and needs a chain context (`Incomplete snapshot PATH`);
3. the command queries the assembled snapshot and writes a table or pretty JSON.

A failure is a chain of messages, outermost first, written as `Error: ...` with its causes and
ending the run with status 1. A usage error ends it with status 2, an overflow with status 101.
-/

set_option autoImplicit false

namespace PeerLending

namespace Cli

/-- What a run of the program printed, and how it ended. -/
structure RunResult where
  status : Nat
  stdout : String
  stderr : String

/-- A failure and its causes, outermost first. -/
abbrev Failure := List String

/-- The report of a failure: the message, then its causes (numbered when there are several). -/
def Failure.render (f : Failure) : String :=
  match f with
  | [] => "Error: \n"
  | [m] => "Error: " ++ m ++ "\n"
  | m :: [c] => "Error: " ++ m ++ "\n\nCaused by:\n    " ++ c ++ "\n"
  | m :: causes =>
    let numbered := causes.mapIdx fun i c =>
      let n := toString i
      String.ofList (List.replicate (5 - n.length) ' ') ++ n ++ ": " ++ c
    "Error: " ++ m ++ "\n\nCaused by:\n" ++ "\n".intercalate numbered ++ "\n"

/-- How a command went: printed output, a failure, or an overflow. -/
inductive Outcome where
  | printed (text : String)
  | failed (f : Failure)
  | overflow

/-- The run's result for an outcome. -/
def Outcome.result : Outcome → RunResult
  | .printed text => ⟨0, text ++ "\n", ""⟩
  | .failed f => ⟨1, "", f.render⟩
  | .overflow =>
    ⟨101, "", "\nthread 'main' panicked:\noverflow\n"⟩

/-- A query's answer as an outcome step: its value, or the failure or overflow it ended in. -/
def fromAnswer {α : Type} (r : Answer α) (k : α → Outcome) : Outcome :=
  match r with
  | .ok a => k a
  | .error .overflow => .overflow
  | .error e => .failed [e.message]

/-- Loads the snapshot the command names from the file's contents (or the reason it could not
be read), and assembles it again through a provider for its own user. -/
def loadForRun (path : String) (contents : Except String String) : Except Failure Snapshot :=
  let context := "Failed to load snapshot " ++ path
  match contents with
  | .error reason => .error [context, "I/O error: " ++ reason, reason]
  | .ok text =>
    match loadSnapshot text with
    | .error (.parse m) => .error [context, "Failed to parse snapshot: " ++ m, m]
    | .error e => .error [context, e.message]
    | .ok file =>
      let provider := StaticProvider.mk file
      match fetchSnapshot provider.source (file.user.map (·.address)) none with
      | .ok s => .ok s
      | .error e => .error ["Incomplete snapshot " ++ path, e.message]

/-! ## Tables -/

/-- The market list. -/
def marketsTable (markets : List MarketView) : String :=
  if markets.isEmpty then "No markets found."
  else
    table ["Symbol", "Market", "Pool Supply APY", "P2P Supply APY", "P2P Borrow APY",
        "Pool Borrow APY", "Morpho Supply", "Morpho Borrow", "Matched (S/B)"]
      (markets.map fun m =>
        [m.symbol, truncateAddress m.underlying.checksummed, formatPercent m.poolSupplyApy,
          formatPercent m.p2pSupplyApy, formatPercent m.p2pBorrowApy, formatPercent m.poolBorrowApy,
          formatAmount m.totalProtocolSupply m.decimals, formatAmount m.totalProtocolBorrow m.decimals,
          formatPercent m.supplyMatchingShare ++ " / " ++ formatPercent m.borrowMatchingShare])

/-- How a capacity's reason reads in a table. -/
def reasonLabel : LimitReason → String
  | .walletBalance => "wallet balance"
  | .operationPaused => "operation paused"
  | .zeroPrice => "zero price"
  | .cap => "market cap"
  | .borrowCapacity => "borrow capacity"
  | .poolLiquidity => "pool liquidity"
  | .balance => "position balance"

/-- The capacity per operation; claims and wraps count in eighteen decimals. -/
def capacityTable (limits : List (OperationKind × Option CapacityLimit)) (decimals : Nat) : String :=
  table ["Operation", "Max Amount", "Limited By"]
    (limits.map fun (kind, limit) =>
      let d := match kind with
        | .claimRewards | .wrap => 18
        | _ => decimals
      match limit with
      | some l => [kind.name, formatAmount l.value d, reasonLabel l.reason]
      | none => [kind.name, "-", "missing data"])

/-- A line of sixty `=`. -/
def ruler : String := String.ofList (List.replicate 60 '=')

/-- The user's account: health, totals and positions. -/
def userDetail (u : UserView) : String :=
  let title := match u.user with
    | some a => "User " ++ a.checksummed
    | none => "User"
  let head := ruler ++ "\n" ++ title ++ "\n" ++ ruler ++ "\n\n" ++
    "Health\n" ++
    "  Health Factor:     " ++ formatHealthFactor u.healthFactor ++ "\n" ++
    "  Borrow Capacity:   " ++ formatUsd u.borrowCapacity ++ " (used " ++
      formatPercent u.borrowCapacityUsed ++ ")\n" ++
    "  Liquidation Value: " ++ formatUsd u.liquidationValue ++ " (used " ++
      formatPercent u.liquidationValueUsed ++ ")\n" ++
    "  Net APY:           " ++ formatSignedPercent u.netApy ++ "\n\n" ++
    "Totals (USD)\n" ++
    "  Supplied:   " ++ formatUsd u.totalSupplyUsd ++ "\n" ++
    "  Collateral: " ++ formatUsd u.totalCollateralUsd ++ "\n" ++
    "  Borrowed:   " ++ formatUsd u.totalBorrowUsd ++ "\n\n" ++
    "Positions\n"
  if u.markets.isEmpty then head ++ "  No positions found.\n"
  else
    head ++ table ["Symbol", "Supplied", "Collateral", "Borrowed", "Wallet", "Matched (S/B)",
        "Supply APY", "Borrow APY"]
      (u.markets.map fun m =>
        [m.symbol, formatAmount m.totalSupply m.decimals, formatAmount m.collateral m.decimals,
          formatAmount m.totalBorrow m.decimals, formatAmount m.walletBalance m.decimals,
          formatPercent m.supplyMatchingShare ++ " / " ++ formatPercent m.borrowMatchingShare,
          formatPercent m.experiencedSupplyApy, formatPercent m.experiencedBorrowApy]) ++ "\n"

/-- One row per applied step, then how the run ended. -/
def simulationReport (ops : List Operation) (o : SimulationOutcome) : String :=
  let rows := ((o.steps.zip ops).zipIdx).map fun ((step, op), i) =>
    let market := step.market? op.market
    let symbol := match market with
      | some m => m.symbol
      | none => truncateAddress op.market.checksummed
    let decimals := match market with
      | some m => m.decimals
      | none => 18
    [toString i, op.kind.name ++ (if op.unwrap then " (unwrap)" else ""), symbol,
      formatAmount op.amount decimals, formatHealthFactor step.user.healthFactor,
      formatPercent step.user.borrowCapacityUsed]
  let steps := if rows.isEmpty then ""
    else table ["#", "Operation", "Market", "Amount", "Health Factor", "Capacity Used"] rows ++ "\n"
  let ending := match o.issue, o.final with
    | none, some _ => "Simulation succeeded"
    | some e, some _ => "Warning: " ++ e.text
    | some e, none => "Aborted: " ++ e.text
    | none, none => "Aborted"
  steps ++ ending ++ "\n"

/-! ## Commands -/

/-- The JSON form of a run's outcome as the program writes it. -/
def outcomeJson (o : SimulationOutcome) : Json :=
  .object [("steps", .array (o.steps.map SimulatedState.toJson)),
    ("final_state", .ofOption SimulatedState.toJson o.final),
    ("error", .ofOption SimulationIssue.toJson o.issue)]

/-- The operation an argument stands for, once its market's decimals are known (eighteen for
claims and wraps on a market without configuration). -/
def toOperation (s : Snapshot) (arg : OperationArg) : Except Failure Operation := do
  let amount ← match arg.amount with
    | .max => pure Word.maxValue
    | .units text =>
      let decimals : Except Failure Nat := match s.configs.get? arg.market with
        | some config => .ok config.decimals
        | none =>
          match arg.kind with
          | .claimRewards | .wrap => .ok 18
          | _ => .error ["Unknown market " ++ arg.market.checksummed]
      let d ← decimals
      match parseAmount text d with
      | .ok w => pure w
      | .error e => .error (("Invalid amount for " ++ arg.kind.name) :: e.causes text)
  return ⟨arg.kind, arg.market, amount, arg.unwrap⟩

/-- The capacities of the kinds on a market; the first failure stops. -/
def capacities (s : Snapshot) (market : Address) :
    List OperationKind → Answer (List (OperationKind × Option CapacityLimit))
  | [] => .ok []
  | k :: rest => do
    let limit ← s.userMaxCapacity market k
    return (k, limit) :: (← capacities s market rest)

/-- Runs a command on an assembled snapshot. -/
def execute (format : OutputFormat) (s : Snapshot) : Command → Outcome
  | .markets _ =>
    fromAnswer s.marketsData fun ms =>
      .printed (match format with
        | .table => marketsTable ms
        | .json => (Json.array (ms.map MarketView.toJson)).pretty)
  | .user _ =>
    fromAnswer s.userView fun u =>
      .printed (match format with
        | .table => userDetail u
        | .json => u.toJson.pretty)
  | .capacity _ market operation =>
    match s.configs.get? market with
    | none => .failed ["Unknown market " ++ market.checksummed]
    | some config =>
      let kinds := match operation with
        | some k => [k]
        | none => OperationKind.all
      fromAnswer (capacities s market kinds) fun limits =>
        .printed (match format with
          | .table => capacityTable limits config.decimals
          | .json => (Json.array (limits.map fun (k, l) =>
              .object [("limit", .ofOption (fun c => .object [("reason", .string c.reason.name),
                ("value", .ofWord c.value)]) l), ("operation", k.toJson)])).pretty)
  | .simulate _ args =>
    match args.mapM (toOperation s) with
    | .error f => .failed f
    | .ok ops =>
      fromAnswer (simulate s ops) fun o =>
        .printed (match format with
          | .table => simulationReport ops o
          | .json => (outcomeJson o).pretty)

/-- The snapshot file a command names. -/
def Command.snapshotPath : Command → String
  | .markets p | .user p | .capacity p _ _ | .simulate p _ => p

/-- Runs an invocation given the snapshot file's contents (or why it could not be read). -/
def Invocation.run (inv : Invocation) (contents : Except String String) : RunResult :=
  match loadForRun inv.command.snapshotPath contents with
  | .error f => (Outcome.failed f).result
  | .ok s =>
    let printed := execute inv.format s inv.command
    -- a table or JSON is followed by one newline, as a printed line
    printed.result

/-- Runs a whole command line, given the snapshot variable's value and how files read: help and
usage errors need no file, a command reads the one it names. -/
def runLine (args : List String) (env : Option String) (files : String → Except String String) :
    RunResult :=
  match parse args env with
  | .help text => ⟨0, text, ""⟩
  | .usage text => ⟨2, "", text⟩
  | .run inv => inv.run (files inv.command.snapshotPath)

end Cli

end PeerLending
