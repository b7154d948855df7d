import PeerLending.Proofs.Step

/-!
# The shape of every simulation outcome

A run keeps a step for every operation it applies, stops at the first blocking issue, and keeps
only the first issue it meets. Whatever the snapshot and the operations, its outcome therefore
has one shape (`SimulationOutcome.Shaped`): no more steps than operations; a run that reaches the
end keeps a step per operation, ends on the last one and carries at most a non-blocking issue;
a run that stops carries an issue; and every issue points at the operation it belongs to.

An issue of a run that stopped is either blocking and belongs to the operation that stopped it,
whose step was not kept, or is non-blocking and belongs to that operation or an earlier one. The
non-blocking issue can belong to the stopping operation itself: an operation that notes a
shortfall and then leaves views that cannot be derived stops the run, and the shortfall it noted
first is the issue kept (`simulate_shortfall_then_stop`).

The proof follows the fold: `RunLog.Fits` says what the log holds after the first `i`
operations, `runFrom_ok` carries it along the list, and `simulateWithThreshold_shaped` adds the
checks made before and after the fold.
-/

set_option autoImplicit false

namespace PeerLending

/-! ## 1. Keeping the first issue -/

theorem firstIssue_eq (kept : Option SimulationIssue) (i : Nat) (k : IssueKind)
    (op : Option Operation) : firstIssue kept i k op = kept.or (some ⟨i, k, op⟩) := by
  cases kept <;> rfl

namespace RunLog

/-- Noting the issues of one operation keeps the steps, and keeps the log's issue or else takes
the first of them. -/
theorem foldl_note (issues : List IssueKind) (log : RunLog) (i : Nat) (op : Option Operation) :
    (issues.foldl (fun l k => l.note i k op) log).steps = log.steps ∧
      (issues.foldl (fun l k => l.note i k op) log).issue =
        log.issue.or (issues.head?.map fun k => ⟨i, k, op⟩) := by
  induction issues generalizing log with
  | nil => simp
  | cons k rest ih =>
    obtain ⟨hs, hi⟩ := ih (log.note i k op)
    refine ⟨hs, ?_⟩
    rw [List.foldl_cons, hi]
    simp only [note, firstIssue_eq, List.head?_cons, Option.map_some]
    cases log.issue <;> rfl

/-! ## 2. The log along the fold -/

/-- What the log of a run over `ops` holds once the first `i` operations are applied and the
run stands at `current`: a step for each of them, the last being `current`, and at most a
non-blocking issue of one of them. -/
structure Fits (ops : List Operation) (i : Nat) (current : SimulatedState) (log : RunLog) :
    Prop where
  le_length : i ≤ ops.length
  steps_length : log.steps.length = i
  last : 0 < i → log.steps.getLast? = some current
  issue : ∀ e, log.issue = some e →
    e.index < i ∧ e.kind.isBlocking = false ∧ e.operation = ops[e.index]?

/-- What the log of a run over `ops` holds when the run stopped: fewer steps than operations,
and an issue of one of them that is either blocking and of the operation whose step is missing,
or non-blocking and of that operation or an earlier one. -/
structure Stopped (ops : List Operation) (log : RunLog) : Prop where
  steps_lt : log.steps.length < ops.length
  issue : ∃ e, log.issue = some e ∧ e.index < ops.length ∧ e.operation = ops[e.index]? ∧
    (e.kind.isBlocking = true ∧ e.index = log.steps.length ∨
      e.kind.isBlocking = false ∧ e.index ≤ log.steps.length)

theorem fits_start (ops : List Operation) (start : SimulatedState) :
    Fits ops 0 start ⟨[], none⟩ :=
  ⟨Nat.zero_le _, rfl, fun h => absurd h (Nat.lt_irrefl 0), fun _ h => by cases h⟩

section Fits

variable {ops : List Operation} {i : Nat} {current : SimulatedState} {log : RunLog}
  {op : Operation} {issues : List IssueKind}

/-- The log after an operation's issues are noted, at position `i`. -/
abbrev noteAll (log : RunLog) (i : Nat) (issues : List IssueKind) (op : Operation) : RunLog :=
  issues.foldl (fun l k => l.note i k (some op)) log

/-- A run that stops at operation `i`, after it noted non-blocking issues, on a blocking one:
the log's issue, the first of the operation's, or the blocking one, whichever comes first. -/
theorem Fits.stop (hf : Fits ops i current log) (hop : ops[i]? = some op)
    (hissues : ∀ k ∈ issues, k.isBlocking = false) {k : IssueKind} (hk : k.isBlocking = true) :
    Stopped ops ((noteAll log i issues op).note i k (some op)) := by
  obtain ⟨hs, hi⟩ := foldl_note issues log i (some op)
  have hlt : i < ops.length := (List.getElem?_eq_some_iff.1 hop).1
  refine ⟨by simp [note, hs, hf.steps_length, hlt], ?_⟩
  simp only [note, firstIssue_eq, hi, hs, hf.steps_length]
  rcases hl : log.issue with _ | e
  · cases issues with
    | nil => exact ⟨⟨i, k, some op⟩, rfl, hlt, hop.symm, Or.inl ⟨hk, rfl⟩⟩
    | cons k' _ =>
      exact ⟨⟨i, k', some op⟩, rfl, hlt, hop.symm, Or.inr ⟨hissues k' (by simp), Nat.le_refl _⟩⟩
  · obtain ⟨he, hb, ho⟩ := hf.issue e hl
    exact ⟨e, rfl, by omega, ho, Or.inr ⟨hb, by omega⟩⟩

/-- Applying operation `i` with non-blocking issues and keeping its step moves the log on. -/
theorem Fits.advance (hf : Fits ops i current log) (hop : ops[i]? = some op)
    (hissues : ∀ k ∈ issues, k.isBlocking = false) (next : SimulatedState) :
    Fits ops (i + 1) next
      { noteAll log i issues op with steps := (noteAll log i issues op).steps ++ [next] } := by
  obtain ⟨hs, hi⟩ := foldl_note issues log i (some op)
  have hlt : i < ops.length := (List.getElem?_eq_some_iff.1 hop).1
  refine ⟨hlt, by simp [hs, hf.steps_length], fun _ => by simp, ?_⟩
  intro e he
  simp only [hi] at he
  rcases hl : log.issue with _ | e'
  · rw [hl] at he
    cases issues with
    | nil => cases he
    | cons k _ =>
      cases he
      exact ⟨Nat.lt_succ_self i, hissues k (by simp), hop.symm⟩
  · rw [hl] at he
    cases he
    obtain ⟨he, hb, ho⟩ := hf.issue e hl
    exact ⟨by omega, hb, ho⟩

/-- A run at the end of the list has applied every operation. -/
theorem Fits.finish (hf : Fits ops i current log) (hend : ops.drop i = []) :
    Fits ops ops.length current log := by
  have : i = ops.length := Nat.le_antisymm hf.le_length (List.drop_eq_nil_iff.1 hend)
  exact this ▸ hf

end Fits

end RunLog

/-! ## 3. The fold -/

/-- A run from position `i` on, from a log that fits, either reaches the end with a log that fits
the whole list, or stops with a log that says why. -/
theorem runFrom_ok {ops : List Operation} (rest : List Operation) :
    ∀ (i : Nat) (current : SimulatedState) (log log' : RunLog) (final : Option SimulatedState),
      ops.drop i = rest → RunLog.Fits ops i current log →
      runFrom rest i current log = .ok (log', final) →
      (∀ f, final = some f → RunLog.Fits ops ops.length f log') ∧
        (final = none → RunLog.Stopped ops log') := by
  induction rest with
  | nil =>
    intro i current log log' final hd hf h
    simp only [runFrom, Except.ok.injEq, Prod.mk.injEq] at h
    obtain ⟨rfl, rfl⟩ := h
    exact ⟨fun f hf' => by cases hf'; exact hf.finish hd, fun h => by cases h⟩
  | cons op rest ih =>
    intro i current log log' final hd hf h
    have hop : ops[i]? = some op := by rw [← List.head?_drop, hd]; rfl
    have hrest : ops.drop (i + 1) = rest := by rw [← List.drop_drop, hd]; rfl
    rw [runFrom] at h
    cases happ : applyOperation current op with
    | error f =>
      rw [happ] at h
      cases f with
      | overflow => cases h
      | blocked k =>
        cases h
        exact ⟨fun _ h => (by cases h),
          fun _ => @RunLog.Fits.stop ops i current log op [] hf hop (by simp) k
            (applyOperation_blocked happ)⟩
    | ok t =>
      simp only [happ] at h
      have hissues := applyOperation_issues_continue happ
      cases hder : SimulatedState.derive t.snapshot with
      | error e =>
        rw [hder] at h
        split at h
        · cases h
        · cases h
          exact ⟨fun _ h => (by cases h),
            fun _ => hf.stop hop hissues (IssueKind.isBlocking_ofQueryError _)⟩
        · contradiction
      | ok next =>
        rw [hder] at h
        exact ih (i + 1) next _ log' final hrest (hf.advance hop hissues next) h

/-! ## 4. The outcome -/

/-- The shape of an outcome of a run over `ops`. -/
structure SimulationOutcome.Shaped (ops : List Operation) (o : SimulationOutcome) : Prop where
  /-- No more steps than operations. -/
  steps_le : o.steps.length ≤ ops.length
  /-- A run that reaches the end keeps a step per operation, ends on the last one, and carries
  at most a non-blocking issue. -/
  finished : ∀ f, o.final = some f → o.steps.length = ops.length ∧
    (ops ≠ [] → o.steps.getLast? = some f) ∧ ∀ e, o.issue = some e → e.kind.isBlocking = false
  /-- A run that stops carries an issue: a blocking one of the operation whose step is missing,
  or a non-blocking one of that operation or an earlier one. -/
  stopped : o.final = none → ∃ e, o.issue = some e ∧
    (e.kind.isBlocking = true ∧ e.index = o.steps.length ∨
      e.kind.isBlocking = false ∧ e.index ≤ o.steps.length)
  /-- Every issue of a run over a non-empty list points at its operation. -/
  located : ops ≠ [] → ∀ e, o.issue = some e → e.index < ops.length ∧ e.operation = ops[e.index]?

namespace SimulationOutcome

variable {ops : List Operation}

/-- A run that cannot start stops on a blocking issue of the first operation. -/
theorem shaped_of_blocked {k : IssueKind} (hk : k.isBlocking = true) :
    Shaped ops ⟨[], none, firstIssue none 0 k ops.head?⟩ := by
  refine ⟨Nat.zero_le _, fun _ h => (by cases h), fun _ => ⟨_, rfl, Or.inl ⟨hk, rfl⟩⟩, ?_⟩
  intro hne e he
  cases he
  cases ops with
  | nil => exact absurd rfl hne
  | cons op _ => exact ⟨Nat.succ_pos _, rfl⟩

theorem shaped_of_stopped {log : RunLog} (hs : log.Stopped ops) :
    Shaped ops ⟨log.steps, none, log.issue⟩ := by
  obtain ⟨e, he, hlt, hop, hb⟩ := hs.issue
  refine ⟨Nat.le_of_lt hs.steps_lt, fun _ h => (by cases h), fun _ => ⟨e, he, hb⟩, ?_⟩
  intro _ e' he'
  rw [he] at he'
  cases he'
  exact ⟨hlt, hop⟩

theorem shaped_of_fits {log : RunLog} {f : SimulatedState} (hf : log.Fits ops ops.length f) :
    Shaped ops ⟨log.steps, some f, log.issue⟩ := by
  refine ⟨Nat.le_of_eq hf.steps_length, ?_, fun h => (by cases h), ?_⟩
  · intro f' h
    cases h
    refine ⟨hf.steps_length, fun hne => hf.last (List.length_pos_iff.2 hne), ?_⟩
    intro e he
    exact (hf.issue e he).2.1
  · intro _ e he
    obtain ⟨hlt, -, hop⟩ := hf.issue e he
    exact ⟨hlt, hop⟩

/-- A final health factor under the threshold is noted on the last operation, behind any
earlier issue. -/
theorem shaped_of_fits_flagged {log : RunLog} {f : SimulatedState}
    (hf : log.Fits ops ops.length f) (hne : ops ≠ []) :
    Shaped ops ⟨(log.note (ops.length - 1) .collateralCapacityReached ops.getLast?).steps, some f,
      (log.note (ops.length - 1) .collateralCapacityReached ops.getLast?).issue⟩ := by
  have hlen : 0 < ops.length := List.length_pos_iff.2 hne
  have hlast : ops.getLast? = ops[ops.length - 1]? := List.getLast?_eq_getElem?
  rcases hl : log.issue with _ | e
  · refine ⟨Nat.le_of_eq hf.steps_length, ?_, fun h => (by cases h), ?_⟩
    · intro f' h
      cases h
      refine ⟨hf.steps_length, fun _ => hf.last hlen, ?_⟩
      intro e he
      simp only [RunLog.note, firstIssue, hl, Option.some.injEq] at he
      rw [← he]
      rfl
    · intro _ e he
      simp only [RunLog.note, firstIssue, hl, Option.some.injEq] at he
      rw [← he]
      exact ⟨Nat.sub_lt hlen Nat.one_pos, hlast⟩
  · have : log.note (ops.length - 1) .collateralCapacityReached ops.getLast? = log := by
      cases log
      simp only at hl
      simp [RunLog.note, firstIssue, hl]
    rw [this]
    exact shaped_of_fits hf

end SimulationOutcome

/-- Every outcome of a simulation has the shape of a run over its operations. -/
theorem simulateWithThreshold_shaped {s : Snapshot} {ops : List Operation} {threshold : Word}
    {o : SimulationOutcome} (h : simulateWithThreshold s ops threshold = .ok o) :
    o.Shaped ops := by
  unfold simulateWithThreshold at h
  split at h
  -- no chain context: the run cannot start
  · cases h
    exact SimulationOutcome.shaped_of_blocked rfl
  · split at h
    · cases h
    -- the aged snapshot has no views: the run cannot start
    · cases h
      exact SimulationOutcome.shaped_of_blocked (IssueKind.isBlocking_ofQueryError _)
    · rename_i start _
      cases hrun : runFrom ops 0 start ⟨[], none⟩ with
      | error e =>
        rw [hrun] at h
        cases h
      | ok r =>
        obtain ⟨log, final⟩ := r
        have hok := runFrom_ok ops 0 start ⟨[], none⟩ log final rfl
          (RunLog.fits_start ops start) hrun
        rw [hrun] at h
        cases final with
        | none =>
          cases h
          exact SimulationOutcome.shaped_of_stopped (hok.2 rfl)
        | some f =>
          have hf := hok.1 f rfl
          cases h
          -- the check of the final health factor
          by_cases hc : ops ≠ [] ∧ f.user.healthFactor < threshold
          · rw [if_pos hc]
            exact SimulationOutcome.shaped_of_fits_flagged hf hc.1
          · rw [if_neg hc]
            exact SimulationOutcome.shaped_of_fits hf

/-! ## 5. A run that keeps every step

A market filed under its own asset, and a wallet that holds more than the operations take: every
operation goes through, and the run keeps a step for each and ends in a final state. -/

/-- The asset of the funded market. -/
def fundedAsset : Address := Address.ofNat 0xaaaaaaaaaaaaaaaaaaaaaaaaaaaaaaaaaaaaaaaa

/-- One market of a token of six decimals at indexes of one ray, filed under its own asset, and
ten tokens in the user's wallet. -/
def fundedSnapshot : Snapshot where
  chain := some ⟨1, 1000, 200000000000, EMode.none, FeeData.zero⟩
  user := some ⟨Address.ofNat 0x1111111111111111111111111111111111111111, 0, 0, 0⟩
  markets := AddrMap.empty.insert fundedAsset
    { underlying := fundedAsset
      scaledPoolSupply := 1000000000
      scaledPoolBorrow := 100000000
      scaledProtocolSupplyOnPool := 0
      scaledProtocolBorrowOnPool := 0
      scaledProtocolCollateral := 0
      deltas := default
      idleSupply := 0
      indexes := ⟨⟨ray, ray⟩, ⟨ray, ray⟩, 1000⟩
      poolReserve := ⟨ray, ray, 0, 0, 1000⟩
      poolLiquidity := 900000000
      chainUsdPrice := 100000000 }
  configs := AddrMap.empty.insert fundedAsset
    { underlying := fundedAsset
      symbol := "USDC"
      decimals := 6
      collateralFactor := 8500
      borrowableFactor := 8000
      p2pReserveFactor := 0
      p2pIndexCursor := 5000
      supplyCap := 0
      borrowCap := 0
      pause := {}
      eModeCategory := 0
      wrappedNative := false }
  positions := AddrMap.empty.insert fundedAsset
    { Position.empty fundedAsset with walletBalance := 10000000 }

/-- Supplying four tokens, supplying three as collateral, withdrawing one. -/
def fundedOps : List Operation :=
  [⟨.supply, fundedAsset, 4000000, false⟩, ⟨.supplyCollateral, fundedAsset, 3000000, false⟩,
    ⟨.withdraw, fundedAsset, 1000000, false⟩]

/-- The funded run keeps a step for every operation, ends in a final state, and has the shape of
every run. -/
theorem fundedRun_shaped :
    ∃ o, simulate fundedSnapshot fundedOps = .ok o ∧ o.steps.length = fundedOps.length ∧
      o.final.isSome ∧ o.Shaped fundedOps := by
  obtain ⟨o, h, hlen, hfinal⟩ : ∃ o, simulate fundedSnapshot fundedOps = .ok o ∧
      o.steps.length = fundedOps.length ∧ o.final.isSome := ⟨_, rfl, rfl, rfl⟩
  exact ⟨o, h, hlen, hfinal, simulateWithThreshold_shaped h⟩

/-! ## 6. A shortfall, then a stop

An operation on a market whose state names another asset than the address it is stored under
works on the position of that other asset, and writes the market back under it. The snapshot it
leaves has a market without a configuration, whose views cannot be derived: the run stops at
that operation. A supply of more than the (empty) wallet holds notes its shortfall first, and the
shortfall is the issue kept: non-blocking, and of the operation whose step is missing. -/

/-- The asset under which the market is stored. -/
def strayAsset : Address := Address.ofNat 0xaaaaaaaaaaaaaaaaaaaaaaaaaaaaaaaaaaaaaaaa

/-- A snapshot with one market, stored under `strayAsset`, whose state names another asset. -/
def strayMarketSnapshot : Snapshot where
  chain := some ⟨1, 1000, 200000000000, EMode.none, FeeData.zero⟩
  user := some ⟨Address.ofNat 0x1111111111111111111111111111111111111111, 0, 0, 0⟩
  markets := AddrMap.empty.insert strayAsset
    { underlying := Address.ofNat 0xbbbbbbbbbbbbbbbbbbbbbbbbbbbbbbbbbbbbbbbb
      scaledPoolSupply := 1000
      scaledPoolBorrow := 100
      scaledProtocolSupplyOnPool := 0
      scaledProtocolBorrowOnPool := 0
      scaledProtocolCollateral := 0
      deltas := default
      idleSupply := 0
      indexes := ⟨⟨ray, ray⟩, ⟨ray, ray⟩, 1000⟩
      poolReserve := ⟨ray, ray, 0, 0, 1000⟩
      poolLiquidity := 1000
      chainUsdPrice := 100000000 }
  configs := AddrMap.empty.insert strayAsset
    { underlying := strayAsset
      symbol := "USDC"
      decimals := 6
      collateralFactor := 8500
      borrowableFactor := 8000
      p2pReserveFactor := 0
      p2pIndexCursor := 5000
      supplyCap := 0
      borrowCap := 0
      pause := {}
      eModeCategory := 0
      wrappedNative := false }
  positions := AddrMap.empty

theorem simulate_shortfall_then_stop :
    simulate strayMarketSnapshot [⟨.supply, strayAsset, 1, false⟩] =
      .ok ⟨[], none, some ⟨0, .insufficientWalletBalance, some ⟨.supply, strayAsset, 1, false⟩⟩⟩ := by
  rfl

end PeerLending
