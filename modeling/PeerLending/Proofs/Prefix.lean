import PeerLending.Proofs.Outcome

/-!
# Runs over a prefix of the operations

A step reads nothing but the state the previous one left, so the fold over `ops ++ rest` is the
fold over `ops`, resumed on `rest` from where it ended if it did not stop (`runFrom_append`).
Resuming only adds steps, keeps the issue already noted, and notes nothing at a position before
the one it starts from (`RunLog.Extends`).

Every simulation is that fold between a start that depends on the snapshot alone and a last
check of the final health factor (`simulateWithThreshold_eq`). Together they give prefix
consistency (`simulateWithThreshold_take`): the run over the first `k` operations keeps the
first steps of the run over all of them, carries the same issue whenever the longer run's issue
belongs to one of those `k` operations, and stops exactly when the longer run stops before its
`k`-th step. The last check is what can tell the two outcomes apart: it notes a low health
factor on the last operation of the shorter list, an issue the longer run need not carry.
-/

set_option autoImplicit false

namespace PeerLending

/-! ## 1. Splitting the fold -/

/-- Goes on with `rest` from position `index`, unless the run has stopped. -/
def resumeRun (rest : List Operation) (index : Nat) :
    RunLog × Option SimulatedState → Answer (RunLog × Option SimulatedState)
  | (log, none) => .ok (log, none)
  | (log, some current) => runFrom rest index current log

/-- The fold over `ops ++ rest` is the fold over `ops`, resumed on `rest`. -/
theorem runFrom_append (ops rest : List Operation) (i : Nat) (current : SimulatedState)
    (log : RunLog) :
    runFrom (ops ++ rest) i current log =
      (runFrom ops i current log).bind (resumeRun rest (i + ops.length)) := by
  induction ops generalizing i current log with
  | nil => rfl
  | cons op ops ih =>
    rw [List.cons_append, runFrom, runFrom]
    cases applyOperation current op with
    | error f => cases f <;> rfl
    | ok t =>
      dsimp only
      cases SimulatedState.derive t.snapshot with
      | error e => cases e <;> rfl
      | ok next =>
        dsimp only
        rw [ih, List.length_cons, Nat.add_right_comm, Nat.add_assoc]

/-! ## 2. What resuming a run adds to its log -/

/-- `log'` is `log` with steps added after its own, the same issue if `log` had one, and
otherwise at most an issue of position `i` or later. -/
structure RunLog.Extends (i : Nat) (log log' : RunLog) : Prop where
  steps : log.steps <+: log'.steps
  keeps : ∀ e, log.issue = some e → log'.issue = some e
  later : ∀ e, log'.issue = some e → log.issue = some e ∨ i ≤ e.index

namespace RunLog.Extends

variable {i j : Nat} {log log' log'' : RunLog}

theorem refl (i : Nat) (log : RunLog) : Extends i log log :=
  ⟨List.prefix_refl _, fun _ h => h, fun _ h => .inl h⟩

theorem trans (hij : i ≤ j) (h : Extends i log log') (h' : Extends j log' log'') :
    Extends i log log'' := by
  refine ⟨h.steps.trans h'.steps, fun e he => h'.keeps e (h.keeps e he), ?_⟩
  intro e he
  rcases h'.later e he with he' | hle
  · exact h.later e he'
  · exact .inr (Nat.le_trans hij hle)

/-- Noting an issue at a position from `i` on. -/
theorem note (hij : i ≤ j) (log : RunLog) (k : IssueKind) (op : Option Operation) :
    Extends i log (log.note j k op) := by
  refine ⟨List.prefix_refl _, fun e he => by simp [RunLog.note, firstIssue, he], ?_⟩
  intro e he
  cases hl : log.issue with
  | some e' =>
    simp only [RunLog.note, firstIssue, hl, Option.some.injEq] at he
    exact .inl (he ▸ rfl)
  | none =>
    simp only [RunLog.note, firstIssue, hl, Option.some.injEq] at he
    exact .inr (he ▸ hij)

/-- Noting the issues of the operation at position `j`, from `i` on. -/
theorem noteAll (hij : i ≤ j) (log : RunLog) (issues : List IssueKind) (op : Operation) :
    Extends i log (RunLog.noteAll log j issues op) := by
  induction issues generalizing log with
  | nil => exact refl i log
  | cons k rest ih => exact (note hij log k (some op)).trans (Nat.le_refl i) (ih _)

/-- Keeping one more step. -/
theorem push (i : Nat) (log : RunLog) (next : SimulatedState) :
    Extends i log { log with steps := log.steps ++ [next] } :=
  ⟨List.prefix_append _ _, fun _ h => h, fun _ h => .inl h⟩

end RunLog.Extends

/-- A run from position `i` on extends the log it starts from. -/
theorem runFrom_extends (ops : List Operation) :
    ∀ (i : Nat) (current : SimulatedState) (log log' : RunLog) (final : Option SimulatedState),
      runFrom ops i current log = .ok (log', final) → log.Extends i log' := by
  induction ops with
  | nil =>
    intro i current log log' final h
    simp only [runFrom, Except.ok.injEq, Prod.mk.injEq] at h
    rw [← h.1]
    exact .refl i log
  | cons op rest ih =>
    intro i current log log' final h
    rw [runFrom] at h
    have hnoted := RunLog.Extends.noteAll (Nat.le_refl i) log
    cases happ : applyOperation current op with
    | error f =>
      rw [happ] at h
      cases f with
      | overflow => cases h
      | blocked k =>
        cases h
        exact .note (Nat.le_refl i) log k (some op)
    | ok t =>
      simp only [happ] at h
      cases hder : SimulatedState.derive t.snapshot with
      | error e =>
        rw [hder] at h
        split at h
        · cases h
        · cases h
          exact (hnoted t.issues op).trans (Nat.le_refl i) (.note (Nat.le_refl i) _ _ _)
        · contradiction
      | ok next =>
        rw [hder] at h
        -- the operation's issues and its step, then the rest of the run from `i + 1`
        exact ((hnoted t.issues op).trans (Nat.le_refl i) (.push i _ next)).trans
          (Nat.le_succ i) (ih (i + 1) next _ log' final h)

/-! ## 3. A simulation is a fold between a start and a last check -/

/-- Where every run on a snapshot starts: the snapshot aged to its chain context's timestamp,
with its views; or why no run on it can start. -/
def startState (s : Snapshot) : Except StepFailure SimulatedState :=
  match s.chain with
  | none => .error (.blocked .missingData)
  | some chain =>
    match SimulatedState.derive (s.accrue chain.timestamp) with
    | .ok start => .ok start
    | .error .overflow => .error .overflow
    | .error e => .error (.blocked (IssueKind.ofQueryError e))

/-- The outcome of a fold over `ops` that ended with `log` and `final`: a run that reached the
end has its final health factor checked against the threshold. -/
def concludeRun (ops : List Operation) (threshold : Word) :
    RunLog × Option SimulatedState → SimulationOutcome
  | (log, none) => ⟨log.steps, none, log.issue⟩
  | (log, some current) =>
    let log :=
      if ops ≠ [] ∧ current.user.healthFactor < threshold then
        log.note (ops.length - 1) .collateralCapacityReached ops.getLast?
      else log
    ⟨log.steps, some current, log.issue⟩

theorem simulateWithThreshold_eq (s : Snapshot) (ops : List Operation) (threshold : Word) :
    simulateWithThreshold s ops threshold =
      match startState s with
      | .error .overflow => .error .overflow
      | .error (.blocked k) => .ok ⟨[], none, firstIssue none 0 k ops.head?⟩
      | .ok start => (runFrom ops 0 start ⟨[], none⟩).map (concludeRun ops threshold) := by
  unfold simulateWithThreshold startState
  cases s.chain with
  | none => rfl
  | some chain =>
    dsimp only
    cases SimulatedState.derive (s.accrue chain.timestamp) with
    | error e => cases e <;> rfl
    | ok start =>
      dsimp only
      cases runFrom ops 0 start ⟨[], none⟩ with
      | error e => rfl
      | ok r =>
        obtain ⟨log, final⟩ := r
        cases final <;> rfl

section Conclude

variable (ops : List Operation) (threshold : Word) (log : RunLog)

@[simp] theorem concludeRun_steps (final : Option SimulatedState) :
    (concludeRun ops threshold (log, final)).steps = log.steps := by
  cases final with
  | none => rfl
  | some current =>
    simp only [concludeRun]
    split <;> rfl

@[simp] theorem concludeRun_final (final : Option SimulatedState) :
    (concludeRun ops threshold (log, final)).final = final := by
  cases final <;> rfl

/-- The last check keeps the fold's issue, and otherwise notes one on the last operation. -/
theorem concludeRun_issue (final : Option SimulatedState) :
    (∀ e, log.issue = some e → (concludeRun ops threshold (log, final)).issue = some e) ∧
      ∀ e, (concludeRun ops threshold (log, final)).issue = some e →
        log.issue = some e ∨ e.index = ops.length - 1 := by
  cases final with
  | none => exact ⟨fun _ h => h, fun _ h => .inl h⟩
  | some current =>
    simp only [concludeRun]
    split
    · have h := RunLog.Extends.note (Nat.le_refl (ops.length - 1)) log .collateralCapacityReached
        ops.getLast?
      refine ⟨h.keeps, fun e he => ?_⟩
      rcases h.later e he with h' | h'
      · exact .inl h'
      · -- a fresh issue is the one just noted, at the last position
        cases hl : log.issue with
        | some e' =>
          rw [h.keeps e' hl] at he
          exact .inl he
        | none =>
          simp only [RunLog.note, firstIssue, hl, Option.some.injEq] at he
          exact .inr (he ▸ rfl)
    · exact ⟨fun _ h => h, fun _ h => .inl h⟩

end Conclude

/-- A run that stops keeps fewer steps than there are operations. -/
theorem simulateWithThreshold_stopped_lt {s : Snapshot} {ops : List Operation} {threshold : Word}
    {o : SimulationOutcome} (h : simulateWithThreshold s ops threshold = .ok o)
    (hstop : o.final = none) (hne : ops ≠ []) : o.steps.length < ops.length := by
  rw [simulateWithThreshold_eq] at h
  split at h
  · cases h
  · cases h
    exact List.length_pos_iff.2 hne
  · rename_i start _
    cases hrun : runFrom ops 0 start ⟨[], none⟩ with
    | error e =>
      rw [hrun] at h
      cases h
    | ok r =>
      obtain ⟨log, final⟩ := r
      rw [hrun] at h
      cases h
      simp only [concludeRun_final] at hstop
      subst hstop
      simpa using (runFrom_ok ops 0 start ⟨[], none⟩ log none rfl
        (RunLog.fits_start ops start) hrun).2 rfl |>.steps_lt

/-! ## 4. Prefix consistency -/

/-- What the outcome `A` of a run over the first `k` operations owes to the outcome `B` of the
run over all of them. -/
structure SimulationOutcome.PrefixOf (k : Nat) (A B : SimulationOutcome) : Prop where
  /-- `A` keeps the first steps of `B`, as many as `B` has up to `k`. -/
  steps : A.steps = B.steps.take (min k B.steps.length)
  /-- An issue of `B` that belongs to one of the first `k` operations is `A`'s issue. -/
  issue : ∀ e, B.issue = some e → e.index < k → A.issue = some e
  /-- `A` stops exactly when `B` stops before keeping `k` steps. -/
  final : A.final = none ↔ B.final = none ∧ B.steps.length < k

/-- A run is its own prefix at `k` when it keeps at most `k` steps, and fewer if it stops. -/
theorem SimulationOutcome.PrefixOf.self {k : Nat} {B : SimulationOutcome}
    (hle : B.steps.length ≤ k) (hlt : B.final = none → B.steps.length < k) : B.PrefixOf k B :=
  ⟨by rw [Nat.min_eq_right hle, List.take_length], fun _ he _ => he,
    ⟨fun h => ⟨h, hlt h⟩, fun h => h.1⟩⟩

/-- The fold over `pre` against the fold over `pre ++ post` resumed from it, both concluded:
the shorter outcome is the prefix of the longer one at `pre`'s length. -/
theorem concludeRun_prefixOf {pre post : List Operation} (threshold : Word)
    {start : SimulatedState} {rA rB : RunLog × Option SimulatedState} (hpost : post ≠ [])
    (hA : runFrom pre 0 start ⟨[], none⟩ = .ok rA) (hB : resumeRun post pre.length rA = .ok rB) :
    (concludeRun pre threshold rA).PrefixOf pre.length (concludeRun (pre ++ post) threshold rB) := by
  obtain ⟨logA, finalA⟩ := rA
  have hok := runFrom_ok pre 0 start ⟨[], none⟩ logA finalA rfl (RunLog.fits_start _ start) hA
  cases finalA with
  | none =>
    -- the prefix stopped, and so did the whole run, at the same place
    cases hB
    exact .self (by simpa using Nat.le_of_lt (hok.2 rfl).steps_lt)
      fun _ => by simpa using (hok.2 rfl).steps_lt
  | some stA =>
    -- the prefix reached its end with a step per operation; the longer run resumed from there
    obtain ⟨logB, finalB⟩ := rB
    have hext := runFrom_extends post _ stA logA logB finalB hB
    have hstepsA : logA.steps.length = pre.length := (hok.1 stA rfl).steps_length
    have hlen : pre.length ≤ logB.steps.length := hstepsA ▸ hext.steps.length_le
    refine ⟨?_, ?_, ?_⟩
    · simp only [concludeRun_steps]
      rw [Nat.min_eq_left hlen, ← hstepsA]
      exact List.prefix_iff_eq_take.1 hext.steps
    · intro e he hlt
      rcases (concludeRun_issue _ threshold logB finalB).2 e he with he' | he'
      · rcases hext.later e he' with hA' | hA'
        · exact (concludeRun_issue pre threshold logA (some stA)).1 e hA'
        · exact absurd hlt (Nat.not_lt.2 hA')
      · -- the last check of the longer run notes its last operation, which is not in `pre`
        have : 0 < post.length := List.length_pos_iff.2 hpost
        simp only [List.length_append] at he'
        omega
    · simp only [concludeRun_final, concludeRun_steps, reduceCtorEq, false_iff, not_and,
        Nat.not_lt]
      exact fun _ => hlen

/-- The run over the first `k` operations agrees with the run over all of them: it keeps the
first steps of the longer run, carries its issue when that issue belongs to one of the first
`k` operations, and stops exactly when the longer run stops before keeping `k` steps. A run
that does not overflow has prefixes that do not either. -/
theorem simulateWithThreshold_take {s : Snapshot} {ops : List Operation} {threshold : Word}
    {B : SimulationOutcome} (k : Nat) (hk : 1 ≤ k) (hkn : k ≤ ops.length)
    (hB : simulateWithThreshold s ops threshold = .ok B) :
    ∃ A, simulateWithThreshold s (ops.take k) threshold = .ok A ∧ A.PrefixOf k B := by
  have hne : ops ≠ [] := List.ne_nil_of_length_pos (Nat.lt_of_lt_of_le hk hkn)
  -- the whole list: the two runs are one
  by_cases hall : k = ops.length
  · subst hall
    rw [List.take_length]
    exact ⟨B, hB, .self (simulateWithThreshold_shaped hB).steps_le
      fun h => simulateWithThreshold_stopped_lt hB h hne⟩
  have hpost : ops.drop k ≠ [] := by simpa using Nat.lt_of_le_of_ne hkn hall
  have hlen : (ops.take k).length = k := List.length_take_of_le hkn
  have hsplit : ops.take k ++ ops.drop k = ops := List.take_append_drop k ops
  rw [simulateWithThreshold_eq] at hB ⊢
  split at hB
  · cases hB
  -- no run can start: both stop at once, on the first operation
  · cases hB
    have hhead : (ops.take k).head? = ops.head? := by
      rw [List.head?_take, if_neg (by omega)]
    rw [hhead]
    exact ⟨_, rfl, .self (Nat.zero_le k) fun _ => hk⟩
  · rename_i start _
    have hrun := runFrom_append (ops.take k) (ops.drop k) 0 start ⟨[], none⟩
    rw [hsplit, Nat.zero_add] at hrun
    rw [hrun] at hB
    cases hA : runFrom (ops.take k) 0 start ⟨[], none⟩ with
    | error e =>
      rw [hA] at hB
      cases hB
    | ok rA =>
      rw [hA] at hB
      cases hB' : resumeRun (ops.drop k) (ops.take k).length rA with
      | error e =>
        simp only [Except.bind, hB'] at hB
        cases hB
      | ok rB =>
        simp only [Except.bind, hB', Except.map] at hB
        cases hB
        have h := concludeRun_prefixOf threshold hpost hA hB'
        rw [hsplit, hlen] at h
        exact ⟨_, rfl, h⟩

/-- The first two operations of the funded run keep its first two steps; the whole run goes on
to a final state. -/
theorem fundedRun_prefix :
    1 ≤ 2 ∧ 2 ≤ fundedOps.length ∧
      ∃ B, simulate fundedSnapshot fundedOps = .ok B ∧ B.final.isSome ∧
        ∃ A, simulate fundedSnapshot (fundedOps.take 2) = .ok A ∧ A.PrefixOf 2 B := by
  obtain ⟨B, hB, hfinal⟩ : ∃ B, simulate fundedSnapshot fundedOps = .ok B ∧ B.final.isSome :=
    ⟨_, rfl, rfl⟩
  exact ⟨by decide, by decide, B, hB, hfinal,
    simulateWithThreshold_take 2 (by decide) (by decide) hB⟩

end PeerLending
