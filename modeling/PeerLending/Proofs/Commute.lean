import PeerLending.Proofs.Effect
import PeerLending.Proofs.Prefix

/-!
# Independent operations commute

Two operations that touch different markets (or of which one is a claim), that do not resolve
the sentinel amount through the whole user view or the coin balance, and of which none wraps
while the other unwraps, can be swapped in a run: the state after the pair, every later step and
the final state stay the same (`simulateWithThreshold_swap`). Only the step between the two and
the issue the run records can differ.

Each of the two acts as its effect whether the other came first or not, and the two effects
commute. A run's later steps and its final state do not depend on the issue recorded before,
and on the states a run reaches an operation that goes through stops the run only by overflow.

This holds of the runs that return an outcome. The state between the two operations derives its
user view afresh, and the signed sum of its net yield can overflow in one order and not in the
other; the run in that order has no outcome at all (`swap_overflows_one_order`).
-/

set_option autoImplicit false

namespace PeerLending

/-! ## 1. Independent operations have separate effects -/

namespace Effect.Of

variable {op : Operation} {e : Effect}

/-- Only an operation that unwraps pays the coin out. -/
theorem unwrap_of_pays (he : e.Of op) (hp : e.pays = true) : op.unwrap = true := by
  cases e with
  | market _ _ _ paid _ =>
    rw [Effect.pays, he.2.1] at hp
    exact (Bool.and_eq_true_iff.1 hp).1
  | claim _ => cases hp
  | wrap _ _ => cases hp

/-- Only a wrap takes the coin. -/
theorem kind_of_spends (he : e.Of op) (hs : e.spends = true) : op.kind = .wrap := by
  cases e with
  | market _ _ _ _ _ => cases hs
  | claim _ => cases hs
  | wrap _ _ => exact he.2.2

end Effect.Of

/-- Two operations that do not read what the other writes: they name different markets unless
one is a claim, neither resolves its sentinel amount through the whole user context, and neither
wraps the coin while the other pays it out. -/
structure Operation.Independent (o₁ o₂ : Operation) : Prop where
  markets : o₁.market ≠ o₂.market ∨ o₁.kind = .claimRewards ∨ o₂.kind = .claimRewards
  bounded₁ : o₁.Bounded
  bounded₂ : o₂.Bounded
  wrap₁ : o₁.kind = .wrap → o₂.unwrap = false
  wrap₂ : o₂.kind = .wrap → o₁.unwrap = false

namespace Operation.Independent

variable {o₁ o₂ : Operation}

theorem symm (h : o₁.Independent o₂) : o₂.Independent o₁ :=
  ⟨h.markets.elim (fun hm => .inl (Ne.symm hm)) fun hc => .inr hc.symm, h.bounded₂, h.bounded₁, h.wrap₂, h.wrap₁⟩

/-- An effect of the first operation leaves what the second reads. -/
theorem spares (h : o₁.Independent o₂) {e : Effect} (he : e.Of o₁) :
    o₂.kind = .claimRewards ∨ e.writes ≠ some o₂.market := by
  -- only a market effect or a wrap writes, and it writes the first operation's market
  have hw : ∀ m, e.writes = some m → m = o₁.market ∧ o₁.kind ≠ .claimRewards := by
    intro m hm
    cases e with
    | market m' _ _ _ _ =>
      cases hm
      exact ⟨he.1, he.2.2.1⟩
    | claim _ => cases hm
    | wrap m' _ =>
      cases hm
      exact ⟨he.1, by rw [he.2.2]; decide⟩
  by_cases hc : o₂.kind = .claimRewards
  · exact .inl hc
  refine .inr fun hm => ?_
  obtain ⟨hmk, hc₁⟩ := hw _ hm
  rcases h.markets with hne | hc' | hc'
  · exact hne hmk.symm
  · exact hc₁ hc'
  · exact hc hc'

theorem separate (h : o₁.Independent o₂) {e₁ e₂ : Effect} (he₁ : e₁.Of o₁) (he₂ : e₂.Of o₂) :
    e₁.Separate e₂ := by
  refine ⟨fun m hm₁ hm₂ => ?_, fun hp => ?_, fun hs => ?_⟩
  · rcases h.spares he₁ with hc | hne
    · cases e₂ with
      | market _ _ _ _ _ => exact he₂.2.2.1 hc
      | claim _ => cases hm₂
      | wrap _ _ => rw [he₂.2.2] at hc; cases hc
    · cases e₂ with
      | market _ _ _ _ _ => cases hm₂; exact hne (hm₁.trans (congrArg some he₂.1))
      | claim _ => cases hm₂
      | wrap _ _ => cases hm₂; exact hne (hm₁.trans (congrArg some he₂.1))
  · cases hs : e₂.spends
    · rfl
    · have := h.wrap₂ (he₂.kind_of_spends hs)
      rw [he₁.unwrap_of_pays hp] at this
      cases this
  · cases hp : e₂.pays
    · rfl
    · have := h.wrap₁ (he₁.kind_of_spends hs)
      rw [he₂.unwrap_of_pays hp] at this
      cases this

end Operation.Independent

/-! ## 2. Two independent operations in a run -/

theorem Snapshot.Agree.refl (op : Operation) (s : Snapshot) : s.Agree op s :=
  ⟨rfl, rfl, rfl, fun _ => rfl, fun _ => rfl⟩

/-- The state derived after an operation went through on a sound state is sound. -/
theorem SimulatedState.Sound.next {cur next : SimulatedState} {op : Operation} {t : Transition}
    (hs : cur.Sound) (happ : applyOperation cur op = .ok t)
    (hder : SimulatedState.derive t.snapshot = .ok next) : next.Sound := by
  have hsnap : next.snapshot = t.snapshot := (SimulatedState.derive_ok hder).1
  exact ⟨SimulatedState.derive_self hder, hsnap ▸ hs.keys.applyOperation rfl happ⟩

/-- A run over `op :: rest` either stops at `op`, keeping its steps, because `op` blocks or the
views after it fail to derive other than by overflow; or it goes on over `rest` from the state
`op` leads to, with that state kept. -/
theorem runFrom_cons_inv {op : Operation} {rest : List Operation} {i : Nat}
    {cur : SimulatedState} {log L : RunLog} {F : Option SimulatedState}
    (h : runFrom (op :: rest) i cur log = .ok (L, F)) :
    (F = none ∧ L.steps = log.steps ∧
      ((∃ k, applyOperation cur op = .error (.blocked k)) ∨
        ∃ t e, applyOperation cur op = .ok t ∧ SimulatedState.derive t.snapshot = .error e ∧
          e ≠ .overflow)) ∨
    ∃ t next, applyOperation cur op = .ok t ∧ SimulatedState.derive t.snapshot = .ok next ∧
      ∃ log', log'.steps = log.steps ++ [next] ∧ runFrom rest (i + 1) next log' = .ok (L, F) := by
  rw [runFrom] at h
  cases happ : applyOperation cur op with
  | error f =>
    rw [happ] at h
    cases f with
    | overflow => cases h
    | blocked k =>
      cases h
      exact .inl ⟨rfl, rfl, .inl ⟨k, rfl⟩⟩
  | ok t =>
    simp only [happ] at h
    have hsteps := (RunLog.foldl_note t.issues log i (some op)).1
    cases hder : SimulatedState.derive t.snapshot with
    | error e =>
      rw [hder] at h
      split at h
      · cases h
      · rename_i hne heq
        cases heq
        cases h
        exact .inl ⟨rfl, hsteps, .inr ⟨t, e, rfl, hder, hne⟩⟩
      · contradiction
    | ok next =>
      rw [hder] at h
      exact .inr ⟨t, next, rfl, hder, _, by rw [hsteps], h⟩

/-- On a sound state a bounded operation stops a run only by blocking. -/
theorem runFrom_cons_sound {op : Operation} {rest : List Operation} {i : Nat}
    {cur : SimulatedState} {log L : RunLog} {F : Option SimulatedState} (hb : op.Bounded)
    (hs : cur.Sound) (h : runFrom (op :: rest) i cur log = .ok (L, F)) :
    (F = none ∧ L.steps = log.steps ∧ ∃ k, applyOperation cur op = .error (.blocked k)) ∨
    ∃ t next, applyOperation cur op = .ok t ∧ SimulatedState.derive t.snapshot = .ok next ∧
      ∃ log', log'.steps = log.steps ++ [next] ∧ runFrom rest (i + 1) next log' = .ok (L, F) := by
  rcases runFrom_cons_inv h with ⟨hF, hL, hk | ⟨t, e, happ, hder, hne⟩⟩ | hgo
  · exact .inl ⟨hF, hL, hk⟩
  · exact absurd (derive_after hb hs happ hder) hne
  · exact .inr hgo

/-- Two runs over the same operations from the same state reach the same end and add the same
steps, whatever their logs held. -/
theorem runFrom_same_tail : ∀ {ops : List Operation} {i : Nat} {cur : SimulatedState}
    {log log' L L' : RunLog} {F F' : Option SimulatedState},
    runFrom ops i cur log = .ok (L, F) → runFrom ops i cur log' = .ok (L', F') →
    F = F' ∧ ∃ R, L.steps = log.steps ++ R ∧ L'.steps = log'.steps ++ R
  | [], _, _, _, _, _, _, _, _, h, h' => by
    simp only [runFrom, Except.ok.injEq, Prod.mk.injEq] at h h'
    obtain ⟨rfl, rfl⟩ := h
    obtain ⟨rfl, rfl⟩ := h'
    exact ⟨rfl, [], by simp, by simp⟩
  | op :: rest, i, cur, log, log', L, L', F, F', h, h' => by
    rcases runFrom_cons_inv h with ⟨hF, hL, hstop⟩ | ⟨t, next, happ, hder, l, hl, hrest⟩ <;>
      rcases runFrom_cons_inv h' with ⟨hF', hL', hstop'⟩ | ⟨t', next', happ', hder', l', hl', hrest'⟩
    · exact ⟨hF.trans hF'.symm, [], by simp [hL], by simp [hL']⟩
    -- the two runs see the same step, so neither stops where the other goes on
    · exfalso
      rcases hstop with ⟨k, hk⟩ | ⟨t, e, happ, hder, -⟩
      · rw [hk] at happ'
        cases happ'
      · rw [happ] at happ'
        cases happ'
        rw [hder] at hder'
        cases hder'
    · exfalso
      rcases hstop' with ⟨k, hk⟩ | ⟨t', e, happ', hder', -⟩
      · rw [hk] at happ
        cases happ
      · rw [happ'] at happ
        cases happ
        rw [hder'] at hder
        cases hder
    · rw [happ] at happ'
      cases happ'
      rw [hder] at hder'
      cases hder'
      obtain ⟨hFF, R, hR, hR'⟩ := runFrom_same_tail hrest hrest'
      exact ⟨hFF, next :: R, by simp [hR, hl], by simp [hR', hl']⟩

/-- What an operation does after an independent one went through: it blocks or goes through
as it would have without it. -/
theorem transports_after {o o' : Operation} (hind : o.Independent o') {cur next : SimulatedState}
    {t : Transition} (hs : cur.Sound) (happ : applyOperation cur o' = .ok t)
    (hder : SimulatedState.derive t.snapshot = .ok next) : Transports o cur next := by
  obtain ⟨-, hok⟩ := transports hind.bounded₂ hs hs (.refl o' cur.snapshot)
  obtain ⟨e, he, heff, -⟩ := hok t happ
  have hnext : next.snapshot = e.apply cur.snapshot := (SimulatedState.derive_ok hder).1.trans heff
  have hag : cur.snapshot.Agree o next.snapshot := by
    rw [hnext]
    exact e.agree (hind.symm.spares he) _
  exact transports hind.bounded₁ hs (hs.next happ hder) hag

/-- A run over `o :: rest` from the state an independent operation led to stops at once when
`o` blocked before it. -/
theorem runFrom_blocked_after {o o' : Operation} (hind : o.Independent o') {rest : List Operation}
    {i : Nat} {cur next : SimulatedState} {t : Transition} {k : IssueKind} {log L : RunLog}
    {F : Option SimulatedState} (hs : cur.Sound) (hk : applyOperation cur o = .error (.blocked k))
    (happ : applyOperation cur o' = .ok t) (hder : SimulatedState.derive t.snapshot = .ok next)
    (h : runFrom (o :: rest) i next log = .ok (L, F)) : F = none ∧ L.steps = log.steps := by
  obtain ⟨k', hk'⟩ := (transports_after hind hs happ hder).1 k hk
  rcases runFrom_cons_sound hind.bounded₁ (hs.next happ hder) h with ⟨hF, hL, -⟩ |
    ⟨t', -, happ', -⟩
  · exact ⟨hF, hL⟩
  · rw [hk'] at happ'
    cases happ'

/-- Two independent operations, in either order, from a sound state: both runs reach the same
end, and their steps differ at most in the first one after the pair starts. -/
theorem runFrom_swap {o₁ o₂ : Operation} (hind : o₁.Independent o₂) {Q : List Operation} {i : Nat}
    {cur : SimulatedState} {log L₁ L₂ : RunLog} {F₁ F₂ : Option SimulatedState} (hs : cur.Sound)
    (h₁ : runFrom (o₁ :: o₂ :: Q) i cur log = .ok (L₁, F₁))
    (h₂ : runFrom (o₂ :: o₁ :: Q) i cur log = .ok (L₂, F₂)) :
    F₁ = F₂ ∧ ∃ a b, L₁.steps = log.steps ++ a ∧ L₂.steps = log.steps ++ b ∧ a.drop 1 = b.drop 1 := by
  rcases runFrom_cons_sound hind.bounded₁ hs h₁ with ⟨hF₁, hL₁, k₁, hk₁⟩ |
      ⟨t₁, n₁, happ₁, hder₁, log₁, hlog₁, h₁⟩ <;>
    rcases runFrom_cons_sound hind.bounded₂ hs h₂ with ⟨hF₂, hL₂, k₂, hk₂⟩ |
      ⟨t₂, n₂, happ₂, hder₂, log₂, hlog₂, h₂⟩
  -- both block at once
  · exact ⟨hF₁.trans hF₂.symm, [], [], by simp [hL₁], by simp [hL₂], rfl⟩
  -- one blocks at once; after the other, it still blocks
  · obtain ⟨hF₂, hL₂⟩ := runFrom_blocked_after hind hs hk₁ happ₂ hder₂ h₂
    exact ⟨hF₁.trans hF₂.symm, [], [n₂], by simp [hL₁], by simp [hL₂, hlog₂], rfl⟩
  · obtain ⟨hF₁, hL₁⟩ := runFrom_blocked_after hind.symm hs hk₂ happ₁ hder₁ h₁
    exact ⟨hF₁.trans hF₂.symm, [n₁], [], by simp [hL₁, hlog₁], by simp [hL₂], rfl⟩
  -- both go through: each goes through after the other, as the effects applied in turn
  · obtain ⟨e₂, he₂, heff₂, t₁₂, happ₁₂, hsnap₁₂⟩ :=
      (transports_after hind.symm hs happ₁ hder₁).2 t₂ happ₂
    obtain ⟨e₁, he₁, heff₁, t₂₁, happ₂₁, hsnap₂₁⟩ :=
      (transports_after hind hs happ₂ hder₂).2 t₁ happ₁
    have hn₁ : n₁.snapshot = e₁.apply cur.snapshot := (SimulatedState.derive_ok hder₁).1.trans heff₁
    have hn₂ : n₂.snapshot = e₂.apply cur.snapshot := (SimulatedState.derive_ok hder₂).1.trans heff₂
    rcases runFrom_cons_sound hind.bounded₂ (hs.next happ₁ hder₁) h₁ with ⟨-, -, k, hk⟩ |
      ⟨t₁', m₁, happ₁', hder₁', log₁', hlog₁', h₁⟩
    · rw [hk] at happ₁₂
      cases happ₁₂
    rcases runFrom_cons_sound hind.bounded₁ (hs.next happ₂ hder₂) h₂ with ⟨-, -, k, hk⟩ |
      ⟨t₂', m₂, happ₂', hder₂', log₂', hlog₂', h₂⟩
    · rw [hk] at happ₂₁
      cases happ₂₁
    rw [happ₁₂] at happ₁'
    cases happ₁'
    rw [happ₂₁] at happ₂'
    cases happ₂'
    -- the snapshots after the pair are one, and so are the states derived from them
    have hsnap : t₁₂.snapshot = t₂₁.snapshot := by
      rw [hsnap₁₂, hsnap₂₁, hn₁, hn₂]
      exact (Effect.apply_comm (hind.separate he₁ he₂) _).symm
    rw [hsnap, hder₂'] at hder₁'
    cases hder₁'
    obtain ⟨hF, R, hR₁, hR₂⟩ := runFrom_same_tail h₁ h₂
    exact ⟨hF, n₁ :: m₁ :: R, n₂ :: m₁ :: R, by simp [hR₁, hlog₁', hlog₁],
      by simp [hR₂, hlog₂', hlog₂], rfl⟩

/-! ## 3. Independent operations commute in every simulation -/

/-- Where a run starts is a state of the run. -/
theorem Reaches.of_startState {s : Snapshot} {start : SimulatedState}
    (h : startState s = .ok start) : Reaches s start := by
  unfold startState at h
  split at h
  · cases h
  · rename_i chain hchain
    split at h
    · cases h
      rename_i hd
      exact .start hchain hd
    · cases h
    · cases h

/-- Two independent operations after the same prefix, from where a run starts: both folds
reach the same end, and their steps differ at most in the first one after the prefix. -/
theorem runFrom_prefix_swap {s : Snapshot} (hkeys : s.KeysAgree) {start : SimulatedState}
    (hstart : Reaches s start) (P Q : List Operation) {o₁ o₂ : Operation}
    (hind : o₁.Independent o₂) {L₁ L₂ : RunLog} {F₁ F₂ : Option SimulatedState}
    (h₁ : runFrom (P ++ o₁ :: o₂ :: Q) 0 start ⟨[], none⟩ = .ok (L₁, F₁))
    (h₂ : runFrom (P ++ o₂ :: o₁ :: Q) 0 start ⟨[], none⟩ = .ok (L₂, F₂)) :
    F₁ = F₂ ∧ ∀ j, j ≠ P.length → L₁.steps[j]? = L₂.steps[j]? := by
  rw [runFrom_append] at h₁ h₂
  cases hP : runFrom P 0 start ⟨[], none⟩ with
  | error e =>
    rw [hP] at h₁
    cases h₁
  | ok r =>
    obtain ⟨log, final⟩ := r
    rw [hP] at h₁ h₂
    cases final with
    | none =>
      -- the run stopped within `P`, before the pair
      cases h₁
      cases h₂
      exact ⟨rfl, fun _ _ => rfl⟩
    | some cur =>
      simp only [Except.bind, resumeRun] at h₁ h₂
      -- the pair starts from a state of the run, after one step for each operation of `P`
      have hcur : Reaches s cur :=
        (runFrom_reaches P 0 start _ log _ hstart (fun _ h => by cases h) hP).2 cur rfl
      have hlen : log.steps.length = P.length :=
        ((runFrom_ok P 0 start ⟨[], none⟩ log (some cur) rfl (RunLog.fits_start P start)
          hP).1 cur rfl).steps_length
      obtain ⟨hF, a, b, ha, hb, hab⟩ := runFrom_swap hind (hcur.sound hkeys) h₁ h₂
      refine ⟨hF, fun j hj => ?_⟩
      rw [ha, hb]
      exact List.getElem?_append_of_drop_one hab (hlen ▸ hj)

/-- Independent operations commute. On a snapshot whose keys agree, two operations that name
different markets (or of which one is a claim), of which neither resolves its sentinel amount
through the whole user context, and of which neither wraps the coin while the other pays it
out, can be swapped anywhere in a run: whenever both runs return an outcome, the outcomes have
the same final state, and the same steps except the one right after the pair starts. -/
theorem simulateWithThreshold_swap {s : Snapshot} (hkeys : s.KeysAgree) (P Q : List Operation)
    {o₁ o₂ : Operation} (hind : o₁.Independent o₂) (threshold : Word) {A B : SimulationOutcome}
    (hA : simulateWithThreshold s (P ++ o₁ :: o₂ :: Q) threshold = .ok A)
    (hB : simulateWithThreshold s (P ++ o₂ :: o₁ :: Q) threshold = .ok B) :
    A.final = B.final ∧ ∀ j, j ≠ P.length → A.steps[j]? = B.steps[j]? := by
  rw [simulateWithThreshold_eq] at hA hB
  cases hstart : startState s with
  | error f =>
    rw [hstart] at hA hB
    cases f with
    | overflow => cases hA
    | blocked k =>
      -- no run can start: both stop at once
      cases hA
      cases hB
      exact ⟨rfl, fun _ _ => rfl⟩
  | ok start =>
    rw [hstart] at hA hB
    dsimp only at hA hB
    cases h₁ : runFrom (P ++ o₁ :: o₂ :: Q) 0 start ⟨[], none⟩ with
    | error e =>
      rw [h₁] at hA
      cases hA
    | ok r₁ =>
    cases h₂ : runFrom (P ++ o₂ :: o₁ :: Q) 0 start ⟨[], none⟩ with
    | error e =>
      rw [h₂] at hB
      cases hB
    | ok r₂ =>
    obtain ⟨L₁, F₁⟩ := r₁
    obtain ⟨L₂, F₂⟩ := r₂
    rw [h₁] at hA
    rw [h₂] at hB
    cases hA
    cases hB
    obtain ⟨hF, hsteps⟩ := runFrom_prefix_swap hkeys (.of_startState hstart) P Q hind h₁ h₂
    exact ⟨by simpa using hF, fun j hj => by simpa using hsteps j hj⟩

/-! ## 4. Runs on two markets -/

/-- The asset the borrow names. -/
def swapAsset : Address := Address.ofNat 0xaaaaaaaaaaaaaaaaaaaaaaaaaaaaaaaaaaaaaaaa

/-- The asset the supply names. -/
def swapOther : Address := Address.ofNat 0xbbbbbbbbbbbbbbbbbbbbbbbbbbbbbbbbbbbbbbbb

/-- A deep market of `asset` whose pool pays and charges `rate` (in ray per year). -/
def swapState (asset : Address) (rate : Word) : MarketState where
  underlying := asset
  scaledPoolSupply := 1000000000000000000000000000000000000000000000000000000000000
  scaledPoolBorrow := 0
  scaledProtocolSupplyOnPool := 0
  scaledProtocolBorrowOnPool := 0
  scaledProtocolCollateral := 10000000000000000000000000000000000000000000000000000000000
  deltas := default
  idleSupply := 0
  indexes := ⟨⟨ray, ray⟩, ⟨ray, ray⟩, 1000⟩
  poolReserve := ⟨ray, ray, rate, rate, 1000⟩
  poolLiquidity := 10000000000000000000000000000000000000000000000000000000000000000000000
  chainUsdPrice := 100000000

/-- A configuration of a token of 18 decimals filed under `asset`. -/
def swapConfig (asset : Address) : MarketConfig where
  underlying := asset
  symbol := "TKN"
  decimals := 18
  collateralFactor := 8500
  borrowableFactor := 8000
  p2pReserveFactor := 0
  p2pIndexCursor := 5000
  supplyCap := 0
  borrowCap := 0
  pause := {}
  eModeCategory := 0
  wrappedNative := false

/-- Both markets at `rate`; the user holds collateral on `swapAsset` and tokens of `swapOther`. -/
def swapSnapshot (rate : Word) : Snapshot where
  chain := some ⟨1, 1000, 200000000000, EMode.none, FeeData.zero⟩
  user := some ⟨Address.ofNat 0x1111111111111111111111111111111111111111, 0, 0, 0⟩
  markets := (AddrMap.empty.insert swapAsset (swapState swapAsset rate)).insert swapOther
    (swapState swapOther rate)
  configs := (AddrMap.empty.insert swapAsset (swapConfig swapAsset)).insert swapOther
    (swapConfig swapOther)
  positions := (AddrMap.empty.insert swapAsset
      { Position.empty swapAsset with
        scaledCollateral := 50000000000000000000000000000000000000000000000000 }).insert
    swapOther { Position.empty swapOther with walletBalance := 100000000000000000000 }

/-- A supply of all the user's tokens of `swapOther`. -/
def swapSupply : Operation := ⟨.supply, swapOther, 100000000000000000000, false⟩

/-- A borrow of a thousand tokens of `swapAsset`. -/
def swapBorrow : Operation := ⟨.borrow, swapAsset, 1000000000000000000000, false⟩

theorem swapSnapshot_keysAgree (rate : Word) : (swapSnapshot rate).KeysAgree := by
  refine ⟨fun e he => ?_, fun e he => ?_⟩
  · rcases AddrMap.mem_insert he with rfl | he
    · rfl
    rcases AddrMap.mem_insert he with rfl | he
    · rfl
    · cases he
  · rcases AddrMap.mem_insert he with rfl | he
    · rfl
    rcases AddrMap.mem_insert he with rfl | he
    · rfl
    · cases he

theorem swapSupply_independent : swapSupply.Independent swapBorrow :=
  ⟨.inl (by decide), (fun h => by rcases h with h | h | h <;> cases h), fun _ => rfl, nofun, nofun⟩

/-- At a pool rate of a hundred million times a year, supplying first leaves a state whose net
yield overflows, and the run has no outcome; borrowing first, it has one. -/
theorem swap_overflows_one_order :
    (swapSnapshot 100000000000000000000000000000000000).KeysAgree ∧
      swapSupply.Independent swapBorrow ∧
      simulate (swapSnapshot 100000000000000000000000000000000000) [swapSupply, swapBorrow] =
        .error .overflow ∧
      ∃ B, simulate (swapSnapshot 100000000000000000000000000000000000) [swapBorrow, swapSupply] =
        .ok B :=
  ⟨swapSnapshot_keysAgree _, swapSupply_independent, rfl, _, rfl⟩

/-- At a pool rate of one ray a year both orders have an outcome, and they end alike. -/
theorem swap_at_unit_rate :
    ∃ A B, simulate (swapSnapshot ray) [swapSupply, swapBorrow] = .ok A ∧
      simulate (swapSnapshot ray) [swapBorrow, swapSupply] = .ok B ∧
      A.final = B.final ∧ ∀ j, j ≠ 0 → A.steps[j]? = B.steps[j]? := by
  obtain ⟨A, hA⟩ : ∃ A, simulate (swapSnapshot ray) [swapSupply, swapBorrow] = .ok A := ⟨_, rfl⟩
  obtain ⟨B, hB⟩ : ∃ B, simulate (swapSnapshot ray) [swapBorrow, swapSupply] = .ok B := ⟨_, rfl⟩
  exact ⟨A, B, hA, hB, simulateWithThreshold_swap (swapSnapshot_keysAgree ray) [] []
    swapSupply_independent defaultHealthThreshold hA hB⟩

end PeerLending
