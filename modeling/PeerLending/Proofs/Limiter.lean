import PeerLending.Proofs.Exit
import PeerLending.Lib.List

/-!
# What a capacity query answers

`Snapshot.userMaxCapacity` ages a snapshot and asks `maxCapacity` of it. This module says what
comes back, for every snapshot:

* claims and wraps answer from the user context alone, and nothing when there is none;
* a market operation answers nothing exactly when the market, its configuration, the chain
  context or the position was never fetched;
* with all four present and the entries stored under their own keys, the query fails exactly
  when the user's view fails, with the same error;
* otherwise the limit is decided in order: a zero price, then a pause, then the least present
  candidate, the earliest of equal ones.

No query ever fails with `unresolvedLimiter`: every market operation has a candidate that is
always present, so the least of them always exists.
-/

set_option autoImplicit false

namespace PeerLending

/-! ## 1. The first least candidate -/

/-- `limit` is a present candidate that no earlier present candidate reaches and no later one
undercuts: the least present value, and the first candidate that attains it. -/
def FirstMin (cs : List (Option Word × LimitReason)) (limit : CapacityLimit) : Prop :=
  ∃ before after, cs = before ++ (some limit.value, limit.reason) :: after ∧
    (∀ x r, (some x, r) ∈ before → limit.value < x) ∧
    (∀ x r, (some x, r) ∈ after → limit.value ≤ x)

/-- The running minimum stops at the first least element: every element before it is larger,
none after it is smaller. -/
theorem foldl_keepMin_split (rest : List CapacityLimit) (first : CapacityLimit) :
    ∃ before after,
      first :: rest =
          before ++ rest.foldl (fun best c => if c.value < best.value then c else best) first ::
            after ∧
        (∀ c ∈ before,
          (rest.foldl (fun best c => if c.value < best.value then c else best) first).value <
            c.value) ∧
        (∀ c ∈ after,
          (rest.foldl (fun best c => if c.value < best.value then c else best) first).value ≤
            c.value) := by
  induction rest generalizing first with
  | nil =>
    exact ⟨[], [], rfl, fun _ h => absurd h List.not_mem_nil, fun _ h => absurd h List.not_mem_nil⟩
  | cons c rest ih =>
    rw [List.foldl_cons]
    by_cases hc : c.value < first.value
    · -- `c` takes over: the best of `c :: rest` is at most `c`, below `first`
      rw [if_pos hc]
      obtain ⟨before, after, hsplit, hb, ha⟩ := ih c
      have hle := (foldl_keepMin_le rest c).1
      refine ⟨first :: before, after, by rw [hsplit]; rfl, ?_, ha⟩
      rintro x (_ | ⟨_, hx⟩)
      · exact Nat.lt_of_le_of_lt hle hc
      · exact hb x hx
    · -- `first` stays: `c` joins what comes after it, or what comes before the best
      rw [if_neg hc]
      obtain ⟨before, after, hsplit, hb, ha⟩ := ih first
      cases before with
      | nil =>
        obtain ⟨hfirst, hafter⟩ := List.cons.inj hsplit
        refine ⟨[], c :: rest, by rw [← hfirst]; rfl, fun _ h => absurd h List.not_mem_nil, ?_⟩
        rintro x (_ | ⟨_, hx⟩)
        · rw [← hfirst]
          exact Nat.le_of_not_lt hc
        · exact ha x (hafter ▸ hx)
      | cons b before =>
        obtain ⟨rfl, hrest⟩ := List.cons.inj hsplit
        have hlt := hb first List.mem_cons_self
        refine ⟨first :: c :: before, after, congrArg (fun l => first :: c :: l) hrest, ?_, ha⟩
        rintro x (_ | ⟨_, _ | ⟨_, hx⟩⟩)
        · exact hlt
        · exact Nat.lt_of_lt_of_le hlt (Nat.le_of_not_lt hc)
        · exact hb x (List.mem_cons_of_mem _ hx)

/-- The limit a list of candidates binds to is its first least present candidate. -/
theorem bindMin_firstMin {cs : List (Option Word × LimitReason)} {limit : CapacityLimit}
    (h : bindMin cs = some limit) : FirstMin cs limit := by
  unfold bindMin at h
  split at h
  · cases h
  · rename_i first rest heq
    cases h
    obtain ⟨before, after, hsplit, hb, ha⟩ := foldl_keepMin_split rest first
    generalize rest.foldl (fun best c => if c.value < best.value then c else best) first = best
      at hsplit hb ha ⊢
    rw [hsplit] at heq
    -- cut the candidates where the present ones are cut
    obtain ⟨l₁, l₂, rfl, h₁, h₂⟩ := List.filterMap_eq_append_iff.1 heq
    obtain ⟨m₁, ⟨v, r⟩, m₂, rfl, hnone, hbest, h₃⟩ := List.filterMap_eq_cons_iff.1 h₂
    cases v with
    | none => cases hbest
    | some w =>
      cases hbest
      refine ⟨l₁ ++ m₁, m₂, by rw [List.append_assoc], ?_, ?_⟩
      · intro x r' hx
        rcases List.mem_append.1 hx with hx | hx
        · exact hb ⟨x, r'⟩ (h₁ ▸ List.mem_filterMap.2 ⟨(some x, r'), hx, rfl⟩)
        · cases hnone _ hx
      · intro x r' hx
        exact ha ⟨x, r'⟩ (h₃ ▸ List.mem_filterMap.2 ⟨(some x, r'), hx, rfl⟩)

theorem bindMin_isSome {cs : List (Option Word × LimitReason)} {x : Word} {r : LimitReason}
    (h : (some x, r) ∈ cs) : ∃ limit, bindMin cs = some limit := by
  unfold bindMin
  split
  · rename_i heq
    cases List.filterMap_eq_nil_iff.1 heq _ h
  · exact ⟨_, rfl⟩

/-! ## 2. Every market operation has a candidate -/

/-- Every market operation lists first a candidate that is always present: the wallet balance,
the borrow capacity left, the pool's liquidity or the collateral. -/
theorem candidates_present (market : MarketView) (user : UserView) (position : PositionView)
    {kind : OperationKind} (hclaim : kind ≠ .claimRewards) (hwrap : kind ≠ .wrap) :
    ∃ x r, (some x, r) ∈ candidates market user position kind := by
  cases kind
  case claimRewards => exact absurd rfl hclaim
  case wrap => exact absurd rfl hwrap
  all_goals exact ⟨_, _, List.mem_cons_self⟩

theorem marketCapacity_firstMin (market : MarketView) (user : UserView) (position : PositionView)
    {kind : OperationKind} (hclaim : kind ≠ .claimRewards) (hwrap : kind ≠ .wrap) :
    ∃ limit, marketCapacity market user position kind = .ok limit ∧
      FirstMin (candidates market user position kind) limit := by
  obtain ⟨x, r, hx⟩ := candidates_present market user position hclaim hwrap
  obtain ⟨limit, hlimit⟩ := bindMin_isSome hx
  refine ⟨limit, ?_, bindMin_firstMin hlimit⟩
  unfold marketCapacity
  rw [hlimit]

/-! ## 3. How a view fails -/

namespace Snapshot

variable {s : Snapshot}

/-- The user's view fails for missing data, an unknown market, a missing configuration or an
overflow, never for an unresolved limiter. -/
theorem currentUserView_ne_unresolvedLimiter (a : Address) (k : OperationKind) :
    s.currentUserView ≠ .error (.unresolvedLimiter a k) := by
  have hviews : s.positionViews ≠ .error (.unresolvedLimiter a k) := by
    unfold positionViews requireChain
    cases s.chain with
    | none => intro h; cases h
    | some chain =>
      intro h
      obtain ⟨p, -, hp⟩ := List.exists_mem_eq_error_of_mapM h
      unfold positionView at hp
      split at hp <;> cases hp
  unfold currentUserView
  cases hv : s.positionViews with
  | error e =>
    intro h
    cases h
    exact hviews hv
  | ok views =>
    dsimp only [bind, Except.bind]
    split <;> intro h <;> cases h

end Snapshot

/-! ## 4. The capacity on a snapshot as it stands -/

/-- The limit of a market operation, decided in order: a zero price allows nothing, then a pause
allows nothing, then the first least present candidate binds. -/
def CapacityRule (config : MarketConfig) (market : MarketView) (user : UserView)
    (position : PositionView) (kind : OperationKind) (limit : CapacityLimit) : Prop :=
  (position.usdPrice.val = 0 → limit = ⟨0, .zeroPrice⟩) ∧
  (position.usdPrice.val ≠ 0 → config.pause.stops kind = true → limit = ⟨0, .operationPaused⟩) ∧
  (position.usdPrice.val ≠ 0 → config.pause.stops kind = false →
    FirstMin (candidates market user position kind) limit)


section CapacityRule

variable {config : MarketConfig} {market : MarketView} {user : UserView} {position : PositionView}
  {kind : OperationKind}

theorem CapacityRule.zeroPrice (hz : position.usdPrice.val = 0) :
    CapacityRule config market user position kind ⟨0, .zeroPrice⟩ :=
  ⟨fun _ => rfl, fun h => absurd hz h, fun h => absurd hz h⟩

theorem CapacityRule.paused (hz : position.usdPrice.val ≠ 0)
    (hpause : config.pause.stops kind = true) :
    CapacityRule config market user position kind ⟨0, .operationPaused⟩ :=
  ⟨fun h => absurd h hz, fun _ _ => rfl, fun _ h => absurd (hpause.symm.trans h) Bool.noConfusion⟩

theorem CapacityRule.firstMin {limit : CapacityLimit} (hz : position.usdPrice.val ≠ 0)
    (hpause : config.pause.stops kind = false)
    (hmin : FirstMin (candidates market user position kind) limit) :
    CapacityRule config market user position kind limit :=
  ⟨fun h => absurd h hz, fun _ h => absurd (hpause.symm.trans h) Bool.noConfusion, fun _ _ => hmin⟩

end CapacityRule

namespace Snapshot

variable {s : Snapshot} {m : Address} {kind : OperationKind}

/-- A market operation's capacity answers nothing when the market, its configuration, the chain
context or the position is missing. -/
theorem maxCapacity_of_absent (hclaim : kind ≠ .claimRewards) (hwrap : kind ≠ .wrap)
    (h : s.configs.get? m = none ∨ s.markets.get? m = none ∨ s.chain = none ∨
      s.positions.get? m = none) :
    s.maxCapacity m kind = .ok none := by
  unfold maxCapacity
  split
  · contradiction
  · contradiction
  · split
    · rename_i hc hs hch hp
      rcases h with h | h | h | h <;> simp only [h, reduceCtorEq] at hc hs hch hp
    · rfl

/-- With the market, its configuration, the chain context and the position present, a market
operation's capacity fails as the user's view fails, fails when the view has no position on the
market, and is otherwise the limit `CapacityRule` decides. -/
theorem maxCapacity_of_present (hclaim : kind ≠ .claimRewards) (hwrap : kind ≠ .wrap)
    {config : MarketConfig} {state : MarketState} {chain : ChainContext} {p : Position}
    (hc : s.configs.get? m = some config) (hs : s.markets.get? m = some state)
    (hch : s.chain = some chain) (hp : s.positions.get? m = some p) :
    (∀ e, s.currentUserView = .error e → s.maxCapacity m kind = .error e) ∧
    (∀ u, s.currentUserView = .ok u → u.position? m = none →
      s.maxCapacity m kind = .error (.missingData .userPosition)) ∧
    (∀ u pv, s.currentUserView = .ok u → u.position? m = some pv →
      ∃ limit, s.maxCapacity m kind = .ok (some limit) ∧
        CapacityRule config (MarketView.of state config) u pv kind limit) := by
  have hview : s.marketView m = .ok (MarketView.of state config) := by
    unfold marketView
    rw [hs, hc]
  unfold maxCapacity
  split
  · contradiction
  · contradiction
  · simp only [hc, hs, hch, hp, hview]
    refine ⟨fun e hu => ?_, fun u hu hpv => ?_, fun u pv hu hpv => ?_⟩
    · rw [hu]
      rfl
    · simp only [hu, hpv, bind, Except.bind]
    · simp only [hu, hpv, bind, Except.bind]
      obtain ⟨limit, hlimit, hmin⟩ :=
        marketCapacity_firstMin (MarketView.of state config) u pv hclaim hwrap
      -- the price is checked first, then the pause, then the candidates
      by_cases hz : pv.usdPrice.val = 0
      · refine ⟨_, ?_, CapacityRule.zeroPrice hz⟩
        rw [if_pos hz]
        rfl
      · cases hpause : config.pause.stops kind
        · refine ⟨limit, ?_, CapacityRule.firstMin hz hpause hmin⟩
          rw [if_neg hz, if_neg Bool.false_ne_true, hlimit]
          rfl
        · refine ⟨_, ?_, CapacityRule.paused hz hpause⟩
          rw [if_neg hz, if_pos rfl]
          rfl

theorem lookups_cases (s : Snapshot) (m : Address) :
    (s.configs.get? m = none ∨ s.markets.get? m = none ∨ s.chain = none ∨
      s.positions.get? m = none) ∨
    ∃ config state chain p, s.configs.get? m = some config ∧ s.markets.get? m = some state ∧
      s.chain = some chain ∧ s.positions.get? m = some p := by
  cases hc : s.configs.get? m with
  | none => exact Or.inl (Or.inl rfl)
  | some config =>
    cases hs : s.markets.get? m with
    | none => exact Or.inl (Or.inr (Or.inl rfl))
    | some state =>
      cases hch : s.chain with
      | none => exact Or.inl (Or.inr (Or.inr (Or.inl rfl)))
      | some chain =>
        cases hp : s.positions.get? m with
        | none => exact Or.inl (Or.inr (Or.inr (Or.inr rfl)))
        | some p => exact Or.inr ⟨config, state, chain, p, rfl, rfl, rfl, rfl⟩

/-- With all four lookups present, a capacity is the user view's error, the missing position's
error, or some limit. -/
theorem maxCapacity_present_outcomes (hclaim : kind ≠ .claimRewards) (hwrap : kind ≠ .wrap)
    {config : MarketConfig} {state : MarketState} {chain : ChainContext} {p : Position}
    (hc : s.configs.get? m = some config) (hs : s.markets.get? m = some state)
    (hch : s.chain = some chain) (hp : s.positions.get? m = some p) :
    (∃ e, s.currentUserView = .error e ∧ s.maxCapacity m kind = .error e) ∨
    s.maxCapacity m kind = .error (.missingData .userPosition) ∨
    ∃ limit, s.maxCapacity m kind = .ok (some limit) := by
  obtain ⟨herr, hmiss, hsome⟩ := maxCapacity_of_present hclaim hwrap hc hs hch hp
  cases hu : s.currentUserView with
  | error e => exact Or.inl ⟨e, rfl, herr e hu⟩
  | ok u =>
    cases hpv : u.position? m with
    | none => exact Or.inr (Or.inl (hmiss u hu hpv))
    | some pv =>
      obtain ⟨limit, hlimit, -⟩ := hsome u pv hu hpv
      exact Or.inr (Or.inr ⟨limit, hlimit⟩)

/-- A market operation's capacity answers nothing exactly when the market, its configuration,
the chain context or the position is missing. -/
theorem maxCapacity_eq_none_iff (hclaim : kind ≠ .claimRewards) (hwrap : kind ≠ .wrap) :
    s.maxCapacity m kind = .ok none ↔
      s.configs.get? m = none ∨ s.markets.get? m = none ∨ s.chain = none ∨
        s.positions.get? m = none := by
  refine ⟨fun h => ?_, maxCapacity_of_absent hclaim hwrap⟩
  rcases lookups_cases s m with habsent | ⟨config, state, chain, p, hc, hs, hch, hp⟩
  · exact habsent
  exfalso
  rcases maxCapacity_present_outcomes hclaim hwrap hc hs hch hp with ⟨e, -, he⟩ | he | ⟨_, he⟩ <;>
    rw [he] at h <;> cases h

/-- No capacity fails with an unresolved limiter: its errors are those of the user's view and a
missing position. -/
theorem maxCapacity_ne_unresolvedLimiter (a : Address) (k : OperationKind) :
    s.maxCapacity m kind ≠ .error (.unresolvedLimiter a k) := by
  intro h
  by_cases hclaim : kind = .claimRewards
  · subst hclaim
    cases h
  by_cases hwrap : kind = .wrap
  · subst hwrap
    cases h
  rcases lookups_cases s m with habsent | ⟨config, state, chain, p, hc, hs, hch, hp⟩
  · rw [maxCapacity_of_absent hclaim hwrap habsent] at h
    cases h
  rcases maxCapacity_present_outcomes hclaim hwrap hc hs hch hp with ⟨e, hu, he⟩ | he | ⟨_, he⟩
  · rw [he] at h
    cases h
    exact currentUserView_ne_unresolvedLimiter a k hu
  · rw [he] at h
    cases h
  · rw [he] at h
    cases h

/-- With entries under their own keys and all four lookups present, a capacity fails exactly
when the user's view fails, and with the same error: the view always has the position. -/
theorem maxCapacity_error_iff (hkeys : s.KeysAgree) (hclaim : kind ≠ .claimRewards)
    (hwrap : kind ≠ .wrap) {config : MarketConfig} {state : MarketState} {chain : ChainContext}
    {p : Position} (hc : s.configs.get? m = some config) (hs : s.markets.get? m = some state)
    (hch : s.chain = some chain) (hp : s.positions.get? m = some p) (e : QueryError) :
    s.maxCapacity m kind = .error e ↔ s.currentUserView = .error e := by
  obtain ⟨herr, -, hsome⟩ := maxCapacity_of_present hclaim hwrap hc hs hch hp
  refine ⟨fun h => ?_, herr e⟩
  cases hu : s.currentUserView with
  | error e' =>
    rw [herr e' hu] at h
    cases h
    rfl
  | ok u =>
    obtain ⟨limit, hlimit, -⟩ := hsome u _ hu (position?_eq hkeys hu hp hs hc hch)
    rw [hlimit] at h
    cases h

/-! ## 5. Aging first

`userMaxCapacity` asks the same question of the snapshot aged to the chain context's timestamp.
Aging rewrites only the market states, each through its own configuration, so every lookup
succeeds or misses as before. -/

theorem accrue_markets_get? {t : Nat} :
    (s.accrue t).markets.get? m = none ↔ s.markets.get? m = none := by
  simp only [Snapshot.accrue, AddrMap.get?_mapValues, Option.map_eq_none_iff]

theorem accrue_markets_get?_of_config {t : Nat} {config : MarketConfig} {state : MarketState}
    (hc : s.configs.get? m = some config) (hs : s.markets.get? m = some state) :
    (s.accrue t).markets.get? m = some (state.accrue config t) := by
  simp only [Snapshot.accrue, AddrMap.get?_mapValues, hs, hc, Option.map_some]

theorem userMaxCapacity_of_chain {chain : ChainContext} (hch : s.chain = some chain) :
    s.userMaxCapacity m kind = (s.accrue chain.timestamp).maxCapacity m kind := by
  unfold userMaxCapacity
  rw [hch]

theorem userView_of_chain {chain : ChainContext} (hch : s.chain = some chain) :
    s.userView = (s.accrue chain.timestamp).currentUserView := by
  unfold userView requireChain
  rw [hch]
  rfl

theorem userMaxCapacity_ne_unresolvedLimiter (a : Address) (k : OperationKind) :
    s.userMaxCapacity m kind ≠ .error (.unresolvedLimiter a k) := by
  unfold userMaxCapacity
  split
  · exact maxCapacity_ne_unresolvedLimiter a k
  · exact maxCapacity_ne_unresolvedLimiter a k

theorem userMaxCapacity_eq_none_iff (hclaim : kind ≠ .claimRewards) (hwrap : kind ≠ .wrap) :
    s.userMaxCapacity m kind = .ok none ↔
      s.configs.get? m = none ∨ s.markets.get? m = none ∨ s.chain = none ∨
        s.positions.get? m = none := by
  unfold userMaxCapacity
  split
  · rw [maxCapacity_eq_none_iff hclaim hwrap, accrue_markets_get?]
    rfl
  · exact maxCapacity_eq_none_iff hclaim hwrap

/-- With entries under their own keys and all four lookups present, a capacity fails exactly as
the user's view fails; when the view exists it has a position on the market, and the capacity is
the limit `CapacityRule` decides on the aged market. -/
theorem userMaxCapacity_of_present (hkeys : s.KeysAgree) (hclaim : kind ≠ .claimRewards)
    (hwrap : kind ≠ .wrap) {config : MarketConfig} {state : MarketState} {chain : ChainContext}
    {p : Position} (hc : s.configs.get? m = some config) (hs : s.markets.get? m = some state)
    (hch : s.chain = some chain) (hp : s.positions.get? m = some p) :
    (∀ e, s.userMaxCapacity m kind = .error e ↔ s.userView = .error e) ∧
    ∀ u, s.userView = .ok u → ∃ pv limit, u.position? m = some pv ∧
      s.userMaxCapacity m kind = .ok (some limit) ∧
      CapacityRule config (MarketView.of (state.accrue config chain.timestamp) config) u pv kind
        limit := by
  rw [userMaxCapacity_of_chain hch, userView_of_chain hch]
  -- the aged snapshot keeps its keys and all four lookups
  have hkeys' := hkeys.accrue chain.timestamp
  have hs' := accrue_markets_get?_of_config (t := chain.timestamp) hc hs
  refine ⟨maxCapacity_error_iff hkeys' hclaim hwrap hc hs' hch hp, fun u hu => ?_⟩
  have hpv := position?_eq hkeys' hu hp hs' hc hch
  obtain ⟨-, -, hsome⟩ := maxCapacity_of_present (s := s.accrue chain.timestamp) hclaim hwrap hc hs'
    hch hp
  obtain ⟨limit, hlimit, hrule⟩ := hsome u _ hu hpv
  exact ⟨_, limit, hpv, hlimit, hrule⟩

end Snapshot

/-- The answers of a capacity query. It never fails with an unresolved limiter. Claims and wraps
answer from the user context alone. A market operation answers nothing exactly when the market,
its configuration, the chain context or the position is missing. With all four present, on a
snapshot whose entries agree with their keys, it fails exactly when the user's view fails, with
the same error, and otherwise answers the limit decided by a zero price, then a pause, then the
first least present candidate. -/
theorem limiter_error_contract (s : Snapshot) (m : Address) :
    (∀ kind a k, s.userMaxCapacity m kind ≠ .error (.unresolvedLimiter a k)) ∧
    s.userMaxCapacity m .claimRewards =
      .ok (s.user.map fun u => ⟨u.claimableRewards, .balance⟩) ∧
    s.userMaxCapacity m .wrap = .ok (s.user.map fun u => ⟨u.nativeBalance, .walletBalance⟩) ∧
    (∀ kind, kind ≠ .claimRewards → kind ≠ .wrap →
      (s.userMaxCapacity m kind = .ok none ↔
        s.configs.get? m = none ∨ s.markets.get? m = none ∨ s.chain = none ∨
          s.positions.get? m = none)) ∧
    (s.KeysAgree → ∀ kind config state chain p, kind ≠ .claimRewards → kind ≠ .wrap →
      s.configs.get? m = some config → s.markets.get? m = some state → s.chain = some chain →
      s.positions.get? m = some p →
      (∀ e, s.userMaxCapacity m kind = .error e ↔ s.userView = .error e) ∧
      ∀ u, s.userView = .ok u → ∃ pv limit, u.position? m = some pv ∧
        s.userMaxCapacity m kind = .ok (some limit) ∧
        CapacityRule config (MarketView.of (state.accrue config chain.timestamp) config) u pv kind
          limit) := by
  -- aging keeps the user context, so claims and wraps answer the same either way
  have hclaims : s.userMaxCapacity m .claimRewards =
      .ok (s.user.map fun u => ⟨u.claimableRewards, .balance⟩) := by
    unfold Snapshot.userMaxCapacity
    split <;> rfl
  have hwraps : s.userMaxCapacity m .wrap =
      .ok (s.user.map fun u => ⟨u.nativeBalance, .walletBalance⟩) := by
    unfold Snapshot.userMaxCapacity
    split <;> rfl
  exact ⟨fun _ a k => Snapshot.userMaxCapacity_ne_unresolvedLimiter a k, hclaims, hwraps,
    fun _ hclaim hwrap => Snapshot.userMaxCapacity_eq_none_iff hclaim hwrap,
    fun hkeys _ _ _ _ _ hclaim hwrap hc hs hch hp =>
      Snapshot.userMaxCapacity_of_present hkeys hclaim hwrap hc hs hch hp⟩

/-- With 100 in the wallet against a debt of 100, both candidates of a repayment tie and the
wallet, listed first, binds. -/
theorem tied_repay_binds_wallet :
    (exitSnapshot 100).userMaxCapacity exitAsset .repay = .ok (some ⟨100, .walletBalance⟩) ∧
    (exitSnapshot 100).KeysAgree ∧ OperationKind.repay ≠ .claimRewards ∧
    OperationKind.repay ≠ .wrap ∧
    (exitSnapshot 100).configs.get? exitAsset = some (exitConfig exitAsset) ∧
    (exitSnapshot 100).markets.get? exitAsset = some (exitState exitAsset 100) ∧
    (exitSnapshot 100).chain = some exitChain ∧
    (exitSnapshot 100).positions.get? exitAsset =
      some { Position.empty exitAsset with scaledBorrowOnPool := 100, walletBalance := 100 } ∧
    ((∀ e, (exitSnapshot 100).userMaxCapacity exitAsset .repay = .error e ↔
        (exitSnapshot 100).userView = .error e) ∧
      ∀ u, (exitSnapshot 100).userView = .ok u → ∃ pv limit, u.position? exitAsset = some pv ∧
        (exitSnapshot 100).userMaxCapacity exitAsset .repay = .ok (some limit) ∧
        CapacityRule (exitConfig exitAsset)
          (MarketView.of ((exitState exitAsset 100).accrue (exitConfig exitAsset)
            exitChain.timestamp) (exitConfig exitAsset)) u pv .repay limit) := by
  have hkeys := exitSnapshot_keysAgree 100
  exact ⟨rfl, hkeys, by decide, by decide, rfl, rfl, rfl, rfl,
    (limiter_error_contract (exitSnapshot 100) exitAsset).2.2.2.2 hkeys .repay _ _ _ _
      (by decide) (by decide) rfl rfl rfl rfl⟩

end PeerLending
