import PeerLending.Proofs.Run

/-!
# The capacity is what a step accepts

`Snapshot.maxCapacity` bounds an operation by the smallest of its candidate limits, read off the
market's and the user's views; an operation then checks the same quantities on its work. On a
state of a run whose keys agree, the two read the same data: the position the work starts from
is the one the user's view shows, and the borrow headroom the step holds a borrow against is the
one the capacity offers. So an amount within the capacity passes every check of the step
(`capacity_admits_step`), with one exception the capacity cannot prevent: a cap that the pool
already exceeds is noted by a supply or a borrow of any amount, zero included.

Above the capacity, a step notes an issue (`step_above_capacity_noted`): a quiet step is within
every candidate, so within the smallest. Three capacities are not such thresholds. A zero price
allows nothing, but no step checks the price. A cap check adds the amount to the pool's total
with the word's wrapping `+`, so an amount whose sum wraps passes it. And a withdrawal's cap
candidate is the user's pool supply plus the room under the borrow cap: it bounds the borrowers a
withdrawal could demote. But the freed borrowers are matched with pool suppliers first, and those
promoted take no room under the cap, so a withdrawal above that candidate can go through without
a note (`withdraw_above_capacity_quiet`). `capacity_is_step_threshold` puts both directions
together.
-/

set_option autoImplicit false

namespace PeerLending

/-! ## 1. The smallest candidate -/

/-- The kept candidate is at most the one the fold starts from and every one it meets. -/
theorem foldl_keepMin_le (rest : List CapacityLimit) (first : CapacityLimit) :
    (rest.foldl (fun best c => if c.value < best.value then c else best) first).value ≤
      first.value ∧
    ∀ c ∈ rest, (rest.foldl (fun best c => if c.value < best.value then c else best) first).value ≤
      c.value := by
  induction rest generalizing first with
  | nil => exact ⟨Nat.le_refl _, fun _ h => absurd h List.not_mem_nil⟩
  | cons c rest ih =>
    simp only [List.foldl_cons, List.mem_cons]
    by_cases hc : c.value < first.value
    · rw [if_pos hc]
      obtain ⟨h1, h2⟩ := ih c
      refine ⟨Nat.le_of_lt (Nat.lt_of_le_of_lt h1 hc), ?_⟩
      rintro c' (rfl | hc')
      · exact h1
      · exact h2 c' hc'
    · rw [if_neg hc]
      obtain ⟨h1, h2⟩ := ih first
      have hc : first.value ≤ c.value := Nat.le_of_not_lt hc
      refine ⟨h1, ?_⟩
      rintro c' (rfl | hc')
      · exact Nat.le_trans h1 hc
      · exact h2 c' hc'

/-- The limit a list of candidates binds to is at most every present candidate. -/
theorem bindMin_le {cs : List (Option Word × LimitReason)} {limit : CapacityLimit}
    (h : bindMin cs = some limit) : ∀ x r, (some x, r) ∈ cs → limit.value ≤ x := by
  intro x r hx
  unfold bindMin at h
  split at h
  · rename_i heq
    -- a present candidate survives the filter
    have hnone := List.filterMap_eq_nil_iff.1 heq _ hx
    cases hnone
  · rename_i first rest heq
    cases h
    have hmem : (⟨x, r⟩ : CapacityLimit) ∈ first :: rest := by
      rw [← heq]
      exact List.mem_filterMap.2 ⟨(some x, r), hx, rfl⟩
    obtain ⟨h1, h2⟩ := foldl_keepMin_le rest first
    rcases List.mem_cons.1 hmem with rfl | hmem
    · exact h1
    · exact h2 _ hmem

/-- The kept candidate is one of those the fold was given. -/
theorem foldl_keepMin_mem (rest : List CapacityLimit) (first : CapacityLimit) :
    rest.foldl (fun best c => if c.value < best.value then c else best) first ∈ first :: rest := by
  induction rest generalizing first with
  | nil => exact List.mem_cons_self
  | cons c rest ih =>
    rw [List.foldl_cons]
    split
    · exact List.mem_cons_of_mem _ (ih c)
    · rcases List.mem_cons.1 (ih first) with h | h
      · rw [h]
        exact List.mem_cons_self
      · exact List.mem_cons_of_mem _ (List.mem_cons_of_mem _ h)

/-- The limit a list of candidates binds to is one of them. -/
theorem bindMin_mem {cs : List (Option Word × LimitReason)} {limit : CapacityLimit}
    (h : bindMin cs = some limit) : (some limit.value, limit.reason) ∈ cs := by
  unfold bindMin at h
  split at h
  · cases h
  · rename_i first rest heq
    have hmem := foldl_keepMin_mem rest first
    rw [← heq, Option.some.inj h] at hmem
    obtain ⟨⟨v, r⟩, hc, hv⟩ := List.mem_filterMap.1 hmem
    cases v with
    | none => cases hv
    | some x =>
      simp only [Option.map_some, Option.some.injEq] at hv
      rw [← hv]
      exact hc

/-! ## 2. Room under a cap -/

/-- An amount within the room under a cap takes the total past the cap only when the total
already stands above it. -/
theorem lt_of_le_room {cap total a : Word} (hroom : a ≤ zeroFloorSub cap total)
    (hcap : cap < total + a) : cap < total := by
  rw [Word.le_iff_val_le, zeroFloorSub, Word.val_satSub] at hroom
  rw [Word.lt_iff_val_lt] at hcap ⊢
  refine Nat.lt_of_not_le fun hle => ?_
  have hsum : (total + a).val = total.val + a.val :=
    Word.val_add_of_lt (by have := cap.isLt; omega)
  omega

/-- The room a capacity offers under a non-zero cap bounds the amount by it. -/
theorem le_room_of_capRemaining {cap total a : Word}
    (h : ∀ x, capRemaining cap total = some x → a ≤ x) (hcap : cap.val ≠ 0) :
    a ≤ zeroFloorSub cap total :=
  h _ (by simp [capRemaining, hcap])

/-- An amount a cap check lets through is within the room under the cap, when the total plus
the amount fits in a word. -/
theorem le_room_of_not_lt {cap total a : Word} (hfit : total.val + a.val < wordSize)
    (hcap : ¬cap < total + a) : a ≤ zeroFloorSub cap total := by
  rw [Word.le_iff_val_le, zeroFloorSub, Word.val_satSub]
  rw [Word.lt_iff_val_lt, Word.val_add_of_lt hfit] at hcap
  omega

/-- An amount a non-zero cap's check lets through is within the room a capacity offers. -/
theorem within_capRemaining {cap total a : Word} (hfit : total.val + a.val < wordSize)
    (hcap : cap.val ≠ 0 → ¬cap < total + a) : ∀ x, capRemaining cap total = some x → a ≤ x := by
  intro x hx
  unfold capRemaining at hx
  split at hx
  · cases hx
  · rename_i h0
    cases hx
    exact le_room_of_not_lt hfit (hcap h0)

/-- The borrowers a withdrawal demotes fit under the borrow cap when the amount is within the
user's pool supply plus the room under the cap: they are at most the part taken from
peer-to-peer supply, which the room covers. -/
theorem demoted_within_room {a onPool d cap total : Word}
    (hroom : a ≤ onPool + zeroFloorSub cap total) (hd : d ≤ a - Word.min a onPool)
    (hd0 : d.val ≠ 0) : ¬cap < total + d := by
  intro hlt
  rw [Word.le_iff_val_le, Word.val_add, zeroFloorSub, Word.val_satSub] at hroom
  rw [Word.le_iff_val_le, Word.val_sub_of_le (Word.min_le_left a onPool), Word.val_min] at hd
  rw [Word.lt_iff_val_lt, Word.val_add] at hlt
  have hmod := Nat.mod_le (onPool.val + (cap.val - total.val)) wordSize
  have hcap := cap.isLt
  split at hd
  -- the amount is all pool supply: nothing is demoted
  · omega
  -- the demoted borrowers fit in the room, so the sum does not wrap
  · have hfit : total.val + d.val < wordSize := by omega
    rw [Nat.mod_eq_of_lt hfit] at hlt
    omega

/-! ## 3. The amount a step resolves -/

/-- An amount within a capacity, or the sentinel that stands for the capacity, resolves to an
amount within it. -/
theorem resolveAmount_le {s : Snapshot} {op : Operation} {limit : CapacityLimit} {amount : Word}
    (hcap : s.maxCapacity op.market op.kind = .ok (some limit))
    (hamount : op.amount ≤ limit.value ∨ op.amount = Word.maxValue)
    (h : resolveAmount s op = .ok amount) : amount ≤ limit.value := by
  unfold resolveAmount at h
  split at h
  · rw [hcap] at h
    cases h
    exact Nat.le_refl _
  · rename_i hmax
    cases h
    rcases hamount with hle | heq
    · exact hle
    · simp [Operation.isMax, heq] at hmax

/-- An amount other than the sentinel resolves to itself. -/
theorem resolveAmount_of_ne_max {s : Snapshot} {op : Operation} (h : op.amount ≠ Word.maxValue) :
    resolveAmount s op = .ok op.amount := by
  unfold resolveAmount
  rw [if_neg (by simp [Operation.isMax, h])]

/-! ## 4. The user's view of a position -/

/-- The user's view lists the position views it aggregates. -/
theorem UserView.aggregate_markets {user : Option Address} {views : List PositionView}
    {u : UserView} (h : UserView.aggregate user views = some u) : u.markets = views := by
  unfold UserView.aggregate at h
  cases ha : PeerLending.netApy views with
  | none =>
    rw [ha] at h
    cases h
  | some apy =>
    rw [ha] at h
    cases h
    rfl

namespace Snapshot

variable {s : Snapshot} {chain : ChainContext}

theorem positionView_eq {p : Position} {state : MarketState} {config : MarketConfig}
    (hs : s.markets.get? p.market = some state) (hc : s.configs.get? p.market = some config) :
    s.positionView chain p =
      .ok (PositionView.of p (MarketView.of state config) (RiskParams.effective state config chain)) := by
  unfold positionView
  rw [hs, hc]

/-- Under agreeing keys a position's view names the position's own market. -/
theorem positionView_market (hkeys : s.KeysAgree) {p : Position} {v : PositionView}
    (h : s.positionView chain p = .ok v) : v.market = p.market := by
  unfold positionView at h
  split at h
  · cases h
  · cases h
  · rename_i state config hs _
    cases h
    exact hkeys.underlying_of_get? hs

/-- Under agreeing keys, the first view naming a market is the view of the first position
stored under it. -/
theorem find?_positionViews (hkeys : s.KeysAgree) {m : Address} {p : Position} :
    ∀ (l : List (Address × Position)) (views : List PositionView), (∀ e ∈ l, e.2.market = e.1) →
      (l.map (·.2)).mapM (s.positionView chain) = .ok views → AddrMap.lookup m l = some p →
      ∃ v, s.positionView chain p = .ok v ∧ views.find? (·.market == m) = some v
  | [], _, _, _, hlook => by cases hlook
  | (k, q) :: rest, views, hl, hmap, hlook => by
    simp only [List.map_cons, List.mapM_cons] at hmap
    cases hq : s.positionView chain q with
    | error e =>
      rw [hq] at hmap
      cases hmap
    | ok v =>
      rw [hq] at hmap
      cases hrest : (rest.map (·.2)).mapM (s.positionView chain) with
      | error e =>
        rw [hrest] at hmap
        cases hmap
      | ok vs =>
        rw [hrest] at hmap
        cases hmap
        have hvm : v.market = k :=
          (positionView_market hkeys hq).trans (hl (k, q) List.mem_cons_self)
        unfold AddrMap.lookup at hlook
        by_cases hmk : m = k
        · rw [if_pos hmk] at hlook
          cases hlook
          exact ⟨v, hq, by simp [hvm, hmk]⟩
        · rw [if_neg hmk] at hlook
          obtain ⟨v', hv', hfind⟩ := find?_positionViews hkeys rest vs
            (fun e he => hl e (List.mem_cons_of_mem _ he)) hrest hlook
          refine ⟨v', hv', ?_⟩
          rw [List.find?_cons, hvm, beq_eq_false_iff_ne.2 (Ne.symm hmk)]
          exact hfind

/-- The positions the user's view lists are the views of the snapshot's positions. -/
theorem positionViews_of_currentUserView {u : UserView} (hu : s.currentUserView = .ok u) :
    s.positionViews = .ok u.markets := by
  unfold currentUserView at hu
  cases hv : s.positionViews with
  | error e =>
    rw [hv] at hu
    cases hu
  | ok views =>
    rw [hv] at hu
    dsimp only [bind, Except.bind] at hu
    split at hu
    · rename_i u' hagg
      cases hu
      rw [UserView.aggregate_markets hagg]
    · cases hu

/-- On a snapshot whose keys agree, the user's view of a market's position is the view of the
position stored under that market. -/
theorem position?_eq (hkeys : s.KeysAgree) {u : UserView} (hu : s.currentUserView = .ok u)
    {m : Address} {p : Position} {state : MarketState} {config : MarketConfig}
    (hp : s.positions.get? m = some p) (hs : s.markets.get? m = some state)
    (hc : s.configs.get? m = some config) (hch : s.chain = some chain) :
    u.position? m =
      some (PositionView.of p (MarketView.of state config) (RiskParams.effective state config chain)) := by
  have hpm : p.market = m := hkeys.market_of_get? hp
  have hviews : (s.positions.entries.map (·.2)).mapM (s.positionView chain) = .ok u.markets := by
    have h := positionViews_of_currentUserView hu
    unfold positionViews requireChain at h
    rw [hch] at h
    exact h
  obtain ⟨v, hv, hfind⟩ := find?_positionViews hkeys s.positions.entries u.markets
    hkeys.positions hviews hp
  rw [positionView_eq (hpm ▸ hs) (hpm ▸ hc)] at hv
  cases hv
  exact hfind

/-! ## 5. A capacity read back -/

/-- A capacity of a market operation read back: the market, its configuration, the chain
context and the position are there, the user's view derives, and the limit is that of a zero
price, that of a paused operation, or the smallest of the candidates the views offer. -/
theorem maxCapacity_market_cases {m : Address} {kind : OperationKind} {limit : CapacityLimit}
    (hclaim : kind ≠ .claimRewards) (hwrap : kind ≠ .wrap)
    (h : s.maxCapacity m kind = .ok (some limit)) :
    ∃ config state chain p u pv,
      s.configs.get? m = some config ∧ s.markets.get? m = some state ∧ s.chain = some chain ∧
      s.positions.get? m = some p ∧ s.currentUserView = .ok u ∧ u.position? m = some pv ∧
      (limit = ⟨0, .zeroPrice⟩ ∨ config.pause.stops kind = true ∧ limit = ⟨0, .operationPaused⟩ ∨
        config.pause.stops kind = false ∧
          bindMin (candidates (MarketView.of state config) u pv kind) = some limit) := by
  unfold maxCapacity at h
  split at h
  · contradiction
  · contradiction
  · split at h
    · rename_i config state chain p hcfg hst hch hp
      have hview : s.marketView m = .ok (MarketView.of state config) := by
        unfold marketView
        rw [hst, hcfg]
      simp only [hview, bind, Except.bind] at h
      cases hu : s.currentUserView with
      | error e =>
        rw [hu] at h
        cases h
      | ok u =>
        simp only [hu] at h
        cases hpv : u.position? m with
        | none =>
          simp only [hpv] at h
          cases h
        | some pv =>
          simp only [hpv] at h
          refine ⟨config, state, chain, p, u, pv, hcfg, hst, hch, hp, rfl, hpv, ?_⟩
          -- the zero price is checked first, then the pause, then the candidates bind
          split at h
          · cases h
            exact Or.inl rfl
          · split at h
            · rename_i hstop
              cases h
              exact Or.inr (Or.inl ⟨hstop, rfl⟩)
            · rename_i hstop
              split at h
              · cases h
              · rename_i l hl
                cases h
                unfold marketCapacity at hl
                split at hl
                · cases hl
                  exact Or.inr (Or.inr ⟨by simpa using hstop, ‹_›⟩)
                · cases hl
    · cases h

end Snapshot

/-! ## 6. Each operation and its bounds

What each market operation notes when its amount is within the bounds the capacity's candidates
give, read on the work: nothing, except a supply or a borrow against a cap the pool already
exceeds. And conversely, what an operation that notes nothing is within: every bound, a cap's
room only when the pool's total plus the amount fits in a word. -/

namespace Work

variable {w : Work} {a : Word}

/-- A supply (as collateral or not) within the wallet and the room under the supply cap notes at
most a cap the pool's supply already exceeds. -/
theorem supplyIssues_within (hwallet : a ≤ w.position.walletBalance)
    (hroom : ∀ x, capRemaining w.config.supplyCap
      (rayMul w.market.scaledPoolSupply w.market.indexes.supply.poolIndex) = some x → a ≤ x) :
    ∀ k ∈ issueIf (w.position.walletBalance < a) .insufficientWalletBalance ++
      issueIf (w.config.supplyCap.val ≠ 0 &&
        w.config.supplyCap < rayMul w.market.scaledPoolSupply w.market.indexes.supply.poolIndex + a)
        .supplyCapReached,
      k = .supplyCapReached ∧ w.config.supplyCap.val ≠ 0 ∧
        w.config.supplyCap < rayMul w.market.scaledPoolSupply w.market.indexes.supply.poolIndex := by
  intro k hk
  simp only [List.mem_append, mem_issueIf, decide_eq_true_eq, Bool.and_eq_true] at hk
  rcases hk with ⟨-, hlt⟩ | ⟨rfl, hcap, hlt⟩
  · exact absurd hwallet (Nat.not_le_of_lt hlt)
  · exact ⟨rfl, hcap, lt_of_le_room (le_room_of_capRemaining hroom hcap) hlt⟩

/-- A borrow within the headroom, the pool's liquidity and the room under the borrow cap notes at
most a cap the pool's debt already exceeds. -/
theorem borrow_within {headroom : Word} (hhead : a ≤ headroom) (hliq : a ≤ w.market.poolLiquidity)
    (hroom : ∀ x, capRemaining w.config.borrowCap
      (rayMul w.market.scaledPoolBorrow w.market.indexes.borrow.poolIndex) = some x → a ≤ x) :
    ∀ k ∈ (w.borrow a headroom).issues, k ∈ w.issues ∨
      (k = .borrowCapReached ∧ w.config.borrowCap.val ≠ 0 ∧
        w.config.borrowCap < rayMul w.market.scaledPoolBorrow w.market.indexes.borrow.poolIndex) := by
  intro k hk
  rw [issues_borrow] at hk
  simp only [List.mem_append, mem_issueIf, decide_eq_true_eq, Bool.and_eq_true] at hk
  rcases hk with ((hk | ⟨-, hlt⟩) | ⟨-, hlt⟩) | ⟨rfl, hcap, hlt⟩
  · exact Or.inl hk
  · exact absurd hhead (Nat.not_le_of_lt hlt)
  · exact absurd hliq (Nat.not_le_of_lt hlt)
  · exact Or.inr ⟨rfl, hcap, lt_of_le_room (le_room_of_capRemaining hroom hcap) hlt⟩

/-- A repayment within the wallet and the debt notes nothing. -/
theorem repay_within (hwallet : a ≤ w.position.walletBalance)
    (hdebt : a ≤ rayMul w.position.scaledBorrowOnPool w.market.indexes.borrow.poolIndex +
      rayMul w.position.scaledBorrowInP2P w.market.indexes.borrow.p2pIndex) :
    ∀ k ∈ (w.repay a).issues, k ∈ w.issues := by
  intro k hk
  rw [issues_repay] at hk
  simp only [List.mem_append, mem_issueIf, decide_eq_true_eq] at hk
  rcases hk with (hk | ⟨-, hlt⟩) | ⟨-, hlt⟩
  · exact hk
  · exact absurd hlt (Word.not_lt_of_le hdebt)
  · rw [if_neg (Word.not_lt_of_le hdebt)] at hlt
    exact absurd hlt (Word.not_lt_of_le hwallet)

/-- A withdrawal within the pool's liquidity, the user's pool supply plus the room under the
borrow cap, and the supply notes nothing. -/
theorem withdraw_within (hliq : a ≤ w.market.poolLiquidity)
    (hroom : ∀ x, capRemaining w.config.borrowCap
      (rayMul w.market.scaledPoolBorrow w.market.indexes.borrow.poolIndex) = some x →
      a ≤ rayMul w.position.scaledSupplyOnPool w.market.indexes.supply.poolIndex + x)
    (hsupply : a ≤ rayMul w.position.scaledSupplyOnPool w.market.indexes.supply.poolIndex +
      rayMul w.position.scaledSupplyInP2P w.market.indexes.supply.p2pIndex) :
    ∀ k ∈ (w.withdraw a).issues, k ∈ w.issues := by
  intro k hk
  obtain ⟨d, hd, hissues⟩ := issues_withdraw w a
  rw [hissues] at hk
  simp only [if_neg (Word.not_lt_of_le hsupply)] at hd hk
  simp only [List.mem_append, mem_issueIf, decide_eq_true_eq, Bool.and_eq_true] at hk
  rcases hk with ((hk | ⟨-, hlt⟩) | ⟨-, hlt⟩) | ⟨-, ⟨hd0, hcap⟩, hlt⟩
  · exact hk
  · exact absurd hlt (Word.not_lt_of_le hsupply)
  · exact absurd hlt (Word.not_lt_of_le hliq)
  · exact absurd hlt (demoted_within_room (hroom _ (by simp [capRemaining, hcap])) hd hd0)

/-- A collateral withdrawal within the collateral, the headroom (when there is one) and the
pool's liquidity notes nothing. -/
theorem withdrawCollateral_within {headroom : Option Word}
    (hcollateral : a ≤ rayMul w.position.scaledCollateral w.market.indexes.supply.poolIndex)
    (hhead : ∀ x, headroom = some x → a ≤ x) (hliq : a ≤ w.market.poolLiquidity) :
    ∀ k ∈ (w.withdrawCollateral a headroom).issues, k ∈ w.issues := by
  intro k hk
  rw [issues_withdrawCollateral] at hk
  simp only [if_neg (Word.not_lt_of_le hcollateral)] at hk
  simp only [List.mem_append, mem_issueIf, decide_eq_true_eq] at hk
  rcases hk with ((hk | ⟨-, hlt⟩) | ⟨-, hany⟩) | ⟨-, hlt⟩
  · exact hk
  · exact absurd hlt (Word.not_lt_of_le hcollateral)
  · cases headroom with
    | none => cases hany
    | some x => exact absurd (by simpa using hany) (Word.not_lt_of_le (hhead x rfl))
  · exact absurd hlt (Word.not_lt_of_le hliq)

/-- A supply (as collateral or not) that notes nothing is within the wallet, and within the room
under the supply cap when the pool's supply plus the amount fits in a word. -/
theorem supplyIssues_quiet
    (h : issueIf (w.position.walletBalance < a) .insufficientWalletBalance ++
      issueIf (w.config.supplyCap.val ≠ 0 &&
        w.config.supplyCap < rayMul w.market.scaledPoolSupply w.market.indexes.supply.poolIndex + a)
        .supplyCapReached = []) :
    a ≤ w.position.walletBalance ∧
      ((rayMul w.market.scaledPoolSupply w.market.indexes.supply.poolIndex).val + a.val < wordSize →
        ∀ x, capRemaining w.config.supplyCap
          (rayMul w.market.scaledPoolSupply w.market.indexes.supply.poolIndex) = some x → a ≤ x) := by
  simp only [List.append_eq_nil_iff, issueIf_eq_nil, Bool.and_eq_false_iff,
    decide_eq_false_iff_not] at h
  obtain ⟨hwallet, hcap⟩ := h
  refine ⟨Nat.le_of_not_lt hwallet, fun hfit => within_capRemaining hfit fun h0 => ?_⟩
  exact hcap.resolve_left (not_not_intro h0)

/-- A borrow that notes nothing is within the headroom and the pool's liquidity, and within the
room under the borrow cap when the pool's debt plus the amount fits in a word. -/
theorem borrow_quiet {headroom : Word} (h : (w.borrow a headroom).issues = []) :
    a ≤ headroom ∧ a ≤ w.market.poolLiquidity ∧
      ((rayMul w.market.scaledPoolBorrow w.market.indexes.borrow.poolIndex).val + a.val < wordSize →
        ∀ x, capRemaining w.config.borrowCap
          (rayMul w.market.scaledPoolBorrow w.market.indexes.borrow.poolIndex) = some x → a ≤ x) := by
  rw [issues_borrow] at h
  simp only [List.append_eq_nil_iff, issueIf_eq_nil, Bool.and_eq_false_iff,
    decide_eq_false_iff_not] at h
  obtain ⟨⟨⟨-, hhead⟩, hliq⟩, hcap⟩ := h
  refine ⟨Nat.le_of_not_lt hhead, Nat.le_of_not_lt hliq,
    fun hfit => within_capRemaining hfit fun h0 => ?_⟩
  exact hcap.resolve_left (not_not_intro h0)

/-- A repayment that notes nothing is within the wallet and the debt. -/
theorem repay_quiet (h : (w.repay a).issues = []) :
    a ≤ w.position.walletBalance ∧
      a ≤ rayMul w.position.scaledBorrowOnPool w.market.indexes.borrow.poolIndex +
        rayMul w.position.scaledBorrowInP2P w.market.indexes.borrow.p2pIndex := by
  rw [issues_repay] at h
  simp only [List.append_eq_nil_iff, issueIf_eq_nil, decide_eq_false_iff_not] at h
  obtain ⟨⟨-, hdebt⟩, hwallet⟩ := h
  rw [if_neg hdebt] at hwallet
  exact ⟨Nat.le_of_not_lt hwallet, Nat.le_of_not_lt hdebt⟩

/-- A withdrawal that notes nothing is within the pool's liquidity and the supply. -/
theorem withdraw_quiet (h : (w.withdraw a).issues = []) :
    a ≤ w.market.poolLiquidity ∧
      a ≤ rayMul w.position.scaledSupplyOnPool w.market.indexes.supply.poolIndex +
        rayMul w.position.scaledSupplyInP2P w.market.indexes.supply.p2pIndex := by
  obtain ⟨d, -, hissues⟩ := issues_withdraw w a
  rw [hissues] at h
  simp only [List.append_eq_nil_iff, issueIf_eq_nil, decide_eq_false_iff_not] at h
  obtain ⟨⟨⟨-, hsupply⟩, hliq⟩, -⟩ := h
  rw [if_neg hsupply] at hliq
  exact ⟨Nat.le_of_not_lt hliq, Nat.le_of_not_lt hsupply⟩

/-- A collateral withdrawal that notes nothing is within the collateral, the headroom (when there
is one) and the pool's liquidity. -/
theorem withdrawCollateral_quiet {headroom : Option Word}
    (h : (w.withdrawCollateral a headroom).issues = []) :
    a ≤ rayMul w.position.scaledCollateral w.market.indexes.supply.poolIndex ∧
      (∀ x, headroom = some x → a ≤ x) ∧ a ≤ w.market.poolLiquidity := by
  rw [issues_withdrawCollateral] at h
  simp only [List.append_eq_nil_iff, issueIf_eq_nil, decide_eq_false_iff_not] at h
  obtain ⟨⟨⟨-, hcollateral⟩, hhead⟩, hliq⟩ := h
  rw [if_neg hcollateral] at hhead hliq
  refine ⟨Nat.le_of_not_lt hcollateral, ?_, Nat.le_of_not_lt hliq⟩
  rintro x rfl
  have hwithin : ¬x < a := by simpa using hhead
  exact Nat.le_of_not_lt hwithin

end Work

/-! ## 7. A step and its capacity -/

/-- The issue a step within its capacity may still note on a market: a supply against a non-zero
supply cap that the pool's supply already exceeds, or a borrow against a non-zero borrow cap
that the pool's debt already exceeds. -/
def CapAlreadyExceeded (state : MarketState) (config : MarketConfig) (kind : OperationKind)
    (k : IssueKind) : Prop :=
  (k = .supplyCapReached ∧ (kind = .supply ∨ kind = .supplyCollateral) ∧
      config.supplyCap.val ≠ 0 ∧
      config.supplyCap < rayMul state.scaledPoolSupply state.indexes.supply.poolIndex) ∨
    (k = .borrowCapReached ∧ kind = .borrow ∧ config.borrowCap.val ≠ 0 ∧
      config.borrowCap < rayMul state.scaledPoolBorrow state.indexes.borrow.poolIndex)

/-- The pool's supply and its debt each stay within a word when the amount is added: the sums
the cap checks compare do not wrap. -/
def CapSumsFit (state : MarketState) (a : Word) : Prop :=
  (rayMul state.scaledPoolSupply state.indexes.supply.poolIndex).val + a.val < wordSize ∧
    (rayMul state.scaledPoolBorrow state.indexes.borrow.poolIndex).val + a.val < wordSize

/-- A claim within the pending rewards notes nothing. -/
theorem claimRewards_within {s : Snapshot} {op : Operation} {limit : CapacityLimit}
    {t : Transition} (hcap : s.maxCapacity op.market .claimRewards = .ok (some limit))
    (hle : ∀ amount, resolveAmount s op = .ok amount → amount ≤ limit.value)
    (h : claimRewards s op = .ok t) : t.issues = [] := by
  unfold claimRewards at h
  split at h
  · cases h
  · rename_i user huser
    simp only [Snapshot.maxCapacity, huser, Option.map_some, Except.ok.injEq,
      Option.some.injEq] at hcap
    cases hr : resolveAmount s op with
    | error e =>
      rw [hr] at h
      cases h
    | ok requested =>
      rw [hr] at h
      cases h
      subst hcap
      have hwithin : requested ≤ user.claimableRewards := hle requested hr
      simp [Word.not_lt_of_le hwithin]

/-- A wrap within the chain-coin balance notes nothing. -/
theorem wrapCoin_within {s : Snapshot} {op : Operation} {limit : CapacityLimit}
    {t : Transition} (hcap : s.maxCapacity op.market .wrap = .ok (some limit))
    (hle : ∀ amount, resolveAmount s op = .ok amount → amount ≤ limit.value)
    (h : wrapCoin s op = .ok t) : t.issues = [] := by
  unfold wrapCoin at h
  repeat' split at h
  all_goals try cases h
  rename_i user huser
  simp only [Snapshot.maxCapacity, huser, Option.map_some, Except.ok.injEq,
    Option.some.injEq] at hcap
  cases hr : resolveAmount s op with
  | error e =>
    rw [hr] at h
    cases h
  | ok amount =>
    rw [hr] at h
    cases h
    subst hcap
    have hwithin : amount ≤ user.nativeBalance := hle amount hr
    simp [Word.not_lt_of_le hwithin]

/-- A claim that notes nothing is within the pending rewards. -/
theorem claimRewards_quiet {s : Snapshot} {op : Operation} {limit : CapacityLimit}
    {t : Transition} {amount : Word} (hcap : s.maxCapacity op.market .claimRewards = .ok (some limit))
    (hres : resolveAmount s op = .ok amount) (h : claimRewards s op = .ok t)
    (hquiet : t.issues = []) : amount ≤ limit.value := by
  unfold claimRewards at h
  split at h
  · cases h
  · rename_i user huser
    simp only [Snapshot.maxCapacity, huser, Option.map_some, Except.ok.injEq,
      Option.some.injEq] at hcap
    rw [hres] at h
    cases h
    subst hcap
    simp only [ite_eq_right_iff, reduceCtorEq, imp_false, decide_eq_true_eq] at hquiet
    exact Nat.le_of_not_lt hquiet

/-- A wrap that notes nothing is within the chain-coin balance. -/
theorem wrapCoin_quiet {s : Snapshot} {op : Operation} {limit : CapacityLimit}
    {t : Transition} {amount : Word} (hcap : s.maxCapacity op.market .wrap = .ok (some limit))
    (hres : resolveAmount s op = .ok amount) (h : wrapCoin s op = .ok t)
    (hquiet : t.issues = []) : amount ≤ limit.value := by
  unfold wrapCoin at h
  repeat' split at h
  all_goals try cases h
  rename_i user huser
  simp only [Snapshot.maxCapacity, huser, Option.map_some, Except.ok.injEq,
    Option.some.injEq] at hcap
  rw [hres] at h
  cases h
  subst hcap
  simp only [ite_eq_right_iff, reduceCtorEq, imp_false] at hquiet
  exact Nat.le_of_not_lt hquiet

section Perform

variable {st : SimulatedState} {state : MarketState} {config : MarketConfig}
  {chain : ChainContext} {p : Position} {op : Operation} {amount : Word}

/-- A market operation whose amount is within every candidate the views offer notes at most a cap
the pool already exceeds. -/
theorem Work.perform_within
    (hposition : (Work.start st.snapshot state config op.unwrap).position = p)
    (hpv : st.user.position? op.market =
      some (PositionView.of p (MarketView.of state config) (RiskParams.effective state config chain)))
    (hbound : ∀ x r, (some x, r) ∈ candidates (MarketView.of state config) st.user
      (PositionView.of p (MarketView.of state config) (RiskParams.effective state config chain))
      op.kind → amount ≤ x) :
    ∀ k ∈ ((Work.start st.snapshot state config op.unwrap).perform st chain op amount).issues,
      CapAlreadyExceeded state config op.kind k := by
  -- the work starts with no issues: each one is the performed operation's
  have hfresh : ∀ k, k ∉ (Work.start st.snapshot state config op.unwrap).issues :=
    fun _ => List.not_mem_nil
  intro k hk
  unfold Work.perform at hk
  split at hk
  · rename_i hkind
    rw [Work.issues_supply, List.append_assoc] at hk
    rw [hkind] at hbound
    obtain ⟨rfl, hcap0, hlt⟩ := Work.supplyIssues_within
      (by rw [hposition]; exact hbound _ .walletBalance List.mem_cons_self)
      (fun x hx => hbound x .cap (List.mem_cons_of_mem _ (List.mem_singleton.2 (by rw [← hx]; rfl))))
      k ((List.mem_append.1 hk).resolve_left (hfresh k))
    exact Or.inl ⟨rfl, Or.inl hkind, hcap0, hlt⟩
  · rename_i hkind
    rw [Work.issues_supplyCollateral, List.append_assoc] at hk
    rw [hkind] at hbound
    obtain ⟨rfl, hcap0, hlt⟩ := Work.supplyIssues_within
      (by rw [hposition]; exact hbound _ .walletBalance List.mem_cons_self)
      (fun x hx => hbound x .cap (List.mem_cons_of_mem _ (List.mem_singleton.2 (by rw [← hx]; rfl))))
      k ((List.mem_append.1 hk).resolve_left (hfresh k))
    exact Or.inl ⟨rfl, Or.inr hkind, hcap0, hlt⟩
  · rename_i hkind
    rw [hkind] at hbound
    -- the headroom the step holds the borrow against is the capacity's candidate
    rcases Work.borrow_within (hbound _ .borrowCapacity List.mem_cons_self)
      (hbound _ .poolLiquidity (List.mem_cons_of_mem _ List.mem_cons_self))
      (fun x hx => hbound x .cap (List.mem_cons_of_mem _ (List.mem_cons_of_mem _
        (List.mem_singleton.2 (by rw [← hx]; rfl))))) k hk with hk | ⟨rfl, hcap0, hlt⟩
    · exact absurd hk (hfresh k)
    · exact Or.inr ⟨rfl, hkind, hcap0, hlt⟩
  · rename_i hkind
    rw [hkind] at hbound
    have hdebt : amount ≤ (PositionView.of p (MarketView.of state config)
        (RiskParams.effective state config chain)).totalBorrow :=
      hbound _ .balance (List.mem_cons_of_mem _ List.mem_cons_self)
    refine absurd (Work.repay_within ?_ ?_ k hk) (hfresh k)
    · rw [hposition]
      exact hbound _ .walletBalance List.mem_cons_self
    · rw [hposition, Word.add_comm]
      exact hdebt
  · rename_i hkind
    rw [hkind] at hbound
    have hsupply : amount ≤ (PositionView.of p (MarketView.of state config)
        (RiskParams.effective state config chain)).totalSupply :=
      hbound _ .balance (List.mem_cons_of_mem _ (List.mem_cons_of_mem _ List.mem_cons_self))
    refine absurd (Work.withdraw_within ?_ ?_ ?_ k hk) (hfresh k)
    · exact hbound _ .poolLiquidity List.mem_cons_self
    · intro x hx
      rw [hposition]
      refine hbound _ .cap (List.mem_cons_of_mem _ (List.mem_cons.2 (Or.inl ?_)))
      rw [show (MarketView.of state config).borrowCapRemaining = some x from hx]
      rfl
    · rw [hposition, Word.add_comm]
      exact hsupply
  · rename_i hkind
    rw [hkind] at hbound
    refine absurd (Work.withdrawCollateral_within ?_ ?_ ?_ k hk) (hfresh k)
    · rw [hposition]
      exact hbound _ .balance List.mem_cons_self
    · -- the headroom the step holds the withdrawal against is the capacity's candidate
      intro x hx
      rw [hpv, Option.bind_some] at hx
      exact hbound x .borrowCapacity (List.mem_cons_of_mem _ (List.mem_cons.2 (Or.inl (by rw [hx]))))
    · exact hbound _ .poolLiquidity (List.mem_cons_of_mem _ (List.mem_cons_of_mem _ List.mem_cons_self))
  all_goals exact absurd hk (hfresh k)

/-- A market operation that notes nothing is within every candidate the views offer, but a
withdrawal's cap candidate; within a cap's room only when the pool's totals plus the amount fit
in a word. -/
theorem Work.perform_quiet_within
    (hposition : (Work.start st.snapshot state config op.unwrap).position = p)
    (hpv : st.user.position? op.market =
      some (PositionView.of p (MarketView.of state config) (RiskParams.effective state config chain)))
    (hquiet : ((Work.start st.snapshot state config op.unwrap).perform st chain op amount).issues = []) :
    ∀ x r, (some x, r) ∈ candidates (MarketView.of state config) st.user
      (PositionView.of p (MarketView.of state config) (RiskParams.effective state config chain))
      op.kind → (op.kind = .withdraw → r ≠ .cap) → (r = .cap → CapSumsFit state amount) →
      amount ≤ x := by
  intro x r hx hwithdraw hfit
  unfold Work.perform at hquiet
  split at hquiet
  · rename_i hkind
    rw [Work.issues_supply, List.append_assoc, List.append_eq_nil_iff] at hquiet
    obtain ⟨hwallet, hroom⟩ := Work.supplyIssues_quiet hquiet.2
    rw [hkind] at hx
    simp only [candidates, List.mem_cons, List.not_mem_nil, or_false,
      Prod.mk.injEq, Option.some.injEq] at hx
    rcases hx with ⟨rfl, rfl⟩ | ⟨hx, rfl⟩
    · rw [hposition] at hwallet
      exact hwallet
    · exact hroom (hfit rfl).1 x hx.symm
  · rename_i hkind
    rw [Work.issues_supplyCollateral, List.append_assoc, List.append_eq_nil_iff] at hquiet
    obtain ⟨hwallet, hroom⟩ := Work.supplyIssues_quiet hquiet.2
    rw [hkind] at hx
    simp only [candidates, List.mem_cons, List.not_mem_nil, or_false,
      Prod.mk.injEq, Option.some.injEq] at hx
    rcases hx with ⟨rfl, rfl⟩ | ⟨hx, rfl⟩
    · rw [hposition] at hwallet
      exact hwallet
    · exact hroom (hfit rfl).1 x hx.symm
  · rename_i hkind
    obtain ⟨hhead, hliq, hroom⟩ := Work.borrow_quiet hquiet
    rw [hkind] at hx
    simp only [candidates, List.mem_cons, List.not_mem_nil, or_false,
      Prod.mk.injEq, Option.some.injEq] at hx
    rcases hx with ⟨rfl, rfl⟩ | ⟨rfl, rfl⟩ | ⟨hx, rfl⟩
    · exact hhead
    · exact hliq
    · exact hroom (hfit rfl).2 x hx.symm
  · rename_i hkind
    obtain ⟨hwallet, hdebt⟩ := Work.repay_quiet hquiet
    rw [hposition] at hwallet hdebt
    rw [hkind] at hx
    simp only [candidates, List.mem_cons, List.not_mem_nil, or_false,
      Prod.mk.injEq, Option.some.injEq] at hx
    rcases hx with ⟨rfl, rfl⟩ | ⟨rfl, rfl⟩
    · exact hwallet
    · rw [Word.add_comm] at hdebt
      exact hdebt
  · rename_i hkind
    obtain ⟨hliq, hsupply⟩ := Work.withdraw_quiet hquiet
    rw [hposition] at hsupply
    rw [hkind] at hx
    simp only [candidates, List.mem_cons, List.not_mem_nil, or_false,
      Prod.mk.injEq, Option.some.injEq] at hx
    rcases hx with ⟨rfl, rfl⟩ | ⟨-, rfl⟩ | ⟨rfl, rfl⟩
    · exact hliq
    -- the cap candidate bounds the demoted borrowers, not the amount
    · exact absurd rfl (hwithdraw hkind)
    · rw [Word.add_comm] at hsupply
      exact hsupply
  · rename_i hkind
    obtain ⟨hcollateral, hhead, hliq⟩ := Work.withdrawCollateral_quiet hquiet
    rw [hposition] at hcollateral
    rw [hpv, Option.bind_some] at hhead
    rw [hkind] at hx
    simp only [candidates, List.mem_cons, List.not_mem_nil, or_false,
      Prod.mk.injEq, Option.some.injEq] at hx
    rcases hx with ⟨rfl, rfl⟩ | ⟨hx, rfl⟩ | ⟨rfl, rfl⟩
    · exact hcollateral
    · exact hhead x hx.symm
    · exact hliq
  all_goals
    rename_i hkind
    rw [hkind] at hx
    exact absurd hx List.not_mem_nil

end Perform

/-- On a state of a run from a snapshot whose keys agree, a market operation that has a capacity
and goes through reads what its capacity reads: the step is the work started from the market's
state and configuration, whose position the user's view shows, and the capacity is that of a
zero price or the smallest of the candidates that view offers. -/
theorem Reaches.marketStep {s : Snapshot} {st : SimulatedState} (hkeys : s.KeysAgree)
    (hreach : Reaches s st) {op : Operation} {limit : CapacityLimit} {t : Transition}
    (hclaim : op.kind ≠ .claimRewards) (hwrap : op.kind ≠ .wrap)
    (hcap : st.snapshot.maxCapacity op.market op.kind = .ok (some limit))
    (hstep : applyOperation st op = .ok t) :
    ∃ state config chain p amount,
      st.snapshot.markets.get? op.market = some state ∧
      st.snapshot.configs.get? op.market = some config ∧
      resolveAmount st.snapshot op = .ok amount ∧
      (Work.start st.snapshot state config op.unwrap).position = p ∧
      st.user.position? op.market =
        some (PositionView.of p (MarketView.of state config) (RiskParams.effective state config chain)) ∧
      t = ((Work.start st.snapshot state config op.unwrap).perform st chain op amount).finish
        st.snapshot ∧
      (limit = ⟨0, .zeroPrice⟩ ∨ bindMin (candidates (MarketView.of state config) st.user
        (PositionView.of p (MarketView.of state config) (RiskParams.effective state config chain))
        op.kind) = some limit) := by
  have hkeys' := hreach.keysAgree hkeys
  obtain ⟨-, -, huser⟩ := SimulatedState.derive_ok hreach.derive_eq
  obtain ⟨config, state, chain, p, u, pv, hcfg, hst, hch, hp, hu, hpv, hbind⟩ :=
    Snapshot.maxCapacity_market_cases hclaim hwrap hcap
  obtain ⟨market, config', chain', amount, hm', hc', hch', hres, hpause, rfl⟩ :=
    applyOperation_market_ok hclaim hwrap hstep
  rw [hst, Option.some.injEq] at hm'
  rw [hcfg, Option.some.injEq] at hc'
  rw [hch, Option.some.injEq] at hch'
  rw [hu, Except.ok.injEq] at huser
  subst hm' hc' hch' huser
  have hpv' := Snapshot.position?_eq hkeys' hu hp hst hcfg hch
  rw [hpv, Option.some.injEq] at hpv'
  subst hpv'
  refine ⟨state, config, chain, p, amount, hst, hcfg, hres, ?_, hpv, rfl, ?_⟩
  · -- the work starts from the position stored under the market's own asset
    simp [Work.start, hkeys'.underlying_of_get? hst, hp]
  · -- a paused operation does not go through
    rcases hbind with h | ⟨hstop, -⟩ | ⟨-, h⟩
    · exact Or.inl h
    · rw [hpause] at hstop
      cases hstop
    · exact Or.inr h

/-- On a state of a run from a snapshot whose keys agree, an operation whose amount is within
its capacity (or is the sentinel for it) notes nothing when it goes through, except a supply or a
borrow against a cap the pool already exceeds. -/
theorem capacity_admits_step {s : Snapshot} {st : SimulatedState} (hkeys : s.KeysAgree)
    (hreach : Reaches s st) {op : Operation} {limit : CapacityLimit}
    (hcap : st.snapshot.maxCapacity op.market op.kind = .ok (some limit))
    (hamount : op.amount ≤ limit.value ∨ op.amount = Word.maxValue)
    {t : Transition} (hstep : applyOperation st op = .ok t) :
    ∀ k ∈ t.issues, ∃ state config, st.snapshot.markets.get? op.market = some state ∧
      st.snapshot.configs.get? op.market = some config ∧ CapAlreadyExceeded state config op.kind k := by
  have hle : ∀ amount, resolveAmount st.snapshot op = .ok amount → amount ≤ limit.value :=
    fun _ => resolveAmount_le hcap hamount
  -- claims and wraps are bounded by the user context alone
  by_cases hclaim : op.kind = .claimRewards
  · unfold applyOperation at hstep
    rw [hclaim] at hstep hcap
    simp [claimRewards_within hcap hle hstep]
  by_cases hwrap : op.kind = .wrap
  · unfold applyOperation at hstep
    rw [hwrap] at hstep hcap
    simp [wrapCoin_within hcap hle hstep]
  obtain ⟨state, config, chain, p, amount, hst, hcfg, hres, hposition, hpv, rfl, hbind⟩ :=
    hreach.marketStep hkeys hclaim hwrap hcap hstep
  -- the resolved amount is within the limit, and the limit within every candidate
  have hbound : ∀ x r, (some x, r) ∈ candidates (MarketView.of state config) st.user
      (PositionView.of p (MarketView.of state config) (RiskParams.effective state config chain))
      op.kind → amount ≤ x := by
    intro x r hx
    refine Nat.le_trans (hle amount hres) ?_
    rcases hbind with rfl | hbind
    · exact Nat.zero_le _
    · exact bindMin_le hbind x r hx
  intro k hk
  exact ⟨state, config, hst, hcfg, Work.perform_within hposition hpv hbound k hk⟩

/-- On a state of a run from a snapshot whose keys agree, an operation above its capacity (and
not the sentinel) notes an issue when it goes through, unless the capacity is that of a zero
price, or is a withdrawal's cap candidate, or is a cap's room and the cap check's sum wraps. -/
theorem step_above_capacity_noted {s : Snapshot} {st : SimulatedState} (hkeys : s.KeysAgree)
    (hreach : Reaches s st) {op : Operation} {limit : CapacityLimit}
    (hcap : st.snapshot.maxCapacity op.market op.kind = .ok (some limit))
    (habove : limit.value < op.amount) (hmax : op.amount ≠ Word.maxValue)
    (hprice : limit.reason ≠ .zeroPrice) (hwithdraw : op.kind = .withdraw → limit.reason ≠ .cap)
    (hfit : limit.reason = .cap →
      ∀ state, st.snapshot.markets.get? op.market = some state → CapSumsFit state op.amount)
    {t : Transition} (hstep : applyOperation st op = .ok t) : t.issues ≠ [] := by
  have hres : resolveAmount st.snapshot op = .ok op.amount := resolveAmount_of_ne_max hmax
  intro hquiet
  refine Nat.not_le_of_lt habove ?_
  by_cases hclaim : op.kind = .claimRewards
  · unfold applyOperation at hstep
    rw [hclaim] at hstep hcap
    exact claimRewards_quiet hcap hres hstep hquiet
  by_cases hwrap : op.kind = .wrap
  · unfold applyOperation at hstep
    rw [hwrap] at hstep hcap
    exact wrapCoin_quiet hcap hres hstep hquiet
  obtain ⟨state, config, chain, p, amount, hst, hcfg, hres', hposition, hpv, rfl, hbind⟩ :=
    hreach.marketStep hkeys hclaim hwrap hcap hstep
  rw [hres, Except.ok.injEq] at hres'
  subst hres'
  -- the limit is one of the candidates, and a quiet step is within each
  rcases hbind with rfl | hbind
  · exact absurd rfl hprice
  · exact Work.perform_quiet_within hposition hpv hquiet _ _ (bindMin_mem hbind) hwithdraw
      (fun hr => hfit hr state hst)

/-- The capacity is the threshold a step accepts, on every state of a run from a snapshot whose
keys agree: an amount within it (or the sentinel for it) goes through noting at most a cap the
pool already exceeds, and an amount above it notes an issue, unless the capacity is that of a
zero price, or is a withdrawal's cap candidate, or is a cap's room and the cap check's sum
wraps. -/
theorem capacity_is_step_threshold {s : Snapshot} {st : SimulatedState} (hkeys : s.KeysAgree)
    (hreach : Reaches s st) {op : Operation} {limit : CapacityLimit}
    (hcap : st.snapshot.maxCapacity op.market op.kind = .ok (some limit)) :
    ((op.amount ≤ limit.value ∨ op.amount = Word.maxValue) →
      ∀ t, applyOperation st op = .ok t → ∀ k ∈ t.issues,
        ∃ state config, st.snapshot.markets.get? op.market = some state ∧
          st.snapshot.configs.get? op.market = some config ∧
          CapAlreadyExceeded state config op.kind k) ∧
    (limit.value < op.amount → op.amount ≠ Word.maxValue → limit.reason ≠ .zeroPrice →
      (op.kind = .withdraw → limit.reason ≠ .cap) →
      (limit.reason = .cap →
        ∀ state, st.snapshot.markets.get? op.market = some state → CapSumsFit state op.amount) →
      ∀ t, applyOperation st op = .ok t → t.issues ≠ []) :=
  ⟨fun hamount _ hstep => capacity_admits_step hkeys hreach hcap hamount hstep,
    fun habove hmax hprice hwithdraw hfit _ hstep =>
      step_above_capacity_noted hkeys hreach hcap habove hmax hprice hwithdraw hfit hstep⟩

/-! ## 8. A withdrawal above its capacity that goes through

The user holds 50 of peer-to-peer supply and nothing on the pool, and the pool's debt stands at
its borrow cap of 100. A withdrawal's capacity is then the user's pool supply plus the room under
the cap: nothing. A withdrawal of 10 takes it all from peer-to-peer supply, and the borrowers it
leaves unmatched are matched again with the protocol's 100 of pool supply: none is demoted onto
the pool, and the cap check has nothing to note. -/

/-- The market's asset. -/
def fullCapAsset : Address := Address.ofNat 0xaaaaaaaaaaaaaaaaaaaaaaaaaaaaaaaaaaaaaaaa

/-- A market whose pool debt stands at its borrow cap, and a user whose supply on it is all
peer-to-peer. -/
def fullCapSnapshot : Snapshot where
  chain := some ⟨1, 1000, 200000000000, EMode.none, FeeData.zero⟩
  user := some ⟨Address.ofNat 0x1111111111111111111111111111111111111111, 0, 0, 0⟩
  markets := AddrMap.empty.insert fullCapAsset
    { underlying := fullCapAsset
      scaledPoolSupply := 1000
      scaledPoolBorrow := 100
      scaledProtocolSupplyOnPool := 100
      scaledProtocolBorrowOnPool := 0
      scaledProtocolCollateral := 0
      deltas := ⟨⟨0, 50⟩, ⟨0, 50⟩⟩
      idleSupply := 0
      indexes := ⟨⟨ray, ray⟩, ⟨ray, ray⟩, 1000⟩
      poolReserve := ⟨ray, ray, 0, 0, 1000⟩
      poolLiquidity := 1000
      chainUsdPrice := 100000000 }
  configs := AddrMap.empty.insert fullCapAsset
    { underlying := fullCapAsset
      symbol := "USDC"
      decimals := 6
      collateralFactor := 8500
      borrowableFactor := 8000
      p2pReserveFactor := 0
      p2pIndexCursor := 5000
      supplyCap := 0
      borrowCap := 100
      pause := {}
      eModeCategory := 0
      wrappedNative := false }
  positions := AddrMap.empty.insert fullCapAsset
    { market := fullCapAsset
      scaledCollateral := 0
      scaledSupplyInP2P := 50
      scaledSupplyOnPool := 0
      scaledBorrowInP2P := 0
      scaledBorrowOnPool := 0
      walletBalance := 0
      nonce := 0
      approval := 0
      permit2Approval := 0 }

/-- The withdrawal of 10. -/
def fullCapWithdraw : Operation := ⟨.withdraw, fullCapAsset, 10, false⟩

/-- The withdrawal's capacity: nothing, bound by the cap candidate. -/
def fullCapLimit : CapacityLimit := ⟨0, .cap⟩

theorem withdraw_above_capacity_quiet :
    fullCapSnapshot.userMaxCapacity fullCapAsset .withdraw = .ok (some fullCapLimit) ∧
      (simulate fullCapSnapshot [fullCapWithdraw]).map
        (fun o => (o.steps.length, o.final.isSome, o.issue)) = .ok (1, true, none) :=
  ⟨rfl, rfl⟩

theorem fullCapSnapshot_keysAgree : fullCapSnapshot.KeysAgree := by
  constructor
  · intro e he
    obtain rfl := List.mem_singleton.1 he
    rfl
  · intro e he
    obtain rfl := List.mem_singleton.1 he
    rfl

/-- The withdrawal of 10 meets the threshold's hypotheses on the run's first state. -/
theorem fullCapWithdraw_threshold :
    fullCapSnapshot.KeysAgree ∧ ∃ st, Reaches fullCapSnapshot st ∧
      st.snapshot.maxCapacity fullCapWithdraw.market fullCapWithdraw.kind = .ok (some fullCapLimit) ∧
      ((fullCapWithdraw.amount ≤ fullCapLimit.value ∨ fullCapWithdraw.amount = Word.maxValue) →
        ∀ t, applyOperation st fullCapWithdraw = .ok t → ∀ k ∈ t.issues,
          ∃ state config, st.snapshot.markets.get? fullCapWithdraw.market = some state ∧
            st.snapshot.configs.get? fullCapWithdraw.market = some config ∧
            CapAlreadyExceeded state config fullCapWithdraw.kind k) ∧
      (fullCapLimit.value < fullCapWithdraw.amount → fullCapWithdraw.amount ≠ Word.maxValue →
        fullCapLimit.reason ≠ .zeroPrice →
        (fullCapWithdraw.kind = .withdraw → fullCapLimit.reason ≠ .cap) →
        (fullCapLimit.reason = .cap → ∀ state,
          st.snapshot.markets.get? fullCapWithdraw.market = some state →
            CapSumsFit state fullCapWithdraw.amount) →
        ∀ t, applyOperation st fullCapWithdraw = .ok t → t.issues ≠ []) :=
  ⟨fullCapSnapshot_keysAgree, _, .start rfl rfl, rfl,
    capacity_is_step_threshold fullCapSnapshot_keysAgree (.start rfl rfl) rfl⟩

end PeerLending
