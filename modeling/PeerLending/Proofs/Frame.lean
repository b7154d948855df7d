import PeerLending.Proofs.Run
import PeerLending.Proofs.Ledger

/-!
# What one operation touches

An operation on market `m` reads and writes the market, the position and the user context of
`m`, and nothing else: the chain context, every configuration, every other market and every
other position stay as they were (`Snapshot.ChangesOnly`). No market appears or disappears, and
the only position that can appear is the one of `m`. A claim moves pending rewards to the
rewards balance and touches nothing else; a wrap moves chain coin into the wallet balance of
`m`'s position and touches nothing else.

This holds because a market operation writes its work back under the addresses the work
carries, the market's own asset and the position's own market (`Work.addresses`), and no part
of an operation edits those (`Work.Keeps.addresses`). When the snapshot files every market under its own asset and every
position under its own market (`Snapshot.KeysAgree`), those addresses are `m` itself
(`Work.addresses_start`). When it does not, they need not be: a market filed under `m` whose state
names another asset is written back under that other asset, and the operation changes a market
it does not name (`strayKeys_supply_moves_other_market`).
-/

set_option autoImplicit false

namespace PeerLending

/-! ## 1. The addresses a work is filed under -/

namespace Work

/-- The addresses a work is written back under: its market's asset and its position's market. -/
def addresses (w : Work) : Address × Address := (w.market.underlying, w.position.market)

/-- Every step keeps the addresses its work is written back under. -/
theorem Keeps.addresses {w w' : Work} (h : w.Keeps w') : w'.addresses = w.addresses := by
  simp only [Work.addresses, h.underlying, h.positionMarket]

/-- A work started on a snapshot whose keys agree is filed under the market it was started on. -/
theorem addresses_start {s : Snapshot} (hkeys : s.KeysAgree) {m : Address} {market : MarketState}
    (hm : s.markets.get? m = some market) (config : MarketConfig) (unwrap : Bool) :
    (start s market config unwrap).addresses = (m, m) := by
  have hu : market.underlying = m := hkeys.underlying_of_get? hm
  subst hu
  cases hp : s.positions.get? market.underlying with
  | none => simp [addresses, start, hp, Position.empty]
  | some p =>
    have hpm : p.market = market.underlying := hkeys.market_of_get? hp
    simp [addresses, start, hp, hpm]

end Work

/-! ## 2. Changing one market only -/

/-- `s'` is `s` with at most the market, the position and the user context of `m` changed. -/
structure Snapshot.ChangesOnly (m : Address) (s s' : Snapshot) : Prop where
  chain : s'.chain = s.chain
  configs : s'.configs = s.configs
  markets : ∀ k, k ≠ m → s'.markets.get? k = s.markets.get? k
  positions : ∀ k, k ≠ m → s'.positions.get? k = s.positions.get? k

namespace Snapshot.ChangesOnly

variable {m : Address} {s s' : Snapshot}

/-- The positions `s'` holds are those of `s`, and perhaps one of `m`. -/
theorem positionKeys (h : s.ChangesOnly m s') (k : Address)
    (hk : (s'.positions.get? k).isSome) : (s.positions.get? k).isSome ∨ k = m := by
  by_cases hkm : k = m
  · exact .inr hkm
  · rw [h.positions k hkm] at hk
    exact .inl hk

/-- A change of the user context alone. -/
theorem ofUser (user : Option Account) : s.ChangesOnly m { s with user := user } :=
  ⟨rfl, rfl, fun _ _ => rfl, fun _ _ => rfl⟩

/-- Writing back a work filed under `m`. -/
theorem finish (w : Work) (hw : w.addresses = (m, m)) : s.ChangesOnly m (w.finish s).snapshot := by
  have hu : w.market.underlying = m := congrArg Prod.fst hw
  have hp : w.position.market = m := congrArg Prod.snd hw
  refine ⟨rfl, rfl, ?_, ?_⟩
  · intro k hk
    simp only [Work.finish, AddrMap.get?_insert, hu, if_neg hk]
  · intro k hk
    simp only [Work.finish, AddrMap.get?_insert, hp, if_neg hk]

end Snapshot.ChangesOnly

/-- Writing back a work filed under a market the snapshot holds keeps the set of markets. -/
theorem Work.finish_marketKeys {s : Snapshot} {w : Work} (hw : (s.markets.get? w.market.underlying).isSome)
    (k : Address) :
    ((w.finish s).snapshot.markets.get? k).isSome = (s.markets.get? k).isSome := by
  simp only [Work.finish, AddrMap.get?_insert]
  split
  · rename_i hk
    rw [hk, hw]
    rfl
  · rfl

/-! ## 3. What each operation changes -/

/-- A claim only moves an amount from the pending rewards to the rewards balance. -/
def ClaimsOnly (s s' : Snapshot) : Prop :=
  ∃ u, s.user = some u ∧ ∃ claimable rewards,
    s' = { s with user := some { u with claimableRewards := claimable, rewardsBalance := rewards } }

/-- A wrap only moves chain coin into the wallet balance of the position of `m`, which it
creates if the user has none there. -/
def WrapsOnly (m : Address) (s s' : Snapshot) : Prop :=
  ∃ u, s.user = some u ∧ ∃ native wallet,
    s' = { s with
      user := some { u with nativeBalance := native }
      positions := s.positions.insert m
        { (s.positions.get? m).getD (Position.empty m) with walletBalance := wallet } }

theorem claimRewards_claimsOnly {s : Snapshot} {op : Operation} {t : Transition}
    (h : claimRewards s op = .ok t) : ClaimsOnly s t.snapshot := by
  unfold claimRewards at h
  split at h
  · cases h
  · rename_i u hu
    cases hr : resolveAmount s op with
    | error e =>
      rw [hr] at h
      cases h
    | ok amount =>
      rw [hr] at h
      cases h
      exact ⟨u, hu, _, _, rfl⟩

theorem wrapCoin_wrapsOnly {s : Snapshot} {op : Operation} {t : Transition}
    (h : wrapCoin s op = .ok t) : WrapsOnly op.market s t.snapshot := by
  unfold wrapCoin at h
  repeat' split at h
  all_goals try cases h
  rename_i u hu
  cases hr : resolveAmount s op with
  | error e =>
    rw [hr] at h
    cases h
  | ok amount =>
    rw [hr] at h
    cases h
    exact ⟨u, hu, _, _, rfl⟩

theorem ClaimsOnly.changesOnly {s s' : Snapshot} (h : ClaimsOnly s s') (m : Address) :
    s.ChangesOnly m s' := by
  obtain ⟨_, _, _, _, rfl⟩ := h
  exact .ofUser _

theorem WrapsOnly.changesOnly {m : Address} {s s' : Snapshot} (h : WrapsOnly m s s') :
    s.ChangesOnly m s' := by
  obtain ⟨_, _, _, _, rfl⟩ := h
  refine ⟨rfl, rfl, fun _ _ => rfl, ?_⟩
  intro k hk
  simp only [AddrMap.get?_insert, if_neg hk]

/-- Every operation, on a snapshot whose keys agree, changes only its own market, its own
position and the user context; no market appears or disappears, and only the position of the
operation's market can appear. A claim changes only the pending rewards and the rewards balance,
a wrap only the chain-coin balance and the wallet balance of the market's position. The keys of
the successor agree again. -/
theorem applyOperation_changesOnly {st : SimulatedState} {op : Operation} {t : Transition}
    (hkeys : st.snapshot.KeysAgree) (h : applyOperation st op = .ok t) :
    st.snapshot.ChangesOnly op.market t.snapshot ∧
      (∀ k, (t.snapshot.markets.get? k).isSome = (st.snapshot.markets.get? k).isSome) ∧
      (∀ k, (t.snapshot.positions.get? k).isSome → (st.snapshot.positions.get? k).isSome ∨
        k = op.market) ∧
      (op.kind = .claimRewards → ClaimsOnly st.snapshot t.snapshot) ∧
      (op.kind = .wrap → WrapsOnly op.market st.snapshot t.snapshot) ∧
      t.snapshot.KeysAgree := by
  have hagree := hkeys.applyOperation rfl h
  by_cases hc : op.kind = .claimRewards
  · have hclaim : ClaimsOnly st.snapshot t.snapshot := by
      unfold applyOperation at h
      rw [hc] at h
      exact claimRewards_claimsOnly h
    have hch := hclaim.changesOnly op.market
    obtain ⟨_, _, _, _, hs⟩ := id hclaim
    refine ⟨hch, fun k => by rw [hs], hch.positionKeys, fun _ => ?_, fun hw => ?_, hagree⟩
    · exact hclaim
    · rw [hc] at hw
      cases hw
  by_cases hw : op.kind = .wrap
  · have hwrap : WrapsOnly op.market st.snapshot t.snapshot := by
      unfold applyOperation at h
      rw [hw] at h
      exact wrapCoin_wrapsOnly h
    have hch := hwrap.changesOnly
    obtain ⟨_, _, _, _, hs⟩ := id hwrap
    refine ⟨hch, fun k => by rw [hs], hch.positionKeys, fun hc' => ?_, fun _ => hwrap, hagree⟩
    rw [hw] at hc'
    cases hc'
  -- a market operation writes its work back under the market it names
  obtain ⟨market, config, chain, amount, hm, -, -, -, -, rfl⟩ :=
    applyOperation_market_ok hc hw h
  have hwork := (Work.addresses_start hkeys hm config op.unwrap).symm ▸
    (Work.keeps_perform (Work.start st.snapshot market config op.unwrap) amount st chain op).addresses
  have hch := @Snapshot.ChangesOnly.finish op.market st.snapshot _ hwork
  have hu : ((Work.start st.snapshot market config op.unwrap).perform st chain op amount).market.underlying =
      op.market := congrArg Prod.fst hwork
  have hheld : (st.snapshot.markets.get? ((Work.start st.snapshot market config op.unwrap).perform
      st chain op amount).market.underlying).isSome := by
    rw [hu, hm]
    rfl
  exact ⟨hch, Work.finish_marketKeys hheld, hch.positionKeys, fun h' => absurd h' hc,
    fun h' => absurd h' hw, hagree⟩

/-! ## 4. Keys that do not agree

Two markets are filed under two assets, and the state filed under the first names the second.
A supply on the first market works on that state and writes it back under the second asset:
the market the operation names stays as it was, and the other one is replaced. -/

/-- The asset the supply names. -/
def strayKeysAsset : Address := Address.ofNat 0xaaaaaaaaaaaaaaaaaaaaaaaaaaaaaaaaaaaaaaaa

/-- The asset the state filed under `strayKeysAsset` names. -/
def strayKeysOther : Address := Address.ofNat 0xbbbbbbbbbbbbbbbbbbbbbbbbbbbbbbbbbbbbbbbb

/-- A market state of `asset` with a pool supply of `supply`. -/
def strayKeysState (asset : Address) (supply : Word) : MarketState where
  underlying := asset
  scaledPoolSupply := supply
  scaledPoolBorrow := 0
  scaledProtocolSupplyOnPool := 0
  scaledProtocolBorrowOnPool := 0
  scaledProtocolCollateral := 0
  deltas := default
  idleSupply := 0
  indexes := ⟨⟨ray, ray⟩, ⟨ray, ray⟩, 1000⟩
  poolReserve := ⟨ray, ray, 0, 0, 1000⟩
  poolLiquidity := 0
  chainUsdPrice := 100000000

/-- A configuration filed under `asset`. -/
def strayKeysConfig (asset : Address) : MarketConfig where
  underlying := asset
  symbol := "USDC"
  decimals := 6
  collateralFactor := 8500
  borrowableFactor := 8000
  p2pReserveFactor := 0
  p2pIndexCursor := 5000
  supplyCap := 0
  borrowCap := 0
  pause := {}
  eModeCategory := 0
  wrappedNative := false

/-- Both markets name `strayKeysOther`, with pool supplies of 1000 and 2000. -/
def strayKeysSnapshot : Snapshot where
  chain := some ⟨1, 1000, 200000000000, EMode.none, FeeData.zero⟩
  user := some ⟨Address.ofNat 0x1111111111111111111111111111111111111111, 0, 0, 0⟩
  markets := (AddrMap.empty.insert strayKeysAsset (strayKeysState strayKeysOther 1000)).insert
    strayKeysOther (strayKeysState strayKeysOther 2000)
  configs := (AddrMap.empty.insert strayKeysAsset (strayKeysConfig strayKeysAsset)).insert
    strayKeysOther (strayKeysConfig strayKeysOther)
  positions := AddrMap.empty

/-- A supply of nothing on `strayKeysAsset`. -/
def strayKeysSupply : Operation := ⟨.supply, strayKeysAsset, 0, false⟩

theorem strayKeys_supply_moves_other_market :
    ∃ st t, Reaches strayKeysSnapshot st ∧ applyOperation st strayKeysSupply = .ok t ∧
      ¬ st.snapshot.ChangesOnly strayKeysSupply.market t.snapshot :=
  ⟨_, _, .start rfl rfl, rfl, fun h => absurd (h.markets strayKeysOther (by decide)) (by decide)⟩

/-- The same two markets, each filed under its own asset. -/
def agreeingKeysSnapshot : Snapshot :=
  { strayKeysSnapshot with
    markets := (AddrMap.empty.insert strayKeysAsset (strayKeysState strayKeysAsset 1000)).insert
      strayKeysOther (strayKeysState strayKeysOther 2000) }

theorem agreeingKeysSnapshot_keysAgree : agreeingKeysSnapshot.KeysAgree := by
  constructor <;> decide

/-- Filed under their own assets, the supply changes its own market only. -/
theorem agreeingKeys_supply_changesOnly :
    ∃ st t, Reaches agreeingKeysSnapshot st ∧ st.snapshot.KeysAgree ∧
      applyOperation st strayKeysSupply = .ok t ∧
      st.snapshot.ChangesOnly strayKeysSupply.market t.snapshot ∧
      (∀ k, (t.snapshot.markets.get? k).isSome = (st.snapshot.markets.get? k).isSome) ∧
      (∀ k, (t.snapshot.positions.get? k).isSome → (st.snapshot.positions.get? k).isSome ∨
        k = strayKeysSupply.market) ∧
      (strayKeysSupply.kind = .claimRewards → ClaimsOnly st.snapshot t.snapshot) ∧
      (strayKeysSupply.kind = .wrap → WrapsOnly strayKeysSupply.market st.snapshot t.snapshot) ∧
      t.snapshot.KeysAgree := by
  have hreach : Reaches agreeingKeysSnapshot _ := .start rfl rfl
  have hkeys := hreach.keysAgree agreeingKeysSnapshot_keysAgree
  exact ⟨_, _, hreach, hkeys, rfl, applyOperation_changesOnly hkeys rfl⟩

end PeerLending
