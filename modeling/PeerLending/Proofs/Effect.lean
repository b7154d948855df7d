import PeerLending.Proofs.Twin
import PeerLending.Proofs.Frame
import PeerLending.Proofs.Capacity
import PeerLending.Lib.List

/-!
# Each operation is an effect on the snapshot

On a state whose keys agree, each operation acts as a fixed function of the snapshot, an
`Effect`: a market operation writes its market and its position back and pays out the coin it
unwraps, a claim moves claimable rewards to the rewards balance, a wrap turns coin into wallet
tokens. On every other sound state that agrees with the first on what the operation reads
(`Snapshot.Agree`) it blocks as well, or applies the same effect (`transports`). Effects on
different markets commute when neither takes the coin the other pays (`Effect.apply_comm`), and
after an operation goes through, the views of the snapshot it leaves can only fail to derive by
overflow (`derive_after`).
-/

set_option autoImplicit false

namespace PeerLending

/-! ## 1. What an operation does to a snapshot -/

namespace Word

theorem add_right_comm (a b c : Word) : a + b + c = a + c + b := by
  apply ext
  simp only [val_add, Nat.mod_add_mod, Nat.add_right_comm]

theorem satSub_right_comm (a b c : Word) : (a.satSub b).satSub c = (a.satSub c).satSub b := by
  apply ext
  simp only [val_satSub, Nat.sub_right_comm]

end Word

namespace AddrMap

variable {α : Type}

/-- Inserting under two different keys gives the same entries in either order, whatever the
order of the entries inserted into. -/
theorem insertEntry_comm {k k' : Address} (hk : k.val ≠ k'.val) (v v' : α) :
    ∀ l : List (Address × α),
      insertEntry k v (insertEntry k' v' l) = insertEntry k' v' (insertEntry k v l)
  | [] => by
    by_cases h : k.val < k'.val
    · have h' : ¬k'.val < k.val := Nat.lt_asymm h
      simp [insertEntry, h, h', Ne.symm hk]
    · have h' : k'.val < k.val := by omega
      simp [insertEntry, h, h', hk]
  | (j, x) :: rest => by
    have ih := insertEntry_comm hk v v' rest
    -- the two keys and the first key of the list, in every order
    rcases Nat.lt_trichotomy k.val j.val with h1 | h1 | h1 <;>
      rcases Nat.lt_trichotomy k'.val j.val with h2 | h2 | h2 <;>
      rcases Nat.lt_trichotomy k.val k'.val with h3 | h3 | h3 <;>
      simp [insertEntry, h1, h2, h3, Nat.lt_asymm, Nat.ne_of_gt, ih] <;>
      omega

theorem insert_comm (m : AddrMap α) {k k' : Address} (hk : k ≠ k') (v v' : α) :
    (m.insert k' v').insert k v = (m.insert k v).insert k' v' := by
  have hval : k.val ≠ k'.val := fun h => hk (by cases k; cases k'; simp_all)
  exact ext (insertEntry_comm hval v v' m.entries)

end AddrMap

/-- The part of its pending rewards a claim takes: what it asks for (all of them for the
sentinel amount), at most all there are. -/
def claimAmount (op : Operation) (claimable : Word) : Word :=
  let requested := if op.isMax then claimable else op.amount
  if claimable < requested then claimable else requested

theorem val_claimAmount (op : Operation) (c : Word) :
    (claimAmount op c).val = if op.isMax then c.val else min c.val op.amount.val := by
  unfold claimAmount
  cases op.isMax
  · simp only [Bool.false_eq_true, if_false, Word.lt_iff_val_lt]
    split <;> omega
  · simp [Word.lt_iff_val_lt]

theorem claimAmount_le (op : Operation) (c : Word) : claimAmount op c ≤ c := by
  rw [Word.le_iff_val_le, val_claimAmount]
  split <;> omega

/-- Two claims take the same total in either order. -/
theorem claimAmount_total (op op' : Operation) (c : Word) :
    (claimAmount op c).val + (claimAmount op' (c - claimAmount op c)).val =
      (claimAmount op' c).val + (claimAmount op (c - claimAmount op' c)).val := by
  simp only [val_claimAmount, Word.val_sub_of_le (claimAmount_le _ _)]
  split <;> split <;> omega

namespace Account

/-- A claim on an account: the amount it takes moves from the pending rewards to the rewards
balance. -/
def claim (op : Operation) (x : Account) : Account :=
  let amount := claimAmount op x.claimableRewards
  { x with
    claimableRewards := x.claimableRewards - amount
    rewardsBalance := x.rewardsBalance + amount }

/-- Takes `amount` of the chain's coin, stopping at zero. -/
def spendNative (amount : Word) (x : Account) : Account :=
  { x with nativeBalance := zeroFloorSub x.nativeBalance amount }

/-- Two claims in either order leave the same pending rewards and rewards balance. -/
theorem claim_comm (op op' : Operation) (x : Account) :
    (x.claim op').claim op = (x.claim op).claim op' := by
  have htotal := claimAmount_total op op' x.claimableRewards
  have h1 := claimAmount_le op x.claimableRewards
  have h2 := claimAmount_le op' x.claimableRewards
  have h3 := claimAmount_le op (x.claimableRewards - claimAmount op' x.claimableRewards)
  have h4 := claimAmount_le op' (x.claimableRewards - claimAmount op x.claimableRewards)
  simp only [claim, Account.mk.injEq, true_and]
  constructor
  · apply Word.ext
    rw [Word.val_sub_of_le h3, Word.val_sub_of_le h2, Word.val_sub_of_le h4, Word.val_sub_of_le h1]
    omega
  · apply Word.ext
    simp only [Word.val_add, Nat.mod_add_mod, Nat.add_assoc]
    rw [← htotal]


theorem spendNative_comm (a a' : Word) (x : Account) :
    (x.spendNative a').spendNative a = (x.spendNative a).spendNative a' := by
  simp only [spendNative, zeroFloorSub, Word.satSub_right_comm]

end Account

theorem creditNative_comm (paid paid' : Bool) (a a' : Word) (u : Option Account) :
    creditNative paid a (creditNative paid' a' u) = creditNative paid' a' (creditNative paid a u) := by
  cases paid <;> cases paid' <;> cases u <;> simp [creditNative, Word.add_right_comm]

/-- A payout and a claim touch different balances of the user context. -/
theorem creditNative_claim (paid : Bool) (a : Word) (op : Operation) (u : Option Account) :
    creditNative paid a (u.map (Account.claim op)) = (creditNative paid a u).map (Account.claim op) := by
  cases paid <;> cases u <;> rfl

/-- What one operation does to the snapshot it is applied to, as a function of that snapshot. -/
inductive Effect where
  /-- A market operation on `m`: the market and the position it leaves, and the coin it pays to
  the user context when `paid`. -/
  | market (m : Address) (state : MarketState) (position : Position) (paid : Bool) (amount : Word)
  | claim (op : Operation)
  /-- A wrap of `amount` of the chain's coin into the wallet balance on `m`. -/
  | wrap (m : Address) (amount : Word)

namespace Effect

def apply : Effect → Snapshot → Snapshot
  | .market m state position paid amount, s =>
    { s with
      user := creditNative paid amount s.user
      positions := s.positions.insert m position
      markets := s.markets.insert m state }
  | .claim op, s => { s with user := s.user.map (Account.claim op) }
  | .wrap m amount, s =>
    let position := (s.positions.get? m).getD (Position.empty m)
    { s with
      user := s.user.map (Account.spendNative amount)
      positions := s.positions.insert m { position with walletBalance := position.walletBalance + amount } }

/-- The market whose state or position the effect writes. -/
def writes : Effect → Option Address
  | .market m .. => some m
  | .claim _ => none
  | .wrap m _ => some m

/-- Whether the effect pays the chain's coin to the user context. -/
def pays : Effect → Bool
  | .market _ _ _ paid _ => paid
  | _ => false

/-- Whether the effect takes the chain's coin from the user context. -/
def spends : Effect → Bool
  | .wrap .. => true
  | _ => false

/-- Two effects that write different markets, and of which none spends the coin the other
pays. -/
structure Separate (e e' : Effect) : Prop where
  writes : ∀ m, e.writes = some m → e'.writes ≠ some m
  pays : e.pays = true → e'.spends = false
  spends : e.spends = true → e'.pays = false

theorem Separate.symm {e e' : Effect} (h : e.Separate e') : e'.Separate e := by
  refine ⟨fun m hm he => h.writes m he hm, fun hp => ?_, fun hs => ?_⟩
  · cases hs : e.spends
    · rfl
    · simp [h.spends hs] at hp
  · cases hp : e.pays
    · rfl
    · simp [h.pays hp] at hs

/-- Separate effects commute. -/
theorem apply_comm {e e' : Effect} (h : e.Separate e') (s : Snapshot) :
    e.apply (e'.apply s) = e'.apply (e.apply s) := by
  cases e with
  | market m state position paid amount =>
    cases e' with
    | market m' state' position' paid' amount' =>
      have hm : m ≠ m' := fun hmm => h.writes m rfl (by rw [hmm]; rfl)
      simp only [apply, creditNative_comm, AddrMap.insert_comm _ hm]
    | claim op => simp only [apply, creditNative_claim]
    | wrap m' amount' =>
      have hm : m ≠ m' := fun hmm => h.writes m rfl (by rw [hmm]; rfl)
      have hpaid : paid = false := Bool.eq_false_iff.2 fun hp => Bool.noConfusion (h.pays hp)
      subst hpaid
      simp only [apply, creditNative_false, AddrMap.get?_insert, if_neg (Ne.symm hm),
        AddrMap.insert_comm _ hm]
  | claim op =>
    cases e' with
    | market m' state' position' paid' amount' => simp only [apply, creditNative_claim]
    | claim op' =>
      simp only [apply, Option.map_map]
      congr 2
      funext x
      exact Account.claim_comm op op' x
    | wrap m' amount' =>
      simp only [apply, Option.map_map]
      rfl
  | wrap m amount =>
    cases e' with
    | market m' state' position' paid' amount' =>
      have hm : m ≠ m' := fun hmm => h.writes m rfl (by rw [hmm]; rfl)
      have hpaid : paid' = false := h.spends rfl
      subst hpaid
      simp only [apply, creditNative_false, AddrMap.get?_insert, if_neg hm,
        AddrMap.insert_comm _ hm]
    | claim op' =>
      simp only [apply, Option.map_map]
      rfl
    | wrap m' amount' =>
      have hm : m ≠ m' := fun hmm => h.writes m rfl (by rw [hmm]; rfl)
      simp only [apply, Option.map_map, AddrMap.get?_insert, if_neg hm, if_neg (Ne.symm hm),
        AddrMap.insert_comm _ hm]
      congr 2
      funext x
      exact Account.spendNative_comm amount amount' x

end Effect

/-! ## 2. Each operation is its effect on every state that agrees on what it reads -/

/-- `s'` agrees with `s` on what the operation reads: the chain context, the configurations,
whether there is a user context and, unless the operation is a claim, the market and the
position it names. -/
structure Snapshot.Agree (op : Operation) (s s' : Snapshot) : Prop where
  chain : s'.chain = s.chain
  configs : s'.configs = s.configs
  present : s'.user.isSome = s.user.isSome
  market : op.kind ≠ .claimRewards → s'.markets.get? op.market = s.markets.get? op.market
  position : op.kind ≠ .claimRewards → s'.positions.get? op.market = s.positions.get? op.market

theorem Snapshot.Agree.symm {op : Operation} {s s' : Snapshot} (h : s.Agree op s') : s'.Agree op s :=
  ⟨h.chain.symm, h.configs.symm, h.present.symm, fun hc => (h.market hc).symm,
    fun hc => (h.position hc).symm⟩

namespace Effect

/-- An effect leaves what an operation reads when it writes another market, or when the
operation is a claim. -/
theorem agree (e : Effect) {op : Operation} (h : op.kind = .claimRewards ∨ e.writes ≠ some op.market)
    (s : Snapshot) : s.Agree op (e.apply s) := by
  have hother : op.kind ≠ .claimRewards → ∀ m, e.writes = some m → op.market ≠ m :=
    fun hc m hm hom => (h.resolve_left hc) (hom ▸ hm)
  cases e with
  | market m state position paid amount =>
    refine ⟨rfl, rfl, isSome_creditNative .., fun hc => ?_, fun hc => ?_⟩
    · simp only [apply, AddrMap.get?_insert, if_neg (hother hc m rfl)]
    · simp only [apply, AddrMap.get?_insert, if_neg (hother hc m rfl)]
  | claim op' =>
    exact ⟨rfl, rfl, by simp [apply], fun _ => rfl, fun _ => rfl⟩
  | wrap m amount =>
    refine ⟨rfl, rfl, by simp [apply], fun _ => rfl, fun hc => ?_⟩
    simp only [apply, AddrMap.get?_insert, if_neg (hother hc m rfl)]

/-- The effects an operation can have: a market operation's on its own market, paying out when
it unwraps; a claim's; a wrap's of its own amount on its own market. -/
def Of (op : Operation) : Effect → Prop
  | .market m _ _ paid _ =>
    m = op.market ∧ paid = (op.unwrap && op.kind.supportsUnwrap) ∧ op.kind ≠ .claimRewards ∧
      op.kind ≠ .wrap
  | .claim op' => op' = op ∧ op.kind = .claimRewards
  | .wrap m amount => m = op.market ∧ amount = op.amount ∧ op.kind = .wrap

end Effect

/-- A state a run applies operations to: its views are those its snapshot derives, and its keys
agree. -/
structure SimulatedState.Sound (st : SimulatedState) : Prop where
  derive : SimulatedState.derive st.snapshot = .ok st
  keys : st.snapshot.KeysAgree

theorem Reaches.sound {s : Snapshot} {st : SimulatedState} (hkeys : s.KeysAgree) (h : Reaches s st) :
    st.Sound :=
  ⟨h.derive_eq, h.keysAgree hkeys⟩

/-- What an operation does on a state, carried over to any state that agrees with it on what
the operation reads: it blocks on both or goes through on both, as one effect. -/
def Transports (op : Operation) (st st' : SimulatedState) : Prop :=
  (∀ k, applyOperation st op = .error (.blocked k) → ∃ k', applyOperation st' op = .error (.blocked k')) ∧
    ∀ t, applyOperation st op = .ok t → ∃ e : Effect, e.Of op ∧ t.snapshot = e.apply st.snapshot ∧
      ∃ t', applyOperation st' op = .ok t' ∧ t'.snapshot = e.apply st'.snapshot

/-! ### Claims -/

section Claims

variable {op : Operation} {s : Snapshot}

theorem resolveAmount_claim (hc : op.kind = .claimRewards) {x : Account} (hu : s.user = some x) :
    resolveAmount s op = .ok (if op.isMax then x.claimableRewards else op.amount) := by
  unfold resolveAmount Snapshot.maxCapacity
  rw [hc, hu]
  split <;> rfl

theorem claimRewards_some (hc : op.kind = .claimRewards) {x : Account} (hu : s.user = some x) :
    ∃ t, claimRewards s op = .ok t ∧ t.snapshot = (Effect.claim op).apply s := by
  unfold claimRewards
  rw [hu]
  simp only [resolveAmount_claim hc hu, bind, Except.bind, pure, Except.pure]
  exact ⟨_, rfl, by simp only [Effect.apply, hu, Option.map_some, Account.claim, claimAmount,
    decide_eq_true_eq]⟩

theorem claimRewards_none (hu : s.user = none) : claimRewards s op = .error (.blocked .missingData) := by
  unfold claimRewards
  rw [hu]

theorem transports_claim (hc : op.kind = .claimRewards) {st st' : SimulatedState}
    (hag : st.snapshot.Agree op st'.snapshot) : Transports op st st' := by
  have happ : ∀ st : SimulatedState, applyOperation st op = claimRewards st.snapshot op := by
    intro st
    unfold applyOperation
    rw [hc]
  refine ⟨fun k h => ?_, fun t h => ?_⟩
  · rw [happ] at h ⊢
    cases hu : st.snapshot.user with
    | none =>
      have hu' : st'.snapshot.user = none := by
        simpa [hu] using hag.present
      exact ⟨_, claimRewards_none hu'⟩
    | some x =>
      obtain ⟨t, ht, -⟩ := claimRewards_some hc hu
      rw [ht] at h
      cases h
  · rw [happ] at h ⊢
    cases hu : st.snapshot.user with
    | none =>
      rw [claimRewards_none hu] at h
      cases h
    | some x =>
      obtain ⟨t₁, ht₁, he⟩ := claimRewards_some hc hu
      rw [ht₁] at h
      cases h
      obtain ⟨x', hu'⟩ := Option.isSome_iff_exists.1 (by rw [hag.present, hu]; rfl)
      exact ⟨.claim op, ⟨rfl, hc⟩, he, claimRewards_some hc hu'⟩

end Claims

/-! ### Wraps -/

section Wraps

variable {op : Operation} {s : Snapshot}

/-- What a wrap needs: a configuration that wraps the chain's coin, the market, and a user
context. -/
def WrapReady (op : Operation) (s : Snapshot) : Prop :=
  (∃ config, s.configs.get? op.market = some config ∧ config.wrappedNative = true) ∧
    s.markets.contains op.market = true ∧ s.user.isSome = true

theorem wrapCoin_ready (hnm : op.isMax = false) (h : WrapReady op s) :
    ∃ t, wrapCoin s op = .ok t ∧ t.snapshot = (Effect.wrap op.market op.amount).apply s := by
  obtain ⟨⟨config, hcfg, hwrap⟩, hmkt, hu⟩ := h
  obtain ⟨x, hx⟩ := Option.isSome_iff_exists.1 hu
  unfold wrapCoin
  simp only [hcfg, hmkt, hwrap, hx, Bool.not_true, Bool.false_eq_true, if_false]
  unfold resolveAmount
  simp only [hnm, Bool.false_eq_true, if_false, bind, Except.bind, pure, Except.pure]
  exact ⟨_, rfl, by simp only [Effect.apply, hx, Option.map_some, Account.spendNative]⟩

theorem wrapCoin_blocked (h : ¬WrapReady op s) : ∃ k, wrapCoin s op = .error (.blocked k) := by
  unfold wrapCoin
  split
  · exact ⟨_, rfl⟩
  · rename_i config hcfg
    split
    · exact ⟨_, rfl⟩
    · rename_i hmkt
      split
      · exact ⟨_, rfl⟩
      · rename_i hwrap
        split
        · exact ⟨_, rfl⟩
        · rename_i x hx
          simp only [Bool.not_eq_true', Bool.not_eq_false] at hmkt hwrap
          exact absurd ⟨⟨config, hcfg, hwrap⟩, hmkt, by rw [hx]; rfl⟩ h

theorem WrapReady.agree {s' : Snapshot} (hk : op.kind = .wrap) (hag : s.Agree op s') :
    WrapReady op s' ↔ WrapReady op s := by
  have hc : op.kind ≠ .claimRewards := by rw [hk]; decide
  unfold WrapReady AddrMap.contains
  rw [hag.configs, hag.market hc, hag.present]

theorem transports_wrap (hk : op.kind = .wrap) (hnm : op.isMax = false) {st st' : SimulatedState}
    (hag : st.snapshot.Agree op st'.snapshot) : Transports op st st' := by
  have happ : ∀ st : SimulatedState, applyOperation st op = wrapCoin st.snapshot op := by
    intro st
    unfold applyOperation
    rw [hk]
  have hready := WrapReady.agree hk hag
  refine ⟨fun k h => ?_, fun t h => ?_⟩
  · rw [happ] at h ⊢
    by_cases hr : WrapReady op st.snapshot
    · obtain ⟨t, ht, -⟩ := wrapCoin_ready hnm hr
      rw [ht] at h
      cases h
    · exact wrapCoin_blocked (mt hready.1 hr)
  · rw [happ] at h ⊢
    by_cases hr : WrapReady op st.snapshot
    · obtain ⟨t₁, ht₁, he⟩ := wrapCoin_ready hnm hr
      rw [ht₁] at h
      cases h
      exact ⟨.wrap op.market op.amount, ⟨rfl, rfl, hk⟩, he, wrapCoin_ready hnm (hready.2 hr)⟩
    · obtain ⟨k, hb⟩ := wrapCoin_blocked hr
      rw [hb] at h
      cases h

end Wraps

/-! ### Market operations -/

section Markets

variable {op : Operation}

/-- The checks a market operation passes before its work, in order: the market and its
configuration are known, so is the chain context, the amount resolves, and the operation is
neither disabled nor paused nor an unwrap the market or a missing user context refuses. -/
def marketChecks (op : Operation) (s : Snapshot) :
    Except StepFailure (MarketState × MarketConfig × ChainContext × Word) :=
  match s.markets.get? op.market, s.configs.get? op.market with
  | some market, some config =>
    match s.chain with
    | none => .error (.blocked .missingData)
    | some chain => do
      let amount ← resolveAmount s op
      if config.pause.deprecated && op.kind.opensExposure then .error (.blocked .operationDisabled)
      else if config.pause.stops op.kind then .error (.blocked .operationPaused)
      else if op.unwrap && (!op.kind.supportsUnwrap || !config.wrappedNative) then
        .error (.blocked .operationDisabled)
      else if op.unwrap && s.user.isNone then .error (.blocked .missingData)
      else return (market, config, chain, amount)
  | _, _ => .error (.blocked .unknownMarket)

/-- A market operation is its checks, then its work written back. -/
theorem applyOperation_market (hc : op.kind ≠ .claimRewards) (hw : op.kind ≠ .wrap)
    (st : SimulatedState) :
    applyOperation st op = (marketChecks op st.snapshot).map fun (market, config, chain, amount) =>
      ((Work.start st.snapshot market config op.unwrap).perform st chain op amount).finish
        st.snapshot := by
  unfold applyOperation marketChecks
  split
  · contradiction
  · contradiction
  · dsimp only
    cases st.snapshot.markets.get? op.market with
    | none => rfl
    | some market =>
      cases st.snapshot.configs.get? op.market with
      | none => rfl
      | some config =>
        cases st.snapshot.chain with
        | none => rfl
        | some chain =>
          cases resolveAmount st.snapshot op with
          | error e => rfl
          | ok amount =>
            simp only [bind, Except.bind, apply_ite (Except.map _)]
            rfl

theorem marketChecks_market {s : Snapshot} {market : MarketState} {config : MarketConfig}
    {chain : ChainContext} {amount : Word} (h : marketChecks op s = .ok (market, config, chain, amount)) :
    s.markets.get? op.market = some market := by
  unfold marketChecks at h
  split at h
  · rename_i market' config' hm _
    split at h
    · cases h
    · cases hr : resolveAmount s op with
      | error e =>
        rw [hr] at h
        cases h
      | ok a =>
        rw [hr] at h
        simp only [bind, Except.bind] at h
        repeat' split at h
        all_goals cases h
        exact hm
  · cases h

/-- Checks that read the same market, configuration, chain context, user presence and amount
decide alike. -/
theorem marketChecks_agree (hc : op.kind ≠ .claimRewards) {s s' : Snapshot} (hag : s.Agree op s')
    (hres : resolveAmount s' op = resolveAmount s op) : marketChecks op s' = marketChecks op s := by
  have hnone : s'.user.isNone = s.user.isNone := by
    have hp := hag.present
    cases h1 : s'.user <;> cases h2 : s.user <;> simp_all
  unfold marketChecks
  rw [hag.market hc, hag.configs, hag.chain, hres, hnone]

end Markets

/-! ### The amount a market operation resolves -/

section Capacity

variable {s : Snapshot} {m : Address} {kind : OperationKind}

theorem candidates_user (hb : kind ≠ .borrow) (hwc : kind ≠ .withdrawCollateral) (market : MarketView)
    (u u' : UserView) (position : PositionView) :
    candidates market u position kind = candidates market u' position kind := by
  cases kind <;> simp_all [candidates]

theorem marketView_of {state : MarketState} {config : MarketConfig}
    (hm : s.markets.get? m = some state) (hc : s.configs.get? m = some config) :
    s.marketView m = .ok (MarketView.of state config) := by
  unfold Snapshot.marketView
  rw [hm, hc]

/-- On a snapshot whose keys agree and whose user view derives, the capacity of a market
operation reads the market, its configuration, the chain context and the position, and the user
view only through its candidates. -/
theorem maxCapacity_local (hkeys : s.KeysAgree) {u : UserView} (hu : s.currentUserView = .ok u)
    (hc : kind ≠ .claimRewards) (hw : kind ≠ .wrap) :
    s.maxCapacity m kind =
      match s.configs.get? m, s.markets.get? m, s.chain, s.positions.get? m with
      | some config, some state, some chain, some p =>
        let pv := PositionView.of p (MarketView.of state config) (RiskParams.effective state config chain)
        if pv.usdPrice.val = 0 then .ok (some ⟨0, .zeroPrice⟩)
        else if config.pause.stops kind then .ok (some ⟨0, .operationPaused⟩)
        else (marketCapacity (MarketView.of state config) u pv kind).map some
      | _, _, _, _ => .ok none := by
  unfold Snapshot.maxCapacity
  split
  · contradiction
  · contradiction
  -- both sides read the same four entries; take them one at a time
  cases hcfg : s.configs.get? m with
  | none => rfl
  | some config =>
  cases hst : s.markets.get? m with
  | none => rfl
  | some state =>
  cases hch : s.chain with
  | none => rfl
  | some chain =>
  cases hp : s.positions.get? m with
  | none => rfl
  | some p =>
  simp only [marketView_of hst hcfg, hu, bind, Except.bind,
    Snapshot.position?_eq hkeys hu hp hst hcfg hch]
  split
  · rfl
  · split
    · rfl
    · cases marketCapacity (MarketView.of state config) u _ kind <;> rfl

end Capacity

/-- A market operation that does not take the sentinel through the whole user view resolves the
same amount on two states that agree on what it reads. -/
theorem resolveAmount_agree {op : Operation} (hc : op.kind ≠ .claimRewards) (hw : op.kind ≠ .wrap)
    (hmax : op.kind = .borrow ∨ op.kind = .withdrawCollateral → op.isMax = false)
    {st st' : SimulatedState} (hs : st.Sound) (hs' : st'.Sound) (hag : st.snapshot.Agree op st'.snapshot) :
    resolveAmount st'.snapshot op = resolveAmount st.snapshot op := by
  unfold resolveAmount
  cases hm : op.isMax
  · rfl
  · have hb : op.kind ≠ .borrow := fun h => by simp [hmax (.inl h)] at hm
    have hwc : op.kind ≠ .withdrawCollateral := fun h => by simp [hmax (.inr h)] at hm
    rw [maxCapacity_local hs'.keys (SimulatedState.derive_ok hs'.derive).2.2 hc hw,
      maxCapacity_local hs.keys (SimulatedState.derive_ok hs.derive).2.2 hc hw,
      hag.configs, hag.market hc, hag.chain, hag.position hc]
    simp only [marketCapacity, candidates_user hb hwc _ st'.user st.user]

/-- A market operation written back on its own snapshot, or on another that holds the same
position and a user context present alike, is one effect: the market and the position its work
leaves, and the coin it pays out. -/
theorem finish_perform_effect {op : Operation} {s s' : Snapshot} {market : MarketState}
    (hkeys : s.KeysAgree) (hm : s.markets.get? op.market = some market)
    (hp : s'.positions.get? op.market = s.positions.get? op.market)
    (hu : s'.user.isSome = s.user.isSome) (st st' : SimulatedState) (chain : ChainContext)
    (config : MarketConfig) (amount : Word) :
    let w := (Work.start s market config op.unwrap).perform st chain op amount
    let e := Effect.market op.market w.market w.position (op.unwrap && op.kind.supportsUnwrap) w.amount
    (w.finish s).snapshot = e.apply s ∧
      (((Work.start s' market config op.unwrap).perform st' chain op amount).finish s').snapshot =
        e.apply s' := by
  intro w e
  have hund : market.underlying = op.market := hkeys.underlying_of_get? hm
  have haddr : w.addresses = (op.market, op.market) :=
    (Work.keeps_perform _ amount st chain op).addresses.trans
      (Work.addresses_start hkeys hm config op.unwrap)
  have hself := (Work.Twin.refl (Work.start s market config op.unwrap)).perform amount st st chain op
  have htwin := (@Work.Twin.start s s' market config op.unwrap (hund ▸ hp) hu).perform amount st
    st' chain op
  have hpm : w.position.market = op.market := congrArg Prod.snd haddr
  have hmu : w.market.underlying = op.market := congrArg Prod.fst haddr
  constructor
  · simp only [Work.finish, Effect.apply, hpm, hmu, e, w, hself.user]
    rfl
  · simp only [Work.finish, Effect.apply, e, w, htwin.market, htwin.position, htwin.user]
    simp only [w] at hpm hmu
    rw [hpm, hmu]

/-- A market operation other than a borrow or a collateral withdrawal of the sentinel amount
acts as one effect on every state that agrees on what it reads. -/
theorem transports_market {op : Operation} (hc : op.kind ≠ .claimRewards) (hw : op.kind ≠ .wrap)
    (hmax : op.kind = .borrow ∨ op.kind = .withdrawCollateral → op.isMax = false)
    {st st' : SimulatedState} (hs : st.Sound) (hs' : st'.Sound) (hag : st.snapshot.Agree op st'.snapshot) :
    Transports op st st' := by
  have hchecks := marketChecks_agree hc hag (resolveAmount_agree hc hw hmax hs hs' hag)
  refine ⟨fun k h => ?_, fun t h => ?_⟩
  · rw [applyOperation_market hc hw] at h ⊢
    rw [hchecks]
    cases hx : marketChecks op st.snapshot with
    | error f =>
      rw [hx] at h
      exact ⟨k, h⟩
    | ok r =>
      rw [hx] at h
      cases h
  · rw [applyOperation_market hc hw] at h ⊢
    rw [hchecks]
    cases hx : marketChecks op st.snapshot with
    | error f =>
      rw [hx] at h
      cases h
    | ok r =>
      obtain ⟨market, config, chain, amount⟩ := r
      rw [hx] at h
      cases h
      obtain ⟨h₁, h₂⟩ := finish_perform_effect hs.keys (marketChecks_market hx) (hag.position hc)
        hag.present st st' chain config amount
      refine ⟨_, ?_, h₁, _, rfl, h₂⟩
      exact ⟨rfl, rfl, hc, hw⟩

/-! ### Every operation -/

/-- An operation whose amount is not the sentinel where the sentinel would be resolved through
the whole user view (a borrow, a collateral withdrawal) or the coin balance (a wrap). -/
def Operation.Bounded (op : Operation) : Prop :=
  op.kind = .borrow ∨ op.kind = .withdrawCollateral ∨ op.kind = .wrap → op.isMax = false

/-- Every bounded operation acts as one effect on all sound states that agree on what it reads,
and blocks on all of them or on none. -/
theorem transports {op : Operation} (hb : op.Bounded) {st st' : SimulatedState} (hs : st.Sound)
    (hs' : st'.Sound) (hag : st.snapshot.Agree op st'.snapshot) : Transports op st st' := by
  by_cases hc : op.kind = .claimRewards
  · exact transports_claim hc hag
  by_cases hw : op.kind = .wrap
  · exact transports_wrap hw (hb (.inr (.inr hw))) hag
  · exact transports_market hc hw (fun h => hb (h.imp_right .inl)) hs hs' hag

/-- An operation that goes through found the market it names, with its configuration, unless it
is a claim. -/
theorem applyOperation_known {st : SimulatedState} {op : Operation} {t : Transition}
    (h : applyOperation st op = .ok t) :
    op.kind = .claimRewards ∨
      (st.snapshot.markets.get? op.market).isSome ∧ (st.snapshot.configs.get? op.market).isSome := by
  by_cases hc : op.kind = .claimRewards
  · exact .inl hc
  refine .inr ?_
  by_cases hw : op.kind = .wrap
  · have happ : applyOperation st op = wrapCoin st.snapshot op := by
      unfold applyOperation
      rw [hw]
    rw [happ] at h
    by_cases hr : WrapReady op st.snapshot
    · obtain ⟨⟨config, hcfg, -⟩, hmkt, -⟩ := hr
      exact ⟨hmkt, by rw [hcfg]; rfl⟩
    · obtain ⟨k, hk⟩ := wrapCoin_blocked hr
      rw [hk] at h
      cases h
  · obtain ⟨market, config, _, _, hm, hcfg, -⟩ := applyOperation_market_ok hc hw h
    exact ⟨by rw [hm]; rfl, by rw [hcfg]; rfl⟩

/-! ## 3. After an operation, the views derive unless they overflow -/

/-- Every position stored names a market whose state and configuration are known, and there is
a chain context: the views of every position derive. -/
def Snapshot.Viewable (s : Snapshot) : Prop :=
  s.chain.isSome ∧
    ∀ e ∈ s.positions.entries, (s.markets.get? e.2.market).isSome ∧ (s.configs.get? e.2.market).isSome

namespace Snapshot

variable {s : Snapshot}

theorem Viewable.positionViews (h : s.Viewable) : ∃ views, s.positionViews = .ok views := by
  obtain ⟨chain, hch⟩ := Option.isSome_iff_exists.1 h.1
  have hviews : ∃ views, (s.positions.values.mapM (s.positionView chain)) = .ok views := by
    apply List.exists_mapM_eq_ok_iff.2
    intro p hp
    obtain ⟨e, he, rfl⟩ := List.mem_map.1 hp
    obtain ⟨state, hst⟩ := Option.isSome_iff_exists.1 (h.2 e he).1
    obtain ⟨config, hcfg⟩ := Option.isSome_iff_exists.1 (h.2 e he).2
    exact ⟨_, positionView_eq hst hcfg⟩
  obtain ⟨views, hv⟩ := hviews
  refine ⟨views, ?_⟩
  unfold Snapshot.positionViews requireChain
  rw [hch]
  exact hv

theorem viewable_of_positionViews {views : List PositionView} (h : s.positionViews = .ok views) :
    s.Viewable := by
  unfold Snapshot.positionViews requireChain at h
  cases hch : s.chain with
  | none =>
    rw [hch] at h
    cases h
  | some chain =>
    rw [hch] at h
    refine ⟨by rw [hch]; rfl, fun e he => ?_⟩
    obtain ⟨v, hv⟩ := List.exists_mapM_eq_ok_iff.1 ⟨_, h⟩ e.2 (List.mem_map_of_mem he)
    unfold Snapshot.positionView at hv
    cases hst : s.markets.get? e.2.market with
    | none =>
      rw [hst] at hv
      cases hv
    | some state =>
      cases hcfg : s.configs.get? e.2.market with
      | none =>
        rw [hst, hcfg] at hv
        cases hv
      | some config => exact ⟨rfl, rfl⟩

/-- On a viewable snapshot, the views can only fail to derive by overflow. -/
theorem Viewable.derive_error (h : s.Viewable) {e : QueryError}
    (hd : SimulatedState.derive s = .error e) : e = .overflow := by
  obtain ⟨views, hv⟩ := h.positionViews
  unfold SimulatedState.derive currentUserView at hd
  cases ha : UserView.aggregate (s.user.map (·.address)) views with
  | none =>
    simp only [hv, ha, bind, Except.bind] at hd
    cases hd
    rfl
  | some u => simp only [hv, ha, bind, Except.bind, pure, Except.pure, reduceCtorEq] at hd

end Snapshot

/-- The snapshot an effect leaves is viewable when the one it applies to is, the market it
writes is known with its configuration, and the keys of the result agree. -/
theorem Effect.viewable {e : Effect} {s : Snapshot} (hv : s.Viewable)
    (hwr : ∀ m, e.writes = some m → (s.markets.get? m).isSome ∧ (s.configs.get? m).isSome)
    (hkeys : (e.apply s).KeysAgree) : (e.apply s).Viewable := by
  cases e with
  | market m state position paid amount =>
    refine ⟨hv.1, fun x hx => ?_⟩
    have hmx : x.2.market = x.1 := hkeys.positions x hx
    simp only [Effect.apply] at hx ⊢
    rcases AddrMap.mem_insert hx with rfl | hx
    · have hpm : position.market = m := hmx
      simp only [hpm, AddrMap.get?_insert, ↓reduceIte]
      exact ⟨rfl, (hwr m rfl).2⟩
    · rw [AddrMap.get?_insert]
      split
      · exact ⟨rfl, (hv.2 x hx).2⟩
      · exact hv.2 x hx
  | claim op => exact hv
  | wrap m amount =>
    refine ⟨hv.1, fun x hx => ?_⟩
    have hmx : x.2.market = x.1 := hkeys.positions x hx
    simp only [Effect.apply] at hx ⊢
    rcases AddrMap.mem_insert hx with rfl | hx
    · rw [hmx]
      exact hwr m rfl
    · exact hv.2 x hx

/-- After a bounded operation goes through on a sound state, the views of the snapshot it leaves
can only fail to derive by overflow. -/
theorem derive_after {st : SimulatedState} {op : Operation} {t : Transition} (hb : op.Bounded)
    (hs : st.Sound) (h : applyOperation st op = .ok t) {e : QueryError}
    (hd : SimulatedState.derive t.snapshot = .error e) : e = .overflow := by
  obtain ⟨-, hok⟩ := transports hb hs hs ⟨rfl, rfl, rfl, fun _ => rfl, fun _ => rfl⟩
  obtain ⟨eff, hof, heff, -⟩ := hok t h
  have hkeys : t.snapshot.KeysAgree := hs.keys.applyOperation rfl h
  have hv : st.snapshot.Viewable := by
    obtain ⟨-, -, hu⟩ := SimulatedState.derive_ok hs.derive
    unfold Snapshot.currentUserView at hu
    cases hpv : st.snapshot.positionViews with
    | error e' =>
      rw [hpv] at hu
      cases hu
    | ok views => exact Snapshot.viewable_of_positionViews hpv
  have hwr : ∀ m, eff.writes = some m →
      (st.snapshot.markets.get? m).isSome ∧ (st.snapshot.configs.get? m).isSome := by
    intro m hm
    cases eff with
    | market m' _ _ _ _ =>
      obtain ⟨rfl, -, hc, -⟩ := hof
      cases hm
      exact (applyOperation_known h).resolve_left hc
    | claim _ => cases hm
    | wrap m' _ =>
      obtain ⟨rfl, -, hw⟩ := hof
      cases hm
      exact (applyOperation_known h).resolve_left (by rw [hw]; decide)
  rw [heff] at hd hkeys
  exact (Effect.viewable hv hwr hkeys).derive_error hd

end PeerLending
