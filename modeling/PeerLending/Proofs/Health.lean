import PeerLending.Proofs.Exit
import PeerLending.Proofs.Conservation

/-!
# Health moves with the operation

The user's health is read off the totals of three numbers over the views of the positions: the
liquidation value, the borrow capacity and the debt, in USD. Each of them depends on a position's
scaled collateral and scaled debt, on the indexes and price of its market, on the configuration
and on the chain context, and grows with the balance it reads (`PositionView.of_backs`).

An operation changes one position, the one on its market, and no market's indexes or price. The
positions of a snapshot are kept in ascending order of their markets, as every map is, so writing
the position back replaces one entry of the list in place, or adds one where there was none: each
total moves by what that one position's number moves (`natSum_insertEntry`). Supplying collateral and repaying
leave at least as much collateral and at most as much debt; borrowing and withdrawing collateral
the reverse; supplying, withdrawing, claiming and wrapping leave both as they were, whatever
matching does to the other users (`Work.movesBacking_perform`). The health factor grows with the
liquidation value and falls with the debt, and each usage the other way round
(`UserView.Coherent.atLeastAsHealthy`).

The totals are sums of words and wrap. Each position's liquidation value and borrow capacity is
below `2^256 / 10000` and its debt below `2^256 / 10^8`, so with fewer than ten thousand positions
no total wraps. Supplying collateral and borrowing add to a scaled balance, which wraps too when
the balance has no room for the amount (`supplyCollateral_wraps_collateral`).
-/

set_option autoImplicit false

namespace PeerLending

/-! ## 1. Sums over maps -/

/-- The sum of `f` over a list, in natural numbers. -/
def natSum {β : Type} (f : β → Nat) : List β → Nat
  | [] => 0
  | b :: rest => f b + natSum f rest

section NatSum

variable {β : Type} {f g : β → Nat}

theorem natSum_congr : ∀ {l : List β}, (∀ b ∈ l, f b = g b) → natSum f l = natSum g l
  | [], _ => rfl
  | b :: rest, h => by
    simp only [natSum]
    rw [h b List.mem_cons_self, natSum_congr fun c hc => h c (List.mem_cons_of_mem b hc)]

theorem natSum_le_mul {c : Nat} : ∀ {l : List β}, (∀ b ∈ l, f b ≤ c) → natSum f l ≤ l.length * c
  | [], _ => Nat.zero_le _
  | b :: rest, h => by
    have hb := h b List.mem_cons_self
    have hrest := natSum_le_mul fun x hx => h x (List.mem_cons_of_mem b hx)
    simp only [natSum, List.length_cons, Nat.succ_mul]
    omega

end NatSum

namespace AddrMap

variable {α : Type}

theorem eq_of_val_eq {a b : Address} (h : a.val = b.val) : a = b := by
  cases a
  cases b
  simp_all

theorem lookup_eq_none {k : Address} :
    ∀ {l : List (Address × α)}, (∀ e ∈ l, e.1 ≠ k) → lookup k l = none
  | [], _ => rfl
  | (k', v') :: rest, h => by
    have hk : k ≠ k' := fun e => h _ List.mem_cons_self e.symm
    simp only [lookup, hk, if_false]
    exact lookup_eq_none fun e he => h e (List.mem_cons_of_mem _ he)

/-- Writing `v` under `k` into an ascending list replaces the entry of `k` in place, or adds one:
a sum over the entries moves by what the entry of `k` moves. The sum after may read the other
entries with another function, as long as it reads them alike. -/
theorem natSum_insertEntry {φ ψ : Address × α → Nat} {k : Address} {v : α} :
    ∀ {l : List (Address × α)}, l.Pairwise (fun a b => a.1.val < b.1.val) →
      (∀ e ∈ l, e.1 ≠ k → ψ e = φ e) →
      natSum ψ (insertEntry k v l) + ((lookup k l).map fun o => φ (k, o)).getD 0 =
        natSum φ l + ψ (k, v)
  | [], _, _ => by simp [natSum, insertEntry, lookup]
  | (k', v') :: rest, hl, hψ => by
    rw [List.pairwise_cons] at hl
    have hrest : ∀ e ∈ rest, e.1 ≠ k → ψ e = φ e := fun e he => hψ e (List.mem_cons_of_mem _ he)
    unfold insertEntry
    split
    · -- `k` is below every key: it is new, and every other entry is read alike
      rename_i hlt
      have hne : ∀ e ∈ (k', v') :: rest, e.1 ≠ k := by
        intro e he hek
        rcases List.mem_cons.1 he with rfl | he
        · exact Nat.lt_irrefl _ (hek ▸ hlt)
        · exact Nat.lt_irrefl _ (hek ▸ Nat.lt_trans hlt (hl.1 e he))
      have hsum := natSum_congr (l := (k', v') :: rest) fun e he => hψ e he (hne e he)
      rw [lookup_eq_none hne]
      simp only [natSum, Option.map_none, Option.getD_none] at hsum ⊢
      omega
    · split
      · -- `k` is the first key: its entry is replaced
        rename_i heq
        have hk : k = k' := eq_of_val_eq heq
        subst hk
        have hne : ∀ e ∈ rest, e.1 ≠ k := fun e he hek => Nat.lt_irrefl _ (hek ▸ hl.1 e he)
        have hsum := natSum_congr (l := rest) fun e he => hrest e he (hne e he)
        simp only [natSum, lookup, if_true, Option.map_some, Option.getD_some]
        omega
      · -- `k` lies further on
        rename_i hlt hne
        have hk : k ≠ k' := fun e => hne (e ▸ rfl)
        have ih := @natSum_insertEntry φ ψ k v rest hl.2 hrest
        simp only [natSum, lookup, hk, if_false]
        rw [hψ _ List.mem_cons_self (Ne.symm hk)]
        omega

theorem length_insertEntry (k : Address) (v : α) :
    ∀ l : List (Address × α), (insertEntry k v l).length ≤ l.length + 1
  | [] => Nat.le_refl _
  | (k', v') :: rest => by
    have ih := length_insertEntry k v rest
    unfold insertEntry
    split
    · simp
    · split
      · simp
      · simp only [List.length_cons]
        omega

end AddrMap

/-! ## 2. Totals of words -/

namespace UserView

theorem val_foldl_add (f : PositionView → Word) :
    ∀ (views : List PositionView) (acc : Word),
      (views.foldl (fun acc v => acc + f v) acc).val =
        (acc.val + natSum (fun v => (f v).val) views) % wordSize
  | [], acc => by simp [natSum, Nat.mod_eq_of_lt acc.isLt]
  | v :: rest, acc => by
    rw [List.foldl_cons, val_foldl_add f rest, Word.val_add, natSum, Nat.mod_add_mod,
      Nat.add_assoc]

theorem val_total (views : List PositionView) (f : PositionView → Word) :
    (total views f).val = natSum (fun v => (f v).val) views % wordSize := by
  rw [total, val_foldl_add, val_zero, Nat.zero_add]

end UserView

/-! ## 3. The health numbers of one position -/

section Roundings

variable {x x' : Word}

theorem mulDivDown_mono_left (y d : Word) (h : x ≤ x') : mulDivDown x y d ≤ mulDivDown x' y d :=
  mulDiv_mono .down h (Nat.le_refl y.val)

/-- A product divided by `d`, rounded down, is below the word size divided by `d`. -/
theorem val_mulDivDown_le (x y d : Word) (hd : d.val ≠ 0) :
    (mulDivDown x y d).val ≤ (wordSize - 1) / d.val := by
  rw [mulDivDown, val_mulDiv_down _ _ _ hd]
  exact Nat.div_le_div_right (Nat.le_sub_one_of_lt (satProduct_lt _ _))

theorem mulDivDown_zero_left (y d : Word) : mulDivDown 0 y d = 0 := by
  apply Word.ext
  by_cases hd : d.val = 0
  · simp only [mulDivDown, mulDiv, hd, if_true]
  · rw [mulDivDown, val_mulDiv_down _ _ _ hd, val_zero]
    simp [satProduct]

theorem rayMul_zero_left (i : Word) : rayMul 0 i = 0 := by
  apply Word.ext
  rw [rayMul, val_mulDiv_halfUp _ _ _ (by decide), val_zero]
  simp [satProduct, ray_val]

theorem riskAdjustedValue_mono (f : Word) (h : x ≤ x') :
    riskAdjustedValue x f ≤ riskAdjustedValue x' f :=
  mulDivDown_mono_left _ _ (mulDivDown_mono_left _ _ h)

end Roundings

/-- `l'` backs the user's debt at least as well as `l`: at least as much scaled collateral, and at
most as much scaled debt on the pool and peer-to-peer. -/
structure Ledger.BacksAtLeast (l' l : Ledger) : Prop where
  collateral : l.userCollateral ≤ l'.userCollateral
  borrowOnPool : l'.userBorrowOnPool ≤ l.userBorrowOnPool
  borrowInP2P : l'.userBorrowInP2P ≤ l.userBorrowInP2P

namespace Ledger.BacksAtLeast

variable {l l' l'' : Ledger}

/-- The same collateral and the same debt back at least as well, both ways. -/
theorem of_eq (hc : l'.userCollateral = l.userCollateral) (hd : l'.debt = l.debt) :
    l'.BacksAtLeast l := by
  simp only [debt, Prod.mk.injEq] at hd
  exact ⟨Nat.le_of_eq (congrArg Word.val hc).symm, Nat.le_of_eq (congrArg Word.val hd.1),
    Nat.le_of_eq (congrArg Word.val hd.2)⟩

theorem trans (h : l''.BacksAtLeast l') (h' : l'.BacksAtLeast l) : l''.BacksAtLeast l :=
  ⟨Nat.le_trans h'.1 h.1, Nat.le_trans h.2 h'.2, Nat.le_trans h.3 h'.3⟩

end Ledger.BacksAtLeast

namespace PositionView

variable {p p' : Position} {m m' : MarketState}

/-- A position that backs its debt at least as well, on a market with the same indexes and price,
shows at least the liquidation value and the borrow capacity, and at most the debt. -/
theorem of_backs (c : MarketConfig) (chain : ChainContext) (hi : m'.indexes = m.indexes)
    (hp : m'.chainUsdPrice = m.chainUsdPrice) (hb : (Ledger.of m' p').BacksAtLeast (Ledger.of m p)) :
    (of p (MarketView.of m c) (RiskParams.effective m c chain)).liquidationValue ≤
        (of p' (MarketView.of m' c) (RiskParams.effective m' c chain)).liquidationValue ∧
      (of p (MarketView.of m c) (RiskParams.effective m c chain)).borrowCapacity ≤
        (of p' (MarketView.of m' c) (RiskParams.effective m' c chain)).borrowCapacity ∧
      (of p' (MarketView.of m' c) (RiskParams.effective m' c chain)).borrowUsd ≤
        (of p (MarketView.of m c) (RiskParams.effective m c chain)).borrowUsd := by
  -- the risk parameters read the market's price only
  have hr : RiskParams.effective m' c chain = RiskParams.effective m c chain := by
    unfold RiskParams.effective
    rw [hp]
  have hcol : rayMul p.scaledCollateral m.indexes.supply.poolIndex ≤
      rayMul p'.scaledCollateral m.indexes.supply.poolIndex := rayMul_mono hb.collateral
  have hdebt : (rayMul p'.scaledBorrowInP2P m.indexes.borrow.p2pIndex +
      rayMul p'.scaledBorrowOnPool m.indexes.borrow.poolIndex) ≤
      (rayMul p.scaledBorrowInP2P m.indexes.borrow.p2pIndex +
      rayMul p.scaledBorrowOnPool m.indexes.borrow.poolIndex) := by
    rw [Word.le_iff_val_le, val_add_rayMul, val_add_rayMul]
    exact Nat.add_le_add (rayMul_mono hb.borrowInP2P) (rayMul_mono hb.borrowOnPool)
  simp only [of, MarketView.of, hr, hi]
  exact ⟨riskAdjustedValue_mono _ (mulDivDown_mono_left _ _ hcol),
    riskAdjustedValue_mono _ (mulDivDown_mono_left _ _ hcol), mulDivDown_mono_left _ _ hdebt⟩

/-- Each health number of a position is a product divided by a constant: the liquidation value
and the borrow capacity by `percent`, the debt by `priceUnit`. -/
theorem of_bounds (p : Position) (v : MarketView) (r : RiskParams) :
    (of p v r).liquidationValue.val ≤ (wordSize - 1) / 10000 ∧
      (of p v r).borrowCapacity.val ≤ (wordSize - 1) / 10000 ∧
      (of p v r).borrowUsd.val ≤ (wordSize - 1) / 100000000 :=
  ⟨val_mulDivDown_le _ _ percent (by decide), val_mulDivDown_le _ _ percent (by decide),
    val_mulDivDown_le _ _ priceUnit (by decide)⟩

theorem of_empty (k : Address) (v : MarketView) (r : RiskParams) :
    (of (Position.empty k) v r).liquidationValue = 0 ∧
      (of (Position.empty k) v r).borrowCapacity = 0 ∧ (of (Position.empty k) v r).borrowUsd = 0 := by
  have h0 : (0 : Word) + 0 = 0 := rfl
  simp only [of, Position.empty, rayMul_zero_left, mulDivDown_zero_left, riskAdjustedValue,
    percentMulDown, toUsd, h0, and_self]

end PositionView

/-! ## 4. What each operation does to the backing

Only supplying and withdrawing collateral touch the user's collateral; every other part of an
operation writes other balances, or the user's debt. -/

namespace Work

variable (w : Work) (a : Word)

section Collateral

@[simp] theorem collateral_promoteBorrowers :
    (w.promoteBorrowers a).ledger.userCollateral = w.ledger.userCollateral := by
  unfold promoteBorrowers
  split <;> rfl

@[simp] theorem collateral_supplyPool :
    (w.supplyPool a).ledger.userCollateral = w.ledger.userCollateral := rfl

@[simp] theorem collateral_promoteSuppliers :
    (w.promoteSuppliers a).ledger.userCollateral = w.ledger.userCollateral := by
  unfold promoteSuppliers
  split <;> rfl

@[simp] theorem collateral_borrowPool :
    (w.borrowPool a).ledger.userCollateral = w.ledger.userCollateral := rfl

@[simp] theorem collateral_repayPool :
    (w.repayPool a).ledger.userCollateral = w.ledger.userCollateral := by
  unfold repayPool
  split <;> rfl

@[simp] theorem collateral_withdrawPool :
    (w.withdrawPool a).ledger.userCollateral = w.ledger.userCollateral := by
  unfold withdrawPool
  split <;> rfl

@[simp] theorem collateral_repayP2P :
    (w.repayP2P a).ledger.userCollateral = w.ledger.userCollateral := by
  unfold repayP2P
  split
  · rfl
  · dsimp only
    -- promoting and demoting the suppliers leave every balance of the user as it was
    exact (congrArg (·.2.2.1) (userBalances_demoteSuppliers _ _)).trans
      (congrArg (·.2.2.1) (userBalances_backfillBorrowers _ _))

@[simp] theorem collateral_withdrawP2P :
    (w.withdrawP2P a).ledger.userCollateral = w.ledger.userCollateral := by
  unfold withdrawP2P
  split
  · rfl
  · dsimp only
    exact (congrArg (·.2.2.1) (userBalances_demoteBorrowers _ _)).trans
      (congrArg (·.2.2.1) (userBalances_backfillSuppliers _ _))

theorem collateral_supply : (w.supply a).ledger.userCollateral = w.ledger.userCollateral := by
  simp [supply]

theorem collateral_withdraw : (w.withdraw a).ledger.userCollateral = w.ledger.userCollateral := by
  simp only [withdraw, clampToBalance_eq, ledger_payOut, ledger_withLiquidity, collateral_withdrawP2P,
    collateral_withdrawPool, ledger_checkLiquidity, ledger_amount, ledger_noteIf]

theorem collateral_repay : (w.repay a).ledger.userCollateral = w.ledger.userCollateral := by
  simp only [repay, clampToBalance_eq, ledger_withLiquidity, collateral_repayP2P, collateral_repayPool,
    ledger_debitWallet, ledger_amount, ledger_noteIf]

theorem collateral_borrow (headroom : Word) :
    (w.borrow a headroom).ledger.userCollateral = w.ledger.userCollateral := by
  simp [borrow]

end Collateral

end Work

/-- Room for what backs the user's debt to grow by `a`: the indexes are at least one ray, so an
amount's quotient is at most the amount, and each of the user's scaled collateral and scaled
debts can take `a` more below the word size. -/
structure Ledger.BackingRoom (l : Ledger) (idx : Indexes) (a : Nat) : Prop where
  indexes : idx.AtLeastRay
  collateral : l.userCollateral.val + a < wordSize
  borrowOnPool : l.userBorrowOnPool.val + a < wordSize
  borrowInP2P : l.userBorrowInP2P.val + a < wordSize

/-- The kinds that add to what backs the user's debt, the collateral or the debt itself. -/
def OperationKind.AddsBacking (k : OperationKind) : Prop := k = .supplyCollateral ∨ k = .borrow

/-- The kinds that move what backs the user's debt, one way or the other. -/
def OperationKind.MovesBacking (k : OperationKind) : Prop :=
  k = .supplyCollateral ∨ k = .repay ∨ k = .borrow ∨ k = .withdrawCollateral

/-- Adding the quotient of an amount that fits, at an index of at least one ray, does not wrap. -/
theorem le_add_rayDiv {s x i : Word} (hR : ray.val ≤ i.val) (h : s.val + x.val < wordSize) :
    s ≤ s + rayDiv x i := by
  have hx : (rayDiv x i).val ≤ x.val := rayDiv_le_self hR
  rw [Word.le_iff_val_le, Word.val_add_of_lt (by omega)]
  omega

/-- How an operation of each kind moves a state from `before` to `after`, for an order `R` in
which `R x y` reads "`x` is at least as safe as `y`": supplying collateral and repaying move up,
borrowing and withdrawing collateral move down, and every other kind moves neither way. -/
def OperationKind.Moves {α : Type} (k : OperationKind) (R : α → α → Prop) (after before : α) : Prop :=
  match k with
  | .supplyCollateral | .repay => R after before
  | .borrow | .withdrawCollateral => R before after
  | .supply | .withdraw | .claimRewards | .wrap => R after before ∧ R before after

/-- A move carries over to another pair of states whose order follows from the first's, in both
directions. -/
theorem OperationKind.Moves.imp {α β : Type} {k : OperationKind} {R : α → α → Prop}
    {R' : β → β → Prop} {a b : α} {a' b' : β} (h₁ : R a b → R' a' b') (h₂ : R b a → R' b' a') :
    k.Moves R a b → k.Moves R' a' b' := by
  cases k
  case supplyCollateral | repay => exact h₁
  case borrow | withdrawCollateral => exact h₂
  case supply | withdraw | claimRewards | wrap => exact fun h => ⟨h₁ h.1, h₂ h.2⟩

namespace Work

variable {w w₁ : Work} {a : Word} {l : Ledger} {idx : Indexes}

/-- The moves of a borrow: the matched part grows the user's peer-to-peer debt, the rest the
pool debt, and neither wraps with room for the whole amount. -/
theorem backs_borrowFrom (hl : w₁.ledger = l) (hi : w₁.market.indexes = idx)
    (hroom : l.BackingRoom idx a.val) :
    l.BacksAtLeast ((((w₁.promoteSuppliers (w₁.matchable a w₁.protocolSupplyOnPool)).borrowPool
      (a - w₁.matchable a w₁.protocolSupplyOnPool)).withLiquidity (zeroFloorSub · a)).payOut
        a).ledger := by
  subst hl hi
  rw [ledger_payOut, ledger_withLiquidity]
  have hma := matchable_le w₁ a w₁.protocolSupplyOnPool
  generalize w₁.matchable a w₁.protocolSupplyOnPool = m at hma ⊢
  have hm : m.val ≤ a.val := hma
  have hsub : (a - m).val ≤ a.val := by
    rw [Word.val_sub_of_le hma]
    omega
  have hon := hroom.borrowOnPool
  have hin := hroom.borrowInP2P
  rw [ledger_borrowPool, (quiet_promoteSuppliers _ _).indexes, ledger_promoteSuppliers]
  split
  · exact ⟨Nat.le_refl _, le_add_rayDiv hroom.indexes.borrowPool (by omega), Nat.le_refl _⟩
  · exact ⟨Nat.le_refl _, le_add_rayDiv hroom.indexes.borrowPool (by omega),
      le_add_rayDiv hroom.indexes.borrowP2P (by omega)⟩

variable (w a)

/-- Every operation moves what backs the user's debt as its kind says; supplying collateral and
borrowing need room for the amount. -/
theorem movesBacking_perform (st : SimulatedState) (chain : ChainContext) (op : Operation)
    (hroom : op.kind.AddsBacking → w.ledger.BackingRoom w.market.indexes a.val) :
    op.kind.Moves Ledger.BacksAtLeast (w.perform st chain op a).ledger w.ledger := by
  cases hk : op.kind <;> simp only [perform, hk, OperationKind.Moves]
  case supply =>
    exact ⟨.of_eq (collateral_supply w a) (debt_supply w a),
      .of_eq (collateral_supply w a).symm (debt_supply w a).symm⟩
  case withdraw =>
    exact ⟨.of_eq (collateral_withdraw w a) (debt_withdraw w a),
      .of_eq (collateral_withdraw w a).symm (debt_withdraw w a).symm⟩
  case supplyCollateral =>
    -- the collateral grows by the amount's quotient at the pool index
    have hroom' := hroom (.inl hk)
    have hdebt := (user_supplyCollateral w a).1
    simp only [Ledger.debt, Prod.mk.injEq] at hdebt
    rw [ledger_supplyCollateral] at hdebt ⊢
    exact ⟨le_add_rayDiv hroom'.indexes.supplyPool hroom'.collateral,
      Nat.le_of_eq (congrArg Word.val hdebt.1), Nat.le_of_eq (congrArg Word.val hdebt.2)⟩
  case borrow =>
    unfold borrow
    exact backs_borrowFrom (by simp) (by simp [checkLiquidity, checkBorrowCap, noteIf_eq])
      (hroom (.inr hk))
  case repay =>
    have hs := shrinks_repay w a
    exact ⟨Nat.le_of_eq (congrArg Word.val (collateral_repay w a)).symm, hs.borrowOnPool,
      hs.borrowInP2P⟩
  case withdrawCollateral =>
    have hs := shrinks_withdrawCollateral w a
      ((st.user.position? op.market).bind (withdrawCollateralHeadroom st.user))
    have hdebt := (user_withdrawCollateral w a
      ((st.user.position? op.market).bind (withdrawCollateralHeadroom st.user))).1
    simp only [Ledger.debt, Prod.mk.injEq] at hdebt
    exact ⟨hs.collateral, Nat.le_of_eq (congrArg Word.val hdebt.1).symm,
      Nat.le_of_eq (congrArg Word.val hdebt.2).symm⟩
  case claimRewards | wrap =>
    exact ⟨.of_eq rfl rfl, .of_eq rfl rfl⟩

end Work

/-! ## 5. Health from the totals

The health factor is the liquidation value over the debt, rounded down, and the largest word
without debt; each usage is the debt over the capacity, rounded half up, with the largest word for
debt against nothing. Both are monotone in the right directions. For a usage over a larger
capacity this is a fact about half-up rounding: a quotient rounded to the nearest integer does not
grow with the divisor. -/

/-- Half-up rounding, saturated at the largest word, does not grow with the divisor. -/
theorem halfUp_div_antitone {P a a' : Nat} (ha : 0 < a) (haa : a ≤ a') :
    (if P + a' / 2 < wordSize then P + a' / 2 else wordSize - 1) / a' ≤
      (if P + a / 2 < wordSize then P + a / 2 else wordSize - 1) / a := by
  apply (Nat.le_div_iff_mul_le ha).2
  generalize hq : (if P + a' / 2 < wordSize then P + a' / 2 else wordSize - 1) / a' = q
  have hqa' : q * a' ≤ (if P + a' / 2 < wordSize then P + a' / 2 else wordSize - 1) :=
    hq ▸ Nat.div_mul_le_self _ _
  rcases Nat.eq_zero_or_pos q with rfl | hq1
  · simp
  have hle : q * a ≤ q * a' := Nat.mul_le_mul_left _ haa
  -- a quotient of at least one moves by at least the step of the divisor
  have hgap : q * a + a' ≤ q * a' + a := by
    have hstep : a' - a ≤ q * (a' - a) := Nat.le_mul_of_pos_left _ hq1
    rw [Nat.mul_sub] at hstep
    omega
  clear hq
  generalize q * a = X at *
  generalize q * a' = Y at *
  generalize wordSize = W at *
  split at hqa' <;> split <;> omega

namespace UserView

/-- The health factor of a liquidation value against a debt. -/
def healthOf (liquidationValue borrowUsd : Word) : Word :=
  if borrowUsd.val = 0 then Word.maxValue else wadDivDown liquidationValue borrowUsd

/-- The health factor and the usages of a view are those its totals give. -/
structure Coherent (u : UserView) : Prop where
  healthFactor : u.healthFactor = healthOf u.liquidationValue u.totalBorrowUsd
  borrowCapacityUsed : u.borrowCapacityUsed = usage u.totalBorrowUsd u.borrowCapacity
  liquidationValueUsed : u.liquidationValueUsed = usage u.totalBorrowUsd u.liquidationValue

/-- An aggregated view lists the views it was given, totals their health numbers, and is
coherent. -/
theorem aggregate_health {user : Option Address} {views : List PositionView} {u : UserView}
    (h : aggregate user views = some u) :
    u.markets = views ∧ u.liquidationValue = total views (·.liquidationValue) ∧
      u.borrowCapacity = total views (·.borrowCapacity) ∧
      u.totalBorrowUsd = total views (·.borrowUsd) ∧ u.Coherent := by
  unfold aggregate at h
  cases ha : PeerLending.netApy views with
  | none =>
    rw [ha] at h
    cases h
  | some apy =>
    rw [ha] at h
    cases h
    exact ⟨rfl, rfl, rfl, rfl, ⟨rfl, rfl, rfl⟩⟩

/-- `u'` is at least as healthy as `u`: at least the liquidation value and the borrow capacity,
at most the debt, a health factor at least as high and each usage at most as high. -/
structure AtLeastAsHealthy (u' u : UserView) : Prop where
  liquidationValue : u.liquidationValue ≤ u'.liquidationValue
  borrowCapacity : u.borrowCapacity ≤ u'.borrowCapacity
  totalBorrowUsd : u'.totalBorrowUsd ≤ u.totalBorrowUsd
  healthFactor : u.healthFactor ≤ u'.healthFactor
  borrowCapacityUsed : u'.borrowCapacityUsed ≤ u.borrowCapacityUsed
  liquidationValueUsed : u'.liquidationValueUsed ≤ u.liquidationValueUsed

variable {x x' y y' : Word}

theorem healthOf_mono (hx : x ≤ x') (hy : y' ≤ y) : healthOf x y ≤ healthOf x' y' := by
  unfold healthOf
  by_cases hy0 : y'.val = 0
  · rw [if_pos hy0]
    split
    · exact Nat.le_refl _
    · exact Nat.le_sub_one_of_lt (wadDivDown x y).isLt
  · have hy0' : y.val ≠ 0 := fun h => hy0 (by have : y'.val ≤ y.val := hy; omega)
    rw [if_neg hy0, if_neg hy0', Word.le_iff_val_le, wadDivDown, wadDivDown, mulDivDown, mulDivDown,
      val_mulDiv_down _ _ _ hy0', val_mulDiv_down _ _ _ hy0]
    -- a larger numerator over a smaller divisor
    exact Nat.le_trans (Nat.div_le_div_right (satProduct_mono hx (Nat.le_refl _)))
      (Nat.div_le_div_left hy (Nat.pos_of_ne_zero hy0))

theorem usage_mono_left (h : x ≤ x') (y : Word) : usage x y ≤ usage x' y := by
  unfold usage
  by_cases hy : y.val = 0
  · simp only [hy, if_true]
    by_cases hx : x.val = 0
    · rw [if_pos hx]
      exact Nat.zero_le _
    · have hx' : x'.val ≠ 0 := fun e => hx (by have : x.val ≤ x'.val := h; omega)
      rw [if_neg hx, if_neg hx']
      exact Nat.le_refl _
  · simp only [hy, if_false]
    exact mulDiv_mono .halfUp h (Nat.le_refl percent.val)

theorem usage_antitone_right (x : Word) (h : y ≤ y') : usage x y' ≤ usage x y := by
  unfold usage
  have hyy : y.val ≤ y'.val := h
  by_cases hy' : y'.val = 0
  · have hy : y.val = 0 := by omega
    simp only [hy, hy', if_true]
    exact Nat.le_refl _
  by_cases hy : y.val = 0
  · -- against no capacity a debt is the largest word, and no debt is zero over any capacity
    simp only [hy, hy', if_true, if_false]
    by_cases hx : x.val = 0
    · rw [if_pos hx, percentDiv, Word.le_iff_val_le, val_mulDiv_halfUp _ _ _ hy']
      have hx0 : satProduct x.val percent.val = 0 := by simp [satProduct, hx]
      rw [hx0, Nat.zero_add, if_pos (Nat.lt_of_le_of_lt (Nat.div_le_self _ _) y'.isLt)]
      exact Nat.le_of_eq (Nat.div_eq_of_lt (Nat.div_lt_self (Nat.pos_of_ne_zero hy') (by decide)))
    · rw [if_neg hx]
      exact Nat.le_sub_one_of_lt (percentDiv x y').isLt
  · rw [if_neg hy, if_neg hy', percentDiv, percentDiv, Word.le_iff_val_le,
      val_mulDiv_halfUp _ _ _ hy', val_mulDiv_halfUp _ _ _ hy]
    exact halfUp_div_antitone (Nat.pos_of_ne_zero hy) hyy

/-- Totals that move toward health move every health number that way. -/
theorem Coherent.atLeastAsHealthy {u u' : UserView} (hu : u.Coherent) (hu' : u'.Coherent)
    (hl : u.liquidationValue ≤ u'.liquidationValue) (hc : u.borrowCapacity ≤ u'.borrowCapacity)
    (hb : u'.totalBorrowUsd ≤ u.totalBorrowUsd) : u'.AtLeastAsHealthy u := by
  refine ⟨hl, hc, hb, ?_, ?_, ?_⟩
  · rw [hu.healthFactor, hu'.healthFactor]
    exact healthOf_mono hl hb
  · rw [hu.borrowCapacityUsed, hu'.borrowCapacityUsed]
    exact Nat.le_trans (usage_mono_left hb _) (usage_antitone_right _ hc)
  · rw [hu.liquidationValueUsed, hu'.liquidationValueUsed]
    exact Nat.le_trans (usage_mono_left hb _) (usage_antitone_right _ hl)

theorem Coherent.same {u u' : UserView} (hu : u.Coherent) (hu' : u'.Coherent)
    (hl : u'.liquidationValue = u.liquidationValue) (hc : u'.borrowCapacity = u.borrowCapacity)
    (hb : u'.totalBorrowUsd = u.totalBorrowUsd) :
    u'.AtLeastAsHealthy u ∧ u.AtLeastAsHealthy u' := by
  have le_of_eq {a b : Word} (h : a = b) : a ≤ b := h ▸ Nat.le_refl _
  exact ⟨hu.atLeastAsHealthy hu' (le_of_eq hl.symm) (le_of_eq hc.symm) (le_of_eq hb),
    hu'.atLeastAsHealthy hu (le_of_eq hl) (le_of_eq hc) (le_of_eq hb.symm)⟩

end UserView

/-! ## 6. Health numbers over the positions of a snapshot -/

/-- The three health numbers, as natural numbers: the liquidation value, the borrow capacity and
the debt. -/
structure HealthNumbers where
  liquidationValue : Nat
  borrowCapacity : Nat
  borrowUsd : Nat

/-- `h'` shows at least the health of `h`: at least the liquidation value and the borrow capacity,
and at most the debt. -/
structure HealthNumbers.AtLeast (h' h : HealthNumbers) : Prop where
  liquidationValue : h.liquidationValue ≤ h'.liquidationValue
  borrowCapacity : h.borrowCapacity ≤ h'.borrowCapacity
  borrowUsd : h'.borrowUsd ≤ h.borrowUsd

theorem HealthNumbers.AtLeast.of_eq {h h' : HealthNumbers} (e : h' = h) : h'.AtLeast h :=
  e ▸ ⟨Nat.le_refl _, Nat.le_refl _, Nat.le_refl _⟩

/-- The three numbers are below the word size: as words they do not wrap. -/
structure HealthNumbers.Fit (h : HealthNumbers) : Prop where
  liquidationValue : h.liquidationValue < wordSize
  borrowCapacity : h.borrowCapacity < wordSize
  borrowUsd : h.borrowUsd < wordSize

/-- The view `u` shows the health numbers `h`: its totals are the numbers wrapped once around the
word size, and its health factor and usages are those its totals give. -/
structure UserView.Shows (u : UserView) (h : HealthNumbers) : Prop where
  liquidationValue : u.liquidationValue.val = h.liquidationValue % wordSize
  borrowCapacity : u.borrowCapacity.val = h.borrowCapacity % wordSize
  totalBorrowUsd : u.totalBorrowUsd.val = h.borrowUsd % wordSize
  coherent : u.Coherent

namespace UserView.Shows

variable {u u' : UserView} {h h' : HealthNumbers}

/-- Numbers that fit and move toward health make a view at least as healthy. -/
theorem atLeastAsHealthy (hu : u.Shows h) (hu' : u'.Shows h') (hfit : h.Fit) (hfit' : h'.Fit)
    (hh : h'.AtLeast h) : u'.AtLeastAsHealthy u := by
  have e := hu.liquidationValue
  have e' := hu'.liquidationValue
  have c := hu.borrowCapacity
  have c' := hu'.borrowCapacity
  have b := hu.totalBorrowUsd
  have b' := hu'.totalBorrowUsd
  rw [Nat.mod_eq_of_lt hfit.1] at e
  rw [Nat.mod_eq_of_lt hfit'.1] at e'
  rw [Nat.mod_eq_of_lt hfit.2] at c
  rw [Nat.mod_eq_of_lt hfit'.2] at c'
  rw [Nat.mod_eq_of_lt hfit.3] at b
  rw [Nat.mod_eq_of_lt hfit'.3] at b'
  refine hu.coherent.atLeastAsHealthy hu'.coherent ?_ ?_ ?_
  · show u.liquidationValue.val ≤ u'.liquidationValue.val
    rw [e, e']
    exact hh.liquidationValue
  · show u.borrowCapacity.val ≤ u'.borrowCapacity.val
    rw [c, c']
    exact hh.borrowCapacity
  · show u'.totalBorrowUsd.val ≤ u.totalBorrowUsd.val
    rw [b, b']
    exact hh.borrowUsd

theorem same (hu : u.Shows h) (hu' : u'.Shows h') (hh : h'.AtLeast h) (hh' : h.AtLeast h') :
    u'.AtLeastAsHealthy u ∧ u.AtLeastAsHealthy u' := by
  have el : h'.liquidationValue = h.liquidationValue := Nat.le_antisymm hh'.1 hh.1
  have ec : h'.borrowCapacity = h.borrowCapacity := Nat.le_antisymm hh'.2 hh.2
  have eb : h'.borrowUsd = h.borrowUsd := Nat.le_antisymm hh.3 hh'.3
  refine hu.coherent.same hu'.coherent ?_ ?_ ?_ <;> apply Word.ext
  · rw [hu.liquidationValue, hu'.liquidationValue, el]
  · rw [hu.borrowCapacity, hu'.borrowCapacity, ec]
  · rw [hu.totalBorrowUsd, hu'.totalBorrowUsd, eb]

end UserView.Shows

namespace Snapshot

variable {s s' : Snapshot} {chain : ChainContext} {m : Address}

/-- A number read off the view of a position; nothing for a position whose view fails. -/
def viewNumber (s : Snapshot) (chain : ChainContext) (g : PositionView → Word) (p : Position) :
    Nat :=
  match s.positionView chain p with
  | .ok v => (g v).val
  | .error _ => 0

/-- The health numbers of one position's view. -/
def healthOf (s : Snapshot) (chain : ChainContext) (p : Position) : HealthNumbers :=
  ⟨s.viewNumber chain (·.liquidationValue) p, s.viewNumber chain (·.borrowCapacity) p,
    s.viewNumber chain (·.borrowUsd) p⟩

/-- The sum of a number over the views of the user's positions. -/
def viewSum (s : Snapshot) (chain : ChainContext) (g : PositionView → Word) : Nat :=
  natSum (fun e => s.viewNumber chain g e.2) s.positions.entries

/-- The health numbers summed over the user's positions. -/
def healthSums (s : Snapshot) (chain : ChainContext) : HealthNumbers :=
  ⟨s.viewSum chain (·.liquidationValue), s.viewSum chain (·.borrowCapacity),
    s.viewSum chain (·.borrowUsd)⟩

theorem natSum_views (g : PositionView → Word) :
    ∀ (l : List (Address × Position)) (views : List PositionView),
      (l.map (·.2)).mapM (s.positionView chain) = .ok views →
      natSum (fun v => (g v).val) views = natSum (fun e => s.viewNumber chain g e.2) l
  | [], views, h => by
    cases h
    rfl
  | (k, q) :: rest, views, h => by
    simp only [List.map_cons, List.mapM_cons] at h
    cases hq : s.positionView chain q with
    | error e =>
      rw [hq] at h
      cases h
    | ok v =>
      rw [hq] at h
      cases hrest : (rest.map (·.2)).mapM (s.positionView chain) with
      | error e =>
        rw [hrest] at h
        cases h
      | ok vs =>
        rw [hrest] at h
        cases h
        simp only [natSum, viewNumber, hq, natSum_views g rest vs hrest]

/-- The user's view of a snapshot holds its health numbers summed over the positions, wrapped
once around the word size. -/
theorem currentUserView_shows {u : UserView} (hu : s.currentUserView = .ok u)
    (hch : s.chain = some chain) : u.Shows (s.healthSums chain) := by
  have hviews : (s.positions.entries.map (·.2)).mapM (s.positionView chain) = .ok u.markets := by
    have h := positionViews_of_currentUserView hu
    unfold positionViews requireChain at h
    rw [hch] at h
    exact h
  unfold currentUserView at hu
  rw [positionViews_of_currentUserView hu] at hu
  obtain ⟨-, hl, hc, hb, hcoh⟩ : u.markets = u.markets ∧ _ := by
    dsimp only [bind, Except.bind] at hu
    split at hu
    · rename_i u' hagg
      cases hu
      exact UserView.aggregate_health hagg
    · cases hu
  refine ⟨?_, ?_, ?_, hcoh⟩ <;>
    simp only [hl, hc, hb, UserView.val_total, healthSums, viewSum, natSum_views _ _ _ hviews]

theorem chain_of_currentUserView {u : UserView} (hu : s.currentUserView = .ok u) :
    ∃ chain, s.chain = some chain := by
  have h := positionViews_of_currentUserView hu
  unfold positionViews requireChain at h
  cases hch : s.chain with
  | none =>
    rw [hch] at h
    cases h
  | some chain => exact ⟨chain, rfl⟩

theorem viewNumber_le {g : PositionView → Word} {c : Nat}
    (hg : ∀ p v r, (g (PositionView.of p v r)).val ≤ c) (p : Position) :
    s.viewNumber chain g p ≤ c := by
  unfold viewNumber positionView
  cases s.markets.get? p.market with
  | none => exact Nat.zero_le _
  | some state =>
    cases s.configs.get? p.market with
    | none => exact Nat.zero_le _
    | some config => exact hg _ _ _

/-- With at most ten thousand positions no health number wraps: each position's is below the
word size over ten thousand. -/
theorem healthSums_fit (hsize : s.positions.size ≤ 10000) (chain : ChainContext) :
    (s.healthSums chain).Fit := by
  have hlen : s.positions.entries.length ≤ 10000 := hsize
  have sum_le {g : PositionView → Word} {c : Nat} (hg : ∀ p v r, (g (PositionView.of p v r)).val ≤ c) :
      s.viewSum chain g ≤ 10000 * c :=
    Nat.le_trans (natSum_le_mul fun e _ => viewNumber_le hg e.2) (Nat.mul_le_mul_right _ hlen)
  have hl := sum_le (g := (·.liquidationValue)) fun p v r => (PositionView.of_bounds p v r).1
  have hc := sum_le (g := (·.borrowCapacity)) fun p v r => (PositionView.of_bounds p v r).2.1
  have hb := sum_le (g := (·.borrowUsd)) fun p v r => (PositionView.of_bounds p v r).2.2
  have hW : 10000 * ((wordSize - 1) / 10000) < wordSize := by decide
  have hW' : 10000 * ((wordSize - 1) / 100000000) < wordSize := by decide
  exact ⟨by dsimp only [healthSums]; omega, by dsimp only [healthSums]; omega,
    by dsimp only [healthSums]; omega⟩

theorem viewNumber_frame (hch : s.ChangesOnly m s') {p : Position} (hp : p.market ≠ m)
    (g : PositionView → Word) : s'.viewNumber chain g p = s.viewNumber chain g p := by
  unfold viewNumber positionView
  rw [hch.markets _ hp, hch.configs]

/-- Writing one position back under `m` moves a sum over the positions by what the position under
`m` moves. -/
theorem viewSum_insert (hkeys : s.KeysAgree)
    (hch : s.ChangesOnly m s') {p' : Position} (hpos : s'.positions = s.positions.insert m p')
    (chain : ChainContext) (g : PositionView → Word) :
    s'.viewSum chain g + ((s.positions.get? m).map (s.viewNumber chain g)).getD 0 =
      s.viewSum chain g + s'.viewNumber chain g p' := by
  unfold viewSum
  rw [hpos]
  exact AddrMap.natSum_insertEntry s.positions.ascending fun e he hne =>
    viewNumber_frame hch (by rw [hkeys.positions e he]; exact hne) g

theorem getD_viewNumber (chain : ChainContext) {g : PositionView → Word}
    (hg : ∀ k v r, g (PositionView.of (Position.empty k) v r) = 0) (m : Address) :
    ((s.positions.get? m).map (s.viewNumber chain g)).getD 0 = s.viewNumber chain g (s.positionAt m) := by
  unfold positionAt
  cases s.positions.get? m with
  | some p => rfl
  | none =>
    show 0 = s.viewNumber chain g (Position.empty m)
    unfold viewNumber positionView
    cases s.markets.get? (Position.empty m).market with
    | none => rfl
    | some state =>
      cases s.configs.get? (Position.empty m).market with
      | none => rfl
      | some config => simp [hg, val_zero]

/-- The health numbers move by what the position written back under `m` moves. -/
theorem healthSums_insert (hkeys : s.KeysAgree)
    (hch : s.ChangesOnly m s') {p' : Position} (hpos : s'.positions = s.positions.insert m p')
    (chain : ChainContext) :
    ((s'.healthOf chain p').AtLeast (s.healthOf chain (s.positionAt m)) →
        (s'.healthSums chain).AtLeast (s.healthSums chain)) ∧
      ((s.healthOf chain (s.positionAt m)).AtLeast (s'.healthOf chain p') →
        (s.healthSums chain).AtLeast (s'.healthSums chain)) := by
  have e := fun g hg => (getD_viewNumber (s := s) chain (g := g) hg m) ▸
    viewSum_insert hkeys hch hpos chain g
  have el := e (·.liquidationValue) fun k v r => (PositionView.of_empty k v r).1
  have ec := e (·.borrowCapacity) fun k v r => (PositionView.of_empty k v r).2.1
  have eb := e (·.borrowUsd) fun k v r => (PositionView.of_empty k v r).2.2
  constructor
  · rintro ⟨h1, h2, h3⟩
    dsimp only [healthOf] at h1 h2 h3
    refine ⟨?_, ?_, ?_⟩ <;> dsimp only [healthSums] <;> omega
  · rintro ⟨h1, h2, h3⟩
    dsimp only [healthOf] at h1 h2 h3
    refine ⟨?_, ?_, ?_⟩ <;> dsimp only [healthSums] <;> omega

/-- On a market with the same indexes and price, a position that backs its debt at least as
well shows at least the health. -/
theorem healthOf_backs {p p' : Position} {market market' : MarketState} {config : MarketConfig}
    (hm : s.markets.get? p.market = some market) (hc : s.configs.get? p.market = some config)
    (hm' : s'.markets.get? p'.market = some market') (hc' : s'.configs.get? p'.market = some config)
    (hi : market'.indexes = market.indexes) (hp : market'.chainUsdPrice = market.chainUsdPrice)
    (hb : (Ledger.of market' p').BacksAtLeast (Ledger.of market p)) :
    (s'.healthOf chain p').AtLeast (s.healthOf chain p) := by
  obtain ⟨h1, h2, h3⟩ := PositionView.of_backs config chain hi hp hb
  simp only [healthOf, viewNumber, positionView_eq hm hc, positionView_eq hm' hc']
  exact ⟨h1, h2, h3⟩

theorem healthOf_withWallet (p : Position) (wallet : Word) :
    s.healthOf chain { p with walletBalance := wallet } = s.healthOf chain p := by
  unfold healthOf viewNumber positionView
  dsimp only
  cases s.markets.get? p.market with
  | none => rfl
  | some state =>
    cases s.configs.get? p.market with
    | none => rfl
    | some config => rfl

end Snapshot

/-! ## 7. One step, and the states of a run -/

theorem applyOperation_positions {st : SimulatedState} {op : Operation} {t : Transition}
    (hkeys : st.snapshot.KeysAgree) (h : applyOperation st op = .ok t) :
    t.snapshot.positions = st.snapshot.positions ∨
      ∃ p, t.snapshot.positions = st.snapshot.positions.insert op.market p := by
  obtain ⟨-, -, -, hclaim, hwrap, -⟩ := applyOperation_changesOnly hkeys h
  by_cases hc : op.kind = .claimRewards
  · obtain ⟨_, _, _, _, heq⟩ := hclaim hc
    exact .inl (by rw [heq])
  by_cases hw : op.kind = .wrap
  · obtain ⟨_, _, _, _, heq⟩ := hwrap hw
    exact .inr ⟨_, by rw [heq]⟩
  obtain ⟨market, w₀, chain, amount, -, -, -, -, haddr, rfl⟩ := applyOperation_performs hkeys hc hw h
  have hpm : (w₀.perform st chain op amount).position.market = op.market := congrArg Prod.snd haddr
  exact .inr ⟨(w₀.perform st chain op amount).position, by simp only [Work.finish, hpm]⟩

theorem applyOperation_size_le {st : SimulatedState} {op : Operation} {t : Transition}
    (hkeys : st.snapshot.KeysAgree) (h : applyOperation st op = .ok t) :
    t.snapshot.positions.size ≤ st.snapshot.positions.size + 1 := by
  rcases applyOperation_positions hkeys h with e | ⟨p, e⟩
  · rw [e]
    omega
  · rw [e]
    exact AddrMap.length_insertEntry op.market p st.snapshot.positions.entries

namespace Snapshot

/-- The step lemma: an operation moves the health numbers summed over the positions as its kind
moves what backs the user's debt. A claim and a wrap leave them as they were; a market
operation writes back one position, on a market whose indexes and price stay. -/
theorem healthSums_step {st : SimulatedState} {op : Operation} {t : Transition}
    (hkeys : st.snapshot.KeysAgree)
    (hroom : op.kind.AddsBacking → ∀ market, st.snapshot.markets.get? op.market = some market →
      (st.snapshot.ledgerAt op.market market).BackingRoom market.indexes t.amount.val)
    (h : applyOperation st op = .ok t) (chain : ChainContext) :
    op.kind.Moves HealthNumbers.AtLeast (t.snapshot.healthSums chain) (st.snapshot.healthSums chain) := by
  obtain ⟨hch, -, -, hclaim, hwrap, -⟩ := applyOperation_changesOnly hkeys h
  by_cases hc : op.kind = .claimRewards
  · -- a claim touches the user context only
    obtain ⟨_, _, _, _, heq⟩ := hclaim hc
    have e : t.snapshot.healthSums chain = st.snapshot.healthSums chain := by
      rw [heq]
      rfl
    rw [hc]
    exact ⟨.of_eq e, .of_eq e.symm⟩
  by_cases hw : op.kind = .wrap
  · -- a wrap credits the wallet of the position on its market, which no health number reads
    obtain ⟨_, _, _, wallet, heq⟩ := hwrap hw
    have hpos : t.snapshot.positions = st.snapshot.positions.insert op.market
        { st.snapshot.positionAt op.market with walletBalance := wallet } := by
      rw [heq]
      rfl
    have hsame : t.snapshot.healthOf chain
        { st.snapshot.positionAt op.market with walletBalance := wallet } =
        st.snapshot.healthOf chain (st.snapshot.positionAt op.market) := by
      rw [heq]
      exact healthOf_withWallet (s := st.snapshot) _ wallet
    have hs := healthSums_insert hkeys hch hpos chain
    rw [hw]
    exact ⟨hs.1 (.of_eq hsame), hs.2 (.of_eq hsame.symm)⟩
  -- a market operation writes its work back under the operation's market
  obtain ⟨market, config, chainOp, amount, hm, hcfg, -, -, -, rfl⟩ := applyOperation_market_ok hc hw h
  have hu : market.underlying = op.market := hkeys.underlying_of_get? hm
  have hl₀ : (Work.start st.snapshot market config op.unwrap).ledger =
      Ledger.of market (st.snapshot.positionAt op.market) := by
    unfold Work.ledger Work.start positionAt
    rw [hu]
  have haddr := (Work.keeps_perform _ amount st chainOp op).addresses.trans
    (Work.addresses_start hkeys hm config op.unwrap)
  have hmarket : (Work.start st.snapshot market config op.unwrap).market = market := rfl
  generalize Work.start st.snapshot market config op.unwrap = w₀ at hl₀ haddr hmarket hroom hch ⊢
  subst hmarket
  have hpm : (w₀.perform st chainOp op amount).position.market = op.market := congrArg Prod.snd haddr
  obtain ⟨hm', -⟩ := Work.finish_ledgerAt haddr st.snapshot
  have hcfg' : ((w₀.perform st chainOp op amount).finish st.snapshot).snapshot.configs.get?
      op.market = some config := by
    rw [hch.configs]
    exact hcfg
  have hpos : ((w₀.perform st chainOp op amount).finish st.snapshot).snapshot.positions =
      st.snapshot.positions.insert op.market (w₀.perform st chainOp op amount).position := by
    simp only [Work.finish, hpm]
  have hs := healthSums_insert hkeys hch hpos chain
  -- the backing moves by the kind, on a market whose indexes and price stay
  have hamount : op.kind.AddsBacking →
      ((w₀.perform st chainOp op amount).finish st.snapshot).amount = amount := by
    rintro (hk | hk) <;>
      simp only [Work.finish, Work.perform, hk, Work.amount_supplyCollateral, Work.amount_borrow]
  have hmove := Work.movesBacking_perform w₀ amount st chainOp op fun hk => by
    have hr := hroom hk w₀.market hm
    rw [hamount hk] at hr
    rw [hl₀]
    exact hr
  rw [hl₀] at hmove
  have hkeep := Work.keeps_perform w₀ amount st chainOp op
  -- both positions are read through the operation's market
  have hp₀ : (st.snapshot.positionAt op.market).market = op.market := hkeys.positionAt_market op.market
  have hm₀ : st.snapshot.markets.get? (st.snapshot.positionAt op.market).market = some w₀.market := by
    rw [hp₀]
    exact hm
  have hc₀ : st.snapshot.configs.get? (st.snapshot.positionAt op.market).market = some config := by
    rw [hp₀]
    exact hcfg
  have hm₁ : ((w₀.perform st chainOp op amount).finish st.snapshot).snapshot.markets.get?
      (w₀.perform st chainOp op amount).position.market = some (w₀.perform st chainOp op amount).market := by
    rw [hpm]
    exact hm'
  have hc₁ : ((w₀.perform st chainOp op amount).finish st.snapshot).snapshot.configs.get?
      (w₀.perform st chainOp op amount).position.market = some config := by
    rw [hpm]
    exact hcfg'
  refine hmove.imp (fun hb => hs.1 ?_) (fun hb => hs.2 ?_)
  · exact healthOf_backs hm₀ hc₀ hm₁ hc₁ hkeep.indexes hkeep.chainUsdPrice hb
  · exact healthOf_backs hm₁ hc₁ hm₀ hc₀ hkeep.indexes.symm hkeep.chainUsdPrice.symm hb

end Snapshot

/-! ## 8. Health moves in the direction of each operation -/

/-- Health moves in the direction of each operation. On any state of a run from a snapshot whose
keys agree, supplying collateral and repaying leave the user at least as healthy, borrowing and
withdrawing collateral at most as healthy, and supplying, withdrawing, claiming and wrapping leave
the totals, the health factor and the usages as they were, whatever matching does to the other
users. The operations that move the user's collateral or debt need fewer than ten thousand
positions, so that no total wraps; supplying collateral and borrowing need room in the user's
scaled balances for the amount. -/
theorem applyOperation_moves_health {s : Snapshot} {st next : SimulatedState} {op : Operation}
    {t : Transition} (hkeys : s.KeysAgree) (hrun : Reaches s st)
    (hfew : op.kind.MovesBacking → st.snapshot.positions.size < 10000)
    (hroom : op.kind.AddsBacking → ∀ market, st.snapshot.markets.get? op.market = some market →
      (st.snapshot.ledgerAt op.market market).BackingRoom market.indexes t.amount.val)
    (h : applyOperation st op = .ok t) (hnext : SimulatedState.derive t.snapshot = .ok next) :
    op.kind.Moves UserView.AtLeastAsHealthy next.user st.user := by
  have hkeys' := hrun.keysAgree hkeys
  -- both views exist, over the one chain context the step keeps
  have hu := (SimulatedState.derive_ok hrun.derive_eq).2.2
  have hu' := (SimulatedState.derive_ok hnext).2.2
  obtain ⟨chain, hch⟩ := Snapshot.chain_of_currentUserView hu
  have hch' : t.snapshot.chain = some chain := by
    rw [(applyOperation_changesOnly hkeys' h).1.chain]
    exact hch
  have hshow := Snapshot.currentUserView_shows hu hch
  have hshow' := Snapshot.currentUserView_shows hu' hch'
  have hsums := Snapshot.healthSums_step hkeys' hroom h chain
  -- with few positions no total wraps, before the step or after it
  have hfit : op.kind.MovesBacking →
      (st.snapshot.healthSums chain).Fit ∧ (t.snapshot.healthSums chain).Fit := fun hk => by
    have hsize : st.snapshot.positions.size < 10000 := hfew hk
    have hsize' : t.snapshot.positions.size ≤ 10000 :=
      Nat.le_trans (applyOperation_size_le hkeys' h) hsize
    exact ⟨Snapshot.healthSums_fit (Nat.le_of_lt hsize) chain, Snapshot.healthSums_fit hsize' chain⟩
  cases hk : op.kind <;> simp only [hk, OperationKind.Moves] at hsums hfit ⊢
  case supplyCollateral | repay =>
    have hf := hfit (by simp [OperationKind.MovesBacking])
    exact hshow.atLeastAsHealthy hshow' hf.1 hf.2 hsums
  case borrow | withdrawCollateral =>
    have hf := hfit (by simp [OperationKind.MovesBacking])
    exact hshow'.atLeastAsHealthy hshow hf.2 hf.1 hsums
  case supply | withdraw | claimRewards | wrap => exact hshow.same hshow' hsums.1 hsums.2

/-- A user with `collateral` scaled collateral and a pool debt of 100 on the market of
`exitSnapshot`, holding one token. -/
def healthSnapshot (collateral : Word) : Snapshot :=
  { exitSnapshot 1 with
    positions := AddrMap.empty.insert exitAsset
      { Position.empty exitAsset with
        scaledCollateral := collateral, scaledBorrowOnPool := 100, walletBalance := 1 } }

/-- Supplying one token as collateral. -/
def supplyOneCollateral : Operation := ⟨.supplyCollateral, exitAsset, 1, false⟩

theorem healthSnapshot_keysAgree (collateral : Word) : (healthSnapshot collateral).KeysAgree := by
  refine ⟨fun e he => ?_, fun e he => ?_⟩
  · rcases AddrMap.mem_insert he with rfl | he
    · rfl
    · cases he
  · rcases AddrMap.mem_insert he with rfl | he
    · rfl
    · cases he

/-- Supplying one token of collateral against a debt of 100 leaves the user at least as
healthy. -/
theorem supplying_collateral_keeps_health :
    ∃ st t next, Reaches (healthSnapshot 100) st ∧ applyOperation st supplyOneCollateral = .ok t ∧
      SimulatedState.derive t.snapshot = .ok next ∧
      supplyOneCollateral.kind.Moves UserView.AtLeastAsHealthy next.user st.user := by
  have hreach : Reaches (healthSnapshot 100) _ := .start rfl rfl
  refine ⟨_, _, _, hreach, rfl, rfl, ?_⟩
  refine applyOperation_moves_health (healthSnapshot_keysAgree 100) hreach (fun _ => by decide)
    ?_ rfl rfl
  -- the market the step reads is the one stored, at unit indexes
  intro _ market hm
  have e : some market = some (exitState exitAsset 100) := hm.symm.trans (by decide)
  cases e
  exact ⟨⟨by decide, by decide, by decide, by decide⟩, by decide, by decide, by decide⟩

/-- Supplying collateral can leave the user less healthy: on a scaled collateral of
`2^256 - 1`, one more token wraps the collateral around to zero, and the health factor falls. -/
theorem supplyCollateral_wraps_collateral :
    ∃ st t next, Reaches (healthSnapshot Word.maxValue) st ∧
      applyOperation st supplyOneCollateral = .ok t ∧ SimulatedState.derive t.snapshot = .ok next ∧
      (t.snapshot.positionAt exitAsset).scaledCollateral = 0 ∧
      next.user.healthFactor < st.user.healthFactor :=
  ⟨_, _, _, .start rfl rfl, rfl, rfl, by decide, by decide⟩

end PeerLending
