import PeerLending.Proofs.Step

/-!
# Works that differ in the user context only

A market operation reads the user context only to pay the chain's coin out to it, and it never
reads the issues noted so far. Two works that hold the same market, configuration, position and
amount, and differ only in their user context and issues (`Work.Twin`), stay so through every
part of an operation: they move the market and the position alike, and each user context is
credited with the same coin (`Work.Twin.perform`).
-/

set_option autoImplicit false

namespace PeerLending

/-- The user context after `amount` of the chain's coin is paid to it, when `paid`. -/
def creditNative (paid : Bool) (amount : Word) (u : Option Account) : Option Account :=
  if paid then u.map fun x => { x with nativeBalance := x.nativeBalance + amount } else u

@[simp] theorem creditNative_false (amount : Word) (u : Option Account) :
    creditNative false amount u = u := rfl

@[simp] theorem isSome_creditNative (paid : Bool) (amount : Word) (u : Option Account) :
    (creditNative paid amount u).isSome = u.isSome := by
  cases paid <;> cases u <;> rfl

namespace Work

/-- `v` is the work `w` with the user context `u` in place of its own, present exactly when
`w`'s is, and with other issues noted; both pay out the chain's coin exactly when `unwrap`. -/
def Twin (unwrap : Bool) (u : Option Account) (w v : Work) : Prop :=
  w.unwrap = unwrap ∧ u.isSome = w.user.isSome ∧ ∃ is, v = { w with user := u, issues := is }

namespace Twin

variable {b : Bool} {u : Option Account} {w v : Work} (a : Word)

theorem refl (w : Work) : Twin w.unwrap w.user w w := ⟨rfl, rfl, w.issues, rfl⟩

theorem market (h : Twin b u w v) : v.market = w.market := by
  obtain ⟨-, -, is, rfl⟩ := h
  rfl

theorem position (h : Twin b u w v) : v.position = w.position := by
  obtain ⟨-, -, is, rfl⟩ := h
  rfl

theorem amount (h : Twin b u w v) : v.amount = w.amount := by
  obtain ⟨-, -, is, rfl⟩ := h
  rfl

theorem user (h : Twin b u w v) : v.user = u := by
  obtain ⟨-, -, is, rfl⟩ := h
  rfl

theorem matchable (h : Twin b u w v) : v.matchable = w.matchable := by
  obtain ⟨-, -, is, rfl⟩ := h
  rfl

theorem protocolSupplyOnPool (h : Twin b u w v) : v.protocolSupplyOnPool = w.protocolSupplyOnPool := by
  obtain ⟨-, -, is, rfl⟩ := h
  rfl

theorem protocolBorrowOnPool (h : Twin b u w v) : v.protocolBorrowOnPool = w.protocolBorrowOnPool := by
  obtain ⟨-, -, is, rfl⟩ := h
  rfl

/-! ### What each part of an operation does to twins -/

theorem withAmount (h : Twin b u w v) : Twin b u { w with amount := a } { v with amount := a } := by
  obtain ⟨hb, hs, is, rfl⟩ := h
  exact ⟨hb, hs, is, rfl⟩

/-- The conditions may differ: a noted issue is all that depends on them. -/
theorem noteIf (h : Twin b u w v) (c c' : Bool) (k k' : IssueKind) :
    Twin b u (w.noteIf c k) (v.noteIf c' k') := by
  obtain ⟨hb, hs, is, rfl⟩ := h
  rw [noteIf_eq, noteIf_eq]
  exact ⟨hb, hs, _, rfl⟩

theorem debitWallet (h : Twin b u w v) : Twin b u (w.debitWallet a) (v.debitWallet a) := by
  obtain ⟨hb, hs, is, hv⟩ := h.noteIf (decide (w.position.walletBalance < a))
    (decide (v.position.walletBalance < a)) .insufficientWalletBalance .insufficientWalletBalance
  unfold Work.debitWallet
  dsimp only
  rw [hv]
  exact ⟨hb, hs, is, rfl⟩

theorem checkLiquidity (h : Twin b u w v) : Twin b u (w.checkLiquidity a) (v.checkLiquidity a) :=
  h.noteIf _ _ _ _

theorem checkSupplyCap (h : Twin b u w v) : Twin b u (w.checkSupplyCap a) (v.checkSupplyCap a) :=
  h.noteIf _ _ _ _

theorem checkBorrowCap (h : Twin b u w v) : Twin b u (w.checkBorrowCap a) (v.checkBorrowCap a) :=
  h.noteIf _ _ _ _

theorem clampToBalance (h : Twin b u w v) (c : Word) :
    Twin b u (w.clampToBalance a c).1 (v.clampToBalance a c).1 ∧
      (v.clampToBalance a c).2 = (w.clampToBalance a c).2 := by
  rw [clampToBalance_eq, clampToBalance_eq]
  exact ⟨h.noteIf _ _ _ _, rfl⟩

theorem withLiquidity (h : Twin b u w v) (f : Word → Word) :
    Twin b u (w.withLiquidity f) (v.withLiquidity f) := by
  obtain ⟨hb, hs, is, rfl⟩ := h
  exact ⟨hb, hs, is, rfl⟩

theorem supplyPool (h : Twin b u w v) : Twin b u (w.supplyPool a) (v.supplyPool a) := by
  obtain ⟨hb, hs, is, rfl⟩ := h
  exact ⟨hb, hs, is, rfl⟩

theorem borrowPool (h : Twin b u w v) : Twin b u (w.borrowPool a) (v.borrowPool a) := by
  obtain ⟨hb, hs, is, rfl⟩ := h
  exact ⟨hb, hs, is, rfl⟩

theorem promoteBorrowers (h : Twin b u w v) :
    Twin b u (w.promoteBorrowers a) (v.promoteBorrowers a) := by
  obtain ⟨hb, hs, is, rfl⟩ := h
  unfold Work.promoteBorrowers
  split <;> exact ⟨hb, hs, is, rfl⟩

theorem promoteSuppliers (h : Twin b u w v) :
    Twin b u (w.promoteSuppliers a) (v.promoteSuppliers a) := by
  obtain ⟨hb, hs, is, rfl⟩ := h
  unfold Work.promoteSuppliers
  split <;> exact ⟨hb, hs, is, rfl⟩

theorem repayPool (h : Twin b u w v) : Twin b u (w.repayPool a) (v.repayPool a) := by
  obtain ⟨hb, hs, is, rfl⟩ := h
  unfold Work.repayPool
  split <;> exact ⟨hb, hs, is, rfl⟩

theorem withdrawPool (h : Twin b u w v) : Twin b u (w.withdrawPool a) (v.withdrawPool a) := by
  obtain ⟨hb, hs, is, rfl⟩ := h
  unfold Work.withdrawPool
  split <;> exact ⟨hb, hs, is, rfl⟩

theorem backfillBorrowers (h : Twin b u w v) :
    Twin b u (w.backfillBorrowers a) (v.backfillBorrowers a) := by
  obtain ⟨hb, hs, is, rfl⟩ := h
  unfold Work.backfillBorrowers
  split <;> exact ⟨hb, hs, is, rfl⟩

theorem backfillSuppliers (h : Twin b u w v) :
    Twin b u (w.backfillSuppliers a) (v.backfillSuppliers a) := by
  obtain ⟨hb, hs, is, rfl⟩ := h
  unfold Work.backfillSuppliers
  split <;> exact ⟨hb, hs, is, rfl⟩

theorem demoteSuppliers (h : Twin b u w v) :
    Twin b u (w.demoteSuppliers a) (v.demoteSuppliers a) := by
  obtain ⟨hb, hs, is, rfl⟩ := h
  unfold Work.demoteSuppliers
  split <;> exact ⟨hb, hs, is, rfl⟩

theorem demoteBorrowers (h : Twin b u w v) :
    Twin b u (w.demoteBorrowers a) (v.demoteBorrowers a) := by
  unfold Work.demoteBorrowers
  split
  · exact h
  · obtain ⟨hb, hs, is, hv⟩ := h.checkBorrowCap a
    rw [hv]
    exact ⟨hb, hs, is, rfl⟩

theorem repayP2P (h : Twin b u w v) : Twin b u (w.repayP2P a) (v.repayP2P a) := by
  obtain ⟨hb, hs, is, rfl⟩ := h
  unfold Work.repayP2P
  split
  · exact ⟨hb, hs, is, rfl⟩
  · -- releasing the user's debt moves no issue and no user context: the twins stay equal
    -- up to the context, and so does the amount matched against pool borrowers
    have h1 : Twin b u (w.releaseBorrowInP2P a) (({ w with user := u, issues := is } : Work).releaseBorrowInP2P a) :=
      ⟨hb, hs, is, rfl⟩
    exact (h1.backfillBorrowers _).demoteSuppliers _

theorem withdrawP2P (h : Twin b u w v) : Twin b u (w.withdrawP2P a) (v.withdrawP2P a) := by
  obtain ⟨hb, hs, is, rfl⟩ := h
  unfold Work.withdrawP2P
  split
  · exact ⟨hb, hs, is, rfl⟩
  · have h1 : Twin b u (w.releaseSupplyInP2P a) (({ w with user := u, issues := is } : Work).releaseSupplyInP2P a) :=
      ⟨hb, hs, is, rfl⟩
    exact (h1.backfillSuppliers _).demoteBorrowers _

/-- A payout is where the user context is read: present in both, or in neither, it is credited
alike. -/
theorem payOut (h : Twin b u w v) : Twin b (creditNative b a u) (w.payOut a) (v.payOut a) := by
  obtain ⟨hb, hs, is, rfl⟩ := h
  subst hb
  unfold Work.payOut
  dsimp only
  cases hw : w.user with
  | none =>
    cases u with
    | some y => simp [hw] at hs
    | none => cases w.unwrap <;> exact ⟨rfl, rfl, is, rfl⟩
  | some x =>
    cases u with
    | none => simp [hw] at hs
    | some y => cases w.unwrap <;> exact ⟨rfl, rfl, is, rfl⟩

/-! ### The six market operations -/

theorem supply (h : Twin b u w v) : Twin b u (w.supply a) (v.supply a) := by
  have h2 := ((h.withAmount a).debitWallet a).checkSupplyCap a
  unfold Work.supply
  dsimp only
  -- the amount matched against pool borrowers reads the market and the configuration
  rw [h2.matchable, h2.protocolBorrowOnPool]
  exact ((h2.promoteBorrowers _).supplyPool _).withLiquidity _

theorem supplyCollateral (h : Twin b u w v) :
    Twin b u (w.supplyCollateral a) (v.supplyCollateral a) := by
  obtain ⟨hb, hs, is, hv⟩ := ((h.withAmount a).debitWallet a).checkSupplyCap a
  unfold Work.supplyCollateral
  dsimp only
  rw [hv]
  exact ⟨hb, hs, is, rfl⟩

theorem borrow (h : Twin b u w v) (r r' : Word) :
    Twin b (creditNative b a u) (w.borrow a r) (v.borrow a r') := by
  have h1 := (((h.withAmount a).noteIf (decide (r < a)) (decide (r' < a)) .collateralCapacityReached
    .collateralCapacityReached).checkLiquidity a).checkBorrowCap a
  unfold Work.borrow
  dsimp only
  rw [h1.matchable, h1.protocolSupplyOnPool]
  exact (((h1.promoteSuppliers _).borrowPool _).withLiquidity _).payOut a

theorem repay (h : Twin b u w v) : Twin b u (w.repay a) (v.repay a) := by
  unfold Work.repay
  simp only [clampToBalance_eq, h.market, h.position]
  exact ((((h.noteIf _ _ _ _).withAmount _).debitWallet _).repayPool _ |>.repayP2P _).withLiquidity _

theorem withdraw (h : Twin b u w v) :
    Twin b (creditNative b (w.withdraw a).amount u) (w.withdraw a) (v.withdraw a) := by
  rw [amount_withdraw]
  unfold Work.withdraw
  simp only [clampToBalance_eq, h.market, h.position]
  exact (((((h.noteIf _ _ _ _).withAmount _).checkLiquidity _).withdrawPool _ |>.withdrawP2P _)
    |>.withLiquidity _).payOut _

theorem withdrawCollateral (h : Twin b u w v) (r r' : Option Word) :
    Twin b (creditNative b (w.withdrawCollateral a r).amount u) (w.withdrawCollateral a r)
      (v.withdrawCollateral a r') := by
  obtain ⟨hb, hs, is, rfl⟩ := h
  rw [amount_withdrawCollateral]
  unfold Work.withdrawCollateral Work.checkLiquidity
  -- with its notes written as appends, the collateral is taken out of records alone
  simp only [clampToBalance_eq, noteIf_eq]
  exact Twin.payOut _ ⟨hb, hs, _, rfl⟩

/-- A market operation started on twins moves the market and the position alike, and pays the
same coin to each user context. -/
theorem perform (h : Twin b u w v) (st st' : SimulatedState) (chain : ChainContext) (op : Operation) :
    Twin b (creditNative (b && op.kind.supportsUnwrap) (w.perform st chain op a).amount u)
      (w.perform st chain op a) (v.perform st' chain op a) := by
  cases hk : op.kind <;>
    simp only [Work.perform, hk, OperationKind.supportsUnwrap, Bool.and_false, Bool.and_true,
      creditNative_false, amount_borrow]
  · exact h.supply a
  · exact h.supplyCollateral a
  · exact h.borrow a _ _
  · exact h.repay a
  · exact h.withdraw a
  · exact h.withdrawCollateral a _ _
  · exact h
  · exact h

end Twin

/-- The work started on a snapshot is a twin of the one started on another snapshot that
holds the same position and a user context present alike. -/
theorem Twin.start {s s' : Snapshot} (market : MarketState) (config : MarketConfig) (unwrap : Bool)
    (hp : s'.positions.get? market.underlying = s.positions.get? market.underlying)
    (hu : s'.user.isSome = s.user.isSome) :
    Twin unwrap s'.user (start s market config unwrap) (start s' market config unwrap) := by
  refine ⟨rfl, hu, [], ?_⟩
  unfold Work.start
  rw [hp]

end Work

end PeerLending
