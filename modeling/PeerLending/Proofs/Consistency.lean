import PeerLending.Proofs.Frame
import PeerLending.Proofs.Rounding
import PeerLending.Proofs.Quotients

/-!
# Balances stay held in their aggregates

A snapshot is consistent when every market's aggregates on the pool fit in the pool's totals,
and the user's scaled balances on a market are held in that market's aggregates
(`Snapshot.Consistent`). The moves an operation makes keep this, part by part: a balance the
user gains is added to its aggregate and to the pool's total alike, and a balance the user gives
up is taken out of all three.

Matching is where it can fail. Promoting pool borrowers against a supply takes their debt off
the layer's pool aggregate without asking whose debt it is; if the user's own pool debt is all
there is, the aggregate drops below it (`supply_matches_own_debt`). The same holds of a borrow
against the user's pool supply, and of a repayment or a withdrawal that sends the user's own
peer-to-peer balance on the other side back to the pool. A user who keeps to one side of each
market (`Snapshot.OneSided`) is never matched against themselves: then every step of a run is
consistent (`simulateWithThreshold_consistent`), as long as every entry is stored under its own
key, the indexes are at least one ray and the totals have room for the amounts, so that nothing
wraps.
-/

set_option autoImplicit false

namespace PeerLending

/-! ## 1. Conversions at an index of at least one ray -/

section Conversions

variable {x y s i : Word}

/-- At an index of at least one ray, an amount is no smaller than its quotient. -/
theorem rayDiv_le_self (hR : ray.val ≤ i.val) : rayDiv x i ≤ x := by
  have hi : i.val ≠ 0 := Nat.pos_iff_ne_zero.1 (Nat.lt_of_lt_of_le (by decide) hR)
  rw [Word.le_iff_val_le, rayDiv, val_mulDiv_halfUp _ _ _ hi]
  -- the numerator is at most `x * ray + i / 2`, whether or not the product saturates
  have hxr : x.val * ray.val ≤ x.val * i.val := Nat.mul_le_mul_left _ hR
  have hnum : (if satProduct x.val ray.val + i.val / 2 < wordSize then
      satProduct x.val ray.val + i.val / 2 else wordSize - 1) ≤ x.val * ray.val + i.val / 2 := by
    unfold satProduct
    have hhalf : 0 < i.val / 2 := Nat.div_pos (Nat.le_trans (by decide) hR) (by decide)
    generalize x.val * ray.val = p at *
    split <;> split <;> omega
  refine Nat.le_of_lt_succ ((Nat.div_lt_iff_lt_mul (Nat.pos_iff_ne_zero.2 hi)).2 ?_)
  rw [Nat.succ_mul]
  have hlt : i.val / 2 < i.val := Nat.div_lt_self (Nat.pos_iff_ne_zero.2 hi) (by decide)
  generalize x.val * ray.val = p at *
  generalize x.val * i.val = q at *
  omega

/-- A larger amount has a quotient no smaller. -/
theorem rayDiv_mono (h : x ≤ y) : rayDiv x i ≤ rayDiv y i :=
  mulDiv_mono .halfUp h (Nat.le_refl ray.val)

/-- At an index of at least one ray, a balance worth nothing is empty. -/
theorem eq_zero_of_rayMul_eq_zero (hR : ray.val ≤ i.val) (h : (rayMul s i).val = 0) :
    s.val = 0 := by
  rw [rayMul, val_mulDiv_halfUp _ _ _ (by decide)] at h
  refine Nat.eq_zero_of_not_pos fun hs => ?_
  have hsi : ray.val ≤ s.val * i.val := Nat.le_trans hR (Nat.le_mul_of_pos_left _ hs)
  have hsat : ray.val ≤ satProduct s.val i.val := by
    unfold satProduct
    split
    · exact hsi
    · exact Nat.le_trans (Nat.le_of_lt (by decide)) (Nat.le_refl _)
  have hnum : ray.val ≤ (if satProduct s.val i.val + ray.val / 2 < wordSize then
      satProduct s.val i.val + ray.val / 2 else wordSize - 1) := by
    split
    · omega
    · exact Nat.le_of_lt (by decide)
  have := Nat.div_pos hnum (by decide)
  omega

end Conversions

/-! ## 2. Consistent ledgers -/

namespace Ledger

/-- The user's scaled balances are held in the layer's aggregates, and the layer's aggregates on
the pool fit in the pool's totals. -/
structure Consistent (l : Ledger) : Prop where
  held : l.Held
  supply : l.layerSupplyOnPool.val + l.layerCollateral.val ≤ l.poolSupply.val
  borrow : l.layerBorrowOnPool ≤ l.poolBorrow

instance (l : Ledger) : Decidable l.Held :=
  decidable_of_iff (l.userSupplyOnPool ≤ l.layerSupplyOnPool ∧ l.userBorrowOnPool ≤ l.layerBorrowOnPool ∧
      l.userCollateral ≤ l.layerCollateral ∧ l.userSupplyInP2P ≤ l.supplyInP2P ∧
      l.userBorrowInP2P ≤ l.borrowInP2P)
    ⟨fun ⟨h1, h2, h3, h4, h5⟩ => ⟨h1, h2, h3, h4, h5⟩, fun ⟨h1, h2, h3, h4, h5⟩ => ⟨h1, h2, h3, h4, h5⟩⟩

instance (l : Ledger) : Decidable l.Consistent :=
  decidable_of_iff (l.Held ∧ l.layerSupplyOnPool.val + l.layerCollateral.val ≤ l.poolSupply.val ∧
      l.layerBorrowOnPool ≤ l.poolBorrow)
    ⟨fun ⟨h1, h2, h3⟩ => ⟨h1, h2, h3⟩, fun ⟨h1, h2, h3⟩ => ⟨h1, h2, h3⟩⟩

/-- Each total an operation can grow has room for `r` more before it wraps. -/
structure Room (l : Ledger) (r : Nat) : Prop where
  poolSupply : l.poolSupply.val + r < wordSize
  poolBorrow : l.poolBorrow.val + r < wordSize
  supplyInP2P : l.supplyInP2P.val + r < wordSize
  borrowInP2P : l.borrowInP2P.val + r < wordSize

/-- No total grows by more than `a` from `l` to `l'`. -/
structure GrowsBy (l l' : Ledger) (a : Nat) : Prop where
  poolSupply : l'.poolSupply.val ≤ l.poolSupply.val + a
  poolBorrow : l'.poolBorrow.val ≤ l.poolBorrow.val + a
  supplyInP2P : l'.supplyInP2P.val ≤ l.supplyInP2P.val + a
  borrowInP2P : l'.borrowInP2P.val ≤ l.borrowInP2P.val + a

/-- The user's debt on the market, on the pool and peer-to-peer. -/
def debt (l : Ledger) : Word × Word := (l.userBorrowOnPool, l.userBorrowInP2P)

/-- The user's supply on the market, on the pool and peer-to-peer (collateral apart). -/
def credit (l : Ledger) : Word × Word := (l.userSupplyOnPool, l.userSupplyInP2P)

variable {l l' l'' : Ledger} {a b r : Nat}

theorem Room.mono (h : l.Room a) (hba : b ≤ a) : l.Room b :=
  ⟨by have := h.1; omega, by have := h.2; omega, by have := h.3; omega, by have := h.4; omega⟩

/-- What grows by at most `a` leaves the room there was, less `a`. -/
theorem Room.after (h : l.Room (r + a)) (hg : GrowsBy l l' a) : l'.Room r :=
  ⟨by have := h.1; have := hg.1; omega, by have := h.2; have := hg.2; omega,
    by have := h.3; have := hg.3; omega, by have := h.4; have := hg.4; omega⟩

/-- What does not grow leaves the room there was. -/
theorem Room.keep (h : l.Room r) (hg : GrowsBy l l' 0) : l'.Room r :=
  ⟨by have := h.1; have := hg.1; omega, by have := h.2; have := hg.2; omega,
    by have := h.3; have := hg.3; omega, by have := h.4; have := hg.4; omega⟩

theorem GrowsBy.refl (l : Ledger) (a : Nat) : GrowsBy l l a :=
  ⟨Nat.le_add_right _ _, Nat.le_add_right _ _, Nat.le_add_right _ _, Nat.le_add_right _ _⟩

theorem GrowsBy.trans (h : GrowsBy l l' a) (h' : GrowsBy l' l'' b) : GrowsBy l l'' (a + b) :=
  ⟨by have := h.1; have := h'.1; omega, by have := h.2; have := h'.2; omega,
    by have := h.3; have := h'.3; omega, by have := h.4; have := h'.4; omega⟩

theorem GrowsBy.mono (h : GrowsBy l l' a) (hab : a ≤ b) : GrowsBy l l' b :=
  ⟨by have := h.1; omega, by have := h.2; omega, by have := h.3; omega, by have := h.4; omega⟩

end Ledger

/-- All four indexes of a market are at least one ray. -/
structure Indexes.AtLeastRay (idx : Indexes) : Prop where
  supplyPool : ray.val ≤ idx.supply.poolIndex.val
  supplyP2P : ray.val ≤ idx.supply.p2pIndex.val
  borrowPool : ray.val ≤ idx.borrow.poolIndex.val
  borrowP2P : ray.val ≤ idx.borrow.p2pIndex.val

/-- What is left of a balance after taking out an amount leaves room for the quotient of any
smaller amount, unless nothing is left. -/
theorem removeScaled_rest {s x y i : Word} (hy : y ≤ x) :
    (removeScaled s x i).1.val + (rayDiv y i).val ≤ s.val ∨ (removeScaled s x i).1.val = 0 := by
  have hmono : (rayDiv y i).val ≤ (rayDiv x i).val := rayDiv_mono hy
  unfold removeScaled
  split
  · exact .inr rfl
  · dsimp only
    rw [Word.val_sub_of_le (Word.min_le_right _ _), Word.val_min]
    split
    · exact .inl (by omega)
    · exact .inr (Nat.sub_self _)

/-- The side of a market the user keeps to: a lender supplies and withdraws, a borrower borrows
and repays. Collateral is posted and taken on either side. -/
inductive Side where
  | lender
  | borrower
deriving DecidableEq, Repr

namespace Side

/-- Whether an operation kind keeps to the side. -/
def allows : Side → OperationKind → Bool
  | .lender, .borrow | .lender, .repay => false
  | .borrower, .supply | .borrower, .withdraw => false
  | _, _ => true

/-- The user's balances on the other side: a lender's debt, a borrower's supply. -/
def other : Side → Ledger → Word × Word
  | .lender, l => l.debt
  | .borrower, l => l.credit

/-- The user holds nothing on the other side. -/
def Holds (side : Side) (l : Ledger) : Prop := side.other l = (0, 0)

variable {side : Side} {k : OperationKind} {l : Ledger}

/-- A supply or a withdrawal is a lender's, who owes nothing. -/
theorem debt_free (h : side.allows k = true) (hk : k = .supply ∨ k = .withdraw)
    (hs : side.Holds l) : l.userBorrowOnPool.val = 0 ∧ l.userBorrowInP2P.val = 0 := by
  cases side
  case borrower => rcases hk with rfl | rfl <;> simp [allows] at h
  case lender =>
    simp only [Holds, other, Ledger.debt, Prod.mk.injEq] at hs
    rw [hs.1, hs.2]
    exact ⟨rfl, rfl⟩

/-- A borrow or a repayment is a borrower's, who supplies nothing. -/
theorem credit_free (h : side.allows k = true) (hk : k = .borrow ∨ k = .repay)
    (hs : side.Holds l) : l.userSupplyOnPool.val = 0 ∧ l.userSupplyInP2P.val = 0 := by
  cases side
  case lender => rcases hk with rfl | rfl <;> simp [allows] at h
  case borrower =>
    simp only [Holds, other, Ledger.credit, Prod.mk.injEq] at hs
    rw [hs.1, hs.2]
    exact ⟨rfl, rfl⟩

end Side

/-- A ledger as a run keeps it: consistent, with room for `r` more in every total, and holding
nothing on the side the user does not take. -/
structure Ledger.Steady (l : Ledger) (side : Side) (r : Nat) : Prop where
  consistent : l.Consistent
  room : l.Room r
  oneSided : side.Holds l

/-! ## 3. The parts of an operation keep ledgers consistent -/

namespace Work

variable {w : Work} {x : Word}

/-- Supplying on the pool adds one quotient to the user's balance, the layer's and the pool's. -/
theorem consistent_supplyPool (hc : w.ledger.Consistent) (hroom : w.ledger.Room x.val)
    (hR : ray.val ≤ w.market.indexes.supply.poolIndex.val) :
    (w.supplyPool x).ledger.Consistent ∧ w.ledger.GrowsBy (w.supplyPool x).ledger x.val := by
  rw [ledger_supplyPool]
  generalize hs : rayDiv x w.market.indexes.supply.poolIndex = s
  have hsx : s.val ≤ x.val := hs ▸ rayDiv_le_self hR
  obtain ⟨⟨h1, h2, h3, h4, h5⟩, h6, h7⟩ := hc
  have hr := hroom.poolSupply
  simp only [Word.le_iff_val_le] at h1 h2 h3 h4 h5 h7
  have e1 := Word.val_add_of_lt (show w.ledger.poolSupply.val + s.val < wordSize by omega)
  have e2 := Word.val_add_of_lt (show w.ledger.layerSupplyOnPool.val + s.val < wordSize by omega)
  have e3 := Word.val_add_of_lt (show w.ledger.userSupplyOnPool.val + s.val < wordSize by omega)
  refine ⟨⟨⟨?_, ?_, ?_, ?_, ?_⟩, ?_, ?_⟩, ?_, ?_, ?_, ?_⟩ <;>
    simp only [Word.le_iff_val_le, e1, e2, e3] <;> omega

/-- Borrowing from the pool adds one quotient to the user's debt, the layer's and the pool's. -/
theorem consistent_borrowPool (hc : w.ledger.Consistent) (hroom : w.ledger.Room x.val)
    (hR : ray.val ≤ w.market.indexes.borrow.poolIndex.val) :
    (w.borrowPool x).ledger.Consistent ∧ w.ledger.GrowsBy (w.borrowPool x).ledger x.val := by
  rw [ledger_borrowPool]
  generalize hs : rayDiv x w.market.indexes.borrow.poolIndex = s
  have hsx : s.val ≤ x.val := hs ▸ rayDiv_le_self hR
  obtain ⟨⟨h1, h2, h3, h4, h5⟩, h6, h7⟩ := hc
  have hr := hroom.poolBorrow
  simp only [Word.le_iff_val_le] at h1 h2 h3 h4 h5 h7
  have e1 := Word.val_add_of_lt (show w.ledger.poolBorrow.val + s.val < wordSize by omega)
  have e2 := Word.val_add_of_lt (show w.ledger.layerBorrowOnPool.val + s.val < wordSize by omega)
  have e3 := Word.val_add_of_lt (show w.ledger.userBorrowOnPool.val + s.val < wordSize by omega)
  refine ⟨⟨⟨?_, ?_, ?_, ?_, ?_⟩, ?_, ?_⟩, ?_, ?_, ?_, ?_⟩ <;>
    simp only [Word.le_iff_val_le, e1, e2, e3] <;> omega

/-- Promoting pool borrowers against the user's supply moves their debt off the pool into
peer-to-peer, and credits the user's peer-to-peer supply: consistent unless the user's own pool
debt is among theirs. -/
theorem consistent_promoteBorrowers (hc : w.ledger.Consistent) (hroom : w.ledger.Room x.val)
    (hu : w.ledger.userBorrowOnPool.val = 0)
    (hRs : ray.val ≤ w.market.indexes.supply.p2pIndex.val)
    (hRb : ray.val ≤ w.market.indexes.borrow.p2pIndex.val) :
    (w.promoteBorrowers x).ledger.Consistent ∧
      w.ledger.GrowsBy (w.promoteBorrowers x).ledger x.val := by
  rw [ledger_promoteBorrowers]
  split
  · exact ⟨hc, .refl _ _⟩
  dsimp only
  have hsplit := removeScaled_split w.ledger.layerBorrowOnPool x w.market.indexes.borrow.poolIndex
  generalize removeScaled w.ledger.layerBorrowOnPool x w.market.indexes.borrow.poolIndex = rem
    at hsplit ⊢
  generalize hs1 : rayDiv x w.market.indexes.supply.p2pIndex = s1
  generalize hs2 : rayDiv x w.market.indexes.borrow.p2pIndex = s2
  have h1x : s1.val ≤ x.val := hs1 ▸ rayDiv_le_self hRs
  have h2x : s2.val ≤ x.val := hs2 ▸ rayDiv_le_self hRb
  obtain ⟨⟨h1, h2, h3, h4, h5⟩, h6, h7⟩ := hc
  have hr3 := hroom.supplyInP2P
  have hr4 := hroom.borrowInP2P
  simp only [Word.le_iff_val_le] at h1 h2 h3 h4 h5 h7
  have e1 := Word.val_add_of_lt (show w.ledger.supplyInP2P.val + s1.val < wordSize by omega)
  have e2 := Word.val_add_of_lt (show w.ledger.borrowInP2P.val + s2.val < wordSize by omega)
  have e3 := Word.val_add_of_lt (show w.ledger.userSupplyInP2P.val + s1.val < wordSize by omega)
  refine ⟨⟨⟨?_, ?_, ?_, ?_, ?_⟩, ?_, ?_⟩, ?_, ?_, ?_, ?_⟩ <;>
    simp only [Word.le_iff_val_le, zeroFloorSub, Word.val_satSub, e1, e2, e3] <;> omega

/-- Promoting pool suppliers against the user's debt moves their supply off the pool into
peer-to-peer, and adds to the user's peer-to-peer debt: consistent unless the user's own pool
supply is among theirs. -/
theorem consistent_promoteSuppliers (hc : w.ledger.Consistent) (hroom : w.ledger.Room x.val)
    (hu : w.ledger.userSupplyOnPool.val = 0)
    (hRs : ray.val ≤ w.market.indexes.supply.p2pIndex.val)
    (hRb : ray.val ≤ w.market.indexes.borrow.p2pIndex.val) :
    (w.promoteSuppliers x).ledger.Consistent ∧
      w.ledger.GrowsBy (w.promoteSuppliers x).ledger x.val := by
  rw [ledger_promoteSuppliers]
  split
  · exact ⟨hc, .refl _ _⟩
  dsimp only
  have hsplit := removeScaled_split w.ledger.layerSupplyOnPool x w.market.indexes.supply.poolIndex
  generalize removeScaled w.ledger.layerSupplyOnPool x w.market.indexes.supply.poolIndex = rem
    at hsplit ⊢
  generalize hs1 : rayDiv x w.market.indexes.supply.p2pIndex = s1
  generalize hs2 : rayDiv x w.market.indexes.borrow.p2pIndex = s2
  have h1x : s1.val ≤ x.val := hs1 ▸ rayDiv_le_self hRs
  have h2x : s2.val ≤ x.val := hs2 ▸ rayDiv_le_self hRb
  obtain ⟨⟨h1, h2, h3, h4, h5⟩, h6, h7⟩ := hc
  have hr3 := hroom.supplyInP2P
  have hr4 := hroom.borrowInP2P
  simp only [Word.le_iff_val_le] at h1 h2 h3 h4 h5 h7
  have e1 := Word.val_add_of_lt (show w.ledger.supplyInP2P.val + s1.val < wordSize by omega)
  have e2 := Word.val_add_of_lt (show w.ledger.borrowInP2P.val + s2.val < wordSize by omega)
  have e3 := Word.val_add_of_lt (show w.ledger.userBorrowInP2P.val + s2.val < wordSize by omega)
  refine ⟨⟨⟨?_, ?_, ?_, ?_, ?_⟩, ?_, ?_⟩, ?_, ?_, ?_, ?_⟩ <;>
    simp only [Word.le_iff_val_le, zeroFloorSub, Word.val_satSub, e1, e2, e3] <;> omega

/-- Repaying pool debt takes the part the user gives up out of the layer's aggregate and the
pool's total. -/
theorem consistent_repayPool (hc : w.ledger.Consistent) :
    (w.repayPool x).ledger.Consistent ∧ w.ledger.GrowsBy (w.repayPool x).ledger 0 := by
  rw [ledger_repayPool]
  split
  · exact ⟨hc, .refl _ _⟩
  dsimp only
  have hsplit := removeScaled_split w.ledger.userBorrowOnPool x w.market.indexes.borrow.poolIndex
  generalize removeScaled w.ledger.userBorrowOnPool x w.market.indexes.borrow.poolIndex = rem
    at hsplit ⊢
  obtain ⟨⟨h1, h2, h3, h4, h5⟩, h6, h7⟩ := hc
  simp only [Word.le_iff_val_le] at h1 h2 h3 h4 h5 h7
  refine ⟨⟨⟨?_, ?_, ?_, ?_, ?_⟩, ?_, ?_⟩, ?_, ?_, ?_, ?_⟩ <;>
    simp only [Word.le_iff_val_le, zeroFloorSub, Word.val_satSub] <;> omega

/-- Withdrawing pool supply takes the part the user gives up out of the layer's aggregate and
the pool's total. -/
theorem consistent_withdrawPool (hc : w.ledger.Consistent) :
    (w.withdrawPool x).ledger.Consistent ∧ w.ledger.GrowsBy (w.withdrawPool x).ledger 0 := by
  rw [ledger_withdrawPool]
  split
  · exact ⟨hc, .refl _ _⟩
  dsimp only
  have hsplit := removeScaled_split w.ledger.userSupplyOnPool x w.market.indexes.supply.poolIndex
  generalize removeScaled w.ledger.userSupplyOnPool x w.market.indexes.supply.poolIndex = rem
    at hsplit ⊢
  obtain ⟨⟨h1, h2, h3, h4, h5⟩, h6, h7⟩ := hc
  simp only [Word.le_iff_val_le] at h1 h2 h3 h4 h5 h7
  refine ⟨⟨⟨?_, ?_, ?_, ?_, ?_⟩, ?_, ?_⟩, ?_, ?_, ?_, ?_⟩ <;>
    simp only [Word.le_iff_val_le, zeroFloorSub, Word.val_satSub] <;> omega

/-- Releasing peer-to-peer debt lowers the user's balance only. -/
theorem consistent_releaseBorrowInP2P (hc : w.ledger.Consistent) :
    (w.releaseBorrowInP2P x).ledger.Consistent ∧
      w.ledger.GrowsBy (w.releaseBorrowInP2P x).ledger 0 := by
  rw [ledger_releaseBorrowInP2P]
  have hsplit := removeScaled_split w.ledger.userBorrowInP2P x w.market.indexes.borrow.p2pIndex
  generalize removeScaled w.ledger.userBorrowInP2P x w.market.indexes.borrow.p2pIndex = rem
    at hsplit ⊢
  obtain ⟨⟨h1, h2, h3, h4, h5⟩, h6, h7⟩ := hc
  simp only [Word.le_iff_val_le] at h1 h2 h3 h4 h5 h7
  refine ⟨⟨⟨?_, ?_, ?_, ?_, ?_⟩, ?_, ?_⟩, ?_, ?_, ?_, ?_⟩ <;>
    simp only [Word.le_iff_val_le] <;> omega

/-- Releasing peer-to-peer supply lowers the user's balance only. -/
theorem consistent_releaseSupplyInP2P (hc : w.ledger.Consistent) :
    (w.releaseSupplyInP2P x).ledger.Consistent ∧
      w.ledger.GrowsBy (w.releaseSupplyInP2P x).ledger 0 := by
  rw [ledger_releaseSupplyInP2P]
  have hsplit := removeScaled_split w.ledger.userSupplyInP2P x w.market.indexes.supply.p2pIndex
  generalize removeScaled w.ledger.userSupplyInP2P x w.market.indexes.supply.p2pIndex = rem
    at hsplit ⊢
  obtain ⟨⟨h1, h2, h3, h4, h5⟩, h6, h7⟩ := hc
  simp only [Word.le_iff_val_le] at h1 h2 h3 h4 h5 h7
  refine ⟨⟨⟨?_, ?_, ?_, ?_, ?_⟩, ?_, ?_⟩, ?_, ?_, ?_, ?_⟩ <;>
    simp only [Word.le_iff_val_le] <;> omega

/-- Backfilling with pool borrowers takes their debt off the pool: consistent when the user has
no pool debt of their own left. -/
theorem consistent_backfillBorrowers (hc : w.ledger.Consistent)
    (hu : w.ledger.userBorrowOnPool.val = 0) :
    (w.backfillBorrowers x).ledger.Consistent ∧
      w.ledger.GrowsBy (w.backfillBorrowers x).ledger 0 := by
  rw [ledger_backfillBorrowers]
  split
  · exact ⟨hc, .refl _ _⟩
  rw [ledger_removeBorrowOnPool]
  dsimp only
  have hsplit := removeScaled_split w.ledger.layerBorrowOnPool x w.market.indexes.borrow.poolIndex
  generalize removeScaled w.ledger.layerBorrowOnPool x w.market.indexes.borrow.poolIndex = rem
    at hsplit ⊢
  obtain ⟨⟨h1, h2, h3, h4, h5⟩, h6, h7⟩ := hc
  simp only [Word.le_iff_val_le] at h1 h2 h3 h4 h5 h7
  refine ⟨⟨⟨?_, ?_, ?_, ?_, ?_⟩, ?_, ?_⟩, ?_, ?_, ?_, ?_⟩ <;>
    simp only [Word.le_iff_val_le, zeroFloorSub, Word.val_satSub] <;> omega

/-- Backfilling with pool suppliers takes their supply off the pool: consistent when the user has
no pool supply of their own left. -/
theorem consistent_backfillSuppliers (hc : w.ledger.Consistent)
    (hu : w.ledger.userSupplyOnPool.val = 0) :
    (w.backfillSuppliers x).ledger.Consistent ∧
      w.ledger.GrowsBy (w.backfillSuppliers x).ledger 0 := by
  rw [ledger_backfillSuppliers]
  split
  · exact ⟨hc, .refl _ _⟩
  rw [ledger_removeSupplyOnPool]
  dsimp only
  have hsplit := removeScaled_split w.ledger.layerSupplyOnPool x w.market.indexes.supply.poolIndex
  generalize removeScaled w.ledger.layerSupplyOnPool x w.market.indexes.supply.poolIndex = rem
    at hsplit ⊢
  obtain ⟨⟨h1, h2, h3, h4, h5⟩, h6, h7⟩ := hc
  simp only [Word.le_iff_val_le] at h1 h2 h3 h4 h5 h7
  refine ⟨⟨⟨?_, ?_, ?_, ?_, ?_⟩, ?_, ?_⟩, ?_, ?_, ?_, ?_⟩ <;>
    simp only [Word.le_iff_val_le, zeroFloorSub, Word.val_satSub] <;> omega

/-- Demoting peer-to-peer suppliers sends them back to the pool and shrinks both peer-to-peer
totals: consistent when the user supplies nothing peer-to-peer, and their peer-to-peer debt
still fits in the shrunk total. -/
theorem consistent_demoteSuppliers (hc : w.ledger.Consistent) (hroom : w.ledger.Room x.val)
    (hR : ray.val ≤ w.market.indexes.supply.poolIndex.val)
    (hsu : w.ledger.userSupplyInP2P.val = 0)
    (hbu : w.ledger.userBorrowInP2P.val + (rayDiv x w.market.indexes.borrow.p2pIndex).val ≤
      w.ledger.borrowInP2P.val ∨ w.ledger.userBorrowInP2P.val = 0) :
    (w.demoteSuppliers x).ledger.Consistent ∧
      w.ledger.GrowsBy (w.demoteSuppliers x).ledger x.val := by
  rw [ledger_demoteSuppliers]
  split
  · exact ⟨hc, .refl _ _⟩
  dsimp only
  generalize hs : rayDiv x w.market.indexes.supply.poolIndex = s at *
  generalize rayDiv x w.market.indexes.supply.p2pIndex = d₁ at *
  generalize rayDiv x w.market.indexes.borrow.p2pIndex = d₂ at *
  have hsx : s.val ≤ x.val := hs ▸ rayDiv_le_self hR
  obtain ⟨⟨h1, h2, h3, h4, h5⟩, h6, h7⟩ := hc
  have hr := hroom.poolSupply
  simp only [Word.le_iff_val_le] at h1 h2 h3 h4 h5 h7
  have e1 := Word.val_add_of_lt (show w.ledger.poolSupply.val + s.val < wordSize by omega)
  have e2 := Word.val_add_of_lt (show w.ledger.layerSupplyOnPool.val + s.val < wordSize by omega)
  refine ⟨⟨⟨?_, ?_, ?_, ?_, ?_⟩, ?_, ?_⟩, ?_, ?_, ?_, ?_⟩ <;>
    simp only [Word.le_iff_val_le, zeroFloorSub, Word.val_satSub, e1, e2] <;> omega

/-- Demoting peer-to-peer borrowers sends them back to the pool and shrinks both peer-to-peer
totals: consistent when the user owes nothing peer-to-peer, and their peer-to-peer supply still
fits in the shrunk total. -/
theorem consistent_demoteBorrowers (hc : w.ledger.Consistent) (hroom : w.ledger.Room x.val)
    (hR : ray.val ≤ w.market.indexes.borrow.poolIndex.val)
    (hbu : w.ledger.userBorrowInP2P.val = 0)
    (hsu : w.ledger.userSupplyInP2P.val + (rayDiv x w.market.indexes.supply.p2pIndex).val ≤
      w.ledger.supplyInP2P.val ∨ w.ledger.userSupplyInP2P.val = 0) :
    (w.demoteBorrowers x).ledger.Consistent ∧
      w.ledger.GrowsBy (w.demoteBorrowers x).ledger x.val := by
  rw [ledger_demoteBorrowers]
  split
  · exact ⟨hc, .refl _ _⟩
  dsimp only
  generalize hs : rayDiv x w.market.indexes.borrow.poolIndex = s at *
  generalize rayDiv x w.market.indexes.supply.p2pIndex = d₁ at *
  generalize rayDiv x w.market.indexes.borrow.p2pIndex = d₂ at *
  have hsx : s.val ≤ x.val := hs ▸ rayDiv_le_self hR
  obtain ⟨⟨h1, h2, h3, h4, h5⟩, h6, h7⟩ := hc
  have hr := hroom.poolBorrow
  simp only [Word.le_iff_val_le] at h1 h2 h3 h4 h5 h7
  have e1 := Word.val_add_of_lt (show w.ledger.poolBorrow.val + s.val < wordSize by omega)
  have e2 := Word.val_add_of_lt (show w.ledger.layerBorrowOnPool.val + s.val < wordSize by omega)
  refine ⟨⟨⟨?_, ?_, ?_, ?_, ?_⟩, ?_, ?_⟩, ?_, ?_, ?_, ?_⟩ <;>
    simp only [Word.le_iff_val_le, zeroFloorSub, Word.val_satSub, e1, e2] <;> omega

/-! ### What each part leaves of the user's balances -/

section Sides

variable (w : Work) (x : Word)

@[simp] theorem debt_promoteBorrowers : (w.promoteBorrowers x).ledger.debt = w.ledger.debt := by
  rw [ledger_promoteBorrowers]
  split <;> rfl

@[simp] theorem debt_supplyPool : (w.supplyPool x).ledger.debt = w.ledger.debt := by
  rw [ledger_supplyPool]
  rfl

@[simp] theorem debt_withdrawPool : (w.withdrawPool x).ledger.debt = w.ledger.debt := by
  rw [ledger_withdrawPool]
  split <;> rfl

@[simp] theorem debt_releaseSupplyInP2P : (w.releaseSupplyInP2P x).ledger.debt = w.ledger.debt := by
  rw [ledger_releaseSupplyInP2P]
  rfl

@[simp] theorem credit_promoteSuppliers : (w.promoteSuppliers x).ledger.credit = w.ledger.credit := by
  rw [ledger_promoteSuppliers]
  split <;> rfl

@[simp] theorem credit_borrowPool : (w.borrowPool x).ledger.credit = w.ledger.credit := by
  rw [ledger_borrowPool]
  rfl

@[simp] theorem credit_repayPool : (w.repayPool x).ledger.credit = w.ledger.credit := by
  rw [ledger_repayPool]
  split <;> rfl

@[simp] theorem credit_releaseBorrowInP2P :
    (w.releaseBorrowInP2P x).ledger.credit = w.ledger.credit := by
  rw [ledger_releaseBorrowInP2P]
  rfl

/-- Backfilling and demoting move the aggregates and totals, never the user's balances. -/
theorem user_backfillBorrowers : (w.backfillBorrowers x).ledger.debt = w.ledger.debt ∧
    (w.backfillBorrowers x).ledger.credit = w.ledger.credit ∧
    (w.backfillBorrowers x).ledger.borrowInP2P = w.ledger.borrowInP2P := by
  rw [ledger_backfillBorrowers]
  split
  · exact ⟨rfl, rfl, rfl⟩
  · exact ⟨rfl, rfl, rfl⟩

theorem user_backfillSuppliers : (w.backfillSuppliers x).ledger.debt = w.ledger.debt ∧
    (w.backfillSuppliers x).ledger.credit = w.ledger.credit ∧
    (w.backfillSuppliers x).ledger.supplyInP2P = w.ledger.supplyInP2P := by
  rw [ledger_backfillSuppliers]
  split
  · exact ⟨rfl, rfl, rfl⟩
  · exact ⟨rfl, rfl, rfl⟩

theorem user_demoteSuppliers : (w.demoteSuppliers x).ledger.debt = w.ledger.debt ∧
    (w.demoteSuppliers x).ledger.credit = w.ledger.credit := by
  rw [ledger_demoteSuppliers]
  split
  · exact ⟨rfl, rfl⟩
  · exact ⟨rfl, rfl⟩

theorem user_demoteBorrowers : (w.demoteBorrowers x).ledger.debt = w.ledger.debt ∧
    (w.demoteBorrowers x).ledger.credit = w.ledger.credit := by
  rw [ledger_demoteBorrowers]
  split
  · exact ⟨rfl, rfl⟩
  · exact ⟨rfl, rfl⟩

end Sides

/-! ### Paying back and taking out peer-to-peer -/

/-- Repaying peer-to-peer debt, once the user's pool debt is gone: the suppliers it frees are
matched with pool borrowers or sent back to the pool. Consistent when the user supplies nothing
peer-to-peer, so that none of the demoted suppliers is the user. -/
theorem consistent_repayP2P (hc : w.ledger.Consistent) (hroom : w.ledger.Room x.val)
    (hidx : w.market.indexes.AtLeastRay) (hpool : w.ledger.userBorrowOnPool.val = 0)
    (hsu : w.ledger.userSupplyInP2P.val = 0) :
    (w.repayP2P x).ledger.Consistent ∧ w.ledger.GrowsBy (w.repayP2P x).ledger x.val := by
  unfold repayP2P
  split
  · exact ⟨hc, .refl _ _⟩
  dsimp only
  -- the user's peer-to-peer debt goes down first
  have h₁ := @consistent_releaseBorrowInP2P w x hc
  have hp₁ : (w.releaseBorrowInP2P x).ledger.userBorrowOnPool = w.ledger.userBorrowOnPool := by
    rw [ledger_releaseBorrowInP2P]
  have hs₁ := congrArg Prod.snd (credit_releaseBorrowInP2P w x)
  -- then freed suppliers are matched with pool borrowers, whose debt leaves the pool
  have hpx := matchable_le (w.releaseBorrowInP2P x) x (w.releaseBorrowInP2P x).protocolBorrowOnPool
  generalize (w.releaseBorrowInP2P x).matchable x (w.releaseBorrowInP2P x).protocolBorrowOnPool
    = p at hpx ⊢
  have h₂ := @consistent_backfillBorrowers (w.releaseBorrowInP2P x) p h₁.1 (by rw [hp₁]; exact hpool)
  obtain ⟨hd₂, hc₂, hb₂⟩ := user_backfillBorrowers (w.releaseBorrowInP2P x) p
  have hi₂ := ((quiet_releaseBorrowInP2P w x).trans (quiet_backfillBorrowers _ p)).indexes
  -- the rest of them are demoted; the user's remaining debt fits in the shrunk total
  have hbu : ((w.releaseBorrowInP2P x).backfillBorrowers p).ledger.userBorrowInP2P.val +
      (rayDiv (x - p)
        ((w.releaseBorrowInP2P x).backfillBorrowers p).market.indexes.borrow.p2pIndex).val ≤
        ((w.releaseBorrowInP2P x).backfillBorrowers p).ledger.borrowInP2P.val ∨
      ((w.releaseBorrowInP2P x).backfillBorrowers p).ledger.userBorrowInP2P.val = 0 := by
    have hu₂ : ((w.releaseBorrowInP2P x).backfillBorrowers p).ledger.userBorrowInP2P =
        (w.releaseBorrowInP2P x).ledger.userBorrowInP2P := congrArg Prod.snd hd₂
    rw [hu₂, hb₂, hi₂]
    simp only [ledger_releaseBorrowInP2P]
    have hheld := Word.le_iff_val_le.1 hc.held.borrowInP2P
    rcases @removeScaled_rest w.ledger.userBorrowInP2P x (x - p) w.market.indexes.borrow.p2pIndex
      (Word.sub_le_self hpx) with h | h
    · exact .inl (by omega)
    · exact .inr h
  have hsu₂ : ((w.releaseBorrowInP2P x).backfillBorrowers p).ledger.userSupplyInP2P.val = 0 := by
    have hs₂ : ((w.releaseBorrowInP2P x).backfillBorrowers p).ledger.userSupplyInP2P =
        w.ledger.userSupplyInP2P := (congrArg Prod.snd hc₂).trans hs₁
    rw [hs₂]
    exact hsu
  have hroom₂ := ((hroom.keep h₁.2).keep h₂.2).mono
    (Word.le_iff_val_le.1 (Word.sub_le_self hpx))
  have hR : ray.val ≤
      ((w.releaseBorrowInP2P x).backfillBorrowers p).market.indexes.supply.poolIndex.val := by
    rw [hi₂]
    exact hidx.supplyPool
  have h₃ := @consistent_demoteSuppliers _ (x - p) h₂.1 hroom₂ hR hsu₂ hbu
  refine ⟨h₃.1, ((h₁.2.trans h₂.2).trans h₃.2).mono ?_⟩
  have := Word.le_iff_val_le.1 (Word.sub_le_self hpx)
  omega

/-- Taking out peer-to-peer supply, once the user's pool supply is gone: the borrowers it frees
are matched with pool suppliers or sent back to the pool. Consistent when the user owes nothing
peer-to-peer, so that none of the demoted borrowers is the user. -/
theorem consistent_withdrawP2P (hc : w.ledger.Consistent) (hroom : w.ledger.Room x.val)
    (hidx : w.market.indexes.AtLeastRay) (hpool : w.ledger.userSupplyOnPool.val = 0)
    (hbu : w.ledger.userBorrowInP2P.val = 0) :
    (w.withdrawP2P x).ledger.Consistent ∧ w.ledger.GrowsBy (w.withdrawP2P x).ledger x.val := by
  unfold withdrawP2P
  split
  · exact ⟨hc, .refl _ _⟩
  dsimp only
  -- the user's peer-to-peer supply goes down first
  have h₁ := @consistent_releaseSupplyInP2P w x hc
  have hp₁ : (w.releaseSupplyInP2P x).ledger.userSupplyOnPool = w.ledger.userSupplyOnPool := by
    rw [ledger_releaseSupplyInP2P]
  have hb₁ := congrArg Prod.snd (debt_releaseSupplyInP2P w x)
  -- then freed borrowers are matched with pool suppliers, whose supply leaves the pool
  have hpx := matchable_le (w.releaseSupplyInP2P x) x (w.releaseSupplyInP2P x).protocolSupplyOnPool
  generalize (w.releaseSupplyInP2P x).matchable x (w.releaseSupplyInP2P x).protocolSupplyOnPool
    = p at hpx ⊢
  have h₂ := @consistent_backfillSuppliers (w.releaseSupplyInP2P x) p h₁.1 (by rw [hp₁]; exact hpool)
  obtain ⟨hd₂, hc₂, hs₂⟩ := user_backfillSuppliers (w.releaseSupplyInP2P x) p
  have hi₂ := ((quiet_releaseSupplyInP2P w x).trans (quiet_backfillSuppliers _ p)).indexes
  -- the rest of them are demoted; the user's remaining supply fits in the shrunk total
  have hsu : ((w.releaseSupplyInP2P x).backfillSuppliers p).ledger.userSupplyInP2P.val +
      (rayDiv (x - p)
        ((w.releaseSupplyInP2P x).backfillSuppliers p).market.indexes.supply.p2pIndex).val ≤
        ((w.releaseSupplyInP2P x).backfillSuppliers p).ledger.supplyInP2P.val ∨
      ((w.releaseSupplyInP2P x).backfillSuppliers p).ledger.userSupplyInP2P.val = 0 := by
    have hu₂ : ((w.releaseSupplyInP2P x).backfillSuppliers p).ledger.userSupplyInP2P =
        (w.releaseSupplyInP2P x).ledger.userSupplyInP2P := congrArg Prod.snd hc₂
    rw [hu₂, hs₂, hi₂]
    simp only [ledger_releaseSupplyInP2P]
    have hheld := Word.le_iff_val_le.1 hc.held.supplyInP2P
    rcases @removeScaled_rest w.ledger.userSupplyInP2P x (x - p) w.market.indexes.supply.p2pIndex
      (Word.sub_le_self hpx) with h | h
    · exact .inl (by omega)
    · exact .inr h
  have hbu₂ : ((w.releaseSupplyInP2P x).backfillSuppliers p).ledger.userBorrowInP2P.val = 0 := by
    have hb₂ : ((w.releaseSupplyInP2P x).backfillSuppliers p).ledger.userBorrowInP2P =
        w.ledger.userBorrowInP2P := (congrArg Prod.snd hd₂).trans hb₁
    rw [hb₂]
    exact hbu
  have hroom₂ := ((hroom.keep h₁.2).keep h₂.2).mono
    (Word.le_iff_val_le.1 (Word.sub_le_self hpx))
  have hR : ray.val ≤
      ((w.releaseSupplyInP2P x).backfillSuppliers p).market.indexes.borrow.poolIndex.val := by
    rw [hi₂]
    exact hidx.borrowPool
  have h₃ := @consistent_demoteBorrowers _ (x - p) h₂.1 hroom₂ hR hbu₂ hsu
  refine ⟨h₃.1, ((h₁.2.trans h₂.2).trans h₃.2).mono ?_⟩
  have := Word.le_iff_val_le.1 (Word.sub_le_self hpx)
  omega

/-- Repaying the whole pool debt leaves none. -/
theorem repayPool_clears {w : Work} (hR : ray.val ≤ w.market.indexes.borrow.poolIndex.val) :
    ((w.repayPool (rayMul w.ledger.userBorrowOnPool w.market.indexes.borrow.poolIndex)).ledger.userBorrowOnPool).val =
      0 := by
  rw [ledger_repayPool]
  split
  · exact eq_zero_of_rayMul_eq_zero hR ‹_›
  · dsimp only
    rw [removeScaled, if_pos (Word.le_iff_val_le.2 (Nat.le_refl _))]
    rfl

/-- Withdrawing the whole pool supply leaves none. -/
theorem withdrawPool_clears {w : Work} (hR : ray.val ≤ w.market.indexes.supply.poolIndex.val) :
    ((w.withdrawPool (rayMul w.ledger.userSupplyOnPool w.market.indexes.supply.poolIndex)).ledger.userSupplyOnPool).val =
      0 := by
  rw [ledger_withdrawPool]
  split
  · exact eq_zero_of_rayMul_eq_zero hR ‹_›
  · dsimp only
    rw [removeScaled, if_pos (Word.le_iff_val_le.2 (Nat.le_refl _))]
    rfl

/-- What a pool-first split leaves for peer-to-peer is nothing unless the pool part is all of
the pool balance. -/
theorem sub_min_eq_zero {a b : Word} (h : ¬b.val < a.val) : (a - Word.min a b).val = 0 := by
  rw [Word.val_sub_of_le (Word.min_le_left _ _), Word.val_min]
  split <;> omega

theorem min_eq_right_of_lt {a b : Word} (h : b.val < a.val) : Word.min a b = b := by
  unfold Word.min
  rw [if_neg (Word.not_lt_of_le (Nat.le_of_lt h))]

/-! ### Collateral

Collateral sits on the pool: supplying it adds one quotient to the pool's supply, the layer's
collateral and the user's; taking it out removes the part `removeScaled` gives up from all
three. -/

section Collateral

variable (w : Work) (a : Word)

theorem ledger_supplyCollateral : (w.supplyCollateral a).ledger =
    { w.ledger with
      poolSupply := w.ledger.poolSupply + rayDiv a w.market.indexes.supply.poolIndex
      layerCollateral := w.ledger.layerCollateral + rayDiv a w.market.indexes.supply.poolIndex
      userCollateral := w.ledger.userCollateral + rayDiv a w.market.indexes.supply.poolIndex } := by
  -- the wallet and the cap are checked first, and move no balance
  have hl : ((({ w with amount := a } : Work).debitWallet a).checkSupplyCap a).ledger = w.ledger := by
    simp
  have hi : ((({ w with amount := a } : Work).debitWallet a).checkSupplyCap a).market.indexes =
      w.market.indexes :=
    ((keepsAmount_debitWallet _ a).trans (keepsAmount_checkSupplyCap _ a)).indexes
  rw [← hl, ← hi]
  rfl

theorem ledger_withdrawCollateral (headroom : Option Word) :
    (w.withdrawCollateral a headroom).ledger =
      let collateral := rayMul w.ledger.userCollateral w.market.indexes.supply.poolIndex
      let removed := removeScaled w.ledger.userCollateral (if collateral < a then collateral else a)
        w.market.indexes.supply.poolIndex
      { w.ledger with
        poolSupply := zeroFloorSub w.ledger.poolSupply removed.2
        layerCollateral := zeroFloorSub w.ledger.layerCollateral removed.2
        userCollateral := removed.1 } := by
  unfold withdrawCollateral
  simp only [clampToBalance_eq, ledger_payOut, ledger_withLiquidity]
  simp only [ledger, Ledger.of, checkLiquidity, withPosition, supplyIndexes, noteIf_eq]
  rfl

end Collateral

theorem consistent_supplyCollateral (hc : w.ledger.Consistent) (hroom : w.ledger.Room x.val)
    (hR : ray.val ≤ w.market.indexes.supply.poolIndex.val) :
    (w.supplyCollateral x).ledger.Consistent ∧
      w.ledger.GrowsBy (w.supplyCollateral x).ledger x.val := by
  rw [ledger_supplyCollateral]
  generalize hs : rayDiv x w.market.indexes.supply.poolIndex = s
  have hsx : s.val ≤ x.val := hs ▸ rayDiv_le_self hR
  obtain ⟨⟨h1, h2, h3, h4, h5⟩, h6, h7⟩ := hc
  have hr := hroom.poolSupply
  simp only [Word.le_iff_val_le] at h1 h2 h3 h4 h5 h7
  have e1 := Word.val_add_of_lt (show w.ledger.poolSupply.val + s.val < wordSize by omega)
  have e2 := Word.val_add_of_lt (show w.ledger.layerCollateral.val + s.val < wordSize by omega)
  have e3 := Word.val_add_of_lt (show w.ledger.userCollateral.val + s.val < wordSize by omega)
  refine ⟨⟨⟨?_, ?_, ?_, ?_, ?_⟩, ?_, ?_⟩, ?_, ?_, ?_, ?_⟩ <;>
    simp only [Word.le_iff_val_le, e1, e2, e3] <;> omega

theorem consistent_withdrawCollateral (hc : w.ledger.Consistent) (headroom : Option Word) :
    (w.withdrawCollateral x headroom).ledger.Consistent ∧
      w.ledger.GrowsBy (w.withdrawCollateral x headroom).ledger 0 := by
  rw [ledger_withdrawCollateral]
  dsimp only
  generalize hrem : removeScaled w.ledger.userCollateral _ w.market.indexes.supply.poolIndex = rem
  have hsplit := hrem ▸ removeScaled_split _ _ _
  obtain ⟨⟨h1, h2, h3, h4, h5⟩, h6, h7⟩ := hc
  simp only [Word.le_iff_val_le] at h1 h2 h3 h4 h5 h7
  refine ⟨⟨⟨?_, ?_, ?_, ?_, ?_⟩, ?_, ?_⟩, ?_, ?_, ?_, ?_⟩ <;>
    simp only [Word.le_iff_val_le, zeroFloorSub, Word.val_satSub] <;> omega

/-! ### The six market operations

Each operation first checks and notes, which moves no balance, and then makes its moves. The
lemmas below take the work as it stands after the checks, with the ledger and indexes it started
from. -/

section Operations

variable {w₁ : Work} {l : Ledger} {idx : Indexes} {a : Word}

/-- A supply: pool borrowers promoted first, the rest on the pool. -/
theorem consistent_supplyFrom (hl : w₁.ledger = l) (hi : w₁.market.indexes = idx)
    (hc : l.Consistent) (hroom : l.Room a.val) (hidx : idx.AtLeastRay)
    (hu : l.userBorrowOnPool.val = 0) :
    (((w₁.promoteBorrowers (w₁.matchable a w₁.protocolBorrowOnPool)).supplyPool
        (a - w₁.matchable a w₁.protocolBorrowOnPool)).withLiquidity (· + a)).ledger.Consistent ∧
      l.GrowsBy (((w₁.promoteBorrowers (w₁.matchable a w₁.protocolBorrowOnPool)).supplyPool
        (a - w₁.matchable a w₁.protocolBorrowOnPool)).withLiquidity (· + a)).ledger a.val := by
  subst hl hi
  have hma := matchable_le w₁ a w₁.protocolBorrowOnPool
  generalize w₁.matchable a w₁.protocolBorrowOnPool = m at hma ⊢
  have hm := Word.le_iff_val_le.1 hma
  have hsplit : a.val = (a - m).val + m.val := by rw [Word.val_sub_of_le hma]; omega
  have h₁ := @consistent_promoteBorrowers w₁ m hc (hroom.mono hm) hu hidx.supplyP2P hidx.borrowP2P
  rw [hsplit] at hroom
  have h₂ := @consistent_supplyPool (w₁.promoteBorrowers m) (a - m) h₁.1 (hroom.after h₁.2)
    (by rw [(quiet_promoteBorrowers _ _).indexes]; exact hidx.supplyPool)
  exact ⟨h₂.1, (h₁.2.trans h₂.2).mono (by omega)⟩

/-- A borrow: pool suppliers promoted first, the rest from the pool. -/
theorem consistent_borrowFrom (hl : w₁.ledger = l) (hi : w₁.market.indexes = idx)
    (hc : l.Consistent) (hroom : l.Room a.val) (hidx : idx.AtLeastRay)
    (hu : l.userSupplyOnPool.val = 0) :
    ((((w₁.promoteSuppliers (w₁.matchable a w₁.protocolSupplyOnPool)).borrowPool
        (a - w₁.matchable a w₁.protocolSupplyOnPool)).withLiquidity (zeroFloorSub · a)).payOut
          a).ledger.Consistent ∧
      l.GrowsBy ((((w₁.promoteSuppliers (w₁.matchable a w₁.protocolSupplyOnPool)).borrowPool
        (a - w₁.matchable a w₁.protocolSupplyOnPool)).withLiquidity (zeroFloorSub · a)).payOut
          a).ledger a.val := by
  subst hl hi
  rw [ledger_payOut, ledger_withLiquidity]
  have hma := matchable_le w₁ a w₁.protocolSupplyOnPool
  generalize w₁.matchable a w₁.protocolSupplyOnPool = m at hma ⊢
  have hm := Word.le_iff_val_le.1 hma
  have hsplit : a.val = (a - m).val + m.val := by rw [Word.val_sub_of_le hma]; omega
  have h₁ := @consistent_promoteSuppliers w₁ m hc (hroom.mono hm) hu hidx.supplyP2P hidx.borrowP2P
  rw [hsplit] at hroom
  have h₂ := @consistent_borrowPool (w₁.promoteSuppliers m) (a - m) h₁.1 (hroom.after h₁.2)
    (by rw [(quiet_promoteSuppliers _ _).indexes]; exact hidx.borrowPool)
  exact ⟨h₂.1, (h₁.2.trans h₂.2).mono (by omega)⟩

/-- A repayment: pool debt first, then peer-to-peer debt. Past the pool debt the user's pool
debt is gone, which is what the peer-to-peer part needs. -/
theorem consistent_repayFrom {onPool : Word} {b : Nat} (hl : w₁.ledger = l)
    (hi : w₁.market.indexes = idx) (hc : l.Consistent) (hroom : l.Room b) (hidx : idx.AtLeastRay)
    (hsu : l.userSupplyInP2P.val = 0)
    (hon : onPool = rayMul l.userBorrowOnPool idx.borrow.poolIndex) (hab : a.val ≤ b) :
    (((w₁.repayPool (Word.min a onPool)).repayP2P (a - Word.min a onPool)).withLiquidity
        (· + a)).ledger.Consistent ∧
      l.GrowsBy (((w₁.repayPool (Word.min a onPool)).repayP2P (a - Word.min a onPool)).withLiquidity
        (· + a)).ledger b := by
  subst hl hi hon
  rw [ledger_withLiquidity]
  replace hroom := hroom.mono hab
  by_cases hlt : (rayMul w₁.ledger.userBorrowOnPool w₁.market.indexes.borrow.poolIndex).val < a.val
  case neg =>
    rw [repayP2P, if_pos (sub_min_eq_zero hlt)]
    exact (consistent_repayPool hc).imp id (·.mono (Nat.zero_le _))
  case pos =>
    rw [min_eq_right_of_lt hlt]
    have h₁ := @consistent_repayPool w₁
      (rayMul w₁.ledger.userBorrowOnPool w₁.market.indexes.borrow.poolIndex) hc
    have hsu₁ : (w₁.repayPool (rayMul w₁.ledger.userBorrowOnPool
        w₁.market.indexes.borrow.poolIndex)).ledger.userSupplyInP2P = w₁.ledger.userSupplyInP2P :=
      congrArg Prod.snd (credit_repayPool _ _)
    have h₂ := consistent_repayP2P h₁.1 ((hroom.keep h₁.2).mono (Word.le_iff_val_le.1
        (Word.sub_le_self (Nat.le_of_lt hlt)))) (by rw [(quiet_repayPool _ _).indexes]; exact hidx)
      (repayPool_clears hidx.borrowPool) (by rw [hsu₁]; exact hsu)
    exact ⟨h₂.1, (h₁.2.trans h₂.2).mono (by
      have := Word.le_iff_val_le.1 (Word.sub_le_self (Nat.le_of_lt hlt)); omega)⟩

/-- A withdrawal: pool supply first, then peer-to-peer supply. -/
theorem consistent_withdrawFrom {onPool : Word} {b : Nat} (hl : w₁.ledger = l)
    (hi : w₁.market.indexes = idx) (hc : l.Consistent) (hroom : l.Room b)
    (hidx : idx.AtLeastRay) (hbu : l.userBorrowInP2P.val = 0)
    (hon : onPool = rayMul l.userSupplyOnPool idx.supply.poolIndex) (hab : a.val ≤ b) :
    ((((w₁.withdrawPool (Word.min a onPool)).withdrawP2P (a - Word.min a onPool)).withLiquidity
        (zeroFloorSub · a)).payOut a).ledger.Consistent ∧
      l.GrowsBy ((((w₁.withdrawPool (Word.min a onPool)).withdrawP2P
        (a - Word.min a onPool)).withLiquidity (zeroFloorSub · a)).payOut a).ledger b := by
  subst hl hi hon
  rw [ledger_payOut, ledger_withLiquidity]
  replace hroom := hroom.mono hab
  by_cases hlt : (rayMul w₁.ledger.userSupplyOnPool w₁.market.indexes.supply.poolIndex).val < a.val
  case neg =>
    rw [withdrawP2P, if_pos (sub_min_eq_zero hlt)]
    exact (consistent_withdrawPool hc).imp id (·.mono (Nat.zero_le _))
  case pos =>
    rw [min_eq_right_of_lt hlt]
    have h₁ := @consistent_withdrawPool w₁
      (rayMul w₁.ledger.userSupplyOnPool w₁.market.indexes.supply.poolIndex) hc
    have hbu₁ : (w₁.withdrawPool (rayMul w₁.ledger.userSupplyOnPool
        w₁.market.indexes.supply.poolIndex)).ledger.userBorrowInP2P = w₁.ledger.userBorrowInP2P :=
      congrArg Prod.snd (debt_withdrawPool _ _)
    have h₂ := consistent_withdrawP2P h₁.1 ((hroom.keep h₁.2).mono (Word.le_iff_val_le.1
        (Word.sub_le_self (Nat.le_of_lt hlt)))) (by rw [(quiet_withdrawPool _ _).indexes]; exact hidx)
      (withdrawPool_clears hidx.supplyPool) (by rw [hbu₁]; exact hbu)
    exact ⟨h₂.1, (h₁.2.trans h₂.2).mono (by
      have := Word.le_iff_val_le.1 (Word.sub_le_self (Nat.le_of_lt hlt)); omega)⟩

end Operations

/-! ### The operations as the user calls them

The checks and notes come first, then the moves above. -/

section Calls

variable {w : Work} {x : Word}

/-- A clamped amount is at most the amount asked for. -/
theorem clamp_le {d a : Word} : (if d < a then d else a).val ≤ a.val := by
  split
  · exact Nat.le_of_lt ‹d < a›
  · exact Nat.le_refl _

theorem consistent_supply (hc : w.ledger.Consistent) (hroom : w.ledger.Room x.val)
    (hidx : w.market.indexes.AtLeastRay) (hu : w.ledger.userBorrowOnPool.val = 0) :
    (w.supply x).ledger.Consistent ∧ w.ledger.GrowsBy (w.supply x).ledger x.val := by
  unfold supply
  exact consistent_supplyFrom (by simp) (by simp [debitWallet, checkSupplyCap, noteIf_eq]) hc hroom
    hidx hu

theorem consistent_borrow (hc : w.ledger.Consistent) (hroom : w.ledger.Room x.val)
    (hidx : w.market.indexes.AtLeastRay) (hu : w.ledger.userSupplyOnPool.val = 0)
    (headroom : Word) :
    (w.borrow x headroom).ledger.Consistent ∧
      w.ledger.GrowsBy (w.borrow x headroom).ledger x.val := by
  unfold borrow
  exact consistent_borrowFrom (by simp) (by simp [checkLiquidity, checkBorrowCap, noteIf_eq]) hc
    hroom hidx hu

theorem consistent_repay (hc : w.ledger.Consistent) (hroom : w.ledger.Room x.val)
    (hidx : w.market.indexes.AtLeastRay) (hsu : w.ledger.userSupplyInP2P.val = 0) :
    (w.repay x).ledger.Consistent ∧ w.ledger.GrowsBy (w.repay x).ledger x.val := by
  unfold repay
  dsimp only
  rw [clampToBalance_eq]
  -- the repayment is clamped to the debt, and the clamp moves no balance
  exact consistent_repayFrom (by simp [noteIf_eq]; rfl) (by simp [debitWallet, noteIf_eq]) hc hroom
    hidx hsu rfl clamp_le

theorem consistent_withdraw (hc : w.ledger.Consistent) (hroom : w.ledger.Room x.val)
    (hidx : w.market.indexes.AtLeastRay) (hbu : w.ledger.userBorrowInP2P.val = 0) :
    (w.withdraw x).ledger.Consistent ∧ w.ledger.GrowsBy (w.withdraw x).ledger x.val := by
  unfold withdraw
  dsimp only
  rw [clampToBalance_eq]
  exact consistent_withdrawFrom (by simp [noteIf_eq]; rfl) (by simp [checkLiquidity, noteIf_eq]) hc
    hroom hidx hbu rfl clamp_le

end Calls

/-! ### What an operation keeps

A supply or a withdrawal leaves the user's debt alone, a borrow or a repayment the user's
supply, and collateral neither. -/

section Keeps

variable (w : Work) (x : Word)

@[simp] theorem credit_repayP2P : (w.repayP2P x).ledger.credit = w.ledger.credit := by
  unfold repayP2P
  split
  · rfl
  · dsimp only
    rw [(user_demoteSuppliers _ _).2, (user_backfillBorrowers _ _).2.1, credit_releaseBorrowInP2P]

@[simp] theorem debt_withdrawP2P : (w.withdrawP2P x).ledger.debt = w.ledger.debt := by
  unfold withdrawP2P
  split
  · rfl
  · dsimp only
    rw [(user_demoteBorrowers _ _).1, (user_backfillSuppliers _ _).1, debt_releaseSupplyInP2P]

theorem debt_supply : (w.supply x).ledger.debt = w.ledger.debt := by
  simp [supply]

theorem credit_borrow (headroom : Word) : (w.borrow x headroom).ledger.credit = w.ledger.credit := by
  simp [borrow]

theorem credit_repay : (w.repay x).ledger.credit = w.ledger.credit := by
  simp only [repay, clampToBalance_eq, ledger_withLiquidity, credit_repayP2P, credit_repayPool,
    ledger_debitWallet, ledger_amount, ledger_noteIf]

theorem debt_withdraw : (w.withdraw x).ledger.debt = w.ledger.debt := by
  simp only [withdraw, clampToBalance_eq, ledger_payOut, ledger_withLiquidity, debt_withdrawP2P,
    debt_withdrawPool, ledger_checkLiquidity, ledger_amount, ledger_noteIf]

theorem user_supplyCollateral :
    (w.supplyCollateral x).ledger.debt = w.ledger.debt ∧
      (w.supplyCollateral x).ledger.credit = w.ledger.credit := by
  rw [ledger_supplyCollateral]
  exact ⟨rfl, rfl⟩

theorem user_withdrawCollateral (headroom : Option Word) :
    (w.withdrawCollateral x headroom).ledger.debt = w.ledger.debt ∧
      (w.withdrawCollateral x headroom).ledger.credit = w.ledger.credit := by
  rw [ledger_withdrawCollateral]
  exact ⟨rfl, rfl⟩

end Keeps

/-! ### One operation -/

section Perform

variable {w : Work} {a : Word} {side : Side} {op : Operation}

/-- An operation that keeps to the user's side keeps the other side's balances. -/
theorem other_perform (hallow : side.allows op.kind = true) (st : SimulatedState)
    (chain : ChainContext) : side.other (w.perform st chain op a).ledger = side.other w.ledger := by
  unfold perform
  cases side <;> cases hk : op.kind <;> simp only [hk, Side.allows, Bool.false_eq_true] at hallow <;>
    simp [Side.other, debt_supply, debt_withdraw, credit_borrow, credit_repay,
      user_supplyCollateral, user_withdrawCollateral]

/-- One operation keeps a consistent ledger consistent, and grows its totals by at most its
amount, when it keeps to the user's side. -/
theorem consistent_perform (hc : w.ledger.Consistent) (hroom : w.ledger.Room a.val)
    (hidx : w.market.indexes.AtLeastRay) (hside : side.Holds w.ledger)
    (hallow : side.allows op.kind = true) (st : SimulatedState) (chain : ChainContext) :
    (w.perform st chain op a).ledger.Consistent ∧
      w.ledger.GrowsBy (w.perform st chain op a).ledger a.val := by
  unfold perform
  cases hk : op.kind
  case supply =>
    exact consistent_supply hc hroom hidx (Side.debt_free hallow (.inl hk) hside).1
  case supplyCollateral => exact consistent_supplyCollateral hc hroom hidx.supplyPool
  case borrow =>
    exact consistent_borrow hc hroom hidx (Side.credit_free hallow (.inl hk) hside).1 _
  case repay =>
    exact consistent_repay hc hroom hidx (Side.credit_free hallow (.inr hk) hside).2
  case withdraw =>
    exact consistent_withdraw hc hroom hidx (Side.debt_free hallow (.inr hk) hside).2
  case withdrawCollateral =>
    exact (consistent_withdrawCollateral hc _).imp id (·.mono (Nat.zero_le _))
  case claimRewards => exact ⟨hc, .refl _ _⟩
  case wrap => exact ⟨hc, .refl _ _⟩

/-- The step lemma of a run, on the work of one market: an operation that keeps to the user's
side leaves the ledger steady, with its amount spent from the room. -/
theorem steady_perform {r : Nat} (hw : w.ledger.Steady side (r + a.val))
    (hidx : w.market.indexes.AtLeastRay) (hallow : side.allows op.kind = true)
    (st : SimulatedState) (chain : ChainContext) :
    (w.perform st chain op a).ledger.Steady side r := by
  obtain ⟨hc, hg⟩ :=
    consistent_perform hw.consistent (hw.room.mono (Nat.le_add_left _ _)) hidx hw.oneSided hallow
      st chain
  refine ⟨hc, hw.room.after hg, ?_⟩
  unfold Side.Holds
  rw [other_perform hallow]
  exact hw.oneSided

end Perform

end Work

/-! ## 4. Consistent snapshots -/

theorem AddrMap.get?_mapValues {α β : Type} (f : Address → α → β) (m : AddrMap α) (k : Address) :
    (m.mapValues f).get? k = (m.get? k).map (f k) := by
  simp only [AddrMap.mapValues, AddrMap.get?]
  generalize m.entries = entries
  induction entries with
  | nil => rfl
  | cons e rest ih =>
    obtain ⟨k', v⟩ := e
    simp only [List.map, AddrMap.lookup]
    split
    · rename_i h
      subst h
      rfl
    · exact ih

/-- Ageing moves indexes only, never a balance. -/
@[simp] theorem Ledger.of_accrue (market : MarketState) (config : MarketConfig) (now : Nat)
    (p : Position) : Ledger.of (market.accrue config now) p = Ledger.of market p := by
  unfold MarketState.accrue
  split <;> rfl

/-- An amount resolves to at most the amount asked for: the sentinel is the largest word. -/
theorem resolveAmount_val_le {s : Snapshot} {op : Operation} {amount : Word}
    (h : resolveAmount s op = .ok amount) : amount.val ≤ op.amount.val := by
  unfold resolveAmount at h
  split at h
  · rename_i hmax
    have hm : op.amount = Word.maxValue := by simpa [Operation.isMax] using hmax
    rw [hm, Word.val_maxValue]
    have := amount.isLt
    omega
  · cases h
    exact Nat.le_refl _

namespace Ledger.Steady

variable {l : Ledger} {side : Side} {r r' : Nat}

theorem mono (h : l.Steady side r) (hle : r' ≤ r) : l.Steady side r' :=
  ⟨h.consistent, h.room.mono hle, h.oneSided⟩

end Ledger.Steady

namespace Snapshot

/-- The ledger of market `m` of the snapshot: the market's totals and aggregates, with the
user's position on it (an empty one when the user holds none). -/
def ledgerAt (s : Snapshot) (m : Address) (market : MarketState) : Ledger :=
  Ledger.of market ((s.positions.get? m).getD (Position.empty m))

/-- Every market of the snapshot is consistent with the user's position on it. -/
def Consistent (s : Snapshot) : Prop :=
  ∀ m market, s.markets.get? m = some market → (s.ledgerAt m market).Consistent

/-- Every total of every market has room for `r` more. -/
def HasRoom (s : Snapshot) (r : Nat) : Prop :=
  ∀ m market, s.markets.get? m = some market → (s.ledgerAt m market).Room r

/-- Every index of every market is at least one ray. -/
def IndexesAtLeastRay (s : Snapshot) : Prop :=
  ∀ m market, s.markets.get? m = some market → market.indexes.AtLeastRay

/-- The user keeps to one side of every market: the snapshot's positions hold nothing on the
other side, and no operation of the list crosses over. -/
def OneSided (s : Snapshot) (ops : List Operation) : Prop :=
  ∃ side : Address → Side,
    (∀ m market, s.markets.get? m = some market → (side m).Holds (s.ledgerAt m market)) ∧
      ∀ op ∈ ops, (side op.market).allows op.kind = true

/-- What a run keeps of a snapshot: indexes of at least one ray and steady ledgers. -/
def Steady (s : Snapshot) (side : Address → Side) (r : Nat) : Prop :=
  ∀ m market, s.markets.get? m = some market →
    market.indexes.AtLeastRay ∧ (s.ledgerAt m market).Steady (side m) r

variable {s : Snapshot} {side : Address → Side} {r : Nat}

theorem Steady.consistent (h : s.Steady side r) : s.Consistent :=
  fun m market hm => (h m market hm).2.consistent

/-- The markets of an aged snapshot are those of the snapshot, aged, with the same ledgers. -/
theorem ledgerAt_accrue {now : Nat} {m : Address} {market : MarketState}
    (h : (s.accrue now).markets.get? m = some market) :
    ∃ market₀, s.markets.get? m = some market₀ ∧
      (s.accrue now).ledgerAt m market = s.ledgerAt m market₀ := by
  simp only [Snapshot.accrue, AddrMap.get?_mapValues, Option.map_eq_some_iff] at h
  obtain ⟨market₀, hm₀, rfl⟩ := h
  refine ⟨market₀, hm₀, ?_⟩
  unfold ledgerAt
  cases s.configs.get? m with
  | none => rfl
  | some config => exact Ledger.of_accrue _ _ _ _

/-- A run starts steady: on the aged snapshot every ledger is what it was. -/
theorem steady_accrue {now : Nat} (hc : s.Consistent) (hroom : s.HasRoom r)
    (hside : ∀ m market, s.markets.get? m = some market → (side m).Holds (s.ledgerAt m market))
    (hidx : (s.accrue now).IndexesAtLeastRay) : (s.accrue now).Steady side r := by
  intro m market hm
  obtain ⟨market₀, hm₀, hl⟩ := ledgerAt_accrue hm
  rw [hl]
  exact ⟨hidx m market hm, hc m market₀ hm₀, hroom m market₀ hm₀, hside m market₀ hm₀⟩

end Snapshot

/-! ## 5. Runs keep snapshots consistent -/

/-- The amounts of a list of operations added up: the most a run of them adds to a total. -/
def amountTotal : List Operation → Nat
  | [] => 0
  | op :: rest => op.amount.val + amountTotal rest

/-- A wrap credits the wallet, which no ledger reads. -/
theorem WrapsOnly.ledgerAt {m : Address} {s s' : Snapshot} (h : WrapsOnly m s s')
    (market : MarketState) :
    s'.markets = s.markets ∧ s'.ledgerAt m market = s.ledgerAt m market := by
  obtain ⟨_, _, _, _, rfl⟩ := h
  refine ⟨rfl, ?_⟩
  unfold Snapshot.ledgerAt
  dsimp only
  rw [AddrMap.get?_insert, if_pos rfl]
  rfl

/-- Writing back a work filed under `m` puts its market and its ledger under `m`. -/
theorem Work.finish_ledgerAt {w : Work} {m : Address} (hw : w.addresses = (m, m)) (s : Snapshot) :
    (w.finish s).snapshot.markets.get? m = some w.market ∧
      (w.finish s).snapshot.ledgerAt m w.market = w.ledger := by
  have hmu : w.market.underlying = m := congrArg Prod.fst hw
  have hpm : w.position.market = m := congrArg Prod.snd hw
  refine ⟨?_, ?_⟩
  · simp only [Work.finish, AddrMap.get?_insert, hmu, if_pos]
  · unfold Snapshot.ledgerAt
    simp only [Work.finish, AddrMap.get?_insert, hpm, if_pos, Option.getD_some]
    rfl

/-- A market operation performs its work on the market's ledger as the snapshot holds it, and
writes the work back under the operation's market. -/
theorem applyOperation_performs {st : SimulatedState} {op : Operation} {t : Transition}
    (hkeys : st.snapshot.KeysAgree) (hc : op.kind ≠ .claimRewards) (hw : op.kind ≠ .wrap)
    (h : applyOperation st op = .ok t) :
    ∃ (market : MarketState) (w₀ : Work) (chain : ChainContext) (amount : Word),
      st.snapshot.markets.get? op.market = some market ∧
      resolveAmount st.snapshot op = .ok amount ∧
      w₀.ledger = st.snapshot.ledgerAt op.market market ∧ w₀.market.indexes = market.indexes ∧
      (w₀.perform st chain op amount).addresses = (op.market, op.market) ∧
      t = (w₀.perform st chain op amount).finish st.snapshot := by
  obtain ⟨market, config, chain, amount, hm, -, -, hres, -, rfl⟩ := applyOperation_market_ok hc hw h
  have hu : market.underlying = op.market := hkeys.underlying_of_get? hm
  refine ⟨market, Work.start st.snapshot market config op.unwrap, chain, amount, hm, hres, ?_, rfl,
    (Work.keeps_perform _ amount st chain op).addresses.trans (Work.addresses_start hkeys hm config op.unwrap),
    rfl⟩
  unfold Work.ledger Snapshot.ledgerAt Work.start
  rw [hu]

namespace Snapshot

variable {side : Address → Side} {r : Nat}

/-- The step lemma of a run: an operation that keeps to its market's side leaves a steady
snapshot steady, with its amount spent from the room. Another market, and the market of a claim
or a wrap, keep their ledgers; the market of a market operation is the work written back. -/
theorem Steady.step {st : SimulatedState} {op : Operation} {t : Transition}
    (hkeys : st.snapshot.KeysAgree) (hs : st.snapshot.Steady side (r + op.amount.val))
    (hallow : (side op.market).allows op.kind = true) (h : applyOperation st op = .ok t) :
    t.snapshot.Steady side r := by
  obtain ⟨hch, -, -, hclaim, hwrap, -⟩ := applyOperation_changesOnly hkeys h
  have hspent : r ≤ r + op.amount.val := Nat.le_add_right _ _
  intro m market hm
  by_cases hmo : m = op.market
  case neg =>
    rw [hch.markets m hmo] at hm
    have hl : t.snapshot.ledgerAt m market = st.snapshot.ledgerAt m market := by
      unfold ledgerAt
      rw [hch.positions m hmo]
    rw [hl]
    exact (hs m market hm).imp id (·.mono hspent)
  subst hmo
  by_cases hc : op.kind = .claimRewards
  · obtain ⟨_, _, _, _, heq⟩ := hclaim hc
    rw [heq] at hm ⊢
    exact (hs _ market hm).imp id (·.mono hspent)
  by_cases hw : op.kind = .wrap
  · obtain ⟨hmarkets, hl⟩ := (hwrap hw).ledgerAt market
    rw [hl]
    exact (hs _ market (hmarkets ▸ hm)).imp id (·.mono hspent)
  obtain ⟨market₀, w₀, chain, amount, hm₀, hres, hl₀, hi₀, haddr, rfl⟩ :=
    applyOperation_performs hkeys hc hw h
  have hsteady := hs op.market market₀ hm₀
  have hw₁ := @Work.steady_perform w₀ amount (side op.market) op r
    (by rw [hl₀]; exact hsteady.2.mono (by have := resolveAmount_val_le hres; omega))
    (hi₀ ▸ hsteady.1) hallow st chain
  have hi₁ := (Work.keeps_perform w₀ amount st chain op).indexes.trans hi₀
  -- the work is written back under the operation's market
  obtain ⟨hm', hl'⟩ := Work.finish_ledgerAt haddr st.snapshot
  rw [hm', Option.some.injEq] at hm
  subst hm
  rw [hl']
  exact ⟨hi₁ ▸ hsteady.1, hw₁⟩

end Snapshot

/-- The run lemma: from a steady state with room for every remaining amount, every step a run
keeps is consistent. -/
theorem runFrom_consistent {side : Address → Side} (ops : List Operation) :
    ∀ (i : Nat) (current : SimulatedState) (log log' : RunLog) (final : Option SimulatedState),
      (∀ op ∈ ops, (side op.market).allows op.kind = true) → current.snapshot.KeysAgree →
      current.snapshot.Steady side (amountTotal ops) →
      (∀ st ∈ log.steps, st.snapshot.Consistent) →
      runFrom ops i current log = .ok (log', final) → ∀ st ∈ log'.steps, st.snapshot.Consistent := by
  induction ops with
  | nil =>
    intro i current log log' final _ _ _ hlog h
    simp only [runFrom, Except.ok.injEq, Prod.mk.injEq] at h
    obtain ⟨rfl, rfl⟩ := h
    exact hlog
  | cons op rest ih =>
    intro i current log log' final hallow hkeys hs hlog h
    rw [runFrom] at h
    cases happ : applyOperation current op with
    | error f =>
      rw [happ] at h
      cases f with
      | overflow => cases h
      | blocked k =>
        cases h
        exact hlog
    | ok t =>
      simp only [happ] at h
      have hsteps := (RunLog.foldl_note t.issues log i (some op)).1
      rw [amountTotal, Nat.add_comm] at hs
      have ht := Snapshot.Steady.step hkeys hs (hallow op List.mem_cons_self) happ
      cases hder : SimulatedState.derive t.snapshot with
      | error e =>
        rw [hder] at h
        split at h
        · cases h
        · cases h
          exact fun st hst => hlog st (by rw [← hsteps]; exact hst)
        · contradiction
      | ok next =>
        rw [hder] at h
        have hnext : next.snapshot = t.snapshot := (SimulatedState.derive_ok hder).1
        refine ih (i + 1) next _ log' final (fun o ho => hallow o (List.mem_cons_of_mem _ ho))
          (hnext ▸ hkeys.applyOperation rfl happ) (hnext ▸ ht) ?_ h
        intro st hst
        simp only [List.mem_append, List.mem_singleton, hsteps] at hst
        rcases hst with hst | rfl
        · exact hlog st hst
        · exact hnext ▸ ht.consistent

/-- Consistency is an invariant of a simulation in which the user keeps to one side of every
market: from a consistent snapshot whose keys agree, whose aged indexes are at least one ray and
whose totals have room for every amount of the list, the snapshot of every step is consistent. -/
theorem simulateWithThreshold_consistent {s : Snapshot} {ops : List Operation} {threshold : Word}
    {o : SimulationOutcome} (hkeys : s.KeysAgree) (hc : s.Consistent) (hone : s.OneSided ops)
    (hroom : s.HasRoom (amountTotal ops))
    (hidx : ∀ chain : ChainContext, s.chain = some chain →
      (s.accrue chain.timestamp).IndexesAtLeastRay)
    (h : simulateWithThreshold s ops threshold = .ok o) :
    ∀ st ∈ o.steps, st.snapshot.Consistent := by
  obtain ⟨side, hside, hallow⟩ := hone
  unfold simulateWithThreshold at h
  split at h
  · cases h
    exact fun _ h => by cases h
  · rename_i chain hchain
    split at h
    · cases h
    · cases h
      exact fun _ h => by cases h
    · rename_i start hstart
      have hs₀ := (SimulatedState.derive_ok hstart).1
      cases hrun : runFrom ops 0 start ⟨[], none⟩ with
      | error e =>
        rw [hrun] at h
        cases h
      | ok r =>
        obtain ⟨log, final⟩ := r
        have hsteps := runFrom_consistent ops 0 start ⟨[], none⟩ log final hallow
          (hs₀ ▸ hkeys.accrue _) (hs₀ ▸ Snapshot.steady_accrue hc hroom hside (hidx chain hchain))
          (fun _ h => by cases h) hrun
        rw [hrun] at h
        cases final with
        | none =>
          cases h
          exact hsteps
        | some f =>
          cases h
          split <;> simpa [RunLog.note] using hsteps

/-! ## 6. Matched against oneself

A user who borrows on the pool and then supplies the same asset is promoted against their own
debt: the layer's debt on the pool shrinks by the amount, the user's does not, and the user's
debt on the pool is no longer held in the layer's. -/

/-- A snapshot with one market keeps it under its own asset. -/
theorem AddrMap.get?_single {α : Type} {a k : Address} {v x : α}
    (h : (AddrMap.empty.insert a v).get? k = some x) : k = a ∧ x = v := by
  rw [AddrMap.get?_insert] at h
  by_cases hk : k = a
  · rw [if_pos hk] at h
    exact ⟨hk, (Option.some.inj h).symm⟩
  · rw [if_neg hk] at h
    cases h

/-- The asset of the market. -/
def ownDebtAsset : Address := Address.ofNat 0xaaaaaaaaaaaaaaaaaaaaaaaaaaaaaaaaaaaaaaaa

/-- A market at unit indexes whose whole pool debt of the layer is the user's. -/
def ownDebtState : MarketState where
  underlying := ownDebtAsset
  scaledPoolSupply := 1000
  scaledPoolBorrow := 100
  scaledProtocolSupplyOnPool := 0
  scaledProtocolBorrowOnPool := 100
  scaledProtocolCollateral := 0
  deltas := default
  idleSupply := 0
  indexes := ⟨⟨ray, ray⟩, ⟨ray, ray⟩, 1000⟩
  poolReserve := ⟨ray, ray, 0, 0, 1000⟩
  poolLiquidity := 1000
  chainUsdPrice := 100000000

/-- A configuration of a token of 6 decimals. -/
def ownDebtConfig : MarketConfig where
  underlying := ownDebtAsset
  symbol := "USDC"
  decimals := 6
  collateralFactor := 8500
  borrowableFactor := 8000
  p2pReserveFactor := 0
  p2pIndexCursor := 5000
  supplyCap := 0
  borrowCap := 0
  pause := {}
  eModeCategory := 0
  wrappedNative := false

/-- The user owes 100 on the pool and holds 1000 tokens. -/
def ownDebtSnapshot : Snapshot where
  chain := some ⟨1, 1000, 200000000000, EMode.none, FeeData.zero⟩
  user := some ⟨Address.ofNat 0x1111111111111111111111111111111111111111, 0, 0, 0⟩
  markets := AddrMap.empty.insert ownDebtAsset ownDebtState
  configs := AddrMap.empty.insert ownDebtAsset ownDebtConfig
  positions := AddrMap.empty.insert ownDebtAsset
    { Position.empty ownDebtAsset with scaledBorrowOnPool := 100, walletBalance := 1000 }

/-- A supply of 50. -/
def ownDebtSupply : Operation := ⟨.supply, ownDebtAsset, 50, false⟩

/-- A repayment of 50. -/
def ownDebtRepay : Operation := ⟨.repay, ownDebtAsset, 50, false⟩

theorem ownDebtSnapshot_keysAgree : ownDebtSnapshot.KeysAgree := by
  refine ⟨fun e he => ?_, fun e he => ?_⟩
  · rcases AddrMap.mem_insert he with rfl | he
    · rfl
    · cases he
  · rcases AddrMap.mem_insert he with rfl | he
    · rfl
    · cases he

theorem ownDebtSnapshot_consistent : ownDebtSnapshot.Consistent := by
  intro m market hm
  obtain ⟨rfl, rfl⟩ := AddrMap.get?_single hm
  decide

theorem ownDebtSnapshot_hasRoom : ownDebtSnapshot.HasRoom 50 := by
  intro m market hm
  obtain ⟨rfl, rfl⟩ := AddrMap.get?_single hm
  exact ⟨by decide, by decide, by decide, by decide⟩

/-- The market is aged at its own timestamp, so its indexes stay at one ray. -/
theorem ownDebtSnapshot_indexes (chain : ChainContext) (hchain : ownDebtSnapshot.chain = some chain) :
    (ownDebtSnapshot.accrue chain.timestamp).IndexesAtLeastRay := by
  cases hchain
  intro m market hm
  simp only [Snapshot.accrue, AddrMap.get?_mapValues, Option.map_eq_some_iff] at hm
  obtain ⟨market₀, hm₀, rfl⟩ := hm
  obtain ⟨rfl, rfl⟩ := AddrMap.get?_single hm₀
  exact ⟨by decide, by decide, by decide, by decide⟩

/-- The snapshot is consistent, its keys agree, its aged indexes are one ray and its totals have
room: a supply of 50 still leaves a step that is not consistent, the user's own debt promoted. -/
theorem supply_matches_own_debt :
    ownDebtSnapshot.KeysAgree ∧ ownDebtSnapshot.Consistent ∧ ownDebtSnapshot.HasRoom 50 ∧
      (ownDebtSnapshot.accrue 1000).IndexesAtLeastRay ∧
      ∃ o, simulate ownDebtSnapshot [ownDebtSupply] = .ok o ∧
        ∃ st, o.steps = [st] ∧ ¬st.snapshot.Consistent := by
  refine ⟨ownDebtSnapshot_keysAgree, ownDebtSnapshot_consistent, ownDebtSnapshot_hasRoom,
    ownDebtSnapshot_indexes _ rfl, _, rfl, _, rfl, fun hc => ?_⟩
  exact absurd (hc ownDebtAsset _ rfl) (by decide)

/-- Repaying instead keeps to the borrower's side, and every step is consistent. -/
theorem repay_own_debt_consistent :
    ∃ o, simulate ownDebtSnapshot [ownDebtRepay] = .ok o ∧ ∀ st ∈ o.steps, st.snapshot.Consistent := by
  obtain ⟨o, ho⟩ : ∃ o, simulate ownDebtSnapshot [ownDebtRepay] = .ok o := ⟨_, rfl⟩
  have hone : ownDebtSnapshot.OneSided [ownDebtRepay] := by
    refine ⟨fun _ => .borrower, fun m market hm => ?_, fun op hop => ?_⟩
    · obtain ⟨rfl, rfl⟩ := AddrMap.get?_single hm
      rfl
    · rw [List.mem_singleton] at hop
      subst hop
      rfl
  exact ⟨o, ho, simulateWithThreshold_consistent ownDebtSnapshot_keysAgree
    ownDebtSnapshot_consistent hone ownDebtSnapshot_hasRoom ownDebtSnapshot_indexes ho⟩

end PeerLending
