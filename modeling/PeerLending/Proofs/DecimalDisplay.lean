import PeerLending.Decimal.OfWord
import PeerLending.Decimal.Format
import Mathlib.Algebra.Field.Rat
import Mathlib.Data.Rat.Cast.CharZero
import Mathlib.Tactic.FieldSimp

/-!
# Words shown as decimals, exactly up to the truncation

`ofScaledWith sum v d` shows a word `v` with `d` implied decimals as the decimal sum of its whole
part `I = v / 10^d` and its fraction cut to `k = min d 12` digits,
`F = (v % 10^d) / 10^(d - k)`. The decimal sum comes from outside the library; the conversion
relies on three of its laws for non-negative operands (`Decimal.SumLaws`): a zero operand gives
the other back, an exact sum whose mantissa fits `2^96` at the larger scale is that sum, and a
sum that does not fit drops digits from its end with a rounding to one of its two neighbours, as
long as its whole part fits. The library's own sum `Decimal.add?` has these laws
(`Decimal.add?_sumLaws`).

Main statement, `scaled_display_exact`: for every word and `d ≤ 77` (so that `10^d` is a word),
a whole part above `2^64 - 1` shows as the largest decimal. Otherwise the conversion never
overflows: the kept fraction has at most `k` digits, `I · 10^k + F` is `v` truncated to `k`
digits, the sum is defined, and its value is exactly `I + F / 10^k` while `I · 10^k + F < 2^96`;
past that bound it is that mantissa with some of its last digits dropped and rounded.
-/

set_option autoImplicit false

namespace PeerLending

namespace Decimal

/-! ## 1. Values and the laws of a decimal sum -/

/-- The number a decimal stands for. -/
def value (D : Decimal) : ℚ := (D.numerator : ℚ) / 10 ^ D.scale

theorem value_of_nonneg (m s : Nat) : value ⟨m, s, false⟩ = (m : ℚ) / 10 ^ s := by
  simp [value, numerator, Int.cast_natCast]

/-- A whole part shifted by `k` digits and joined with a fraction of `k` digits stands for the
whole part plus the fraction. -/
theorem value_joined (I F k : Nat) :
    value ⟨I * 10 ^ k + F, k, false⟩ = (I : ℚ) + (F : ℚ) / 10 ^ k := by
  rw [value_of_nonneg]
  push_cast
  field_simp

/-- The mantissa of the exact sum of two non-negative decimals at the larger of their scales. -/
def alignedSum (a b : Decimal) : Nat :=
  a.mantissa * Nat.pow 10 (Nat.max a.scale b.scale - a.scale) +
    b.mantissa * Nat.pow 10 (Nat.max a.scale b.scale - b.scale)

/-- `r` is `m` with its last `j` digits dropped and rounded to one of its two neighbours: at least
the truncation, and less than one above the exact quotient. -/
def RoundsTo (m j r : Nat) : Prop := m / 10 ^ j ≤ r ∧ r * 10 ^ j < m + 10 ^ j

theorem roundsTo_shifted (I k : Nat) : RoundsTo (I * 10 ^ k) k I := by
  have hpos : 0 < 10 ^ k := Nat.pow_pos (by decide)
  refine ⟨by rw [Nat.mul_div_cancel _ hpos], ?_⟩
  omega

/-- What the display conversion relies on of a decimal sum of two non-negative decimals. -/
structure SumLaws (sum : Decimal → Decimal → Option Decimal) : Prop where
  /-- A zero left operand gives the right one back, scale and all. -/
  zero_left : ∀ a b : Decimal, a.negative = false → b.negative = false → a.mantissa = 0 →
    sum a b = some b
  /-- A zero right operand gives the left one back, scale and all. -/
  zero_right : ∀ a b : Decimal, a.negative = false → b.negative = false → a.mantissa ≠ 0 →
    b.mantissa = 0 → sum a b = some a
  /-- An exact sum whose mantissa fits at the larger scale is the sum. -/
  exact : ∀ a b : Decimal, a.negative = false → b.negative = false → a.mantissa ≠ 0 →
    b.mantissa ≠ 0 → alignedSum a b < mantissaBound →
    sum a b = some ⟨alignedSum a b, Nat.max a.scale b.scale, false⟩
  /-- A sum that does not fit, but whose whole part does with room for a carry, drops `j` digits
  from its end and rounds. -/
  rounds : ∀ a b : Decimal, a.negative = false → b.negative = false → a.mantissa ≠ 0 →
    b.mantissa ≠ 0 → mantissaBound ≤ alignedSum a b →
    alignedSum a b / 10 ^ Nat.max a.scale b.scale + 1 < mantissaBound →
    ∃ j r, 0 < j ∧ j ≤ Nat.max a.scale b.scale ∧ r < mantissaBound ∧ RoundsTo (alignedSum a b) j r ∧
      sum a b = some ⟨r, Nat.max a.scale b.scale - j, false⟩

theorem mantissaBound_eq : mantissaBound = 2 ^ 96 := Nat.pow_eq

/-! ## 2. The library's sum has these laws -/

theorem divRoundHalfEven_one (n : Nat) : divRoundHalfEven n 1 = n := by
  simp [divRoundHalfEven, Nat.mod_one]

/-- Half-even rounding of `n / q` gives the floor or, when there is a remainder, one more. -/
theorem divRoundHalfEven_bounds (n : Nat) {q : Nat} (hq : 0 < q) :
    n / q ≤ divRoundHalfEven n q ∧ divRoundHalfEven n q * q < n + q ∧
      divRoundHalfEven n q ≤ n / q + 1 := by
  have hn := Nat.div_add_mod n q
  have hr := Nat.mod_lt n hq
  simp only [divRoundHalfEven]
  split
  · -- rounding up needs a remainder of at least half of `q`, so at least one
    next hup =>
    have hpos : 0 < n % q := by omega
    refine ⟨Nat.le_succ _, ?_, Nat.le_refl _⟩
    rw [Nat.succ_mul, Nat.mul_comm]
    omega
  · refine ⟨Nat.le_refl _, ?_, Nat.le_succ _⟩
    rw [Nat.mul_comm]
    omega

theorem pow_ten_pos (j : Nat) : 0 < Nat.pow 10 j := by
  rw [Nat.pow_eq]
  exact Nat.pow_pos (by decide)

theorem roundsTo_divRoundHalfEven (m j : Nat) :
    RoundsTo m j (divRoundHalfEven m (Nat.pow 10 j)) := by
  obtain ⟨hlo, hhi, -⟩ := divRoundHalfEven_bounds m (pow_ten_pos j)
  rw [Nat.pow_eq] at hlo hhi ⊢
  exact ⟨hlo, hhi⟩

/-- A mantissa that fits keeps every digit: `fit` drops none. -/
theorem fit_of_lt {m : Nat} (s : Nat) (h : m < mantissaBound) : fit m s = some ⟨m, s, false⟩ := by
  have hfirst : (decide (divRoundHalfEven m (Nat.pow 10 0) < mantissaBound)) = true := by
    rw [decide_eq_true_iff]
    exact (divRoundHalfEven_one m).symm ▸ h
  rw [fit, List.range_succ_eq_map,
    @List.find?_cons_of_pos _ (fun k => decide (divRoundHalfEven m (Nat.pow 10 k) < mantissaBound))
      0 _ hfirst, Option.map_some, Nat.sub_zero]
  rw [show Nat.pow 10 0 = 1 from rfl, divRoundHalfEven_one]

/-- A mantissa that does not fit, at a scale whose whole part fits with room for a carry, loses
its last `j` digits for some `j` between one and the scale, rounded half to even. -/
theorem fit_of_le {m s : Nat} (h : mantissaBound ≤ m) (hs : m / 10 ^ s + 1 < mantissaBound) :
    ∃ j r, 0 < j ∧ j ≤ s ∧ r < mantissaBound ∧ RoundsTo m j r ∧ fit m s = some ⟨r, s - j, false⟩ := by
  cases hfind : (List.range (s + 1)).find?
      (fun k => decide (divRoundHalfEven m (Nat.pow 10 k) < mantissaBound)) with
  | none =>
    -- dropping every digit after the point always fits, so the search cannot fail
    have hall := List.find?_eq_none.1 hfind s (List.mem_range.2 (Nat.lt_succ_self s))
    have hle := (divRoundHalfEven_bounds m (pow_ten_pos s)).2.2
    rw [Nat.pow_eq] at hall hle
    exact absurd (decide_eq_true (Nat.lt_of_le_of_lt hle hs)) hall
  | some j =>
    have hfound := List.find?_some hfind
    have hfits : divRoundHalfEven m (Nat.pow 10 j) < mantissaBound := of_decide_eq_true hfound
    have hj := List.mem_range.1 (List.mem_of_find?_eq_some hfind)
    -- keeping every digit does not fit, so at least one is dropped
    have hj0 : j ≠ 0 := by
      rintro rfl
      rw [show Nat.pow 10 0 = 1 from rfl, divRoundHalfEven_one] at hfits
      omega
    refine ⟨j, _, Nat.pos_of_ne_zero hj0, Nat.le_of_lt_succ hj, hfits,
      roundsTo_divRoundHalfEven m j, ?_⟩
    simp only [fit, hfind, Option.map_some]

/-- The library's decimal sum has the laws the display conversion relies on. -/
theorem add?_sumLaws : SumLaws add? where
  zero_left a b _ _ h := add?_zero_left a b h
  zero_right a b _ _ ha hb := add?_zero_right a b ha hb
  exact a b _ _ ha hb h := by
    simp only [add?, ha, hb, if_false]
    exact fit_of_lt _ h
  rounds a b _ _ ha hb h hs := by
    simp only [add?, ha, hb, if_false]
    exact fit_of_le h hs

end Decimal

/-! ## 3. The whole part and the kept fraction -/

section Parts

variable {d : Nat}

/-- Ten to a power of at most seventy-seven is a word, so `pow10` does not wrap there. -/
theorem val_pow10 (hd : d ≤ 77) : (pow10 d).val = 10 ^ d := by
  have hlt : 10 ^ d < wordSize :=
    calc 10 ^ d ≤ 10 ^ 77 := Nat.pow_le_pow_right (by decide) hd
      _ < wordSize := by decide
  rw [pow10, Word.val_ofNat, Nat.pow_eq, Nat.mod_eq_of_lt hlt]

theorem fraction_lt (v : Nat) {k : Nat} (hk : k ≤ d) : v % 10 ^ d / 10 ^ (d - k) < 10 ^ k := by
  have hsplit : 10 ^ d = 10 ^ (d - k) * 10 ^ k := by rw [← Nat.pow_add, Nat.sub_add_cancel hk]
  rw [Nat.div_lt_iff_lt_mul (Nat.pow_pos (by decide)), Nat.mul_comm, ← hsplit]
  exact Nat.mod_lt _ (Nat.pow_pos (by decide))

/-- The whole part shifted by `k` digits, plus the kept fraction, is the word truncated to `k`
digits after the point. -/
theorem whole_mul_add_fraction (v : Nat) {k : Nat} (hk : k ≤ d) :
    v / 10 ^ d * 10 ^ k + v % 10 ^ d / 10 ^ (d - k) = v / 10 ^ (d - k) := by
  have hsplit : 10 ^ d = 10 ^ (d - k) * 10 ^ k := by rw [← Nat.pow_add, Nat.sub_add_cancel hk]
  rw [hsplit, Nat.mod_mul_right_div_self, ← Nat.div_div_eq_div_mul, Nat.mul_comm]
  exact Nat.div_add_mod _ _

end Parts

/-! ## 4. The conversion -/

section Conversion

variable {sum : Decimal → Decimal → Option Decimal} {v : Word} {d : Nat}

theorem ofScaledWith_of_large (hd : d ≤ 77) (h : 2 ^ 64 - 1 < v.val / 10 ^ d) :
    Decimal.ofScaledWith sum v d = Decimal.maxValue := by
  have hwhole : (v / pow10 d).val > Nat.pow 2 64 - 1 := by
    rw [Word.val_div, val_pow10 hd, Nat.pow_eq]
    exact h
  simp only [Decimal.ofScaledWith, hwhole, if_true]

/-- Below the largest whole part the conversion is the sum of the whole part and the kept
fraction. -/
theorem ofScaledWith_of_fits (hd : d ≤ 77) (h : v.val / 10 ^ d ≤ 2 ^ 64 - 1) :
    Decimal.ofScaledWith sum v d =
      match sum (Decimal.ofNat (v.val / 10 ^ d))
          ⟨v.val % 10 ^ d / 10 ^ (d - min d 12), min d 12, false⟩ with
      | some total => total
      | none => Decimal.maxValue := by
  have hwhole : ¬(v.val / 10 ^ d > Nat.pow 2 64 - 1) := by
    rw [Nat.pow_eq]
    exact Nat.not_lt.2 h
  have hkept : d - Nat.min d Decimal.keptFractionDigits ≤ 77 := by
    have := Nat.sub_le d (Nat.min d Decimal.keptFractionDigits)
    omega
  simp only [Decimal.ofScaledWith, Word.val_div, Word.val_mod, val_pow10 hd, val_pow10 hkept]
  rw [if_neg hwhole]
  rfl

/-- The sum of a whole part below `2^64` and a fraction of at most `k ≤ 12` digits is defined; its
value is exact while the joined mantissa fits, and past that it is the joined mantissa with some
of its last digits dropped and rounded. -/
theorem Decimal.SumLaws.sum_whole_fraction (laws : Decimal.SumLaws sum) {I F k : Nat}
    (hI : I ≤ 2 ^ 64 - 1) (hF : F < 10 ^ k) (hk : k ≤ 12) :
    ∃ D, sum (Decimal.ofNat I) ⟨F, k, false⟩ = some D ∧
      (I * 10 ^ k + F < 2 ^ 96 → D.value = I + F / 10 ^ k) ∧
      (2 ^ 96 ≤ I * 10 ^ k + F →
        ∃ j r, 0 < j ∧ j ≤ k ∧ Decimal.RoundsTo (I * 10 ^ k + F) j r ∧ D = ⟨r, k - j, false⟩) := by
  have hk12 : 10 ^ k ≤ 10 ^ 12 := Nat.pow_le_pow_right (by decide) hk
  have hpos : 0 < 10 ^ k := Nat.pow_pos (by decide)
  have haligned : Decimal.alignedSum (Decimal.ofNat I) ⟨F, k, false⟩ = I * 10 ^ k + F := by
    simp [Decimal.alignedSum, Decimal.ofNat, Nat.pow_eq]
  by_cases hI0 : I = 0
  · -- no whole part: the sum is the fraction itself, which is below `2^96`
    subst hI0
    refine ⟨_, laws.zero_left _ _ rfl rfl rfl, fun _ => ?_, fun h => absurd h (by omega)⟩
    rw [Decimal.value_of_nonneg, Nat.cast_zero, zero_add]
  by_cases hF0 : F = 0
  · -- no fraction: the sum is the whole part at scale zero, all `k` digits of it dropped
    subst hF0
    refine ⟨_, laws.zero_right _ _ rfl rfl hI0 rfl, fun _ => ?_, fun h => ?_⟩
    · simp [Decimal.ofNat, Decimal.value_of_nonneg]
    · -- a shift past `2^96` of a whole part below `2^64` shifts by at least one digit
      have hk0 : k ≠ 0 := by
        rintro rfl
        simp at h
        omega
      rw [Nat.add_zero]
      exact ⟨k, I, Nat.pos_of_ne_zero hk0, Nat.le_refl _, Decimal.roundsTo_shifted I k,
        by simp [Decimal.ofNat]⟩
  -- both parts: the laws of the sum at the larger scale, which is `k`
  have hscale : Nat.max (Decimal.ofNat I).scale (⟨F, k, false⟩ : Decimal).scale = k :=
    Nat.zero_max k
  by_cases hfit : I * 10 ^ k + F < 2 ^ 96
  · have hsum := laws.exact _ _ rfl rfl hI0 hF0 (by rw [haligned, Decimal.mantissaBound_eq]; exact hfit)
    rw [haligned, hscale] at hsum
    exact ⟨_, hsum, fun _ => Decimal.value_joined I F k, fun h => absurd h (by omega)⟩
  · have hwhole : (I * 10 ^ k + F) / 10 ^ k = I := by
      rw [Nat.mul_comm, Nat.mul_add_div hpos, Nat.div_eq_of_lt hF, Nat.add_zero]
    obtain ⟨j, r, hj0, hjk, -, hround, hsum⟩ := laws.rounds _ _ rfl rfl hI0 hF0
      (by rw [haligned, Decimal.mantissaBound_eq]; omega)
      (by rw [haligned, hscale, hwhole, Decimal.mantissaBound_eq]; omega)
    rw [hscale] at hsum hjk
    rw [haligned] at hround
    exact ⟨_, hsum, fun h => absurd h hfit, fun _ => ⟨j, r, hj0, hjk, hround, rfl⟩⟩

end Conversion

/-- Showing a word with `d ≤ 77` implied decimals is exact up to its truncation, for every
decimal sum with the laws of `Decimal.SumLaws`. With `whole` the whole part, `kept = min d 12`
the digits kept and `fraction` the kept digits of the fraction: a whole part above `2^64 - 1`
shows as the largest decimal; otherwise the fraction has at most `kept` digits,
`whole · 10^kept + fraction` is the word truncated to `kept` digits, the sum is defined and is
the result, its value is `whole + fraction / 10^kept` exactly while that mantissa is below
`2^96`, and past that bound it is the mantissa with its last `j` digits dropped and rounded, for
some `0 < j ≤ kept`. -/
theorem scaled_display_exact (sum : Decimal → Decimal → Option Decimal)
    (laws : Decimal.SumLaws sum) (v : Word) (d : Nat) (hd : d ≤ 77) :
    let whole := v.val / 10 ^ d
    let kept := min d 12
    let fraction := v.val % 10 ^ d / 10 ^ (d - kept)
    (2 ^ 64 - 1 < whole → Decimal.ofScaledWith sum v d = Decimal.maxValue) ∧
    (whole ≤ 2 ^ 64 - 1 →
      fraction < 10 ^ kept ∧ whole * 10 ^ kept + fraction = v.val / 10 ^ (d - kept) ∧
      ∃ D, sum (Decimal.ofNat whole) ⟨fraction, kept, false⟩ = some D ∧
        Decimal.ofScaledWith sum v d = D ∧
        (whole * 10 ^ kept + fraction < 2 ^ 96 →
          D.value = (whole : ℚ) + (fraction : ℚ) / 10 ^ kept) ∧
        (2 ^ 96 ≤ whole * 10 ^ kept + fraction →
          ∃ j r, 0 < j ∧ j ≤ kept ∧ Decimal.RoundsTo (whole * 10 ^ kept + fraction) j r ∧
            D = ⟨r, kept - j, false⟩)) := by
  intro whole kept fraction
  refine ⟨ofScaledWith_of_large hd, fun hI => ?_⟩
  have hkept : kept ≤ d := Nat.min_le_left _ _
  have hF : fraction < 10 ^ kept := fraction_lt v.val hkept
  obtain ⟨D, hsum, hexact, hround⟩ := laws.sum_whole_fraction hI hF (Nat.min_le_right _ _)
  refine ⟨hF, whole_mul_add_fraction v.val hkept, D, hsum, ?_, hexact, hround⟩
  rw [ofScaledWith_of_fits hd hI, hsum]

/-- The largest whole part a display takes, with eighteen nines after the point: the joined
mantissa passes `2^96`, so the library's sum drops digits and rounds. -/
theorem top_wad_display_rounds :
    Decimal.SumLaws Decimal.add? ∧ (18 : Nat) ≤ 77 ∧
      let whole := (18446744073709551615999999999999999999 : Word).val / 10 ^ 18
      let kept := min 18 12
      let fraction := (18446744073709551615999999999999999999 : Word).val % 10 ^ 18 / 10 ^ (18 - kept)
      (2 ^ 64 - 1 < whole →
        Decimal.ofScaledWith Decimal.add? 18446744073709551615999999999999999999 18 =
          Decimal.maxValue) ∧
      (whole ≤ 2 ^ 64 - 1 →
        fraction < 10 ^ kept ∧
        whole * 10 ^ kept + fraction = (18446744073709551615999999999999999999 : Word).val /
          10 ^ (18 - kept) ∧
        ∃ D, Decimal.add? (Decimal.ofNat whole) ⟨fraction, kept, false⟩ = some D ∧
          Decimal.ofScaledWith Decimal.add? 18446744073709551615999999999999999999 18 = D ∧
          (whole * 10 ^ kept + fraction < 2 ^ 96 →
            D.value = (whole : ℚ) + (fraction : ℚ) / 10 ^ kept) ∧
          (2 ^ 96 ≤ whole * 10 ^ kept + fraction →
            ∃ j r, 0 < j ∧ j ≤ kept ∧ Decimal.RoundsTo (whole * 10 ^ kept + fraction) j r ∧
              D = ⟨r, kept - j, false⟩)) :=
  ⟨Decimal.add?_sumLaws, by decide,
    scaled_display_exact Decimal.add? Decimal.add?_sumLaws 18446744073709551615999999999999999999 18
      (by decide)⟩

end PeerLending
