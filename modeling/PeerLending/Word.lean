/-!
# Machine words

Every amount, index, rate and factor of a lending market is an unsigned 256-bit machine
word. `Word` keeps such a word as its value `val < 2^256`, and every law about words is
stated on that value.

Arithmetic comes in the three flavours the accounting uses, each named for its rule:

* `+`, `-` and `*` wrap around modulo `2^256`, as the machine does;
* `satAdd`, `satSub` and `satMul` stop at the ends of the range instead;
* `/` and `%` are the quotient and remainder of the values, and a zero divisor gives zero
  (every division that the models perform is guarded before it is reached, so this choice
  never shows).

The small lemmas at the end say what each operation does to `val`; later proofs use them and
never unfold an operation.
-/

set_option autoImplicit false

namespace PeerLending

/-- The number of distinct words, `2^256`. -/
abbrev wordSize : Nat := Nat.pow 2 256

/-- An unsigned 256-bit word, kept as its value. -/
structure Word where
  /-- The value of the word. -/
  val : Nat
  /-- A word lies below `2^256`. -/
  isLt : val < wordSize
deriving DecidableEq

namespace Word

/-! ## Construction -/

/-- The word of a natural number, wrapping around modulo `2^256`. -/
def ofNat (n : Nat) : Word := ⟨n % wordSize, Nat.mod_lt _ (Nat.two_pow_pos 256)⟩

instance (n : Nat) : OfNat Word n := ⟨ofNat n⟩

instance : Inhabited Word := ⟨ofNat 0⟩

/-- The largest word, `2^256 - 1`. It doubles as the sentinel "as much as allowed". -/
def maxValue : Word := ⟨wordSize - 1, Nat.sub_lt (Nat.two_pow_pos 256) Nat.one_pos⟩

/-- The word of a natural number, stopping at the largest word. -/
def clamp (n : Nat) : Word := if h : n < wordSize then ⟨n, h⟩ else maxValue

/-- Whether the word is zero. -/
def isZero (a : Word) : Bool := a.val == 0

/-! ## Wrapping arithmetic -/

instance : Add Word := ⟨fun a b => ofNat (a.val + b.val)⟩

instance : Sub Word := ⟨fun a b => ofNat (a.val + (wordSize - b.val))⟩

instance : Mul Word := ⟨fun a b => ofNat (a.val * b.val)⟩

instance : Div Word := ⟨fun a b => ⟨a.val / b.val, Nat.lt_of_le_of_lt (Nat.div_le_self _ _) a.isLt⟩⟩

instance : Mod Word := ⟨fun a b => ⟨a.val % b.val, Nat.lt_of_le_of_lt (Nat.mod_le _ _) a.isLt⟩⟩

/-! ## Saturating arithmetic -/

/-- Sum, stopping at the largest word. -/
def satAdd (a b : Word) : Word := clamp (a.val + b.val)

/-- Difference, stopping at zero. -/
def satSub (a b : Word) : Word := ⟨a.val - b.val, Nat.lt_of_le_of_lt (Nat.sub_le _ _) a.isLt⟩

/-- Product, stopping at the largest word. -/
def satMul (a b : Word) : Word := clamp (a.val * b.val)

/-! ## Order -/

instance : LT Word := ⟨fun a b => a.val < b.val⟩

instance : LE Word := ⟨fun a b => a.val ≤ b.val⟩

instance (a b : Word) : Decidable (a < b) := inferInstanceAs (Decidable (a.val < b.val))

instance (a b : Word) : Decidable (a ≤ b) := inferInstanceAs (Decidable (a.val ≤ b.val))

/-- The smaller of two words. -/
def min (a b : Word) : Word := if a < b then a else b

/-! ## What each operation does to the value -/

@[ext] theorem ext {a b : Word} (h : a.val = b.val) : a = b := by
  cases a; cases b; cases h; rfl

@[simp] theorem val_ofNat (n : Nat) : (ofNat n).val = n % wordSize := rfl

@[simp] theorem val_maxValue : maxValue.val = wordSize - 1 := rfl

theorem val_add (a b : Word) : (a + b).val = (a.val + b.val) % wordSize := rfl

theorem val_sub (a b : Word) : (a - b).val = (a.val + (wordSize - b.val)) % wordSize := rfl

theorem val_mul (a b : Word) : (a * b).val = a.val * b.val % wordSize := rfl

theorem val_div (a b : Word) : (a / b).val = a.val / b.val := rfl

theorem val_mod (a b : Word) : (a % b).val = a.val % b.val := rfl

theorem val_satSub (a b : Word) : (satSub a b).val = a.val - b.val := rfl

theorem val_clamp (n : Nat) : (clamp n).val = if n < wordSize then n else wordSize - 1 := by
  unfold clamp
  split <;> rfl

theorem val_satAdd (a b : Word) :
    (satAdd a b).val = if a.val + b.val < wordSize then a.val + b.val else wordSize - 1 :=
  val_clamp _

theorem val_satMul (a b : Word) :
    (satMul a b).val = if a.val * b.val < wordSize then a.val * b.val else wordSize - 1 :=
  val_clamp _

theorem lt_iff_val_lt {a b : Word} : a < b ↔ a.val < b.val := Iff.rfl

theorem le_iff_val_le {a b : Word} : a ≤ b ↔ a.val ≤ b.val := Iff.rfl

theorem val_min (a b : Word) : (min a b).val = if a.val < b.val then a.val else b.val := by
  unfold min
  by_cases h : a.val < b.val
  · rw [if_pos h, if_pos (lt_iff_val_lt.2 h)]
  · rw [if_neg h, if_neg (fun h' => h (lt_iff_val_lt.1 h'))]

theorem isZero_iff (a : Word) : a.isZero = true ↔ a.val = 0 := by
  simp [isZero]

/-- A word's value below `2^256`, in the form `omega` reads. -/
theorem val_lt (a : Word) :
    a.val < 115792089237316195423570985008687907853269984665640564039457584007913129639936 :=
  a.isLt

end Word

end PeerLending
