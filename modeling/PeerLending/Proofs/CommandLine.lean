import Mathlib
import PeerLending.Cli.Args

/-!
# What the command line reads

An operation is typed as `kind:market:amount`, or `kind:market:amount:unwrap`, and its amount,
once the market's decimals `d` are known, becomes a native amount. This module proves that both
readers do exactly what their grammar says.

* **Kinds.** `OperationKind.parse?` accepts a text exactly when dropping its underscores and
  hyphens and lowercasing its ASCII letters gives a lowercased canonical name; equivalently, when
  the text *respells* the name (`Respells`): every letter in either ASCII case, and any
  underscores and hyphens put anywhere. No two names collide, so the kind is determined, and
  every canonical name reads back as its kind.
* **Operations.** `OperationArg.parse` accepts exactly three or four colon-free fields, the
  fourth being `unwrap`, of which the first reads as a kind, the second as an address and the
  third as an amount: `max` in any case, or a non-empty string of digits and points.
* **Amounts.** `parseAmount` is exact decimal-to-fixed-point conversion: a text with two or more
  points is refused, and `I.F` (or `I`) becomes `⌊(I.F) · 10^d⌋`, the fraction's digits beyond
  `d` cut, whenever that integer is a word, and an overflow otherwise.

Both readers split their text on one character with `String.splitOn`; the first section says
what that does on the text's characters.
-/

set_option autoImplicit false

namespace PeerLending

/-! ## 1. Splitting a text on one character -/

section Split

open String

/-- `splitOnAux` walking a text with a one-character separator, from the start of the current
field `m` (after `l`) to the rest `r`. -/
theorem splitOnAux_char (c : Char) (l m r : List Char) (acc : List String) :
    splitOnAux (ofList (l ++ m ++ r)) (singleton c) ⟨utf8Len l⟩ ⟨utf8Len l + utf8Len m⟩ 0 acc =
      acc.reverse ++ (List.splitOnPPrepend (· == c) r m.reverse).map ofList := by
  unfold splitOnAux
  simp only [List.append_assoc, atEnd_iff, rawEndPos_ofList, utf8Len_append, Pos.Raw.mk_le_mk,
    Nat.add_le_add_iff_left, (by omega : utf8Len m + utf8Len r ≤ utf8Len m ↔ utf8Len r = 0),
    utf8Len_eq_zero]
  split
  · subst r
    simpa using extract_of_valid l m []
  · obtain ⟨d, r, rfl⟩ := r.exists_cons_of_ne_nil ‹_›
    have hget : Pos.Raw.get (ofList (l ++ (m ++ d :: r))) ⟨utf8Len l + utf8Len m⟩ = d := by
      simpa using get_of_valid (l ++ m) (d :: r)
    have hnext : Pos.Raw.next (ofList (l ++ (m ++ d :: r))) ⟨utf8Len l + utf8Len m⟩ =
        ⟨utf8Len l + utf8Len m + d.utf8Size⟩ := by
      simpa using next_of_valid (l ++ m) d r
    have hsep : Pos.Raw.get (singleton c) 0 = c := by
      simpa using get_of_valid [] [c]
    rw [hget, hsep]
    split <;> rename_i h
    · -- the separator: the field `m` is complete, and the next one starts after `d`
      have hdc : d = c := by simpa using h
      subst hdc
      have hsepNext : Pos.Raw.next (singleton d) 0 = ⟨d.utf8Size⟩ := by
        simpa using next_of_valid [] d []
      have hend : (singleton d).rawEndPos = ⟨d.utf8Size⟩ := by
        simpa using rawEndPos_ofList [d]
      have hextract : Pos.Raw.extract (ofList (l ++ (m ++ d :: r))) ⟨utf8Len l⟩
          ⟨utf8Len l + utf8Len m⟩ = ofList m := by
        simpa using extract_of_valid l m (d :: r)
      have hback : (⟨utf8Len l + utf8Len m + d.utf8Size⟩ : Pos.Raw).unoffsetBy ⟨d.utf8Size⟩ =
          ⟨utf8Len l + utf8Len m⟩ := by
        simp [Pos.Raw.unoffsetBy]
      rw [hsepNext, hend, if_pos (by simp), hnext, hback, hextract]
      have ih := splitOnAux_char d (l ++ m ++ [d]) [] r (ofList m :: acc)
      simp only [List.append_assoc, List.singleton_append, utf8Len_append, utf8Len_cons,
        utf8Len_nil, List.reverse_nil, Nat.zero_add, Nat.add_zero, ← Nat.add_assoc] at ih
      rw [ih, List.splitOnPPrepend_cons_pos (by simp)]
      simp
    · -- any other character joins the field `m`
      have hdc : (d == c) = false := by simpa using h
      have ih := splitOnAux_char c l (m ++ [d]) r acc
      simp only [List.append_assoc, List.singleton_append, utf8Len_append, utf8Len_cons,
        utf8Len_nil, Nat.zero_add, ← Nat.add_assoc, List.reverse_append] at ih
      rw [Pos.Raw.unoffsetBy_zero, hnext, ih, List.splitOnPPrepend_cons_neg (p := (· == c)) hdc]
      simp

/-- Splitting a text on a one-character separator splits its characters. -/
theorem splitOn_char (s : String) (c : Char) :
    s.splitOn (singleton c) = (s.toList.splitOn c).map ofList := by
  have hne : (singleton c == "") = false := by
    simp [← String.toList_inj]
  rw [splitOn, if_neg (by simp [hne])]
  simpa [List.splitOn_eq_splitOnP] using splitOnAux_char c [] [] s.toList []

end Split

section SplitList

variable {c : Char}

/-- No field holds the separator. -/
theorem not_mem_of_mem_splitOn :
    ∀ {xs part : List Char}, part ∈ xs.splitOn c → c ∉ part
  | [], part, h => by simp_all
  | x :: xs, part, h => by
    rw [List.splitOn_cons_eq_if_modifyHead] at h
    have ih : ∀ p ∈ xs.splitOn c, c ∉ p := fun p hp => not_mem_of_mem_splitOn hp
    split at h
    · simp only [List.mem_cons] at h
      rcases h with rfl | h
      · simp
      · exact ih _ h
    · rename_i hx
      obtain ⟨first, rest, hfr⟩ := List.exists_cons_of_ne_nil (List.splitOn_ne_nil c xs)
      rw [hfr, List.modifyHead_cons, List.mem_cons] at h
      rcases h with rfl | h
      · have hxc : x ≠ c := by simpa using hx
        have hfirst := ih first (by simp [hfr])
        simp [hfirst, Ne.symm hxc]
      · exact ih _ (by simp [hfr, h])

/-- There is one field more than there are separators. -/
theorem length_splitOn : ∀ xs : List Char, (xs.splitOn c).length = xs.count c + 1
  | [] => by simp
  | x :: xs => by
    rw [List.splitOn_cons_eq_if_modifyHead]
    split
    · rename_i hx
      have hxc : x = c := by simpa using hx
      simp [hxc, length_splitOn xs]
    · rename_i hx
      have hxc : x ≠ c := by simpa using hx
      simp [List.length_modifyHead, length_splitOn xs, hxc]

end SplitList

/-! ## 2. Operation kinds -/

namespace OperationKind

/-- `Respells name s`: the text `s` spells `name` with each letter in either ASCII case and any
underscores and hyphens put anywhere. -/
inductive Respells : List Char → List Char → Prop
  | nil : Respells [] []
  | separator {name s : List Char} {c : Char} (hc : c = '_' ∨ c = '-') :
      Respells name s → Respells name (c :: s)
  | letter {name s : List Char} {c d : Char} (hcd : c.toLower = d.toLower) :
      Respells name s → Respells (d :: name) (c :: s)

/-- Dropping separators and lowercasing gives the lowercased name exactly when the text respells
the name, for a name in which no character lowercases to a separator. -/
theorem lowered_eq_iff_respells :
    ∀ {name s : List Char}, (∀ d ∈ name, d.toLower ≠ '_' ∧ d.toLower ≠ '-') →
      ((s.filter fun c => c ≠ '_' ∧ c ≠ '-').map Char.toLower = name.map Char.toLower ↔
        Respells name s)
  | name, [], hname => by
    cases name with
    | nil => exact iff_of_true rfl .nil
    | cons d name => exact iff_of_false (by simp) (fun h => nomatch h)
  | name, c :: s, hname => by
    by_cases hc : c = '_' ∨ c = '-'
    · -- a separator is dropped on both sides
      have hdrop : ¬(c ≠ '_' ∧ c ≠ '-') := by tauto
      rw [List.filter_cons_of_neg (by simpa using hdrop), lowered_eq_iff_respells hname]
      constructor
      · exact Respells.separator hc
      · intro h
        cases h with
        | separator _ h => exact h
        | letter hcd _ =>
          have hd := hname _ List.mem_cons_self
          rw [← hcd] at hd
          rcases hc with rfl | rfl
          exacts [absurd (by decide) hd.1, absurd (by decide) hd.2]
    · -- a letter is kept, lowercased, and must match the name's next letter
      have hkeep : c ≠ '_' ∧ c ≠ '-' := by tauto
      rw [List.filter_cons_of_pos (by simpa using hkeep)]
      cases name with
      | nil =>
        refine iff_of_false (by simp) fun h => ?_
        cases h with
        | separator hc' _ => exact hc hc'
      | cons d name =>
        have hrest : ∀ d' ∈ name, d'.toLower ≠ '_' ∧ d'.toLower ≠ '-' :=
          fun d' hd' => hname d' (List.mem_cons_of_mem d hd')
        simp only [List.map_cons, List.cons.injEq, lowered_eq_iff_respells hrest]
        constructor
        · rintro ⟨hcd, h⟩
          exact Respells.letter hcd h
        · intro h
          cases h with
          | separator hc' _ => exact absurd hc' hc
          | letter hcd h => exact ⟨hcd, h⟩

/-- The lowercased canonical name. -/
def loweredName (k : OperationKind) : List Char := k.name.toList.map Char.toLower

/-- No two kinds share a lowercased name. -/
theorem loweredName_injective {k k' : OperationKind} (h : k'.loweredName = k.loweredName) :
    k' = k := by
  cases k <;> cases k' <;> first | rfl | (revert h; decide)

/-- The lenient reading of `s` is the kind whose lowercased name the lowered text is. -/
theorem parse?_eq_some_iff_lowered (s : String) (k : OperationKind) :
    parse? s = some k ↔
      (s.toList.filter fun c => c ≠ '_' ∧ c ≠ '-').map Char.toLower = k.loweredName := by
  have hnorm : (normalize s).toList =
      (s.toList.filter fun c => c ≠ '_' ∧ c ≠ '-').map Char.toLower := by
    simp [normalize]
  have hmatch : ∀ k' : OperationKind,
      (String.ofList (k'.name.toList.map Char.toLower) == normalize s) =
        decide (k'.loweredName = (normalize s).toList) := by
    intro k'
    rw [Bool.eq_iff_iff, beq_iff_eq, decide_eq_true_iff, ← String.toList_inj,
      String.toList_ofList, loweredName]
  unfold parse?
  simp only [hmatch, ← hnorm]
  constructor
  · intro h
    simpa [eq_comm] using List.find?_some h
  · intro h
    rw [h]
    cases k <;> decide

/-- Lowercasing makes no separator out of anything else. -/
theorem toLower_ne_separator {c : Char} (h : c ≠ '_' ∧ c ≠ '-') :
    c.toLower ≠ '_' ∧ c.toLower ≠ '-' := by
  by_cases hup : c.isUpper
  · -- a capital letter becomes a small one, and no separator is a small letter
    have hlow : c.toLower.isLower := by
      rw [Char.isLower_toLower_eq_isAlpha, Char.isAlpha, hup, Bool.true_or]
    constructor <;> rintro heq <;> rw [heq] at hlow <;> exact absurd hlow (by decide)
  · rw [Char.toLower_eq_of_not_isUpper hup]
    exact h

/-- No canonical name holds a separator. -/
theorem separators_not_mem_name (k : OperationKind) :
    '_' ∉ k.name.toList ∧ '-' ∉ k.name.toList := by
  cases k <;> decide

theorem ne_separator_of_mem_name {k : OperationKind} {c : Char} (hc : c ∈ k.name.toList) :
    c ≠ '_' ∧ c ≠ '-' := by
  constructor <;> rintro rfl
  exacts [(separators_not_mem_name k).1 hc, (separators_not_mem_name k).2 hc]

/-- A text reads as a kind exactly when it respells the kind's canonical name. -/
theorem parse?_eq_some_iff_respells (s : String) (k : OperationKind) :
    parse? s = some k ↔ Respells k.name.toList s.toList := by
  rw [parse?_eq_some_iff_lowered, loweredName,
    lowered_eq_iff_respells fun d hd => toLower_ne_separator (ne_separator_of_mem_name hd)]

/-- Every canonical name reads back as its kind. -/
theorem parse?_name (k : OperationKind) : parse? k.name = some k := by
  rw [parse?_eq_some_iff_lowered, loweredName, List.filter_eq_self.2]
  intro c hc
  simpa using ne_separator_of_mem_name hc

end OperationKind

/-! ## 3. Operations as typed -/

/-- The amount field `a` reads as `amount`: `max` in any ASCII case, or a non-empty string of
ASCII digits and points, kept as it is. -/
def AmountArg.Reads (a : String) : AmountArg → Prop
  | .max => a.toList.map Char.toLower = ['m', 'a', 'x']
  | .units text => text = a ∧ a.toList ≠ [] ∧ ∀ c ∈ a.toList, c.isDigit ∨ c = '.'

/-- Digits and points are no capital letters: lowercasing keeps them. -/
theorem toLower_of_digit_or_point {c : Char} (h : c.isDigit ∨ c = '.') : c.toLower = c := by
  apply Char.toLower_eq_of_not_isUpper
  rcases h with h | rfl
  · -- the digits lie below `A`
    simp only [Char.isDigit, Char.isUpper, Bool.and_eq_true, decide_eq_true_eq, ge_iff_le,
      UInt32.le_iff_toNat_le] at h ⊢
    simp at h ⊢
    omega
  · decide

theorem AmountArg.parse?_eq_some_iff (a : String) (amount : AmountArg) :
    AmountArg.parse? a = some amount ↔ AmountArg.Reads a amount := by
  unfold AmountArg.parse? isMaxWord digitsAndPoints
  have hdigits : (a.toList.all fun c => c.isDigit || c == '.') = true ↔
      ∀ c ∈ a.toList, c.isDigit ∨ c = '.' := by
    simp
  by_cases hmax : a.toList.map Char.toLower = ['m', 'a', 'x']
  · -- `max` holds a letter, so it is no string of digits and points
    have hnot : ¬∀ c ∈ a.toList, c.isDigit ∨ c = '.' := by
      intro hall
      rw [List.map_congr_left fun c hc => toLower_of_digit_or_point (hall c hc),
        List.map_id'] at hmax
      have := hall 'm' (by simp [hmax])
      revert this
      decide
    cases amount with
    | max => simp [hmax, Reads]
    | units text =>
      simp only [hmax, beq_self_eq_true, if_true, Option.some.injEq, reduceCtorEq, false_iff, Reads]
      exact fun h => hnot h.2.2
  · have hne : (a.toList.map Char.toLower == ['m', 'a', 'x']) = false := by simpa using hmax
    have hcond : (!a.isEmpty && a.toList.all fun c => c.isDigit || c == '.') = true ↔
        a.toList ≠ [] ∧ ∀ c ∈ a.toList, c.isDigit ∨ c = '.' := by
      rw [Bool.and_eq_true, Bool.not_eq_true', hdigits]
      simp
    rw [hne, if_neg Bool.false_ne_true]
    cases amount with
    | max => simp [hmax, Reads]
    | units text =>
      simp only [Reads]
      split
      · rename_i h
        simp only [Option.some.injEq, AmountArg.units.injEq]
        exact ⟨fun e => ⟨e.symm, hcond.1 h⟩, fun e => e.1.symm⟩
      · rename_i h
        simp only [reduceCtorEq, false_iff]
        exact fun e => h (hcond.2 e.2)

/-- The fields of a text split on a one-character separator: a non-empty list of fields free
of the separator that, joined by it, give the text. -/
theorem splitOn_char_eq_iff (s : String) (c : Char) (fields : List String) :
    s.splitOn (String.singleton c) = fields ↔
      fields ≠ [] ∧ (∀ f ∈ fields, c ∉ f.toList) ∧
        s.toList = [c].intercalate (fields.map String.toList) := by
  rw [splitOn_char]
  constructor
  · rintro rfl
    refine ⟨by simp, fun f hf => ?_, ?_⟩
    · obtain ⟨part, hpart, rfl⟩ := List.mem_map.1 hf
      simpa using not_mem_of_mem_splitOn hpart
    · simp [Function.comp_def]
  · rintro ⟨hne, hfree, hs⟩
    have hparts : s.toList.splitOn c = fields.map String.toList := by
      rw [hs, List.splitOn_intercalate]
      · simpa using hfree
      · simpa using hne
    simp [hparts, Function.comp_def]

/-- `OperationArg.parse` read through the colon-separated fields of the text. -/
theorem OperationArg.parse_eq_ok_iff_fields (s : String) (arg : OperationArg) :
    OperationArg.parse s = .ok arg ↔
      ∃ k m a : String,
        s.splitOn ":" = [k, m, a] ++ (if arg.unwrap then ["unwrap"] else []) ∧
        OperationKind.parse? k = some arg.kind ∧ Address.parse m = .ok arg.market ∧
        AmountArg.parse? a = some arg.amount := by
  obtain ⟨kind, market, amount, unwrap⟩ := arg
  unfold OperationArg.parse
  rcases hf : s.splitOn ":" with _ | ⟨k, _ | ⟨m, _ | ⟨a, _ | ⟨u, _ | ⟨v, rest⟩⟩⟩⟩⟩
  -- no match for fewer than three fields
  any_goals simp
  -- three fields: read the kind, the address and the amount in turn
  case cons.cons.cons.nil =>
    cases OperationKind.parse? k <;> cases Address.parse m <;> cases AmountArg.parse? a <;>
      simp [eq_comm]
    -- all three read: the result holds what was read
    tauto
  -- four fields: the fourth must be `unwrap`
  case cons.cons.cons.cons.nil =>
    by_cases hu : u = "unwrap"
    · subst hu
      cases hk : OperationKind.parse? k <;> cases hm : Address.parse m <;>
        cases ha : AmountArg.parse? a <;> simp [hk, hm, ha, eq_comm]
      tauto
    · have hrhs : ¬([u] = if unwrap = true then ["unwrap"] else []) := by
        split <;> simp [hu]
      simp only [hrhs, false_and, iff_false]
      split
      · simp
      · rename_i heq
        split at heq <;> simp_all
  -- five fields or more: no match
  case cons.cons.cons.cons.cons =>
    split <;> simp

/-- `OperationArg.parse` accepts exactly three colon-free fields, or four of which the last is
`unwrap`, whose first reads as a kind, second as an address and third as an amount; the result
holds what they read, and pays out the chain's coin exactly in the four-field form. -/
theorem OperationArg.parse_eq_ok_iff (s : String) (arg : OperationArg) :
    OperationArg.parse s = .ok arg ↔
      ∃ k m a : String, (':' ∉ k.toList ∧ ':' ∉ m.toList ∧ ':' ∉ a.toList) ∧
        s = k ++ ":" ++ m ++ ":" ++ a ++ (if arg.unwrap then ":unwrap" else "") ∧
        OperationKind.parse? k = some arg.kind ∧ Address.parse m = .ok arg.market ∧
        AmountArg.Reads a arg.amount := by
  have hcolon : ":" = String.singleton ':' := rfl
  simp only [parse_eq_ok_iff_fields, hcolon, splitOn_char_eq_iff, AmountArg.parse?_eq_some_iff]
  refine exists_congr fun k => exists_congr fun m => exists_congr fun a => ?_
  -- the fields are free of colons one by one, and the text is their join
  cases arg.unwrap <;>
    simp only [Bool.false_eq_true, if_false, if_true, List.append_nil, List.cons_append,
      List.nil_append, List.forall_mem_cons, List.not_mem_nil] <;>
    simp [← String.toList_inj, and_assoc]

/-- The operation readers accept exactly their grammar. A kind is read from a text exactly when
dropping underscores and hyphens and lowercasing ASCII letters gives its lowercased canonical
name, that is, when the text respells the name; every canonical name reads back as its kind. An
operation is read from exactly three colon-free fields, or four whose last is `unwrap`, that read
as a kind, an address and an amount, and carries what they read. -/
theorem operation_readers_accept_grammar :
    (∀ (s : String) (k : OperationKind), OperationKind.parse? s = some k ↔
      (s.toList.filter fun c => c ≠ '_' ∧ c ≠ '-').map Char.toLower =
        k.name.toList.map Char.toLower) ∧
    (∀ (s : String) (k : OperationKind), OperationKind.parse? s = some k ↔
      OperationKind.Respells k.name.toList s.toList) ∧
    (∀ k : OperationKind, OperationKind.parse? k.name = some k) ∧
    (∀ (s : String) (arg : OperationArg), OperationArg.parse s = .ok arg ↔
      ∃ k m a : String, (':' ∉ k.toList ∧ ':' ∉ m.toList ∧ ':' ∉ a.toList) ∧
        s = k ++ ":" ++ m ++ ":" ++ a ++ (if arg.unwrap then ":unwrap" else "") ∧
        OperationKind.parse? k = some arg.kind ∧ Address.parse m = .ok arg.market ∧
        AmountArg.Reads a arg.amount) :=
  ⟨OperationKind.parse?_eq_some_iff_lowered, OperationKind.parse?_eq_some_iff_respells,
    OperationKind.parse?_name, OperationArg.parse_eq_ok_iff⟩

/-! ## 4. Amounts -/

/-- The value of a numeral written most significant digit first. -/
def numeralValue (ds : List Char) : Nat :=
  Nat.ofDigits 10 (ds.reverse.map fun c => c.toNat - '0'.toNat)

/-- The native amount of the decimal `whole.fraction` with `d` decimals:
`⌊whole.fraction · 10^d⌋`. -/
def fixedPoint (whole fraction : List Char) (d : Nat) : Nat :=
  ⌊((numeralValue whole : ℚ) + numeralValue fraction / 10 ^ fraction.length) * 10 ^ d⌋₊

/-- Reading an amount of value `n`: the word `n` when there is one, an overflow otherwise. -/
def amountOf (n : Nat) : Except AmountError Word :=
  if h : n < wordSize then .ok ⟨n, h⟩ else .error (.numeral .overflow)

section Numeral

variable {l : List Char}

theorem numeralValue_append (a b : List Char) :
    numeralValue (a ++ b) = numeralValue a * 10 ^ b.length + numeralValue b := by
  simp only [numeralValue, List.reverse_append, List.map_append, Nat.ofDigits_append,
    List.length_map, List.length_reverse]
  ring

@[simp] theorem numeralValue_nil : numeralValue [] = 0 := rfl

theorem numeralValue_cons (c : Char) (l : List Char) :
    numeralValue (c :: l) = (c.toNat - '0'.toNat) * 10 ^ l.length + numeralValue l := by
  rw [← List.singleton_append, numeralValue_append]
  simp [numeralValue]

theorem numeralValue_replicate_zero (n : Nat) : numeralValue (List.replicate n '0') = 0 := by
  induction n with
  | zero => rfl
  | succ n ih => simp [List.replicate_succ, numeralValue_cons, ih]

/-- Leading zeros do not count. -/
theorem numeralValue_dropWhile_zero :
    ∀ l : List Char, numeralValue (l.dropWhile (· = '0')) = numeralValue l
  | [] => rfl
  | c :: l => by
    by_cases hc : c = '0'
    · subst hc
      rw [List.dropWhile_cons_of_pos (by simp), numeralValue_dropWhile_zero l, numeralValue_cons]
      simp
    · rw [List.dropWhile_cons_of_neg (by simpa using hc)]

theorem digit_lt_ten {c : Char} (h : c.isDigit) : c.toNat - '0'.toNat < 10 := by
  simp only [Char.isDigit, Bool.and_eq_true, decide_eq_true_eq, ge_iff_le,
    UInt32.le_iff_toNat_le] at h
  have h9 := h.2
  simp only [Char.toNat]
  simp at h9 ⊢
  omega

/-- A numeral of `n` digits is below `10^n`. -/
theorem numeralValue_lt (hl : ∀ c ∈ l, c.isDigit) : numeralValue l < 10 ^ l.length := by
  have h := Nat.ofDigits_lt_base_pow_length (b := 10)
    (l := l.reverse.map fun c => c.toNat - '0'.toNat) (by norm_num) ?_
  · simpa [numeralValue] using h
  · intro x hx
    obtain ⟨c, hc, rfl⟩ := List.mem_map.1 hx
    exact digit_lt_ten (hl c (List.mem_reverse.1 hc))

/-- Reading the digits of a numeral onto an accumulator shifts the accumulator by their number
and adds their value, or overflows when that leaves the words. -/
theorem readDecimal_digits :
    ∀ (l : List Char) (acc : Nat), (∀ c ∈ l, c.isDigit) → acc < wordSize →
      readDecimal l acc =
        if acc * 10 ^ l.length + numeralValue l < wordSize then
          .ok (acc * 10 ^ l.length + numeralValue l)
        else .error .overflow
  | [], acc, _, hacc => by simp [readDecimal, hacc]
  | c :: l, acc, hl, hacc => by
    have hc : c.isDigit := hl c List.mem_cons_self
    have hcne : c ≠ '_' := by
      rintro rfl
      exact absurd hc (by decide)
    have hvalue : digitValue? c = some (c.toNat - '0'.toNat) := by simp [digitValue?, hc]
    have hd := digit_lt_ten hc
    have hword : Nat.pow 2 256 = wordSize := rfl
    -- one more digit: the accumulator moves up one place
    have hshift : acc * 10 ^ (c :: l).length + numeralValue (c :: l) =
        (acc * 10 + (c.toNat - '0'.toNat)) * 10 ^ l.length + numeralValue l := by
      rw [numeralValue_cons, List.length_cons, pow_succ]
      ring
    rw [readDecimal.eq_3 _ _ _ hcne, hvalue, hshift]
    simp only [if_neg (Nat.not_le.2 hd), hword]
    by_cases hover : wordSize ≤ acc * 10 + (c.toNat - '0'.toNat)
    · -- the digit overflows, and so does the whole numeral
      have hbig : wordSize ≤ (acc * 10 + (c.toNat - '0'.toNat)) * 10 ^ l.length + numeralValue l :=
        calc wordSize ≤ acc * 10 + (c.toNat - '0'.toNat) := hover
          _ ≤ (acc * 10 + (c.toNat - '0'.toNat)) * 10 ^ l.length :=
            Nat.le_mul_of_pos_right _ (Nat.pow_pos (by norm_num))
          _ ≤ _ := Nat.le_add_right _ _
      rw [if_pos hover, if_neg (Nat.not_lt.2 hbig)]
    · rw [if_neg hover, readDecimal_digits l _ (fun c' hc' => hl c' (List.mem_cons_of_mem c hc'))
        (Nat.lt_of_not_le hover)]

end Numeral

section FixedPoint

/-- The floor of the decimal, in natural numbers. -/
theorem fixedPoint_eq_div (whole fraction : List Char) (d : Nat) :
    fixedPoint whole fraction d =
      (numeralValue whole * 10 ^ fraction.length + numeralValue fraction) * 10 ^ d /
        10 ^ fraction.length := by
  have hpos : (10 : ℚ) ^ fraction.length ≠ 0 := by positivity
  have hq : ((numeralValue whole : ℚ) + numeralValue fraction / 10 ^ fraction.length) * 10 ^ d =
      (((numeralValue whole * 10 ^ fraction.length + numeralValue fraction) * 10 ^ d : ℕ) : ℚ) /
        ((10 ^ fraction.length : ℕ) : ℚ) := by
    push_cast
    field_simp
  rw [fixedPoint, hq, Nat.floor_div_eq_div]

/-- With `d` decimals the fraction counts by its first `d` digits, padded with zeros to `d`
places: the digits beyond are cut. -/
theorem fixedPoint_eq_truncated {fraction : List Char} (hf : ∀ c ∈ fraction, c.isDigit)
    (whole : List Char) (d : Nat) :
    fixedPoint whole fraction d =
      numeralValue whole * 10 ^ d +
        numeralValue (fraction.take d) * 10 ^ (d - (fraction.take d).length) := by
  rw [fixedPoint_eq_div]
  set f := fraction.length
  by_cases hfd : f ≤ d
  · -- the whole fraction is kept, and `d - f` zeros follow it
    rw [List.take_of_length_le hfd]
    have hsplit : (10 : Nat) ^ d = 10 ^ (d - f) * 10 ^ f := by
      rw [← pow_add, Nat.sub_add_cancel hfd]
    rw [hsplit, ← Nat.mul_assoc, Nat.mul_div_cancel _ (Nat.pow_pos (by norm_num))]
    ring
  · -- the first `d` digits are kept, and the rest, below one unit of the last, is cut
    have hdf : d ≤ f := by omega
    have htake : (fraction.take d).length = d := List.length_take_of_le hdf
    have hdrop : (fraction.drop d).length = f - d := List.length_drop
    have hrest : numeralValue (fraction.drop d) < 10 ^ (f - d) := by
      rw [← hdrop]
      exact numeralValue_lt fun c hc => hf c (List.mem_of_mem_drop hc)
    have hvalue : numeralValue fraction =
        numeralValue (fraction.take d) * 10 ^ (f - d) + numeralValue (fraction.drop d) := by
      conv_lhs => rw [← List.take_append_drop d fraction]
      rw [numeralValue_append, hdrop]
    have hsplit : (10 : Nat) ^ f = 10 ^ (f - d) * 10 ^ d := by
      rw [← pow_add, Nat.sub_add_cancel hdf]
    have hshift : (numeralValue whole * 10 ^ f + numeralValue fraction) * 10 ^ d =
        ((numeralValue whole * 10 ^ d + numeralValue (fraction.take d)) * 10 ^ (f - d) +
          numeralValue (fraction.drop d)) * 10 ^ d := by
      rw [hvalue, hsplit]
      ring
    rw [hshift, hsplit, Nat.mul_div_mul_right _ _ (Nat.pow_pos (by norm_num)),
      Nat.mul_comm _ (10 ^ (f - d)), Nat.mul_add_div (Nat.pow_pos (by norm_num)),
      Nat.div_eq_of_lt hrest, htake, Nat.sub_self]
    simp

end FixedPoint

section Amount

variable {whole fraction : List Char}

theorem splitOn_point (s : String) : s.splitOn "." = (s.toList.splitOn '.').map String.ofList :=
  splitOn_char s '.'

theorem point_not_mem_of_digits {l : List Char} (h : ∀ c ∈ l, c.isDigit) : '.' ∉ l :=
  fun hp => absurd (h '.' hp) (by decide)

/-- The digits an amount `whole.fraction` is read from, the fraction cut or padded to `d`
places, make the numeral of its fixed-point value. -/
theorem numeralValue_padded (hf : ∀ c ∈ fraction, c.isDigit) (d : Nat) :
    numeralValue (whole ++ (fraction.take d ++
      List.replicate (d - (fraction.take d).length) '0')) = fixedPoint whole fraction d := by
  have hlen : (fraction.take d).length ≤ d := List.length_take_le d fraction
  rw [numeralValue_append, numeralValue_append, numeralValue_replicate_zero,
    fixedPoint_eq_truncated hf]
  simp only [List.length_append, List.length_replicate, Nat.add_zero]
  rw [Nat.add_sub_cancel' hlen]

/-- An amount whose text splits at its point into the digits `whole` and `fraction` (or has no
point, and then no fraction) reads as its fixed-point value. -/
theorem parseAmount_of_parts {text : String} (hw : ∀ c ∈ whole, c.isDigit)
    (hf : ∀ c ∈ fraction, c.isDigit)
    (hparts : text.splitOn "." = [String.ofList whole, String.ofList fraction] ∨
      (text.splitOn "." = [String.ofList whole] ∧ fraction = [])) (d : Nat) :
    parseAmount text d = amountOf (fixedPoint whole fraction d) := by
  have hdigits : ∀ c ∈ whole ++ (fraction.take d ++
      List.replicate (d - (fraction.take d).length) '0'), c.isDigit := by
    intro c hc
    simp only [List.mem_append, List.mem_replicate] at hc
    rcases hc with hc | hc | ⟨-, rfl⟩
    exacts [hw c hc, hf c (List.mem_of_mem_take hc), by decide]
  unfold parseAmount
  rcases hparts with h | ⟨h, rfl⟩ <;> rw [h] <;>
    simp only [String.toList_ofList, String.toList_empty]
  all_goals
    -- the digits with leading zeros dropped have the value of the decimal
    rw [← numeralValue_padded hf, ← numeralValue_dropWhile_zero]
    have hrest := fun c hc => hdigits c ((List.dropWhile_suffix (· = '0')).subset hc)
    generalize List.dropWhile _ _ = rest at hrest ⊢
    unfold amountOf
    cases rest with
    | nil =>
      rw [if_pos List.isEmpty_nil,
        dif_pos (show numeralValue [] < wordSize from Nat.two_pow_pos 256)]
      rfl
    | cons c rest =>
      rw [if_neg (by simp), readDecimal_digits _ 0 hrest (Nat.two_pow_pos 256)]
      simp only [Nat.zero_mul, Nat.zero_add]
      by_cases hlt : numeralValue (c :: rest) < wordSize
      · rw [if_pos hlt, dif_pos hlt, Except.ok.injEq, Word.ext_iff, Word.val_ofNat,
          Nat.mod_eq_of_lt hlt]
      · rw [if_neg hlt, dif_neg hlt]

/-- `whole.fraction` reads as its fixed-point value. -/
theorem parseAmount_point (hw : ∀ c ∈ whole, c.isDigit) (hf : ∀ c ∈ fraction, c.isDigit)
    (d : Nat) :
    parseAmount (String.ofList (whole ++ '.' :: fraction)) d =
      amountOf (fixedPoint whole fraction d) := by
  refine parseAmount_of_parts hw hf (.inl ?_) d
  rw [splitOn_point, String.toList_ofList,
    List.splitOn_append_cons_self_of_not_mem (point_not_mem_of_digits hw),
    List.splitOn_eq_singleton (point_not_mem_of_digits hf)]
  rfl

/-- A numeral without a point reads as its value shifted by the decimals. -/
theorem parseAmount_whole (hw : ∀ c ∈ whole, c.isDigit) (d : Nat) :
    parseAmount (String.ofList whole) d = amountOf (fixedPoint whole [] d) := by
  refine parseAmount_of_parts hw (by simp) (.inr ⟨?_, rfl⟩) d
  rw [splitOn_point, String.toList_ofList, List.splitOn_eq_singleton (point_not_mem_of_digits hw)]
  rfl

/-- A text with two points or more is refused. -/
theorem parseAmount_points {x : String} (h : 2 ≤ x.toList.count '.') (d : Nat) :
    parseAmount x d = .error .format := by
  have hlen : 3 ≤ (x.splitOn ".").length := by
    rw [splitOn_point, List.length_map, length_splitOn]
    omega
  unfold parseAmount
  -- one or two fields are too few, and three or more are no amount
  rcases hsp : x.splitOn "." with _ | ⟨a, _ | ⟨b, _ | ⟨c, rest⟩⟩⟩
  · rfl
  · simp [hsp] at hlen
  · simp [hsp] at hlen
  · rfl

end Amount

/-- Amounts are read by exact decimal-to-fixed-point conversion with `d` decimals: a text with
two points or more is refused, and a numeral `I`, or `I.F`, of digits reads as
`⌊I.F · 10^d⌋`, the fraction's digits beyond `d` cut, when that is a word, and overflows
otherwise. -/
theorem amounts_read_as_fixed_point (d : Nat) :
    (∀ x : String, 2 ≤ x.toList.count '.' → parseAmount x d = .error .format) ∧
    (∀ whole : List Char, (∀ c ∈ whole, c.isDigit) →
      parseAmount (String.ofList whole) d = amountOf (fixedPoint whole [] d)) ∧
    (∀ whole fraction : List Char, (∀ c ∈ whole, c.isDigit) → (∀ c ∈ fraction, c.isDigit) →
      parseAmount (String.ofList (whole ++ '.' :: fraction)) d =
        amountOf (fixedPoint whole fraction d)) :=
  ⟨fun _ h => parseAmount_points h d, fun _ hw => parseAmount_whole hw d,
    fun _ _ hw hf => parseAmount_point hw hf d⟩

/-- `1.2.3` is refused, and `1` with eighteen decimals and `100.5` with six read exactly. -/
theorem sample_amounts_read_as_fixed_point :
    (2 ≤ "1.2.3".toList.count '.' ∧ parseAmount "1.2.3" 6 = .error .format) ∧
    ((∀ c ∈ ['1'], c.isDigit) ∧
      parseAmount (String.ofList ['1']) 18 = amountOf (fixedPoint ['1'] [] 18)) ∧
    ((∀ c ∈ ['1', '0', '0'], c.isDigit) ∧ (∀ c ∈ ['5'], c.isDigit) ∧
      parseAmount (String.ofList (['1', '0', '0'] ++ '.' :: ['5'])) 6 =
        amountOf (fixedPoint ['1', '0', '0'] ['5'] 6)) := by
  have hpoints : 2 ≤ "1.2.3".toList.count '.' := by decide
  have hone : ∀ c ∈ ['1'], c.isDigit := by simp
  have hhundred : ∀ c ∈ ['1', '0', '0'], c.isDigit := by simp
  have hhalf : ∀ c ∈ ['5'], c.isDigit := by simp
  exact ⟨⟨hpoints, (amounts_read_as_fixed_point 6).1 _ hpoints⟩,
    ⟨hone, (amounts_read_as_fixed_point 18).2.1 _ hone⟩,
    ⟨hhundred, hhalf, (amounts_read_as_fixed_point 6).2.2 _ _ hhundred hhalf⟩⟩

end PeerLending
