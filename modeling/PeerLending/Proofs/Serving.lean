import Mathlib
import PeerLending.Provider
import PeerLending.Proofs.Health

/-!
# A served snapshot comes back

A provider serving a snapshot from memory (`StaticProvider`) hands out its markets that have a
configuration, its user's context and positions, and its chain context; `fetchSnapshot` builds a
snapshot back from them, inserting each market and its configuration under the market's own
asset and each position under its own market, a later entry replacing an earlier one. Asked for
the snapshot's own user, this is what every command simulates.

The rebuilt snapshot is the *served image* of the snapshot (`Snapshot.ServedAs`): the same chain
and user contexts, under each address the last market in address order whose asset it is and that
has a configuration, with that configuration, and the last position on it when there is a user.
Since a map's keys ascend, a map is fixed by its lookups, and the image is determined
(`ServedAs.unique`). Main statement (`fetchSnapshot_static`): the request fails, with
`chainUnavailable`, exactly when the snapshot has no chain context; otherwise it returns the served
image, and that is the snapshot itself when its entries are stored under their own addresses, its
markets and configurations have the same addresses, and it has no positions without a user
(`Snapshot.Faithful`).
-/

set_option autoImplicit false

namespace PeerLending

/-! ## 1. Maps built by insertion -/

namespace AddrMap

variable {α β : Type}

/-- Inserting a list of entries in order: at each address the last entry inserted there wins. -/
theorem get?_foldl_insert (key : β → Address) (val : β → α) :
    ∀ (l : List β) (m : AddrMap α) (a : Address),
      (l.foldl (fun m e => m.insert (key e) (val e)) m).get? a =
        ((l.filter fun e => key e = a).getLast?.map val).or (m.get? a)
  | [], m, a => by simp
  | e :: rest, m, a => by
    rw [List.foldl_cons, get?_foldl_insert key val rest, get?_insert]
    by_cases hk : key e = a
    · -- `e` counts, unless a later entry at `a` replaces it
      rw [if_pos hk.symm, List.filter_cons_of_pos (by simpa using hk), List.getLast?_cons]
      cases (rest.filter fun e => key e = a).getLast? <;> rfl
    · rw [if_neg (Ne.symm hk), List.filter_cons_of_neg (by simpa using hk)]

/-- In an ascending list of entries, the entries at one address are the one its lookup finds. -/
theorem filter_key_of_pairwise {a : Address} :
    ∀ {l : List (Address × α)}, l.Pairwise (fun x y => x.1.val < y.1.val) →
      (l.filter fun e => e.1 = a) = ((lookup a l).map fun v => (a, v)).toList
  | [], _ => rfl
  | (k, v) :: rest, h => by
    rw [List.pairwise_cons] at h
    by_cases hk : k = a
    · -- the head is at `a`, so no later entry is
      subst hk
      have hrest : (rest.filter fun e => e.1 = k) = [] := by
        rw [List.filter_eq_nil_iff]
        intro e he hek
        have := h.1 e he
        rw [show e.1 = k by simpa using hek] at this
        exact Nat.lt_irrefl _ this
      rw [List.filter_cons_of_pos (by simp), hrest]
      simp [lookup]
    · rw [List.filter_cons_of_neg (by simpa using hk), filter_key_of_pairwise h.2]
      simp [lookup, Ne.symm hk]

/-- Two ascending lists of entries with the same lookups are the same list. -/
theorem eq_of_lookup_eq :
    ∀ {l₁ l₂ : List (Address × α)}, l₁.Pairwise (fun x y => x.1.val < y.1.val) →
      l₂.Pairwise (fun x y => x.1.val < y.1.val) → (∀ a, lookup a l₁ = lookup a l₂) → l₁ = l₂
  | [], [], _, _, _ => rfl
  | [], (k, v) :: _, _, _, h => by simpa [lookup] using h k
  | (k, v) :: _, [], _, _, h => by simpa [lookup] using h k
  | (k₁, v₁) :: r₁, (k₂, v₂) :: r₂, h₁, h₂, h => by
    rw [List.pairwise_cons] at h₁ h₂
    -- a key below the other list's first key is missing from it
    have hmiss : ∀ {k k' : Address} {v' : α} {r : List (Address × α)},
        (∀ e ∈ r, k'.val < e.1.val) → k.val < k'.val → lookup k ((k', v') :: r) = none := by
      intro k k' v' r hr hlt
      apply lookup_eq_none
      intro e he hek
      rcases List.mem_cons.1 he with rfl | he
      · exact Nat.lt_irrefl _ (hek ▸ hlt)
      · exact Nat.lt_irrefl _ (Nat.lt_trans hlt (hek ▸ hr e he))
    have hk : k₁ = k₂ := by
      apply eq_of_val_eq
      rcases Nat.lt_trichotomy k₁.val k₂.val with hlt | heq | hgt
      · have := h k₁
        rw [hmiss h₂.1 hlt] at this
        simp [lookup] at this
      · exact heq
      · have := h k₂
        rw [hmiss h₁.1 hgt] at this
        simp [lookup] at this
    subst hk
    have hv : v₁ = v₂ := by simpa [lookup] using h k₁
    subst hv
    -- past the first key the lookups still agree
    have hrest : ∀ a, lookup a r₁ = lookup a r₂ := by
      intro a
      by_cases ha : a = k₁
      · subst ha
        have hnone : ∀ {r : List (Address × α)}, (∀ e ∈ r, a.val < e.1.val) → lookup a r = none :=
          fun hr => lookup_eq_none fun e he hea => Nat.lt_irrefl _ (hea ▸ hr e he)
        rw [hnone h₁.1, hnone h₂.1]
      · simpa [lookup, ha] using h a
    rw [eq_of_lookup_eq h₁.2 h₂.2 hrest]

/-- Two maps with the same lookups are the same map. -/
theorem eq_of_get?_eq {m₁ m₂ : AddrMap α} (h : ∀ a, m₁.get? a = m₂.get? a) : m₁ = m₂ :=
  ext (eq_of_lookup_eq m₁.ascending m₂.ascending h)

end AddrMap

/-! ## 2. The served image -/

namespace Snapshot

/-- The markets a provider serves, in address order, each with its configuration: those with a
configuration under their address. -/
def servedMarkets (s : Snapshot) : List (MarketState × MarketConfig) :=
  s.markets.entries.filterMap fun e => (s.configs.get? e.1).map fun c => (e.2, c)

/-- The last served market whose asset is `a`, with its configuration. -/
def servedMarket? (s : Snapshot) (a : Address) : Option (MarketState × MarketConfig) :=
  (s.servedMarkets.filter fun m => m.1.underlying = a).getLast?

/-- The last position on market `a`. -/
def servedPosition? (s : Snapshot) (a : Address) : Option Position :=
  (s.positions.values.filter fun p => p.market = a).getLast?

/-- `s'` is the served image of `s`: the same chain and user contexts; under each address the
last served market whose asset it is, with its configuration, and, when there is a user, the last
position on it. -/
structure ServedAs (s s' : Snapshot) : Prop where
  chain : s'.chain = s.chain
  user : s'.user = s.user
  markets : ∀ a, s'.markets.get? a = (s.servedMarket? a).map Prod.fst
  configs : ∀ a, s'.configs.get? a = (s.servedMarket? a).map Prod.snd
  positions : ∀ a, s'.positions.get? a = if s.user.isSome then s.servedPosition? a else none

/-- A snapshot has one served image. -/
theorem ServedAs.unique {s s₁ s₂ : Snapshot} (h₁ : s.ServedAs s₁) (h₂ : s.ServedAs s₂) :
    s₁ = s₂ := by
  obtain ⟨chain₁, user₁, markets₁, configs₁, positions₁⟩ := s₁
  obtain ⟨chain₂, user₂, markets₂, configs₂, positions₂⟩ := s₂
  have hmarkets : markets₁ = markets₂ :=
    AddrMap.eq_of_get?_eq fun a => (h₁.markets a).trans (h₂.markets a).symm
  have hconfigs : configs₁ = configs₂ :=
    AddrMap.eq_of_get?_eq fun a => (h₁.configs a).trans (h₂.configs a).symm
  have hpositions : positions₁ = positions₂ :=
    AddrMap.eq_of_get?_eq fun a => (h₁.positions a).trans (h₂.positions a).symm
  have hchain : chain₁ = chain₂ := h₁.chain.trans h₂.chain.symm
  have huser : user₁ = user₂ := h₁.user.trans h₂.user.symm
  subst hmarkets hconfigs hpositions hchain huser
  rfl

end Snapshot

/-! ## 3. Serving and fetching -/

theorem foldl_withMarket (l : List FetchedMarket) (s : Snapshot) :
    l.foldl (fun s m => s.withMarket m.state m.config) s =
      { s with
        markets := l.foldl (fun mp m => mp.insert m.state.underlying m.state) s.markets
        configs := l.foldl (fun mp m => mp.insert m.state.underlying m.config) s.configs } := by
  induction l generalizing s with
  | nil => rfl
  | cons m rest ih => rw [List.foldl_cons, ih]; rfl

theorem foldl_withPosition (l : List Position) (s : Snapshot) :
    l.foldl Snapshot.withPosition s =
      { s with positions := l.foldl (fun mp p => mp.insert p.market p) s.positions } := by
  induction l generalizing s with
  | nil => rfl
  | cons p rest ih => rw [List.foldl_cons, ih]; rfl

/-- The served markets are the markets the provider hands out. -/
theorem fetchMarkets_eq_servedMarkets (s : Snapshot) :
    (StaticProvider.mk s).fetchMarkets.map (fun m => (m.state, m.config)) = s.servedMarkets := by
  unfold StaticProvider.fetchMarkets Snapshot.servedMarkets
  rw [List.map_filterMap]
  congr 1
  funext e
  obtain ⟨address, state⟩ := e
  dsimp only
  cases s.configs.get? address <;> rfl

/-- The image's markets, or configurations, at `a`: what the last served market at `a` gives. -/
theorem get?_foldl_servedMarkets {α : Type} (s : Snapshot) (val : MarketState × MarketConfig → α)
    (a : Address) :
    ((StaticProvider.mk s).fetchMarkets.foldl
        (fun mp m => mp.insert m.state.underlying (val (m.state, m.config))) AddrMap.empty).get? a =
      (s.servedMarket? a).map val := by
  have hfold : (StaticProvider.mk s).fetchMarkets.foldl
        (fun mp m => mp.insert m.state.underlying (val (m.state, m.config))) AddrMap.empty =
      ((StaticProvider.mk s).fetchMarkets.map fun m => (m.state, m.config)).foldl
        (fun mp m => mp.insert m.1.underlying (val m)) AddrMap.empty := by
    rw [List.foldl_map]
  rw [hfold, fetchMarkets_eq_servedMarkets,
    AddrMap.get?_foldl_insert (fun m => m.1.underlying) val]
  simp [Snapshot.servedMarket?, AddrMap.get?, AddrMap.empty, AddrMap.lookup]

/-- The image's positions at `a`: the last position on `a`. -/
theorem get?_foldl_positions (s : Snapshot) (a : Address) :
    (s.positions.values.foldl (fun mp p => mp.insert p.market p) AddrMap.empty).get? a =
      s.servedPosition? a := by
  rw [AddrMap.get?_foldl_insert (fun p : Position => p.market) (fun p => p)]
  simp [Snapshot.servedPosition?, AddrMap.get?, AddrMap.empty, AddrMap.lookup]

/-- Fetching with the snapshot's own user from a provider serving a snapshot with a chain context
returns the snapshot's served image. -/
theorem fetchSnapshot_servedAs {s : Snapshot} {c : ChainContext} (hc : s.chain = some c)
    (block : Option Nat) :
    ∃ s', fetchSnapshot (StaticProvider.mk s).source (s.user.map (·.address)) block = .ok s' ∧
      s.ServedAs s' := by
  unfold fetchSnapshot
  simp only [StaticProvider.source, StaticProvider.fetchChain, hc, bind, Except.bind, pure,
    Except.pure, foldl_withMarket]
  cases hu : s.user with
  | none =>
    refine ⟨_, rfl, hc.symm, hu.symm, get?_foldl_servedMarkets s Prod.fst,
      get?_foldl_servedMarkets s Prod.snd, fun a => by simp [hu]; rfl⟩
  | some ctx =>
    -- the provider serves the snapshot's own user their context and all positions
    have hacc : (StaticProvider.mk s).fetchAccount ctx.address = .ok ctx := by
      simp [StaticProvider.fetchAccount, hu]
    have hpos : (StaticProvider.mk s).fetchPositions ctx.address = .ok s.positions.values := by
      simp [StaticProvider.fetchPositions, StaticProvider.serves, hu]
    simp only [Option.map_some, hacc, hpos, foldl_withPosition]
    refine ⟨_, rfl, hc.symm, hu.symm, get?_foldl_servedMarkets s Prod.fst,
      get?_foldl_servedMarkets s Prod.snd, fun a => by rw [hu]; exact get?_foldl_positions s a⟩

/-- The request fails with `chainUnavailable` exactly when the snapshot has no chain context: a
served user's data never fails that way. -/
theorem fetchSnapshot_static_chainUnavailable (s : Snapshot) (user : Option Address)
    (block : Option Nat) :
    fetchSnapshot (StaticProvider.mk s).source user block = .error .chainUnavailable ↔
      s.chain = none := by
  unfold fetchSnapshot
  cases hc : s.chain with
  | none => simp [StaticProvider.source, StaticProvider.fetchChain, hc, bind, Except.bind]
  | some c =>
    simp only [StaticProvider.source, StaticProvider.fetchChain, hc, bind, Except.bind, pure,
      Except.pure, reduceCtorEq, iff_false]
    -- past the chain context only the user's data can fail, and only as an unknown user
    cases user with
    | none => simp
    | some u =>
      cases hu : s.user with
      | none => simp [StaticProvider.fetchAccount, hu]
      | some ctx =>
        by_cases hcu : ctx.address = u
        · simp [StaticProvider.fetchAccount, StaticProvider.fetchPositions,
            StaticProvider.serves, hu, hcu]
        · simp [StaticProvider.fetchAccount, hu, hcu]

/-! ## 4. Faithful snapshots come back unchanged -/

namespace Snapshot

/-- A snapshot that serving gives back as it is: its entries are stored under their own
addresses, its markets and configurations have the same addresses, and it has positions only with
a user. -/
structure Faithful (s : Snapshot) : Prop where
  keys : s.KeysAgree
  sameAddresses : ∀ a, (s.markets.get? a).isSome = (s.configs.get? a).isSome
  positionsNeedUser : s.user = none → s.positions = .empty

variable {s : Snapshot}

/-- With keys that agree, the last served market at `a` is the market stored at `a` with its
configuration. -/
theorem servedMarket?_of_keysAgree (hkeys : s.KeysAgree) (a : Address) :
    s.servedMarket? a = (s.markets.get? a).bind fun m => (s.configs.get? a).map fun c => (m, c) := by
  have hfilter : (s.servedMarkets.filter fun m => m.1.underlying = a) =
      (s.markets.entries.filter fun e => e.1 = a).filterMap
        fun e => (s.configs.get? e.1).map fun c => (e.2, c) := by
    rw [servedMarkets, List.filter_filterMap, List.filterMap_filter]
    refine List.filterMap_congr fun e he => ?_
    by_cases hk : e.1 = a <;> cases s.configs.get? e.1 <;> simp [hk, hkeys.markets e he]
  rw [servedMarket?, hfilter, AddrMap.filter_key_of_pairwise s.markets.ascending]
  unfold AddrMap.get?
  cases AddrMap.lookup a s.markets.entries <;> simp

/-- With keys that agree, the last position on market `a` is the one stored at `a`. -/
theorem servedPosition?_of_keysAgree (hkeys : s.KeysAgree) (a : Address) :
    s.servedPosition? a = s.positions.get? a := by
  have hfilter : (s.positions.entries.filter fun e => e.2.market = a) =
      s.positions.entries.filter fun e => e.1 = a :=
    List.filter_congr fun e he => by rw [hkeys.positions e he]
  rw [servedPosition?, AddrMap.values, List.filter_map, Function.comp_def, hfilter,
    AddrMap.filter_key_of_pairwise s.positions.ascending]
  unfold AddrMap.get?
  cases AddrMap.lookup a s.positions.entries <;> rfl

/-- In a faithful snapshot every market has a configuration and every configuration a market, so
the last served market at `a` is the market and configuration stored there. -/
theorem Faithful.servedMarket?_parts (h : s.Faithful) (a : Address) :
    (s.servedMarket? a).map Prod.fst = s.markets.get? a ∧
      (s.servedMarket? a).map Prod.snd = s.configs.get? a := by
  have hsame := h.sameAddresses a
  rw [servedMarket?_of_keysAgree h.keys]
  cases hm : s.markets.get? a <;> cases hc : s.configs.get? a <;> simp [hm, hc] at hsame ⊢

/-- A faithful snapshot is its own served image. -/
theorem Faithful.servedAs_self (h : s.Faithful) : s.ServedAs s := by
  refine ⟨rfl, rfl, fun a => (h.servedMarket?_parts a).1.symm,
    fun a => (h.servedMarket?_parts a).2.symm, fun a => ?_⟩
  cases hu : s.user with
    | none => simp [h.positionsNeedUser hu, AddrMap.get?, AddrMap.empty, AddrMap.lookup]
    | some _ => simp [servedPosition?_of_keysAgree h.keys]

end Snapshot

/-! ## 5. Main statement -/

/-- Serving a snapshot and fetching it back for its own user: the request fails, with
`chainUnavailable`, exactly when the snapshot has no chain context; otherwise it returns the
snapshot's served image, and that is the snapshot itself when the snapshot is faithful. -/
theorem fetchSnapshot_static (s : Snapshot) (block : Option Nat) :
    (fetchSnapshot (StaticProvider.mk s).source (s.user.map (·.address)) block =
        .error .chainUnavailable ↔ s.chain = none) ∧
    (s.chain.isSome → ∃ s', fetchSnapshot (StaticProvider.mk s).source
        (s.user.map (·.address)) block = .ok s' ∧ s.ServedAs s') ∧
    (s.chain.isSome → s.Faithful →
      fetchSnapshot (StaticProvider.mk s).source (s.user.map (·.address)) block = .ok s) := by
  refine ⟨fetchSnapshot_static_chainUnavailable s _ block, fun hc => ?_, fun hc hf => ?_⟩
  · obtain ⟨c, hc⟩ := Option.isSome_iff_exists.1 hc
    exact fetchSnapshot_servedAs hc block
  · -- the image is determined, and a faithful snapshot is its own image
    obtain ⟨c, hc⟩ := Option.isSome_iff_exists.1 hc
    obtain ⟨s', hr, hs'⟩ := fetchSnapshot_servedAs hc block
    rw [hr, hs'.unique hf.servedAs_self]

/-- The exit snapshot is faithful: one market, its configuration and one position, all under the
market's asset. -/
theorem exitSnapshot_faithful (wallet : Word) : (exitSnapshot wallet).Faithful where
  keys := exitSnapshot_keysAgree wallet
  sameAddresses a := by
    simp only [exitSnapshot, AddrMap.get?_insert]
    split <;> rfl
  positionsNeedUser h := by cases h

/-- The exit snapshot comes back from its provider unchanged. -/
theorem exitSnapshot_served_back :
    (exitSnapshot 100).chain.isSome ∧ (exitSnapshot 100).Faithful ∧
      fetchSnapshot (StaticProvider.mk (exitSnapshot 100)).source
        ((exitSnapshot 100).user.map (·.address)) none = .ok (exitSnapshot 100) :=
  ⟨rfl, exitSnapshot_faithful 100,
    (fetchSnapshot_static (exitSnapshot 100) none).2.2 rfl (exitSnapshot_faithful 100)⟩

end PeerLending
