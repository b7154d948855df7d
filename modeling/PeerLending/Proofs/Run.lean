import PeerLending.Proofs.Outcome

/-!
# The states a run goes through

A run of operations on a snapshot starts from the snapshot aged to its chain context's timestamp,
with its views derived, and moves to the state derived from each transition (`Reaches`). Every
step an outcome keeps and its final state are such states (`simulateWithThreshold_reaches`), and
every such state carries its own views (`Reaches.derive_eq`): the user view it holds is the one
its snapshot gives.

A snapshot's keys agree when each market is stored under its own asset and each position under
its own market (`Snapshot.KeysAgree`). Ageing keeps that, and so does every operation: a market
operation writes the market and the position back under their own addresses, and a wrap writes
the position it credits under the market it names. So every state a run goes through from a
snapshot whose keys agree has keys that agree (`Reaches.keysAgree`).
-/

set_option autoImplicit false

namespace PeerLending

/-! ## 1. Entries of a map -/

namespace AddrMap

variable {α : Type}

theorem mem_insert {m : AddrMap α} {k : Address} {v : α} {e : Address × α}
    (h : e ∈ (m.insert k v).entries) : e = (k, v) ∨ e ∈ m.entries :=
  mem_insertEntry h

theorem mem_of_lookup {k : Address} {v : α} :
    ∀ {l : List (Address × α)}, lookup k l = some v → (k, v) ∈ l
  | [], h => by cases h
  | (k', v') :: rest, h => by
    unfold lookup at h
    split at h
    · rename_i hk
      cases h
      rw [hk]
      exact List.mem_cons_self
    · exact List.mem_cons_of_mem _ (mem_of_lookup h)

theorem mem_of_get? {m : AddrMap α} {k : Address} {v : α} (h : m.get? k = some v) :
    (k, v) ∈ m.entries :=
  mem_of_lookup h

end AddrMap

/-! ## 2. Keys that agree -/

/-- Every market of the snapshot is stored under its own asset, and every position under its own
market. -/
structure Snapshot.KeysAgree (s : Snapshot) : Prop where
  markets : ∀ e ∈ s.markets.entries, e.2.underlying = e.1
  positions : ∀ e ∈ s.positions.entries, e.2.market = e.1

namespace Snapshot.KeysAgree

variable {s : Snapshot}

theorem underlying_of_get? (h : s.KeysAgree) {a : Address} {state : MarketState}
    (hs : s.markets.get? a = some state) : state.underlying = a :=
  h.markets _ (AddrMap.mem_of_get? hs)

theorem market_of_get? (h : s.KeysAgree) {a : Address} {p : Position}
    (hp : s.positions.get? a = some p) : p.market = a :=
  h.positions _ (AddrMap.mem_of_get? hp)

/-- Ageing changes no market's asset. -/
theorem accrue (h : s.KeysAgree) (timestamp : Nat) : (s.accrue timestamp).KeysAgree := by
  refine ⟨?_, h.positions⟩
  intro e he
  simp only [Snapshot.accrue, AddrMap.mapValues, List.mem_map] at he
  obtain ⟨⟨k, state⟩, hmem, rfl⟩ := he
  have hk : state.underlying = k := h.markets _ hmem
  dsimp only
  split
  · unfold MarketState.accrue
    split
    · exact hk
    · exact hk
  · exact hk

/-- Writing a work back stores its market and its position under their own addresses. -/
theorem finish (h : s.KeysAgree) (w : Work) : (w.finish s).snapshot.KeysAgree := by
  constructor
  · intro e he
    rcases AddrMap.mem_insert he with rfl | he
    · rfl
    · exact h.markets e he
  · intro e he
    rcases AddrMap.mem_insert he with rfl | he
    · rfl
    · exact h.positions e he

/-- Every operation keeps the keys agreeing. -/
theorem applyOperation (h : s.KeysAgree) {st : SimulatedState} (hs : st.snapshot = s)
    {op : Operation} {t : Transition} (happ : PeerLending.applyOperation st op = .ok t) :
    t.snapshot.KeysAgree := by
  subst hs
  unfold PeerLending.applyOperation claimRewards wrapCoin at happ
  dsimp only at happ
  cases hr : resolveAmount st.snapshot op with
  | error e =>
    rw [hr] at happ
    repeat' split at happ
    all_goals cases happ
  | ok amount =>
    rw [hr] at happ
    repeat' split at happ
    all_goals cases happ
    -- a claim touches the user context only
    · exact ⟨h.markets, h.positions⟩
    -- a wrap credits the position stored under the market it names
    · refine ⟨h.markets, ?_⟩
      intro e he
      rcases AddrMap.mem_insert he with rfl | he
      · cases hp : st.snapshot.positions.get? op.market with
        | none => rfl
        | some p => simpa [hp] using h.market_of_get? hp
      · exact h.positions e he
    -- a market operation writes its work back
    · exact h.finish _

end Snapshot.KeysAgree

/-! ## 3. The states of a run -/

/-- The states a run of operations on `s` applies an operation to: the snapshot aged to its
chain context's timestamp, with its views, and every state derived after an operation applied
to one of them. -/
inductive Reaches (s : Snapshot) : SimulatedState → Prop
  | start {chain : ChainContext} {st : SimulatedState} :
      s.chain = some chain → SimulatedState.derive (s.accrue chain.timestamp) = .ok st →
      Reaches s st
  | step {st next : SimulatedState} {op : Operation} {t : Transition} :
      Reaches s st → applyOperation st op = .ok t → SimulatedState.derive t.snapshot = .ok next →
      Reaches s next

theorem SimulatedState.derive_ok {s : Snapshot} {st : SimulatedState}
    (h : SimulatedState.derive s = .ok st) :
    st.snapshot = s ∧ st.markets = s.marketViews ∧ s.currentUserView = .ok st.user := by
  unfold SimulatedState.derive at h
  cases hu : s.currentUserView with
  | error e =>
    rw [hu] at h
    cases h
  | ok u =>
    rw [hu] at h
    cases h
    exact ⟨rfl, rfl, rfl⟩

/-- A state derived from its snapshot is what deriving its snapshot gives. -/
theorem SimulatedState.derive_self {s : Snapshot} {st : SimulatedState}
    (h : SimulatedState.derive s = .ok st) : SimulatedState.derive st.snapshot = .ok st := by
  obtain ⟨hs, hm, hu⟩ := SimulatedState.derive_ok h
  subst hs
  cases st
  simp only at hm
  subst hm
  unfold SimulatedState.derive
  rw [hu]
  rfl

namespace Reaches

variable {s : Snapshot} {st : SimulatedState}

/-- Every state of a run holds the views of its own snapshot. -/
theorem derive_eq (h : Reaches s st) : SimulatedState.derive st.snapshot = .ok st := by
  cases h with
  | start _ hd => exact SimulatedState.derive_self hd
  | step _ _ hd => exact SimulatedState.derive_self hd

/-- Every state of a run from a snapshot whose keys agree has keys that agree. -/
theorem keysAgree (hkeys : s.KeysAgree) (h : Reaches s st) : st.snapshot.KeysAgree := by
  induction h with
  | start _ hd =>
    rw [(SimulatedState.derive_ok hd).1]
    exact hkeys.accrue _
  | step _ happ hd ih =>
    rw [(SimulatedState.derive_ok hd).1]
    exact ih.applyOperation rfl happ

end Reaches

/-- A run from a reachable state keeps only reachable states, and ends on one. -/
theorem runFrom_reaches {s : Snapshot} (ops : List Operation) :
    ∀ (i : Nat) (current : SimulatedState) (log log' : RunLog) (final : Option SimulatedState),
      Reaches s current → (∀ st ∈ log.steps, Reaches s st) →
      runFrom ops i current log = .ok (log', final) →
      (∀ st ∈ log'.steps, Reaches s st) ∧ ∀ f, final = some f → Reaches s f := by
  induction ops with
  | nil =>
    intro i current log log' final hc hlog h
    simp only [runFrom, Except.ok.injEq, Prod.mk.injEq] at h
    obtain ⟨rfl, rfl⟩ := h
    exact ⟨hlog, fun f hf => by cases hf; exact hc⟩
  | cons op rest ih =>
    intro i current log log' final hc hlog h
    rw [runFrom] at h
    cases happ : applyOperation current op with
    | error f =>
      rw [happ] at h
      cases f with
      | overflow => cases h
      | blocked k =>
        cases h
        exact ⟨hlog, fun _ hf => (by cases hf)⟩
    | ok t =>
      simp only [happ] at h
      have hsteps := (RunLog.foldl_note t.issues log i (some op)).1
      cases hder : SimulatedState.derive t.snapshot with
      | error e =>
        rw [hder] at h
        split at h
        · cases h
        · cases h
          exact ⟨fun st hst => hlog st (by rw [← hsteps]; exact hst), fun _ hf => (by cases hf)⟩
        · contradiction
      | ok next =>
        rw [hder] at h
        have hnext : Reaches s next := .step hc happ hder
        refine ih (i + 1) next _ log' final hnext ?_ h
        intro st hst
        simp only [List.mem_append, List.mem_singleton, hsteps] at hst
        rcases hst with hst | rfl
        · exact hlog st hst
        · exact hnext

/-- Every step an outcome keeps, and its final state, is a state of the run. -/
theorem simulateWithThreshold_reaches {s : Snapshot} {ops : List Operation} {threshold : Word}
    {o : SimulationOutcome} (h : simulateWithThreshold s ops threshold = .ok o) :
    (∀ st ∈ o.steps, Reaches s st) ∧ ∀ f, o.final = some f → Reaches s f := by
  unfold simulateWithThreshold at h
  split at h
  · cases h
    exact ⟨fun _ h => (by cases h), fun _ h => (by cases h)⟩
  · rename_i chain hchain
    split at h
    · cases h
    · cases h
      exact ⟨fun _ h => (by cases h), fun _ h => (by cases h)⟩
    · rename_i start hstart
      cases hrun : runFrom ops 0 start ⟨[], none⟩ with
      | error e =>
        rw [hrun] at h
        cases h
      | ok r =>
        obtain ⟨log, final⟩ := r
        obtain ⟨hsteps, hfinal⟩ := runFrom_reaches ops 0 start ⟨[], none⟩ log final
          (.start hchain hstart) (fun _ h => by cases h) hrun
        rw [hrun] at h
        cases final with
        | none =>
          cases h
          exact ⟨hsteps, fun _ h => (by cases h)⟩
        | some f =>
          cases h
          -- the final check notes an issue at most: the steps stay
          refine ⟨?_, fun f' hf => by cases hf; exact hfinal f rfl⟩
          split <;> simpa [RunLog.note] using hsteps

end PeerLending
