import PeerLending.Session

/-!
# A session's simulation is never stale

A session is driven by four commands: a new snapshot, a new list of operations, a poll of the
clock and a reset (`SessionCommand`). Whatever their order and whatever the clock says, the
session keeps its simulation *fresh* (`Session.Fresh`): without operations there is no simulation
and nothing pending; something pending has a snapshot and operations to simulate; and when
nothing is pending, the kept outcome is the simulation of the latest operations on the latest
snapshot. A publisher fed every event the session gave shows that outcome's final state and
issue (`Publisher.Shows`).

The debounce window is what makes this an invariant rather than a property of each command: a
snapshot that arrives inside the window leaves the old outcome in place, stale, and marks the run
pending; the freshness claim is only made of a session with nothing pending, and the poll that
clears `pending` runs the simulation. The proof follows the commands: each one keeps the
invariant (`Session.Fresh.perform`), and so does every run from a new session
(`Session.performAll_fresh`).
-/

set_option autoImplicit false

namespace PeerLending

/-! ## 1. Runs of a session -/

/-- A command a session's owner can give, with the time it is given at. -/
inductive SessionCommand where
  | applySnapshot (snapshot : Snapshot) (now : Nat)
  | setOperations (ops : List Operation) (now : Nat)
  | poll (now : Nat)
  | reset

namespace Session

/-- Carries out one command. -/
def perform (s : Session) : SessionCommand → Transitioned
  | .applySnapshot snapshot now => s.applySnapshot snapshot now
  | .setOperations ops now => s.setOperations ops now
  | .poll now => s.poll now
  | .reset => .ok s.reset

/-- Carries out the commands in order: the session at the end and every event, in order. -/
def performAll (s : Session) : List SessionCommand → Answer (Session × List SessionEvent)
  | [] => .ok (s, [])
  | c :: cs => do
    let (s', events) ← s.perform c
    let (s'', more) ← s'.performAll cs
    return (s'', events ++ more)

end Session

/-! ## 2. Freshness -/

/-- The simulation a session keeps is the one its operations and snapshot call for. -/
structure Session.Fresh (s : Session) : Prop where
  /-- Without operations there is no simulation and nothing pending. -/
  idle : s.operations = [] → s.outcome = none ∧ s.pending = false
  /-- A pending run has a snapshot and operations to simulate. -/
  pending : s.pending = true → s.snapshot.isSome ∧ s.operations ≠ []
  /-- With nothing pending, the outcome kept is the simulation of the operations on the
  snapshot. -/
  current : s.pending = false → s.operations ≠ [] → ∀ snapshot, s.snapshot = some snapshot →
    ∃ o, simulateWithThreshold snapshot s.operations s.config.healthThreshold = .ok o ∧
      s.outcome = some o

/-- The publisher's simulation channels hold the session's outcome: its final state and its
issue, none and none without an outcome. -/
structure Publisher.Shows (p : Publisher) (s : Session) : Prop where
  simulation : p.simulation = s.outcome.bind (·.final)
  issue : p.simulationIssue = s.outcome.bind (·.issue)

/-- Whether an event is a view of the markets or of the user, not of the simulation. -/
def SessionEvent.isView : SessionEvent → Bool
  | .marketsUpdated _ | .userUpdated _ => true
  | .simulationUpdated _ | .simulationIssueUpdated _ => false

namespace Publisher

theorem publish_append (p : Publisher) (a b : List SessionEvent) :
    p.publish (a ++ b) = (p.publish a).publish b :=
  List.foldl_append

/-- Views leave the simulation channels alone. -/
theorem publish_views (p : Publisher) {events : List SessionEvent}
    (h : ∀ e ∈ events, e.isView = true) :
    (p.publish events).simulation = p.simulation ∧
      (p.publish events).simulationIssue = p.simulationIssue := by
  induction events generalizing p with
  | nil => exact ⟨rfl, rfl⟩
  | cons e rest ih =>
    have hrest := ih (p.take e) fun e' he' => h e' (List.mem_cons_of_mem _ he')
    have he := h e List.mem_cons_self
    cases e with
    | marketsUpdated _ => exact hrest
    | userUpdated _ => exact hrest
    | simulationUpdated _ => cases he
    | simulationIssueUpdated _ => cases he

/-- The two events of a run show its outcome. -/
theorem publish_run (p : Publisher) (o : SimulationOutcome) :
    (p.publish [.simulationUpdated o.final, .simulationIssueUpdated o.issue]).simulation =
        o.final ∧
      (p.publish [.simulationUpdated o.final, .simulationIssueUpdated o.issue]).simulationIssue =
        o.issue :=
  ⟨rfl, rfl⟩

end Publisher

theorem viewEvent_isView {α : Type} {view : Answer α} {event : α → SessionEvent}
    {events : List SessionEvent} (hev : ∀ a, (event a).isView = true)
    (h : viewEvent view event = .ok events) : ∀ e ∈ events, e.isView = true := by
  unfold viewEvent at h
  split at h
  · cases h
    intro e he
    rw [List.mem_singleton.1 he]
    exact hev _
  · cases h
  · cases h
    intro e he
    cases he

/-! ## 3. Each command keeps the simulation fresh -/

namespace Session

variable {s s' : Session} {p : Publisher} {events : List SessionEvent} {now : Nat}

/-- A run of the simulation: nothing is pending afterwards, and with a snapshot the outcome is
the simulation of the operations on it, announced by two events. -/
theorem runSimulation_eq (h : s.runSimulation now = .ok (s', events)) :
    (s.snapshot = none ∧ s' = { s with pending := false } ∧ events = []) ∨
      ∃ snapshot o, s.snapshot = some snapshot ∧
        simulateWithThreshold snapshot s.operations s.config.healthThreshold = .ok o ∧
        s' = { s with pending := false, lastRun := some now, outcome := some o } ∧
        events = [.simulationUpdated o.final, .simulationIssueUpdated o.issue] := by
  unfold runSimulation at h
  dsimp only at h
  split at h
  · rename_i hs
    cases h
    exact .inl ⟨hs, rfl, rfl⟩
  · rename_i snapshot hs
    cases hsim : simulateWithThreshold snapshot s.operations s.config.healthThreshold with
    | error e =>
      simp only [hsim] at h
      cases h
    | ok o =>
      simp only [hsim] at h
      cases h
      exact .inr ⟨snapshot, o, hs, hsim, rfl, rfl⟩

/-- A run of the simulation over operations leaves it fresh, whatever it was before. -/
theorem runSimulation_fresh (hp : p.Shows s) (hops : s.operations ≠ [])
    (h : s.runSimulation now = .ok (s', events)) : s'.Fresh ∧ (p.publish events).Shows s' := by
  rcases runSimulation_eq h with ⟨hs, rfl, rfl⟩ | ⟨snapshot, o, hs, hsim, rfl, rfl⟩
  -- without a snapshot nothing is simulated, and nothing is pending any more
  · refine ⟨⟨fun h => absurd h hops, fun h => (by cases h), ?_⟩, ⟨hp.simulation, hp.issue⟩⟩
    intro _ _ snapshot' hs'
    rw [hs] at hs'
    cases hs'
  · refine ⟨⟨fun h => absurd h hops, fun h => (by cases h), ?_⟩, ?_⟩
    · intro _ _ snapshot' hs'
      rw [hs] at hs'
      cases hs'
      exact ⟨o, hsim, rfl⟩
    · obtain ⟨hsim', hissue⟩ := Publisher.publish_run p o
      exact ⟨hsim', hissue⟩

/-- A reset drops the simulation and says so. -/
theorem Fresh.reset (s : Session) (p : Publisher) :
    s.reset.1.Fresh ∧ (p.publish s.reset.2).Shows s.reset.1 :=
  ⟨⟨fun _ => ⟨rfl, rfl⟩, fun h => (by cases h), fun _ h => absurd rfl h⟩, ⟨rfl, rfl⟩⟩

/-- A new snapshot keeps the simulation fresh: without operations nothing is simulated; inside
the debounce window the run is left pending; otherwise it is run at once. -/
theorem Fresh.applySnapshot (hf : s.Fresh) (hp : p.Shows s) {snapshot : Snapshot}
    (h : s.applySnapshot snapshot now = .ok (s', events)) :
    s'.Fresh ∧ (p.publish events).Shows s' := by
  unfold Session.applySnapshot at h
  cases hm : viewEvent snapshot.marketsData .marketsUpdated with
  | error e =>
    rw [hm] at h
    cases h
  | ok markets =>
    cases hu : viewEvent snapshot.userView .userUpdated with
    | error e =>
      simp only [hm, hu] at h
      cases h
    | ok user =>
      simp only [hm, hu] at h
      -- the views change no simulation channel
      have hviews : ∀ e ∈ markets ++ user, e.isView = true := by
        intro e he
        rcases List.mem_append.1 he with he | he
        · exact viewEvent_isView (fun _ => rfl) hm e he
        · exact viewEvent_isView (fun _ => rfl) hu e he
      obtain ⟨hvs, hvi⟩ := p.publish_views hviews
      have hp' : (p.publish (markets ++ user)).Shows { s with snapshot := some snapshot } :=
        ⟨hvs.trans hp.simulation, hvi.trans hp.issue⟩
      split at h
      · -- no operations: only the views
        cases h
        rename_i hempty
        have hops : s.operations = [] := List.isEmpty_iff.1 hempty
        refine ⟨⟨fun _ => hf.idle hops, fun hpend => absurd hops (hf.pending hpend).2, ?_⟩, hp'⟩
        intro _ hne
        exact absurd hops hne
      · rename_i hne
        have hops : s.operations ≠ [] := fun h' => by simp [h'] at hne
        split at h
        · -- the window has passed: the run is made at once
          cases hrun : ({ s with snapshot := some snapshot } : Session).runSimulation now with
          | error e =>
            simp only [hrun] at h
            cases h
          | ok r =>
            obtain ⟨s'', more⟩ := r
            simp only [hrun] at h
            cases h
            rw [Publisher.publish_append]
            exact runSimulation_fresh hp' hops hrun
        · -- inside the window: the old outcome stays, and the run is pending
          cases h
          exact ⟨⟨fun h' => absurd h' hops, fun _ => ⟨rfl, hops⟩, fun h' => (by cases h')⟩,
            ⟨hp'.simulation, hp'.issue⟩⟩

/-- New operations keep the simulation fresh: an empty list is a reset, any other is simulated
at once. -/
theorem Fresh.setOperations (hp : p.Shows s) {ops : List Operation}
    (h : s.setOperations ops now = .ok (s', events)) :
    s'.Fresh ∧ (p.publish events).Shows s' := by
  unfold Session.setOperations at h
  split at h
  · cases h
    exact Fresh.reset s p
  · rename_i hne
    have hops : ops ≠ [] := fun h' => by simp [h'] at hne
    have hp' : p.Shows { s with operations := ops } := ⟨hp.simulation, hp.issue⟩
    exact runSimulation_fresh hp' hops h

/-- A poll runs a pending simulation once the window has passed, and otherwise changes
nothing. -/
theorem Fresh.poll (hf : s.Fresh) (hp : p.Shows s) (h : s.poll now = .ok (s', events)) :
    s'.Fresh ∧ (p.publish events).Shows s' := by
  unfold Session.poll at h
  split at h
  · rename_i hrun
    have hpend : s.pending = true := (Bool.and_eq_true _ _ ▸ hrun).1
    exact runSimulation_fresh hp (hf.pending hpend).2 h
  · cases h
    exact ⟨hf, hp⟩

/-- Every command keeps the simulation fresh and the publisher showing it. -/
theorem Fresh.perform (hf : s.Fresh) (hp : p.Shows s) {c : SessionCommand}
    (h : s.perform c = .ok (s', events)) : s'.Fresh ∧ (p.publish events).Shows s' := by
  cases c with
  | applySnapshot snapshot now => exact hf.applySnapshot hp h
  | setOperations ops now => exact Fresh.setOperations hp h
  | poll now => exact hf.poll hp h
  | reset =>
    cases h
    exact Fresh.reset s p

/-- A run of commands is its first command, then the rest of the run on what it left. -/
theorem performAll_cons {c : SessionCommand} {cs : List SessionCommand}
    (h : s.performAll (c :: cs) = .ok (s', events)) :
    ∃ s₁ first more, s.perform c = .ok (s₁, first) ∧ s₁.performAll cs = .ok (s', more) ∧
      events = first ++ more := by
  unfold Session.performAll at h
  cases hc : s.perform c with
  | error e =>
    rw [hc] at h
    cases h
  | ok r =>
    obtain ⟨s₁, first⟩ := r
    rw [hc] at h
    cases hr : s₁.performAll cs with
    | error e =>
      simp only [bind, Except.bind, hr] at h
      cases h
    | ok r' =>
      obtain ⟨s₂, more⟩ := r'
      simp only [bind, Except.bind, hr] at h
      cases h
      exact ⟨s₁, first, more, rfl, hr, rfl⟩

/-- A run of commands from a fresh session, with a publisher showing it, keeps both. -/
theorem Fresh.performAll (cmds : List SessionCommand) :
    ∀ {s s' : Session} {p : Publisher} {events : List SessionEvent}, s.Fresh → p.Shows s →
      s.performAll cmds = .ok (s', events) → s'.Fresh ∧ (p.publish events).Shows s' := by
  induction cmds with
  | nil =>
    intro s s' p events hf hp h
    cases h
    exact ⟨hf, hp⟩
  | cons c cs ih =>
    intro s s' p events hf hp h
    obtain ⟨s₁, first, more, hc, hr, rfl⟩ := performAll_cons h
    obtain ⟨hf₁, hp₁⟩ := hf.perform hp hc
    rw [Publisher.publish_append]
    exact ih hf₁ hp₁ hr

/-- A new session is fresh, and a publisher that has published nothing shows it. -/
theorem new_fresh (config : SessionConfig) :
    (Session.new config).Fresh ∧ Publisher.empty.Shows (Session.new config) :=
  ⟨⟨fun _ => ⟨rfl, rfl⟩, fun h => (by cases h), fun _ h => absurd rfl h⟩, ⟨rfl, rfl⟩⟩

/-- Whatever commands a new session is given, at whatever times, it keeps its simulation
fresh: no simulation and nothing pending without operations, a snapshot and operations behind
anything pending, and, with nothing pending, the simulation of its operations on its snapshot;
and a publisher fed every event it gave, in order, shows that simulation's final state and
issue. -/
theorem performAll_fresh (config : SessionConfig) (cmds : List SessionCommand) {s : Session}
    {events : List SessionEvent} (h : (Session.new config).performAll cmds = .ok (s, events)) :
    s.Fresh ∧ (Publisher.empty.publish events).Shows s :=
  Fresh.performAll cmds (new_fresh config).1 (new_fresh config).2 h

end Session

/-! ## 4. A debounced run -/

/-- A supply to simulate. -/
def debouncedSupply : Operation :=
  ⟨.supply, Address.ofNat 0xaaaaaaaaaaaaaaaaaaaaaaaaaaaaaaaaaaaaaaaa, 5, false⟩

/-- Operations before any snapshot, a snapshot that is simulated at once, a second one inside
the debounce window, and a poll after it. -/
def debouncedCommands : List SessionCommand :=
  [.setOperations [debouncedSupply] 0, .applySnapshot Snapshot.empty 10,
    .applySnapshot Snapshot.empty 500, .poll 2000]

/-- Every run of `debouncedSupply` on the empty snapshot stops at once: it has no chain
context. -/
def debouncedIssue : SimulationIssue := ⟨0, .missingData, some debouncedSupply⟩

/-- Where `debouncedCommands` leaves a new session: the run the poll made is kept. -/
def debouncedSession : Session :=
  ⟨.standard, some Snapshot.empty, [debouncedSupply], some ⟨[], none, some debouncedIssue⟩,
    some 2000, false⟩

/-- The first snapshot is simulated at once, the second is left pending and the poll runs it. -/
def debouncedEvents : List SessionEvent :=
  [.simulationUpdated none, .simulationIssueUpdated (some debouncedIssue),
    .simulationUpdated none, .simulationIssueUpdated (some debouncedIssue)]

theorem debouncedCommands_fresh :
    (Session.new .standard).performAll debouncedCommands = .ok (debouncedSession, debouncedEvents) ∧
      debouncedSession.Fresh ∧ (Publisher.empty.publish debouncedEvents).Shows debouncedSession := by
  have h : (Session.new .standard).performAll debouncedCommands =
      .ok (debouncedSession, debouncedEvents) := by
    rfl
  exact ⟨h, Session.performAll_fresh .standard debouncedCommands h⟩

end PeerLending
