import WebsocketProxy.Client.Rounds

/-!
# The worker and the destructor

`ClientLifetime` is a client from its construction to the end of its destructor. `connect`
starts the thread of the worker; the worker creates the flag `run_` with the value true, and
goes on with the rounds of `doWork` while the flag is true. The destructor unregisters the
client if it is connected, tests `run_`, stores false if there is a flag, and joins the thread.
A step of one may come between any two steps of the other.

A destructor that tests `run_` before the worker has created it stores nothing, and waits for a
worker that nobody stops (`not_worker_terminates`). A destructor that tests it later never does
(`worker_terminates`), and it can return (`destructor_returns`).
-/

namespace ClientLifetime

/-- Where the thread of the worker is. -/
inductive Thread where
  /-- It is not started. -/
  | absent
  /-- It creates `run_` next. -/
  | starting
  /-- It copies `run_` next. -/
  | copying
  /-- It loads the flag next. -/
  | testing
  /-- It is in a round of the loop. -/
  | looping
  | exited
deriving DecidableEq

/-- Where the destructor is. -/
inductive Destructor where
  /-- It is not called. -/
  | uncalled
  /-- It loads `server_pid_` next. -/
  | loading
  /-- It publishes `Unregister` next. -/
  | unregistering
  /-- It sets `server_pid_` to zero next. -/
  | forgetting
  /-- It tests `run_` next. -/
  | testing
  /-- It stores false through `run_` next. -/
  | storing
  /-- It joins the thread next, if there is one. -/
  | joining
  | returned
deriving DecidableEq

/-- It has tested `run_`, and stored false if it has to. -/
def Destructor.hasTested : Destructor → Bool
  | joining | returned => true
  | _ => false

/-- What happens in the lifetime of a client. -/
inductive Event where
  /-- A step of a public method, or of a round of the worker. -/
  | client (ev : WebsocketProxyClient.Event)
  /-- `connect` starts the thread of the worker. -/
  | startWorker
  /-- The steps of the worker outside its rounds. -/
  | createRun
  | copyRun
  | loadRun
  /-- The destructor is called. -/
  | destroy
  /-- The steps of the destructor. -/
  | loadServerPid
  | unregister (sent : UInt64)
  | forget
  | testRun
  | storeRun
  | join

end ClientLifetime

/-- A client with the thread of its worker and its destructor. -/
structure ClientLifetime where
  client : WebsocketProxyClient
  /-- The flag `run_` refers to, if it refers to one. The copy of the worker refers to it too. -/
  run : Option Bool := none
  thread : ClientLifetime.Thread := .absent
  destructor : ClientLifetime.Destructor := .uncalled

namespace ClientLifetime

/-- The steps of a round are made in a round, those of public methods before the destructor is
called. A method that was left by an exception makes no more steps. -/
def allows (s : ClientLifetime) (ev : WebsocketProxyClient.Event) : Bool :=
  if ev.ofWorker then s.thread = .looping
  else
    match ev with
    | .rehash _ => true
    | .spawnWebsocketsProxyServer _ => s.destructor = .uncalled && s.thread ≠ .absent
    | _ => s.destructor = .uncalled

/-- Where the thread is after a step that leads to the client `c`: a round ends where the next
one begins. -/
def threadAfter (s : ClientLifetime) (ev : WebsocketProxyClient.Event) (c : WebsocketProxyClient) :
    Thread :=
  if ev.ofWorker ∧ c.worker = .loading then .testing else s.thread

/-- The state after an event, if it can occur. -/
def step (s : ClientLifetime) : Event → Option ClientLifetime
  | .client ev =>
      if s.allows ev then
        (WebsocketProxyClient.system.step s.client ev).map fun c =>
          { s with client := c, thread := s.threadAfter ev c }
      else none
  | .startWorker =>
      match s.client.caller, s.thread, s.destructor with
      | .spawning _, .absent, .uncalled => some { s with thread := .starting }
      | _, _, _ => none
  | .createRun =>
      if s.thread = .starting then some { s with run := some true, thread := .copying } else none
  | .copyRun => if s.thread = .copying then some { s with thread := .testing } else none
  | .loadRun =>
      match s.thread, s.run with
      | .testing, some run => some { s with thread := if run then .looping else .exited }
      | _, _ => none
  | .destroy =>
      if s.destructor = .uncalled then some { s with destructor := .loading } else none
  | .loadServerPid =>
      if s.destructor = .loading then
        some { s with destructor := if s.client.serverPid ≠ 0 then .unregistering else .testing }
      else none
  | .unregister sent =>
      if s.destructor = .unregistering then
        some { s with client := (s.client.sendMessage .unregister sent).1, destructor := .forgetting }
      else none
  | .forget =>
      if s.destructor = .forgetting then
        some { s with client := { s.client with serverPid := 0 }, destructor := .testing }
      else none
  | .testRun =>
      if s.destructor = .testing then
        some { s with destructor := if s.run = none then .joining else .storing }
      else none
  | .storeRun =>
      if s.destructor = .storing then some { s with run := some false, destructor := .joining }
      else none
  | .join =>
      -- a thread that was not started is not joined
      if s.destructor = .joining ∧ (s.thread = .absent ∨ s.thread = .exited) then
        some { s with destructor := .returned }
      else none

/-- A client that was constructed. -/
def start (pid : UInt64) (name : Bytes) : ClientLifetime :=
  { client := WebsocketProxyClient.start pid name }

/-- The lifetime of a client, with any messages in the queues. -/
def system : TransitionSystem ClientLifetime Event where
  initial s := ∃ pid name, s = start pid name
  step := step

/-- When the destructor tests `run_`, the worker has created it, if it was started. -/
def CreatesFirst (s : ClientLifetime) : Event → Prop
  | .testRun => s.thread ≠ .starting
  | _ => True

instance (s : ClientLifetime) (ev : Event) : Decidable (s.CreatesFirst ev) :=
  match ev with
  | .testRun => inferInstanceAs (Decidable (s.thread ≠ .starting))
  | .client _ | .startWorker | .createRun | .copyRun | .loadRun | .destroy | .loadServerPid
  | .unregister _ | .forget | .storeRun | .join => inferInstanceAs (Decidable True)

/-- The destructor waits for the worker while the flag of the worker is true, and no step that
can come clears it. -/
def Stuck (s : ClientLifetime) : Prop :=
  s.destructor = .joining ∧ s.run = some true ∧ ∀ es t, system.Run s es t → t.run = some true

variable {s t : ClientLifetime} {ev : Event}

/-! ### Steps -/

/-- The steps, with their conditions. -/
inductive Step (s : ClientLifetime) : Event → ClientLifetime → Prop
  | client {ev c} (hallows : s.allows ev)
      (hstep : WebsocketProxyClient.system.step s.client ev = some c) :
      Step s (.client ev) { s with client := c, thread := s.threadAfter ev c }
  | startWorker (hthread : s.thread = .absent) (hdestructor : s.destructor = .uncalled) :
      Step s .startWorker { s with thread := .starting }
  | createRun (hthread : s.thread = .starting) :
      Step s .createRun { s with run := some true, thread := .copying }
  | copyRun (hthread : s.thread = .copying) : Step s .copyRun { s with thread := .testing }
  | loadRun {run} (hthread : s.thread = .testing) (hrun : s.run = some run) :
      Step s .loadRun { s with thread := if run then .looping else .exited }
  | destroy (hdestructor : s.destructor = .uncalled) :
      Step s .destroy { s with destructor := .loading }
  | loadServerPid (hdestructor : s.destructor = .loading) :
      Step s .loadServerPid { s with
        destructor := if s.client.serverPid ≠ 0 then .unregistering else .testing }
  | unregister {sent} (hdestructor : s.destructor = .unregistering) :
      Step s (.unregister sent) { s with
        client := (s.client.sendMessage .unregister sent).1, destructor := .forgetting }
  | forget (hdestructor : s.destructor = .forgetting) :
      Step s .forget { s with client := { s.client with serverPid := 0 }, destructor := .testing }
  | testRun (hdestructor : s.destructor = .testing) :
      Step s .testRun { s with destructor := if s.run = none then .joining else .storing }
  | storeRun (hdestructor : s.destructor = .storing) :
      Step s .storeRun { s with run := some false, destructor := .joining }
  | join (hdestructor : s.destructor = .joining)
      (hthread : s.thread = .absent ∨ s.thread = .exited) :
      Step s .join { s with destructor := .returned }

theorem step_of_system (h : system.step s ev = some t) :
  Step s ev t
  := by
  have h : s.step ev = some t := h
  cases ev with
  | client ev =>
      simp only [step] at h
      split at h
      case isTrue hallows =>
        obtain ⟨c, hstep, rfl⟩ := Option.map_eq_some_iff.mp h
        apply Step.client hallows hstep
      case isFalse => cases h
  | startWorker =>
      simp only [step] at h
      split at h
      case h_1 hcaller hthread hdestructor =>
        cases h
        apply Step.startWorker hthread hdestructor
      case h_2 => cases h
  | loadRun =>
      simp only [step] at h
      split at h
      case h_1 hthread hrun =>
        cases h
        apply Step.loadRun hthread hrun
      case h_2 => cases h
  | join =>
      simp only [step] at h
      split at h
      case isTrue hjoin =>
        cases h
        apply Step.join hjoin.1 hjoin.2
      case isFalse => cases h
  | createRun | copyRun | destroy | loadServerPid | unregister | forget | testRun | storeRun =>
      simp only [step] at h
      split at h
      case isTrue hat =>
        cases h
        constructor
        exact hat
      case isFalse => cases h

/-- A step of the client ends a round of the worker, or leaves its thread where it is. -/
theorem threadAfter_cases {ev : WebsocketProxyClient.Event} (hallows : s.allows ev)
    (c : WebsocketProxyClient) :
  s.threadAfter ev c = s.thread ∨ s.thread = .looping ∧ s.threadAfter ev c = .testing
  := by
  unfold threadAfter
  split
  case isTrue hround =>
    right
    unfold allows at hallows
    rw [if_pos hround.1] at hallows
    use of_decide_eq_true hallows
  case isFalse =>
    left
    rfl

theorem threadAfter_ne {ev : WebsocketProxyClient.Event} (hallows : s.allows ev)
    (c : WebsocketProxyClient) {thread : Thread} (hne : s.thread ≠ thread)
    (htesting : thread ≠ .testing) :
  s.threadAfter ev c ≠ thread
  := by
  rcases threadAfter_cases hallows c with hthread | ⟨-, hthread⟩
  · rw [hthread]
    exact hne
  · rw [hthread]
    exact htesting.symm

/-! ### The client -/

/-- Before the destructor is called, the client is one of `WebsocketProxyClient.system`. -/
theorem reachable_client (h : system.Reachable s) (hdestructor : s.destructor = .uncalled) :
  WebsocketProxyClient.system.Reachable s.client
  := by
  suffices hclient : s.destructor = .uncalled → WebsocketProxyClient.system.Reachable s.client by
    apply hclient hdestructor
  apply h.invariant
  · rintro s ⟨pid, name, rfl⟩ _
    apply TransitionSystem.ReachableUnder.initial
    use pid, name
    rfl
  · intro s ev t _ hclient _ hstep huncalled
    cases step_of_system hstep with
    | client _ hclientStep => apply (hclient huncalled).step trivial hclientStep
    | loadServerPid =>
        dsimp only at huncalled
        split at huncalled
        · cases huncalled
        · cases huncalled
    | testRun =>
        dsimp only at huncalled
        split at huncalled
        · cases huncalled
        · cases huncalled
    | destroy | unregister | forget | storeRun | join => cases huncalled
    | startWorker | createRun | copyRun | loadRun => apply hclient huncalled

/-! ### The flag -/

/-- The flag is there from the first step of the worker on, and the destructor stores only
through a `run_` that it has tested. -/
structure Consistent (s : ClientLifetime) : Prop where
  created : s.run = none ↔ s.thread = .absent ∨ s.thread = .starting
  storing : s.destructor = .storing → s.run ≠ none

theorem start_consistent (pid : UInt64) (name : Bytes) :
  (start pid name).Consistent
  := by
  constructor
  · apply iff_of_true rfl (Or.inl rfl)
  · rintro ⟨⟩

theorem Consistent.step (hs : s.Consistent) (h : system.step s ev = some t) :
  t.Consistent
  := by
  cases step_of_system h with
  | @client ev c hallows =>
      constructor
      · dsimp only
        rcases threadAfter_cases hallows c with hthread | ⟨hlooping, hthread⟩
        · rw [hthread]
          apply hs.created
        · rw [hthread, hs.created, hlooping]
          simp
      · apply hs.storing
  | startWorker hthread =>
      constructor
      · apply iff_of_true (hs.created.mpr (Or.inl hthread)) (Or.inr rfl)
      · apply hs.storing
  | createRun =>
      constructor
      · simp
      · simp
  | copyRun hthread =>
      constructor
      · rw [hs.created, hthread]
        simp
      · apply hs.storing
  | @loadRun run hthread hrun =>
      constructor
      · dsimp only
        rw [hrun]
        cases run with
        | true => simp
        | false => simp
      · apply hs.storing
  | testRun =>
      use hs.created
      dsimp only
      split
      case isTrue => rintro ⟨⟩
      case isFalse hrun => exact fun _ => hrun
  | storeRun hdestructor =>
      constructor
      · have hstarted := mt hs.created.mpr (hs.storing hdestructor)
        apply iff_of_false (Option.some_ne_none false) hstarted
      · rintro ⟨⟩
  | loadServerPid =>
      use hs.created
      dsimp only
      split
      · rintro ⟨⟩
      · rintro ⟨⟩
  | destroy | unregister | forget | join =>
      use hs.created
      rintro ⟨⟩

theorem reachable_consistent (h : system.Reachable s) :
  s.Consistent
  := by
  apply h.invariant
  · rintro s ⟨pid, name, rfl⟩
    apply start_consistent
  · intro s ev t _ hs _ hstep
    apply hs.step hstep

/-! ### After the test of the flag -/

/-- The destructor has stored false, or there is no worker. -/
structure Stopped (s : ClientLifetime) : Prop where
  tested : s.destructor.hasTested
  stops : s.thread = .absent ∨ s.run = some false ∧ s.thread ≠ .starting

/-- The destructor waits for a worker, and nobody has stopped the worker. -/
structure Doomed (s : ClientLifetime) : Prop where
  joining : s.destructor = .joining
  started : s.thread ≠ .absent
  running : s.thread ≠ .exited
  unstopped : s.run ≠ some false

/-- A worker that was stopped stays so. -/
theorem Stopped.step (hs : s.Stopped) (h : system.step s ev = some t) :
  t.Stopped
  := by
  obtain ⟨htested, hstops⟩ := hs
  cases step_of_system h with
  | @client ev c hallows =>
      use htested
      dsimp only
      rcases threadAfter_cases hallows c with hthread | ⟨hlooping, hthread⟩
      · rw [hthread]
        exact hstops
      · right
        rw [hlooping] at hstops
        rw [hthread]
        use (hstops.resolve_left (by decide)).1
        decide
  | createRun hthread =>
      rcases hstops with habsent | ⟨-, hstarting⟩
      · rw [hthread] at habsent
        cases habsent
      · exact absurd hthread hstarting
  | copyRun hthread =>
      use htested
      right
      rw [hthread] at hstops
      use (hstops.resolve_left (by decide)).1
      rintro ⟨⟩
  | @loadRun run hthread hrun =>
      use htested
      right
      rw [hthread] at hstops
      use (hstops.resolve_left (by decide)).1
      dsimp only
      split
      · decide
      · decide
  | join =>
      constructor
      · rfl
      · exact hstops
  | startWorker _ hdestructor | destroy hdestructor | loadServerPid hdestructor
  | unregister hdestructor | forget hdestructor | testRun hdestructor | storeRun hdestructor =>
      rw [hdestructor] at htested
      cases htested

/-- A worker that nobody has stopped goes on, and its flag stays true once it is created. -/
theorem Doomed.step (hs : s.Doomed) (h : system.step s ev = some t) :
  t.Doomed ∧ (s.run = some true → t.run = some true)
  := by
  obtain ⟨hjoining, hstarted, hrunning, hunstopped⟩ := hs
  have hnot : ∀ {d}, s.destructor = d → d ≠ .joining → False := by
    rintro d rfl hne
    apply hne hjoining
  cases step_of_system h with
  | @client ev c hallows =>
      refine ⟨⟨hjoining, ?_, ?_, hunstopped⟩, id⟩
      · apply threadAfter_ne hallows c hstarted (by decide)
      · apply threadAfter_ne hallows c hrunning (by decide)
  | createRun =>
      refine ⟨⟨hjoining, ?_, ?_, ?_⟩, fun _ => rfl⟩
      · rintro ⟨⟩
      · rintro ⟨⟩
      · simp
  | copyRun =>
      refine ⟨⟨hjoining, ?_, ?_, hunstopped⟩, id⟩
      · rintro ⟨⟩
      · rintro ⟨⟩
  | @loadRun run hthread hrun =>
      -- the flag that is loaded is not false
      have htrue : run = true := by
        rw [hrun] at hunstopped
        cases run with
        | true => rfl
        | false => exact absurd rfl hunstopped
      refine ⟨⟨hjoining, ?_, ?_, hunstopped⟩, id⟩
      · dsimp only
        rw [if_pos htrue]
        decide
      · dsimp only
        rw [if_pos htrue]
        decide
  | join _ hthread =>
      rcases hthread with habsent | hexited
      · exact absurd habsent hstarted
      · exact absurd hexited hrunning
  | startWorker _ hdestructor | destroy hdestructor | loadServerPid hdestructor
  | unregister hdestructor | forget hdestructor | testRun hdestructor | storeRun hdestructor =>
      exact (hnot hdestructor (by decide)).elim

theorem Doomed.run {es : List Event} (hs : s.Doomed) (h : system.Run s es t) :
  t.Doomed ∧ (s.run = some true → t.run = some true)
  := by
  induction h with
  | nil => exact ⟨hs, id⟩
  | snoc _ _ hstep ih =>
      obtain ⟨hdoomed, hrun⟩ := ih
      obtain ⟨hdoomed', hrun'⟩ := hdoomed.step hstep
      use hdoomed'
      exact fun htrue => hrun' (hrun htrue)

/-- With the flag created, the destructor waits for ever. -/
theorem Doomed.stuck (hs : s.Doomed) (hrun : s.run = some true) :
  s.Stuck
  := by
  use hs.joining, hrun
  intro es t h
  apply (hs.run h).2 hrun

/-- The worker has created the flag, or creates it in its next step. -/
theorem Doomed.reaches_stuck (hs : s.Doomed) (hconsistent : s.Consistent) :
  ∃ es t, system.Run s es t ∧ t.Stuck
  := by
  cases hrun : s.run with
  | none =>
      have hstarting := (hconsistent.created.mp hrun).resolve_left hs.started
      have hcreate : system.step s .createRun
          = some { s with run := some true, thread := .copying } := if_pos hstarting
      refine ⟨[.createRun], _, TransitionSystem.RunUnder.single trivial hcreate, ?_⟩
      apply (hs.step hcreate).1.stuck rfl
  | some run =>
      have htrue : run = true := by
        have hunstopped := hs.unstopped
        rw [hrun] at hunstopped
        cases run with
        | true => rfl
        | false => exact absurd rfl hunstopped
      rw [htrue] at hrun
      refine ⟨[], s, .nil, hs.stuck hrun⟩

theorem Stopped.not_stuck (hs : s.Stopped) (hconsistent : s.Consistent) :
  ¬ s.Stuck
  := by
  rintro ⟨-, hrun, -⟩
  rcases hs.stops with hthread | ⟨hstops, -⟩
  · rw [hconsistent.created.mpr (Or.inl hthread)] at hrun
    cases hrun
  · rw [hrun] at hstops
    cases hstops

/-- The destructor stores false if it tests `run_` after the worker has created it. -/
theorem Consistent.stopped (hs : s.Consistent) (hcreates : s.CreatesFirst ev)
    (h : system.step s ev = some t) (hstopped : s.destructor.hasTested → s.Stopped)
    (htested : t.destructor.hasTested) :
  t.Stopped
  := by
  cases step_of_system h with
  | testRun =>
      use htested
      left
      dsimp only at htested
      split at htested
      case isTrue hrun => apply (hs.created.mp hrun).resolve_right hcreates
      case isFalse => cases htested
  | storeRun hdestructor =>
      use htested
      right
      use rfl
      intro hstarting
      apply hs.storing hdestructor
      apply hs.created.mpr (Or.inr hstarting)
  | loadServerPid =>
      dsimp only at htested
      split at htested
      · cases htested
      · cases htested
  | destroy | unregister | forget => cases htested
  | join hdestructor =>
      have hjoining : s.destructor.hasTested := by
        rw [hdestructor]
        rfl
      apply (hstopped hjoining).step h
  | client | startWorker | createRun | copyRun | loadRun => apply (hstopped htested).step h

/-! ### Runs -/

/-- As long as the worker has created the flag before the test, the worker is stopped once the
destructor waits. -/
theorem stopped_of_creates (h : system.ReachableUnder CreatesFirst s)
    (htested : s.destructor.hasTested) :
  s.Stopped
  := by
  suffices hstopped : s.destructor.hasTested → s.Stopped by
    apply hstopped htested
  apply h.invariant
  · rintro s ⟨pid, name, rfl⟩ ⟨⟩
  · intro s ev t hreachable hstopped hcreates hstep
    apply (reachable_consistent hreachable.reachable).stopped hcreates hstep hstopped

/-- Every run has tested the flag after it was created, or leads to a worker that nobody stops. -/
theorem creates_or_doomed {pid : UInt64} {name : Bytes} {es : List Event}
    (h : system.Run (start pid name) es s) :
  system.RunUnder CreatesFirst (start pid name) es s ∨ s.Doomed
  := by
  induction h with
  | nil => exact Or.inl .nil
  | @snoc es s ev t hrun _ hstep ih =>
      rcases ih with hcreates | hdoomed
      · rcases em (s.CreatesFirst ev) with hfirst | hnot
        · left
          apply hcreates.snoc hfirst hstep
        · right
          have hconsistent := reachable_consistent ⟨_, es, ⟨pid, name, rfl⟩, hrun⟩
          cases step_of_system hstep with
          | testRun =>
              have hstarting : s.thread = .starting := not_not.mp hnot
              have hnone := hconsistent.created.mpr (Or.inr hstarting)
              constructor
              · apply if_pos hnone
              · dsimp only
                rw [hstarting]
                rintro ⟨⟩
              · dsimp only
                rw [hstarting]
                rintro ⟨⟩
              · dsimp only
                rw [hnone]
                rintro ⟨⟩
          | _ => exact absurd trivial hnot
      · right
        apply (hdoomed.step hstep).1

/-- In every run in which the worker has created the flag before the destructor tests it, the
destructor never waits for a worker whose flag is true with nobody left to clear it. And once
the destructor waits, it is only in these runs that this does not happen later. -/
theorem worker_terminates {pid : UInt64} {name : Bytes} {es : List Event}
    (h : system.Run (start pid name) es s) :
  (system.RunUnder CreatesFirst (start pid name) es s → ¬ s.Stuck) ∧
    (s.destructor = .joining →
      ((∀ fs t, system.Run s fs t → ¬ t.Stuck) ↔
        system.RunUnder CreatesFirst (start pid name) es s))
  := by
  have hreachable : system.Reachable s := ⟨_, es, ⟨pid, name, rfl⟩, h⟩
  have hconsistent := reachable_consistent hreachable
  have hstopped : system.RunUnder CreatesFirst (start pid name) es s →
      s.destructor = .joining → s.Stopped := by
    intro hcreates hjoining
    apply stopped_of_creates ⟨_, es, ⟨pid, name, rfl⟩, hcreates⟩
    rw [hjoining]
    rfl
  constructor
  · intro hcreates hstuck
    apply (hstopped hcreates hstuck.1).not_stuck hconsistent hstuck
  · intro hjoining
    constructor
    · intro hnever
      apply (creates_or_doomed h).resolve_right
      intro hdoomed
      obtain ⟨fs, t, hrun, hstuck⟩ := hdoomed.reaches_stuck hconsistent
      apply hnever fs t hrun hstuck
    · intro hcreates fs t hrun
      have hstays : t.Stopped := by
        apply hrun.preserves _ (hstopped hcreates hjoining)
        intro s ev t hs _ hstep
        apply hs.step hstep
      apply hstays.not_stuck (reachable_consistent (hreachable.run hrun))

/-- A client calls `openWebSocket`, `connect` starts the worker, and the server cannot be
launched. -/
def failedSpawn : List Event :=
  [.client (.openWebSocket ⟨[104], [], false⟩), .startWorker,
    .client (.spawnWebsocketsProxyServer none)]

/-- A client opens a connection, its worker begins the first round, and the destructor stores
false. -/
def destroyed : List Event :=
  (.client (.openWebSocket ⟨[104], [], true⟩) :: .startWorker ::
    (WebsocketProxyClient.Event.connect 7 0 1 1000).tail.map .client) ++
  [.createRun, .copyRun, .loadRun, .client .load, .destroy, .loadServerPid, .unregister 2000,
    .forget, .testRun, .storeRun]

/-- After this run, the destructor waits for a worker that stops. -/
theorem worker_terminates_destroyed :
  ∃ s, system.RunUnder CreatesFirst (start 1 []) destroyed s ∧ s.destructor = .joining ∧
    ¬ s.Stuck ∧ ∀ fs t, system.Run s fs t → ¬ t.Stuck
  := by
  have hexec : ∃ s ∈ system.execUnder CreatesFirst (start 1 []) destroyed,
      s.destructor = .joining := by
    decide +kernel
  obtain ⟨s, hrun, hjoining⟩ := TransitionSystem.exists_runUnder hexec
  obtain ⟨hnever, hiff⟩ := worker_terminates (hrun.mono fun _ _ _ => trivial)
  use s, hrun, hjoining, hnever hrun
  apply (hiff hjoining).mpr hrun

/-- A client that could not launch the server is destroyed before its worker makes the first
step. -/
theorem not_worker_terminates :
  ∃ s, system.Run (start 1 [])
      (failedSpawn ++ [.destroy, .loadServerPid, .testRun, .createRun]) s ∧ s.Stuck
  := by
  have hexec : ∃ s ∈ system.exec (start 1 [])
      (failedSpawn ++ [.destroy, .loadServerPid, .testRun, .createRun]),
      s.destructor = .joining ∧ s.run = some true ∧ s.thread = .copying := by
    decide +kernel
  obtain ⟨s, hrun, hjoining, htrue, hthread⟩ := TransitionSystem.exists_runUnder hexec
  use s, hrun
  have hdoomed : s.Doomed := by
    constructor
    · exact hjoining
    · rw [hthread]
      rintro ⟨⟩
    · rw [hthread]
      rintro ⟨⟩
    · rw [htrue]
      rintro ⟨⟩
  apply hdoomed.stuck htrue

/-! ### The end of the destructor -/

/-- The destructor can return. -/
def Returns (s : ClientLifetime) : Prop :=
  ∃ es t, system.Run s es t ∧ t.destructor = .returned

theorem Returns.of_step (ht : t.Returns) (h : system.step s ev = some t) :
  s.Returns
  := by
  obtain ⟨es, u, hrun, hreturned⟩ := ht
  use [ev] ++ es, u
  constructor
  · apply (TransitionSystem.RunUnder.single trivial h).append hrun
  · exact hreturned

theorem returns_of_no_thread (hjoining : s.destructor = .joining)
    (hthread : s.thread = .absent ∨ s.thread = .exited) :
  s.Returns
  := by
  have hjoin : system.step s .join = some { s with destructor := .returned } :=
    if_pos ⟨hjoining, hthread⟩
  refine ⟨[.join], _, TransitionSystem.RunUnder.single trivial hjoin, rfl⟩

/-- A worker that loads its flag leaves the loop. -/
theorem returns_of_testing (hjoining : s.destructor = .joining) (hrun : s.run = some false)
    (hthread : s.thread = .testing) :
  s.Returns
  := by
  have hload : system.step s .loadRun = some { s with thread := .exited } := by
    simp only [system, step, hthread, hrun]
    rfl
  apply Returns.of_step _ hload
  apply @returns_of_no_thread { s with thread := .exited } hjoining (Or.inr rfl)

/-- A step of a round leads to the end of the round, or further into it. -/
theorem returns_of_client (hjoining : s.destructor = .joining) (hrun : s.run = some false)
    (hthread : s.thread = .looping) {ev : WebsocketProxyClient.Event} {c : WebsocketProxyClient}
    (hev : ev.ofWorker)
    (hstep : WebsocketProxyClient.system.step s.client ev = some c)
    (hnext : c.worker ≠ .loading → { s with client := c }.Returns) :
  s.Returns
  := by
  have hallows : s.allows ev := by
    unfold allows
    rw [if_pos hev]
    apply decide_eq_true hthread
  have hclient : system.step s (.client ev)
      = some { s with client := c, thread := s.threadAfter ev c } := by
    simp only [system, step, hallows, if_true]
    rw [hstep]
    rfl
  apply Returns.of_step _ hclient
  unfold threadAfter
  rcases em (c.worker = .loading) with hloading | hround
  · rw [if_pos ⟨hev, hloading⟩]
    apply @returns_of_testing { s with client := c, thread := .testing } hjoining hrun rfl
  · rw [if_neg fun h => hround h.2]
    apply hnext hround

/-- A round ends, whatever the worker finds in it. -/
theorem returns_of_looping (hjoining : s.destructor = .joining) (hrun : s.run = some false)
    (hthread : s.thread = .looping) :
  s.Returns
  := by
  have hround : ∀ {c d : WebsocketProxyClient} {ev : WebsocketProxyClient.Event}, ev.ofWorker →
      WebsocketProxyClient.system.step c ev = some d →
      (d.worker ≠ .loading → { s with client := d }.Returns) → { s with client := c }.Returns :=
    fun {c d ev} hev hstep hnext =>
      @returns_of_client { s with client := c } hjoining hrun hthread ev d hev hstep hnext
  -- from the end of the round to its beginning
  have hdisconnecting : ∀ c : WebsocketProxyClient, c.worker = .disconnecting →
      { s with client := c }.Returns := by
    intro c hworker
    have hstep : WebsocketProxyClient.system.step c .disconnect
        = some { c.giveUp with worker := .loading } := by
      simp only [WebsocketProxyClient.system, WebsocketProxyClient.perform, hworker,
        Option.map_some]
    apply hround rfl hstep
    exact fun hne => absurd rfl hne
  have hcomparing : ∀ (c : WebsocketProxyClient) (now found), c.worker = .comparing now found →
      { s with client := c }.Returns := by
    intro c now found hworker
    have hstep : WebsocketProxyClient.system.step c .compare
        = some { c with
          worker := if !found && c.isTimedOut now then .disconnecting else .loading } := by
      simp only [WebsocketProxyClient.system, WebsocketProxyClient.perform, hworker,
        Option.map_some]
    apply hround rfl hstep
    intro hne
    apply hdisconnecting
    dsimp only at hne ⊢
    split at hne
    case isTrue htime => rw [if_pos htime]
    case isFalse => exact absurd rfl hne
  have hbeating : ∀ (c : WebsocketProxyClient) (now found), c.worker = .beating now found →
      { s with client := c }.Returns := by
    intro c now found hworker
    have hstep : WebsocketProxyClient.system.step c (.sendHeartbeat now)
        = some { (c.sendHeartbeat now now).1 with worker := .comparing now found } := by
      simp only [WebsocketProxyClient.system, WebsocketProxyClient.perform, hworker,
        Option.map_some]
    apply hround rfl hstep
    intro _
    apply hcomparing _ now found rfl
  have hreading : ∀ (c : WebsocketProxyClient) (serverPid now), c.worker = .reading serverPid now →
      { s with client := c }.Returns := by
    intro c serverPid now hworker
    have hstep : WebsocketProxyClient.system.step c (.read none)
        = some { c with worker := .beating now false } := by
      simp only [WebsocketProxyClient.system, WebsocketProxyClient.perform, hworker,
        Option.map_some]
    apply hround rfl hstep
    intro _
    apply hbeating _ now false rfl
  have htiming : ∀ (c : WebsocketProxyClient) (serverPid), c.worker = .timing serverPid →
      { s with client := c }.Returns := by
    intro c serverPid hworker
    have hstep : WebsocketProxyClient.system.step c (.takeTime 0)
        = some { c with worker := .reading serverPid 0 } := by
      simp only [WebsocketProxyClient.system, WebsocketProxyClient.perform, hworker,
        Option.map_some]
    apply hround rfl hstep
    intro _
    apply hreading _ serverPid 0 rfl
  cases hworker : s.client.worker with
  | loading =>
      have hstep : WebsocketProxyClient.system.step s.client .load
          = some (if s.client.serverPid = 0 then s.client
            else { s.client with worker := .timing s.client.serverPid }) := by
        simp only [WebsocketProxyClient.system, WebsocketProxyClient.perform, hworker,
          Option.map_some]
      apply hround rfl hstep
      intro hne
      split at hne
      case isTrue => exact absurd hworker hne
      case isFalse hpid =>
        apply htiming _ s.client.serverPid
        rw [if_neg hpid]
  | timing serverPid => apply htiming s.client serverPid hworker
  | reading serverPid now => apply hreading s.client serverPid now hworker
  | beating now found => apply hbeating s.client now found hworker
  | comparing now found => apply hcomparing s.client now found hworker
  | disconnecting => apply hdisconnecting s.client hworker

/-- In every run in which the worker has created the flag before the destructor tests it, the
destructor can return whenever it waits. -/
theorem destructor_returns (h : system.ReachableUnder CreatesFirst s)
    (hjoining : s.destructor = .joining) :
  s.Returns
  := by
  have hstopped : s.Stopped := by
    apply stopped_of_creates h
    rw [hjoining]
    rfl
  rcases hstopped.stops with habsent | ⟨hrun, hstarting⟩
  · apply returns_of_no_thread hjoining (Or.inl habsent)
  · cases hthread : s.thread with
    | absent => apply returns_of_no_thread hjoining (Or.inl hthread)
    | starting => exact absurd hthread hstarting
    | copying =>
        have hcopy : system.step s .copyRun = some { s with thread := .testing } := if_pos hthread
        apply Returns.of_step _ hcopy
        apply @returns_of_testing { s with thread := .testing } hjoining hrun rfl
    | testing => apply returns_of_testing hjoining hrun hthread
    | looping => apply returns_of_looping hjoining hrun hthread
    | exited => apply returns_of_no_thread hjoining (Or.inr hthread)

end ClientLifetime
