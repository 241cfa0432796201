import WebsocketProxy.Client.Steps
import WebsocketProxy.Library.Clocked

/-!
# The timeout of the server

The worker gives the server up if a round in which it read nothing began more than
`heartbeatTimeout` after the time in `last_server_heartbeat_time_`. The caller stores times there
as well, and can do so after the worker read the clock. As long as no later time than that is
stored before the comparison, the server is given up only if it was silent for that long
(`timeout_not_spurious`).
-/

namespace WebsocketProxyClient

/-! ### The clock -/

/-- What a step of a client reads from the clock. -/
def Event.readings : Event → List UInt64
  | takeTime now | timeout now | answer _ now => [now]
  | sendHeartbeat sent | unregister sent | unsubscribe _ sent | send _ sent | setLogLevel _ sent =>
      [sent]
  | register _ sent start | sendOpenMessage _ sent start | closeWebSocket _ _ sent start
  | subscribe _ _ _ sent start => [sent, start]
  | wait now sent => [now, sent]
  | load | read _ | compare | disconnect | rehash _ | openWebSocket _
  | spawnWebsocketsProxyServer _ | waitForServerReady _ | forget => []

/-- A client as a transition system, with a clock. -/
def clocked : TransitionSystem (Clocked WebsocketProxyClient) (Event × ℕ) :=
  system.clocked fun _ ev _ => ev.readings.map UInt64.toNat

/-- The time that the worker took in this round. -/
def Worker.now : Worker → Option UInt64
  | reading _ now | beating now _ | comparing now _ => some now
  | loading | timing _ | disconnecting => none

/-- The time that the worker is going to compare, in a round in which it read nothing. -/
def Worker.compares : Worker → Option UInt64
  | beating now false | comparing now false => some now
  | _ => none

/-- No time is stored that is later than the one the worker is going to compare it with. -/
def StoresInTime (c : WebsocketProxyClient) : Event → Prop
  | .read none =>
      match c.worker with
      | .reading _ now => c.lastServerHeartbeatTime ≤ now
      | _ => True
  | .answer _ now =>
      match c.caller with
      | .waiting _ _ req => req.storesTime → ∀ time ∈ c.worker.compares, now ≤ time
      | _ => True
  | _ => True

instance (c : WebsocketProxyClient) (ev : Event) : Decidable (c.StoresInTime ev) := by
  haveI : ∀ now, Decidable (∀ time ∈ c.worker.compares, now ≤ time) :=
    fun _ => Option.decidableForallMem _
  unfold StoresInTime
  split
  · split <;> infer_instance
  · split <;> infer_instance
  · infer_instance

variable {c c' : WebsocketProxyClient} {ev : Event} {published : List Message}

/-! ### Steps -/

theorem handleAnswer_lastServerHeartbeatTime {req : Request} {answer : Message} {now : UInt64} :
  (c.handleAnswer req answer now).lastServerHeartbeatTime
    = if req.storesTime then now else c.lastServerHeartbeatTime
  := by
  obtain ⟨serverPid, caller, seen, hanswer⟩ := handleAnswer_keeps c req answer now
  rw [hanswer]

theorem handleAnswer_worker {req : Request} {answer : Message} {now : UInt64} :
  (c.handleAnswer req answer now).worker = c.worker
  := by
  obtain ⟨serverPid, caller, seen, hanswer⟩ := handleAnswer_keeps c req answer now
  rw [hanswer]

/-- The worker took its time before, or in this step. -/
theorem Step.now (h : Step c ev c' published) {now : UInt64} (hnow : c'.worker.now = some now) :
  c.worker.now = some now ∨ ev = .takeTime now
  := by
  cases h with
  | takeTime hworker =>
      obtain rfl := Option.some.inj hnow
      apply Or.inr rfl
  | @readSome serverPid now' msg hworker =>
      left
      rw [hworker]
      unfold handleResult at hnow
      split at hnow
      · cases hnow
      · exact hnow
  | readNone hworker | sendHeartbeat hworker =>
      left
      rw [hworker]
      exact hnow
  | compare =>
      dsimp only at hnow
      split at hnow
      · cases hnow
      · cases hnow
  | load | disconnect => cases hnow
  | @wait msg start req now' sent =>
      obtain ⟨time, htime⟩ := sendHeartbeat_keeps c now' sent
      rw [htime] at hnow
      apply Or.inl hnow
  | answer =>
      rw [handleAnswer_worker] at hnow
      apply Or.inl hnow
  | _ => exact Or.inl hnow

/-- The worker was going to compare the time before, and if the step stores another one it is the
answer of a request; or it reads nothing in this step. -/
theorem Step.compares (h : Step c ev c' published) {now : UInt64}
    (hcompares : c'.worker.compares = some now) :
  (c.worker.compares = some now ∧
      (c'.lastServerHeartbeatTime = c.lastServerHeartbeatTime ∨
        ∃ msg start req answer, ev = .answer answer c'.lastServerHeartbeatTime ∧
          c.caller = .waiting msg start req ∧ req.storesTime)) ∨
    ev = .read none ∧ (∃ serverPid, c.worker = .reading serverPid now) ∧
      c'.lastServerHeartbeatTime = c.lastServerHeartbeatTime
  := by
  cases h with
  | takeTime | load | disconnect => cases hcompares
  | @readSome serverPid now' msg hworker =>
      unfold handleResult at hcompares
      split at hcompares
      · cases hcompares
      · cases hcompares
  | @readNone serverPid now' hworker =>
      obtain rfl := Option.some.inj hcompares
      exact Or.inr ⟨rfl, ⟨serverPid, hworker⟩, rfl⟩
  | @sendHeartbeat now' found sent hworker =>
      left
      obtain ⟨time, htime⟩ := sendHeartbeat_keeps c now' sent
      rw [hworker, htime]
      cases found with
      | true => cases hcompares
      | false => exact ⟨hcompares, Or.inl rfl⟩
  | compare =>
      dsimp only at hcompares
      split at hcompares
      · cases hcompares
      · cases hcompares
  | @wait msg start req now' sent =>
      obtain ⟨time, htime⟩ := sendHeartbeat_keeps c now' sent
      rw [htime] at hcompares ⊢
      exact Or.inl ⟨hcompares, Or.inl rfl⟩
  | @answer msg start req answer now' hcaller =>
      left
      rw [handleAnswer_worker] at hcompares
      rw [handleAnswer_lastServerHeartbeatTime]
      use hcompares
      split
      case isTrue hstores => exact Or.inr ⟨msg, start, req, answer, rfl, hcaller, hstores⟩
      case isFalse => exact Or.inl rfl
  | _ => exact Or.inl ⟨hcompares, Or.inl rfl⟩

/-- A step that stores its time early enough leaves the worker with a time that is not earlier
than the one it compares it with. -/
theorem Step.compares_le (h : Step c ev c' published) (hstores : c.StoresInTime ev)
    (hle : ∀ now ∈ c.worker.compares, c.lastServerHeartbeatTime ≤ now) :
  ∀ now ∈ c'.worker.compares, c'.lastServerHeartbeatTime ≤ now
  := by
  intro now hnow
  rcases h.compares hnow with ⟨hbefore, hsame | ⟨msg, start, req, answer, rfl, hcaller, hreq⟩⟩ |
    ⟨rfl, ⟨serverPid, hworker⟩, hsame⟩
  · rw [hsame]
    apply hle now hbefore
  · simp only [StoresInTime, hcaller] at hstores
    apply hstores hreq now hbefore
  · simp only [StoresInTime, hworker] at hstores
    rw [hsame]
    exact hstores

/-! ### Runs -/

/-- The worker took its time in the past. -/
theorem reachable_now_le {guard : Clocked WebsocketProxyClient → Event × ℕ → Prop}
    {c : Clocked WebsocketProxyClient} (h : clocked.ReachableUnder guard c) :
  ∀ now ∈ c.state.worker.now, now.toNat ≤ c.time
  := by
  apply h.invariant (I := fun c => ∀ now ∈ c.state.worker.now, now.toNat ≤ c.time)
  · rintro c ⟨pid, name, hc⟩ now hnow
    rw [hc] at hnow
    cases hnow
  · intro c e c' _ hnow _ hstep now hnow'
    obtain ⟨hstep, -, hshows⟩ := TransitionSystem.clocked_step hstep
    obtain ⟨published, hstep⟩ := system_step hstep
    rcases hstep.now hnow' with hbefore | hev
    · apply Nat.le_trans (hnow now hbefore) hshows.le
    · apply hshows.le_stop
      rw [hev]
      apply List.mem_singleton_self _

/-- When no time is stored too late, the worker compares a time with one that is not later. -/
theorem reachable_compares_le {c : Clocked WebsocketProxyClient}
    (h : clocked.ReachableUnder (fun c e => c.state.StoresInTime e.1) c) :
  ∀ now ∈ c.state.worker.compares, c.state.lastServerHeartbeatTime ≤ now
  := by
  apply h.invariant
    (I := fun c => ∀ now ∈ c.state.worker.compares, c.state.lastServerHeartbeatTime ≤ now)
  · rintro c ⟨pid, name, hc⟩ now hnow
    rw [hc] at hnow
    cases hnow
  · intro c e c' _ hle hstores hstep
    obtain ⟨published, hstep⟩ := system_step (TransitionSystem.clocked_step hstep).1
    apply hstep.compares_le hstores hle

/-- In every run that stores no time too late, the worker gives the server up only if more than
`heartbeatTimeout` has passed since the time that was stored last. -/
theorem timeout_not_spurious {c c' : Clocked WebsocketProxyClient} {stop : ℕ}
    (h : clocked.ReachableUnder (fun c e => c.state.StoresInTime e.1) c)
    (hstep : clocked.step c (.compare, stop) = some c')
    (hdisconnects : c'.state.worker = .disconnecting) :
  ∃ now ∈ c.state.worker.now, now.toNat ≤ c.time ∧
    c.state.lastServerHeartbeatTime.toNat + heartbeatTimeout.toNat < now.toNat
  := by
  obtain ⟨published, hcompare⟩ := system_step (TransitionSystem.clocked_step hstep).1
  generalize hd : c'.state = d at hcompare hdisconnects
  cases hcompare with
  | @compare now found hworker =>
      dsimp only at hdisconnects
      split at hdisconnects
      case isTrue hsilent =>
        obtain ⟨hfound, htimed⟩ := Bool.and_eq_true_iff.mp hsilent
        obtain ⟨-, htimed⟩ := Bool.and_eq_true_iff.mp htimed
        obtain rfl : found = false := by simpa using hfound
        have hnow : c.state.worker.now = some now := by rw [hworker, Worker.now]
        have hcompares : c.state.worker.compares = some now := by rw [hworker, Worker.compares]
        have hle := reachable_compares_le h now hcompares
        use now, hnow, reachable_now_le h now hnow
        have hlt := UInt64.lt_iff_toNat_lt.mp (of_decide_eq_true htimed)
        rw [UInt64.toNat_sub_of_le _ _ hle] at hlt
        have hle := UInt64.le_iff_toNat_le.mp hle
        omega
      case isFalse => cases hdisconnects

/-- A client registers, and its worker finds the queue empty 16 seconds later. -/
def silence : List (Event × ℕ) :=
  [(.openWebSocket ⟨[104], [], false⟩, 1000), (.spawnWebsocketsProxyServer (some 1), 1000),
    (.register 0 1000 1000, 1000),
    (.answer { pid := 1, data := .register { name := [], serverPid := 7 }, status := .success } 1000,
      1000),
    (.load, 1000), (.takeTime 17000, 17000), (.read none, 17000), (.sendHeartbeat 17000, 17000)]

theorem timeout_not_spurious_silence :
  ∃ c c', clocked.RunUnder (fun c e => c.state.StoresInTime e.1) { state := start 1 [] } silence c ∧
    clocked.step c (.compare, 17000) = some c' ∧ c'.state.worker = .disconnecting ∧
    ∃ now ∈ c.state.worker.now, now.toNat ≤ c.time ∧
      c.state.lastServerHeartbeatTime.toNat + heartbeatTimeout.toNat < now.toNat
  := by
  obtain ⟨c, hrun, c', hstep, hdisconnects⟩ :
      ∃ c, clocked.RunUnder (fun c e => c.state.StoresInTime e.1) { state := start 1 [] } silence c ∧
      ∃ c' ∈ clocked.step c (.compare, 17000), c'.state.worker = .disconnecting :=
    TransitionSystem.exists_runUnder (by decide +kernel)
  use c, c', hrun, hstep, hdisconnects
  exact timeout_not_spurious ⟨_, _, ⟨1, [], rfl⟩, hrun⟩ hstep hdisconnects

/-- `OpenWs` is answered one millisecond after the worker took its time. -/
def answeredInRound : List (Event × ℕ) :=
  [(.openWebSocket ⟨[104], [], false⟩, 1000), (.spawnWebsocketsProxyServer (some 1), 1000),
    (.register 0 1000 1000, 1000),
    (.answer { pid := 1, data := .register { name := [], serverPid := 7 }, status := .success } 1000,
      1000),
    (.sendOpenMessage 1 1000 1000, 1000), (.load, 1000), (.takeTime 2000, 2000),
    (.answer { pid := 1, data := .openWs { id := 70001, url := [104] }, status := .success } 2001,
      2001),
    (.read none, 2001), (.sendHeartbeat 2001, 2001)]

/-- The worker gives the server up in the millisecond in which the answer was stored. -/
theorem not_timeout_not_spurious :
  ¬ ∀ (c c' : Clocked WebsocketProxyClient) (stop : ℕ), clocked.Reachable c →
    clocked.step c (.compare, stop) = some c' → c'.state.worker = .disconnecting →
    c.state.lastServerHeartbeatTime.toNat + heartbeatTimeout.toNat ≤ stop
  := by
  intro hall
  obtain ⟨c, hrun, hstored, c', hstep, hdisconnects⟩ :
      ∃ c, clocked.Run { state := start 1 [] } answeredInRound c ∧
      ¬ c.state.lastServerHeartbeatTime.toNat + heartbeatTimeout.toNat ≤ 2001 ∧
      ∃ c' ∈ clocked.step c (.compare, 2001), c'.state.worker = .disconnecting :=
    TransitionSystem.exists_runUnder (by decide +kernel)
  exact hstored (hall c c' 2001 ⟨_, _, ⟨1, [], rfl⟩, hrun⟩ hstep hdisconnects)

end WebsocketProxyClient
