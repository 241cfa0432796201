import WebsocketProxy.Server.Registration
import WebsocketProxy.Session.Basic

/-!
# Closing one of several connections

`closeWebSocket` ends with `unregister`, whatever id it is called for. So when it has returned
and the server has handled the messages of the client, the client is not registered, and has
no connection left (`closeWebSocket_unregisters`).
-/

/-- The client `p` has not registered since it unregistered. -/
def Message.Unregistered (p : UInt64) (ms : List Message) : Prop := ¬ Registered p ms

theorem Message.Unregistered.append {p : UInt64} {ms ms' : List Message} (h : Unregistered p ms)
    (hms' : ∀ m ∈ ms', ¬ m.Registers p) :
  Unregistered p (ms ++ ms')
  := fun hsince => h ((Since.append_iff hms').mp hsince).1

theorem Message.Unregisters.unregistered {p : UInt64} {ms : List Message} {m : Message}
    (h : m.Unregisters p) :
  Unregistered p (ms ++ [m])
  := by
  intro hsince
  rcases Since.concat_iff.mp hsince with ⟨-, reg, hreg⟩ | ⟨-, hm⟩
  · rw [h.2] at hreg
    cases hreg
  · apply hm h

namespace WebsocketProxyClient

variable {c c' : WebsocketProxyClient} {ev : Event} {published : List Message}

/-- A call that waits for an answer starts. -/
def Event.Calls : Event → Prop
  | openWebSocket _ | closeWebSocket .. | subscribe .. => True
  | _ => False

instance (ev : Event) : Decidable ev.Calls :=
  match ev with
  | .openWebSocket _ | .closeWebSocket .. | .subscribe .. => inferInstanceAs (Decidable True)
  | .load | .takeTime _ | .read _ | .sendHeartbeat _ | .compare | .disconnect | .rehash _
  | .spawnWebsocketsProxyServer _ | .waitForServerReady _ | .register .. | .sendOpenMessage ..
  | .unregister _ | .forget | .unsubscribe .. | .send .. | .setLogLevel .. | .wait .. | .timeout _
  | .answer .. => inferInstanceAs (Decidable False)

/-- What is seen tells that `closeWebSocket` returned `true`. -/
def ReturnsTrue (seen : List Observation) : Prop :=
  ∃ id, .returned (.closeWebSocket id true) ∈ seen

/-- From a call of `closeWebSocket` to the next call, `seen` being what was seen since: a client
whose call returns `true` has unregistered. -/
def Closing (c : WebsocketProxyClient) (ms : List Message) (seen : List Observation) : Prop :=
  match c.caller with
  | .waiting _ _ (.closeWs _) | .unregistering _ => ¬ ReturnsTrue seen
  | .forgetting _ => Message.Unregistered c.pid ms
  | .idle => ReturnsTrue seen → Message.Unregistered c.pid ms
  | _ => False

theorem Sees.not_returnsTrue {seen : List Observation} (h : Sees c ev c' seen)
    (hev : ev ≠ .forget) :
  ¬ ReturnsTrue seen
  := by
  rintro ⟨id, hid⟩
  cases h with
  | returned hforget =>
      apply hev (hforget id (Observation.returned.inj (List.mem_singleton.mp hid)).symm).1
  | disconnected => simp [closes] at hid
  | _ => simp at hid

theorem returnsTrue_append {seen seen' : List Observation} (h : ¬ ReturnsTrue seen') :
  ReturnsTrue (seen ++ seen') ↔ ReturnsTrue seen
  := by
  constructor
  · rintro ⟨id, hid⟩
    rcases List.mem_append.mp hid with hid | hid
    · exact ⟨id, hid⟩
    · exact absurd ⟨id, hid⟩ h
  · rintro ⟨id, hid⟩
    exact ⟨id, List.mem_append_left _ hid⟩

/-- Messages of others, and of the client where it does not register, leave it unregistered. -/
theorem Closing.congr {ms ms' : List Message} {seen seen' : List Observation}
    (h : c.Closing ms seen) (hcaller : c'.caller = c.caller) (hpid : c'.pid = c.pid)
    (hms' : ∀ m ∈ ms', ¬ m.Registers c.pid) (hseen' : ¬ ReturnsTrue seen') :
  c'.Closing (ms ++ ms') (seen ++ seen')
  := by
  have hreturns := @returnsTrue_append seen seen' hseen'
  rw [Closing] at h ⊢
  rw [hcaller, hpid]
  cases hphase : c.caller with
  | waiting msg start req =>
      rw [hphase] at h
      cases req with
      | closeWs => exact fun hreturned => h (hreturns.mp hreturned)
      | register | openWs | subscribe => exact h
  | unregistering =>
      rw [hphase] at h
      exact fun hreturned => h (hreturns.mp hreturned)
  | forgetting =>
      rw [hphase] at h
      apply h.append hms'
  | idle =>
      rw [hphase] at h
      exact fun hreturned => (h (hreturns.mp hreturned)).append hms'
  | spawning | connecting | connected =>
      rw [hphase] at h
      exact h

/-- When the call has returned `true`, the client has unregistered. -/
theorem Closing.unregistered {ms : List Message} {seen : List Observation}
    (h : c.Closing ms seen) (hreturned : ReturnsTrue seen) :
  Message.Unregistered c.pid ms
  := by
  rw [Closing] at h
  cases hphase : c.caller with
  | waiting msg start req =>
      rw [hphase] at h
      cases req with
      | closeWs => exact absurd hreturned h
      | register | openWs | subscribe => exact h.elim
  | unregistering =>
      rw [hphase] at h
      exact absurd hreturned h
  | forgetting =>
      rw [hphase] at h
      exact h
  | idle =>
      rw [hphase] at h
      apply h hreturned
  | spawning | connecting | connected =>
      rw [hphase] at h
      apply h.elim

/-- The call goes on. -/
theorem Closing.step {ms : List Message} {seen seen' : List Observation} (h : c.Closing ms seen)
    (hstep : Step c ev c' published) (hsees : Sees c ev c' seen') (hcalls : ¬ ev.Calls) :
  c'.Closing (ms ++ published) (seen ++ seen')
  := by
  have hpid := hstep.pid
  have hquiet : ∀ {d : WebsocketProxyClient} {ms'}, d.caller = c.caller → d.pid = c.pid →
      ev ≠ .forget → (∀ m ∈ ms', ¬ m.Registers c.pid) → d.Closing (ms ++ ms') (seen ++ seen') :=
    fun hcaller hpid hev hms' => h.congr hcaller hpid hms' (hsees.not_returnsTrue hev)
  have hbeat : ∀ now sent, ∀ m ∈ (c.sendHeartbeat now sent).2, ¬ m.Registers c.pid := by
    rintro now sent m hm ⟨-, reg, hreg⟩
    unfold WebsocketProxyClient.sendHeartbeat at hm
    split at hm
    · rw [List.mem_singleton.mp hm] at hreg
      cases hreg
    · cases hm
  have hnothing : ∀ m ∈ ([] : List Message), ¬ m.Registers c.pid :=
    fun m hm => absurd hm List.not_mem_nil
  cases hstep with
  | notConnected | load | takeTime | readNone | compare | rehash | ready =>
      exact hquiet rfl hpid (fun hev => Event.noConfusion hev) hnothing
  | @readSome serverPid now msg =>
      obtain ⟨websockets, trace, worker, hresult⟩ := handleResult_keeps c serverPid now msg
      apply hquiet _ hpid (fun hev => Event.noConfusion hev) hnothing
      rw [hresult]
  | @sendHeartbeat now found sent =>
      obtain ⟨time, htime⟩ := sendHeartbeat_keeps c now sent
      apply hquiet _ hpid (fun hev => Event.noConfusion hev) (hbeat now sent)
      rw [htime]
  | disconnect =>
      apply hquiet _ hpid (fun hev => Event.noConfusion hev) hnothing
      rw [giveUp_keeps]
  | @wait msg start req now sent =>
      obtain ⟨time, htime⟩ := sendHeartbeat_keeps c now sent
      apply hquiet _ hpid (fun hev => Event.noConfusion hev) (hbeat now sent)
      rw [htime]
  | unsubscribe | send | setLogLevel =>
      apply hquiet rfl hpid (fun hev => Event.noConfusion hev)
      rintro m hm ⟨-, reg, hreg⟩
      rw [List.mem_singleton.mp hm] at hreg
      cases hreg
  | tooLong | connect | isConnected | closeWebSocket | subscribe => exact absurd trivial hcalls
  | spawned hcaller | notSpawned hcaller | notReady hcaller | register hcaller
  | openAsync hcaller | openSync hcaller =>
      rw [Closing, hcaller] at h
      apply h.elim
  | unregister hcaller => exact Message.Unregisters.unregistered ⟨rfl, rfl⟩
  | forget hcaller =>
      rw [Closing, hcaller] at h
      intro _
      apply h.append hnothing
  | @timeout msg start req now hcaller =>
      have hnot := hsees.not_returnsTrue (fun hev => Event.noConfusion hev)
      rw [Closing, hcaller] at h
      cases req with
      | closeWs id =>
          intro hreturned
          exact absurd ((returnsTrue_append hnot).mp hreturned) h
      | register | openWs | subscribe => exact h.elim
  | @answer msg start req answer now hcaller =>
      have hnot := hsees.not_returnsTrue (fun hev => Event.noConfusion hev)
      rw [Closing, hcaller] at h
      cases req with
      | closeWs id => exact fun hreturned => h ((returnsTrue_append hnot).mp hreturned)
      | register | openWs | subscribe => exact h.elim

end WebsocketProxyClient

namespace Session

open WebsocketProxyClient (ReturnsTrue)

/-- The client `p` makes no call that waits for an answer. -/
def NoCall (p : UInt64) (_ : Session) : Event → Prop
  | .client q ev => q = p → ¬ ev.Calls
  | .server _ => True

instance (p : UInt64) (s : Session) (ev : Event) : Decidable (NoCall p s ev) :=
  match ev with
  | .client _ _ => inferInstanceAs (Decidable (_ → _))
  | .server _ => inferInstanceAs (Decidable True)

/-- The client `p` knows of the connections with the given ids, and is attached to them. -/
def Holds (s : Session) (p : UInt64) (ids : Finset UInt64) : Prop :=
  ∀ id ∈ ids, id ∈ (s.clients p).websockets ∧
    ∃ r ∈ s.server.websocketsById.lookup id, p ∈ (s.server.sockets r).clients

instance (s : Session) (p : UInt64) (ids : Finset UInt64) : Decidable (s.Holds p ids) :=
  Finset.decidableDforallFinset

/-- The client `p` is registered, and attached to the connections with the given ids apart from
`id`, which are not closed. -/
def Keeps (s : Session) (p id : UInt64) (ids : Finset UInt64) : Prop :=
  p ∈ s.server.clients ∧ ∀ id' ∈ ids, id' ≠ id →
    ∃ r ∈ s.server.websocketsById.lookup id', p ∈ (s.server.sockets r).clients ∧
      ¬ (s.server.sockets r).Closing

/-- From a call of `closeWebSocket` to the next call. -/
theorem run_closing {s s₁ s₂ : Session} {p id : UInt64} {msg : ℕ} {sent start : UInt64}
    {es : List Event} (h : system.Reachable s)
    (hcall : system.step s (.client p (.closeWebSocket id msg sent start)) = some s₁)
    (hrun : system.RunUnder (NoCall p) s₁ es s₂) :
  ∃ seen, (s₂.clients p).trace = (s.clients p).trace ++ seen ∧
    (s₂.clients p).Closing s₂.clientQueue seen
  := by
  have hs₁ : system.Reachable s₁ := h.step trivial hcall
  induction hrun with
  | nil =>
      obtain ⟨-, c, published, hc, rfl⟩ := step_client hcall
      have hself : (s.updateClient p (c, published)).clients p = c := Function.update_self ..
      rw [hself]
      cases WebsocketProxyClient.perform_step hc with
      | closeWebSocket =>
          use [], (List.append_nil _).symm
          rintro ⟨_, ⟨⟩⟩
  | @snoc es t ev u hrun hnocall hstep ih =>
      obtain ⟨seen, htrace, hclosing⟩ := ih
      cases ev with
      | server ev =>
          obtain ⟨-, px, -, rfl⟩ := step_server hstep
          use seen, htrace
      | client q ev =>
          obtain ⟨-, c, published, hc, rfl⟩ := step_client hstep
          have hstep := WebsocketProxyClient.perform_step hc
          change ∃ seen, (Function.update t.clients q c p).trace = _ ∧
            (Function.update t.clients q c p).Closing (t.clientQueue ++ published) seen
          rcases eq_or_ne p q with rfl | hne
          · obtain ⟨seen', htrace', hsees⟩ := hstep.sees
            rw [Function.update_self]
            use seen ++ seen'
            constructor
            · rw [htrace', htrace, List.append_assoc]
            · apply hclosing.step hstep hsees (hnocall rfl)
          · rw [Function.update_of_ne hne]
            use seen, htrace
            rw [← List.append_nil seen]
            apply hclosing.congr rfl rfl
            · rintro m hm ⟨hpid, -⟩
              have ht : system.Reachable t := hs₁.run (hrun.mono (fun _ _ _ => trivial))
              rw [hstep.published_pid m hm, (reachable_client ht q).2, (reachable_client ht p).2]
                at hpid
              apply hne hpid.symm
            · rintro ⟨_, ⟨⟩⟩

/-- The server has no client that unregistered, once it has handled its `Unregister`. -/
theorem not_mem_clients {s : Session} (h : system.Reachable s) {p : UInt64}
    (hunregistered : Message.Unregistered p s.clientQueue)
    (hhandled : ∀ m ∈ s.clientQueue.drop s.server.taken, ¬ m.Unregisters p) :
  p ∉ s.server.clients
  := by
  obtain ⟨_, es, ⟨pid, clock, names, rfl⟩, hrun⟩ := h
  have hrun : system.RunUnder (OnServer fun _ _ => True) (start pid clock names) es s :=
    hrun.mono fun _ ev _ => by cases ev <;> trivial
  obtain ⟨evs, hserver, -, hmessages⟩ := run_server hrun
  rw [← List.take_append_drop s.server.taken s.clientQueue] at hunregistered
  -- what is not handled yet holds no `Register`, as an `Unregister` would follow
  have hregisters : ∀ m ∈ s.clientQueue.drop s.server.taken, ¬ m.Registers p := by
    intro m hm hregisters
    obtain ⟨before, after, hdrop⟩ := List.append_of_mem hm
    apply hunregistered
    rw [hdrop, ← List.append_assoc]
    apply Since.of_append_cons hregisters
    intro m' hm'
    apply hhandled
    rw [hdrop]
    apply List.mem_append_right _ (List.mem_cons_of_mem _ hm')
  intro hp
  apply hunregistered
  apply (Since.append_iff hregisters).mpr
  rw [← hmessages]
  exact ⟨WebsocketProxy.run_registered hserver hp, hhandled⟩

/-- When `closeWebSocket` has returned `true` for any id, and the server has handled what the call
published, up to the `Unregister` at its end, the client is not registered, whatever connections
it held. -/
theorem closeWebSocket_unregisters {s s₁ s₂ : Session} {p id : UInt64} {msg : ℕ}
    {sent start : UInt64} {es : List Event} (h : system.Reachable s)
    (hcall : system.step s (.client p (.closeWebSocket id msg sent start)) = some s₁)
    (hrun : system.RunUnder (NoCall p) s₁ es s₂)
    (hreturned : .returned (.closeWebSocket id true) ∈ s.seen s₂ p)
    (hhandled : ∀ m ∈ s₂.clientQueue.drop s₂.server.taken, ¬ m.Unregisters p)
    (ids : Finset UInt64) :
  ¬ s₂.Keeps p id ids
  := by
  have hs₁ : system.Reachable s₁ := h.step trivial hcall
  have hs₂ : system.Reachable s₂ := hs₁.run (hrun.mono (fun _ _ _ => trivial))
  obtain ⟨seen, htrace, hclosing⟩ := run_closing h hcall hrun
  rw [Session.seen, htrace, List.drop_left] at hreturned
  have hunregistered : Message.Unregistered p s₂.clientQueue := by
    rw [← (reachable_client hs₂ p).2]
    exact hclosing.unregistered ⟨id, hreturned⟩
  exact fun hkeeps => not_mem_clients hs₂ hunregistered hhandled hkeeps.1

/-- A client opens two connections. -/
def openBoth : List Event :=
  .server .startHeartbeat :: Event.openWebSocketAsync 1 [104] 0 1 1000 ++ Event.opened 0 ++
  [.client 1 (.openWebSocket ⟨[105], [], true⟩), .client 1 (.sendOpenMessage 2 1000 1000),
    Event.take { pid := 1, data := .openWs { url := [105], apiKey := [] } }] ++ Event.opened 1 ++
  Event.round 1 1000 (some (Event.wsOpen 1 70001)) ++
  Event.round 1 1000 (some (Event.wsOpen 1 70002))

/-- What happens after it calls `closeWebSocket` for one of them. -/
def closeFirst : List Event := (Event.closeWebSocket 1 70001 3 1000 []).tail

/-- The client closes one of its two connections. -/
theorem exists_closeFirst :
  ∃ s s₁ s₂, system.Run (start 7 (fun _ => 100000) (fun _ => [])) openBoth s ∧
    s.Holds 1 {70001, 70002} ∧
    system.step s (.client 1 (.closeWebSocket 70001 3 1000 1000)) = some s₁ ∧
    system.RunUnder (NoCall 1) s₁ closeFirst s₂ ∧
    .returned (.closeWebSocket 70001 true) ∈ s.seen s₂ 1 ∧
    (∀ m ∈ s₂.clientQueue.drop s₂.server.taken, ¬ m.Unregisters 1) ∧
    s₂.server.websocketsById.lookup 70002 = none
  := by
  obtain ⟨s, hrun, hholds, s₁, hcall, s₂, hexec, hafter⟩ : ∃ s, system.Run
      (start 7 (fun _ => 100000) (fun _ => [])) openBoth s ∧ s.Holds 1 {70001, 70002} ∧
      ∃ s₁ ∈ system.step s (.client 1 (.closeWebSocket 70001 3 1000 1000)),
        ∃ s₂ ∈ system.execUnder (NoCall 1) s₁ closeFirst,
          .returned (.closeWebSocket 70001 true) ∈ s.seen s₂ 1 ∧
          (∀ m ∈ s₂.clientQueue.drop s₂.server.taken, ¬ m.Unregisters 1) ∧
          s₂.server.websocketsById.lookup 70002 = none :=
    TransitionSystem.exists_runUnder (by decide +kernel)
  use s, s₁, s₂, hrun, hholds, hcall, TransitionSystem.runUnder_of_execUnder hexec

theorem closeWebSocket_unregisters_closeFirst :
  ∃ s s₂, system.Run (start 7 (fun _ => 100000) (fun _ => [])) openBoth s ∧
    s.Holds 1 {70001, 70002} ∧ .returned (.closeWebSocket 70001 true) ∈ s.seen s₂ 1 ∧
    ¬ s₂.Keeps 1 70001 {70001, 70002}
  := by
  obtain ⟨s, s₁, s₂, hrun, hholds, hcall, hrest, hreturned, hhandled, -⟩ := exists_closeFirst
  use s, s₂, hrun, hholds, hreturned
  exact closeWebSocket_unregisters ⟨_, _, ⟨7, _, _, rfl⟩, hrun⟩ hcall hrest hreturned hhandled _

/-- Closing one connection does not keep the others. -/
theorem not_closeWebSocket_keeps :
  ¬ ∀ (p id : UInt64) (ids : Finset UInt64) (s s₁ s₂ : Session) (msg : ℕ) (sent start : UInt64)
    (es : List Event), system.Reachable s → s.Holds p ids → id ∈ ids → id ≠ 0 →
    system.step s (.client p (.closeWebSocket id msg sent start)) = some s₁ →
    system.RunUnder (NoCall p) s₁ es s₂ → .returned (.closeWebSocket id true) ∈ s.seen s₂ p →
    (∀ m ∈ s₂.clientQueue.drop s₂.server.taken, ¬ m.Unregisters p) → s₂.Keeps p id ids
  := by
  intro hall
  obtain ⟨s, s₁, s₂, hrun, hholds, hcall, hrest, hreturned, hhandled, hclosed⟩ :=
    exists_closeFirst
  have hreachable : system.Reachable s := ⟨_, _, ⟨7, _, _, rfl⟩, hrun⟩
  have hkeeps := hall 1 70001 {70001, 70002} s s₁ s₂ 3 1000 1000 closeFirst hreachable hholds
    (by decide) (by decide) hcall hrest hreturned hhandled
  obtain ⟨r, hr, -⟩ := hkeeps.2 70002 (by decide) (by decide)
  rw [hclosed] at hr
  cases hr

end Session
