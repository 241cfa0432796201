import WebsocketProxy.Session.Progress

/-!
# Calls return

The caller of a client goes through a public method in a few steps, of which only the wait for an
answer repeats. In a behaviour in which the server goes on to run and the caller is not put off
forever, every call returns (`calls_return`).
-/

namespace WebsocketProxyClient

variable {c c' : WebsocketProxyClient} {ev : Event} {published : List Message}

/-- How many steps of a call are left at most, from the answer of a request on. -/
def Request.rest : Request → ℕ
  | register _ => 4
  | closeWs _ => 3
  | openWs | subscribe _ => 1

/-- How many steps of a call are left at most, when waiting counts for nothing. -/
def rank (c : WebsocketProxyClient) : ℕ :=
  match c.caller with
  | .idle => 0
  | .spawning _ => 7
  | .connecting _ => if c.serverQueueIndex = 0 then 6 else 5
  | .connected _ => 3
  | .waiting _ _ req => req.rest
  | .unregistering _ => 2
  | .forgetting _ => 1

/-- Reading messages brings the caller no further from its return. -/
theorem rank_le_of_caller (h : c'.caller = c.caller)
    (hindex : c'.serverQueueIndex = c.serverQueueIndex ∨ c'.serverQueueIndex ≠ 0) :
  c'.rank ≤ c.rank
  := by
  rw [rank, rank, h]
  cases c.caller with
  | connecting o =>
      dsimp only
      split
      case isTrue hzero =>
        rw [if_pos (hindex.resolve_right (not_not.mpr hzero) ▸ hzero)]
      case isFalse =>
        split
        · decide
        · decide
  | _ => apply Nat.le_refl

/-- A step in a call brings the caller on, or leaves it where it is. -/
theorem Step.returning (h : Step c ev c' published) (hbusy : c.caller ≠ .idle) :
  c'.rank < c.rank ∨ c'.caller = c.caller ∧ c'.rank ≤ c.rank ∧
    (ev.InCall → ∃ now sent, ev = .wait now sent)
  := by
  have hsame : ∀ {d : WebsocketProxyClient} {ev : Event}, d.caller = c.caller →
      d.serverQueueIndex = c.serverQueueIndex ∨ d.serverQueueIndex ≠ 0 → ¬ ev.InCall →
      d.rank < c.rank ∨ d.caller = c.caller ∧ d.rank ≤ c.rank ∧
        (ev.InCall → ∃ now sent, ev = .wait now sent) := by
    intro d ev hcaller hindex hcalls
    exact Or.inr ⟨hcaller, rank_le_of_caller hcaller hindex, fun h => absurd h hcalls⟩
  cases h with
  | notConnected | load | takeTime | readNone | compare | rehash =>
      exact hsame rfl (Or.inl rfl) not_false
  | @readSome serverPid now msg =>
      obtain ⟨websockets, trace, worker, hresult⟩ := handleResult_keeps c serverPid now msg
      rw [hresult]
      exact hsame rfl (Or.inr (Nat.succ_ne_zero _)) not_false
  | disconnect =>
      rw [giveUp_keeps]
      exact hsame rfl (Or.inl rfl) not_false
  | @sendHeartbeat now found sent =>
      obtain ⟨time, htime⟩ := sendHeartbeat_keeps c now sent
      rw [htime]
      exact hsame rfl (Or.inl rfl) not_false
  | @wait msg start req now sent =>
      obtain ⟨time, htime⟩ := sendHeartbeat_keeps c now sent
      rw [htime]
      right
      exact ⟨rfl, Nat.le_refl _, fun _ => ⟨now, sent, rfl⟩⟩
  | tooLong hidle | connect hidle | isConnected hidle | closeWebSocket hidle | subscribe hidle
  | unsubscribe hidle | send hidle | setLogLevel hidle => exact absurd hidle hbusy
  | @spawned o index hcaller =>
      left
      simp only [rank, hcaller]
      split
      · decide
      · decide
  | notSpawned hcaller | unregister hcaller | forget hcaller =>
      left
      simp only [rank, hcaller, returns]
      decide
  | ready hcaller hindex | notReady hcaller hindex | register hcaller hindex =>
      left
      simp [rank, hcaller, hindex, returns, Request.rest]
  | openAsync hcaller | openSync hcaller =>
      left
      simp only [rank, hcaller, returns]
      decide
  | @timeout n start req now hcaller =>
      left
      cases req with
      | _ =>
          simp only [rank, hcaller, returns, Request.rest]
          decide
  | @answer n start req answer now hcaller =>
      left
      cases req with
      | register | openWs =>
          simp only [handleAnswer]
          split
          · simp only [rank, hcaller, returns, Request.rest]
            decide
          · simp only [rank, hcaller, returns, Request.rest]
            decide
      | closeWs | subscribe =>
          simp only [handleAnswer, rank, hcaller, returns, Request.rest]
          decide

end WebsocketProxyClient

namespace Session

open TransitionSystem.Behaviour (leadsTo_of_fair leadsTo_of_rank fair_of_loop)

/-- The client `p` makes a step of its caller in a call. -/
def Event.InCall (p : UInt64) : Event → Prop
  | .server _ => False
  | .client q ev => q = p ∧ ev.InCall

variable {guard : Session → Event → Prop} {s₀ s s' : Session} {p : UInt64}

/-- The caller of the client `p` waits for no answer, or for one that is there. -/
def Ready (p : UInt64) (s : Session) : Prop := ∀ n ∈ awaited (s.clients p), Answers n s

theorem exists_of_awaited {c : WebsocketProxyClient} {n : ℕ} (h : n ∈ awaited c) :
  ∃ start req, c.caller = .waiting n start req
  := by
  rw [awaited] at h
  split at h
  case h_1 n' start req hcaller =>
    obtain rfl := Option.some.inj h
    exact ⟨start, req, hcaller⟩
  case h_2 => cases h

/-- The answer of a request that was answered is in its slot. -/
theorem Awaits.found {n : ℕ} {req : WebsocketProxyClient.Request} {m : Message}
    (h : s.Awaits p n req m) (hs : system.Reachable s) (hanswers : Answers n s) :
  (s.slot n).status ≠ .pending
  := by
  obtain ⟨status, hstatus, hstores⟩ := hanswers
  have hn : n < s.server.taken := by
    by_contra hge
    have hfresh := (WebsocketProxy.reachable_valid (reachable_taken hs).1).fresh (Nat.not_lt.mp hge)
    have hfresh : s.server.stores n = [] := hfresh
    rw [hstores] at hfresh
    cases hfresh
  have hslot := (h.holds hn).status
  rw [hstores] at hslot
  rw [slot, if_pos hn, hslot]
  exact hstatus

/-- A caller that waits finds its answer, when it is there. -/
theorem Ready.found (h : s.Ready p) (hs : system.Reachable s) (hserved : s.Served p) {n : ℕ}
    (hn : n ∈ awaited (s.clients p)) :
  (s.slot n).status ≠ .pending
  := by
  obtain ⟨start, req, hcaller⟩ := exists_of_awaited hn
  obtain ⟨m, hm⟩ := hserved.awaits hcaller
  apply hm.found hs (h n hn)

/-- A caller that waits for nothing, or for an answer that is there, can make its next step. -/
theorem Ready.enabled (h : s.Ready p) (hs : system.Reachable s) (hserved : s.Served p)
    (hbusy : (s.clients p).caller ≠ .idle) :
  system.Enabled (Event.InCall p) s
  := by
  cases hcaller : (s.clients p).caller with
  | idle => exact absurd hcaller hbusy
  | spawning o =>
      apply enabled_client (.spawnWebsocketsProxyServer none) ⟨rfl, trivial⟩ trivial
      simp only [WebsocketProxyClient.perform, hcaller, Option.isSome_some]
  | connecting o =>
      rcases eq_or_ne (s.clients p).serverQueueIndex 0 with hzero | hindex
      · apply enabled_client (.waitForServerReady false) ⟨rfl, trivial⟩ trivial
        simp [WebsocketProxyClient.perform, hcaller, hzero]
      · apply enabled_client (.register s.clientQueue.length 0 0) ⟨rfl, trivial⟩ rfl
        simp [WebsocketProxyClient.perform, hcaller, hindex]
  | connected o =>
      apply enabled_client (.sendOpenMessage s.clientQueue.length 0 0) ⟨rfl, trivial⟩ rfl
      simp only [WebsocketProxyClient.perform, hcaller, Option.isSome_some]
  | waiting n start req =>
      have hn : awaited (s.clients p) = some n := by
        rw [awaited, hcaller]
      apply enabled_client (.answer (s.slot n) 0) ⟨rfl, trivial⟩
      · exact congrArg (Option.map s.slot) hn
      · simp only [WebsocketProxyClient.perform, hcaller, if_neg (h.found hs hserved hn),
          Option.isSome_some]
  | unregistering id =>
      apply enabled_client (.unregister 0) ⟨rfl, trivial⟩ trivial
      simp only [WebsocketProxyClient.perform, hcaller, Option.isSome_some]
  | forgetting id =>
      apply enabled_client .forget ⟨rfl, trivial⟩ trivial
      simp only [WebsocketProxyClient.perform, hcaller, Option.isSome_some]

/-- From `s` to `s'` the caller of the client `p` comes closer to its return, or it stays where it
is and does no more than wait. -/
theorem step_returning {ev : Event} (hstep : s.step ev = some s')
    (hbusy : (s.clients p).caller ≠ .idle) :
  (s'.clients p).rank < (s.clients p).rank ∨
    (s'.clients p).caller = (s.clients p).caller ∧ (s'.clients p).rank ≤ (s.clients p).rank ∧
      (ev.InCall p → ∃ n ∈ awaited (s.clients p), (s.slot n).status = .pending)
  := by
  cases ev with
  | server ev =>
      obtain ⟨-, px, -, rfl⟩ := step_server hstep
      exact Or.inr ⟨rfl, Nat.le_refl _, False.elim⟩
  | client q ev =>
      obtain ⟨hfinds, c, published, hc, rfl⟩ := step_client hstep
      rcases eq_or_ne q p with rfl | hne
      · have hself : (s.updateClient q (c, published)).clients q = c := Function.update_self ..
        rw [hself]
        apply ((WebsocketProxyClient.perform_step hc).returning hbusy).imp_right
        rintro ⟨hcaller, hle, hwaits⟩
        refine ⟨hcaller, hle, ?_⟩
        rintro ⟨-, hcalls⟩
        obtain ⟨now, sent, rfl⟩ := hwaits hcalls
        obtain ⟨n, hn, hpending⟩ := Option.map_eq_some_iff.mp hfinds
        exact ⟨n, hn, hpending⟩
      · have hother : (s.updateClient q (c, published)).clients p = s.clients p :=
          Function.update_of_ne hne.symm ..
        rw [hother]
        exact Or.inr ⟨rfl, Nat.le_refl _, fun hcalls => absurd hcalls.1 hne⟩

variable {b : system.Behaviour guard s₀}

/-- The call of the client `p` is at this distance from its return at most. -/
def Busy (p : UInt64) (k : ℕ) (s : Session) : Prop :=
  (s.clients p).caller ≠ .idle ∧ (s.clients p).rank = k

/-- A caller that waits finds its answer in the end, unless it goes on before. -/
theorem Serves.leadsTo_ready (h : Serves b) (hs : system.initial s₀)
    (hkept : ∀ s ev, guard s ev → s.AwaitedKept p ev) (k : ℕ) :
  b.LeadsTo (Busy p k) (fun s => (s.Busy p k ∧ s.Ready p) ∨ (s.clients p).rank < k)
  := by
  rintro i ⟨hbusy, hrank⟩
  cases hawaited : awaited ((b.state i).clients p) with
  | none =>
      use i, Nat.le_refl i
      left
      use ⟨hbusy, hrank⟩
      rw [Ready, hawaited]
      rintro n ⟨⟩
  | some n =>
      obtain ⟨start, req, hcaller⟩ := exists_of_awaited hawaited
      obtain ⟨m, hm⟩ := (reachable_served ((b.reachable hs i).mono hkept)).awaits hcaller
      have hwaits : ∀ s : Session, (s.clients p).caller = .waiting n start req →
          (s.clients p).rank = k := by
        intro s hs
        rw [← hrank, WebsocketProxyClient.rank, WebsocketProxyClient.rank, hs, hcaller]
      have hanswers : b.LeadsTo
          (fun s => s.clientQueue[n]? = some m ∧ (s.clients p).caller = .waiting n start req)
          (Answers n) :=
        fun i hi => h.leadsTo_answered hs hm.of.answered i hi.1
      obtain ⟨j, hij, ⟨⟨-, hcaller'⟩, hanswer⟩ | hless⟩ :=
        hanswers.unless (R := fun s => (s.clients p).rank < k) (by
          rintro i ev hev ⟨hm, hcaller⟩
          have hstep := (b.step i ev hev).2
          rcases step_returning hstep (by rw [hcaller]; rintro ⟨⟩) with hless | ⟨hsame, -, -⟩
          · rw [hwaits _ hcaller] at hless
            exact Or.inr hless
          · exact Or.inl ⟨step_getElem? hstep hm, hsame.trans hcaller⟩) i ⟨hm.published, hcaller⟩
      · use j, hij
        left
        constructor
        · use by rw [hcaller']; rintro ⟨⟩
          apply hwaits _ hcaller'
        · rw [Ready, awaited, hcaller']
          intro n' hn'
          obtain rfl := Option.some.inj hn'
          exact hanswer
      · use j, hij
        right
        exact hless

/-- A caller that waits for nothing goes on in the end. -/
theorem leadsTo_less (hs : system.initial s₀) (hkept : ∀ s ev, guard s ev → s.AwaitedKept p ev)
    (hfair : b.Fair (Event.InCall p)) (k : ℕ) :
  b.LeadsTo (fun s => s.Busy p k ∧ s.Ready p) (fun s => (s.clients p).rank < k)
  := by
  have hserved : ∀ i, (b.state i).Served p :=
    fun i => reachable_served ((b.reachable hs i).mono hkept)
  apply leadsTo_of_fair hfair
  · rintro i ⟨⟨hbusy, -⟩, hready⟩
    exact hready.enabled (b.reachable hs i).reachable (hserved i) hbusy
  · rintro i ev hev ⟨⟨hbusy, hrank⟩, hready⟩
    rcases step_returning (b.step i ev hev).2 hbusy with hless | ⟨hsame, hle, -⟩
    · right
      rw [← hrank]
      exact hless
    · rcases Nat.lt_or_eq_of_le hle with hless | heq
      · right
        rw [← hrank]
        exact hless
      · left
        refine ⟨⟨by rw [hsame]; exact hbusy, heq.trans hrank⟩, ?_⟩
        rw [Ready, awaited, hsame]
        intro n hn
        obtain ⟨status, hstatus, hstores⟩ := hready n hn
        exact ⟨status, hstatus, answers_stay hs (Nat.le_succ i) hstores⟩
  · rintro i ev hev hcalls ⟨⟨hbusy, hrank⟩, hready⟩
    rcases step_returning (b.step i ev hev).2 hbusy with hless | ⟨-, -, hwaits⟩
    · rw [← hrank]
      exact hless
    · obtain ⟨n, hn, hpending⟩ := hwaits hcalls
      exact absurd hpending (hready.found (b.reachable hs i).reachable (hserved i) hn)

/-- A client that is in no call makes no step of a call. -/
theorem not_enabled_inCall (hidle : (s.clients p).caller = .idle) :
  ¬ system.Enabled (Event.InCall p) s
  := by
  rintro ⟨ev, s', hcalls, hstep⟩
  cases ev with
  | server ev => exact hcalls
  | client q ev =>
      obtain ⟨rfl, hcalls⟩ := hcalls
      obtain ⟨-, c, published, hc, -⟩ := step_client hstep
      cases WebsocketProxyClient.perform_step hc with
      | spawned hcaller | notSpawned hcaller | ready hcaller | notReady hcaller | register hcaller
      | openAsync hcaller | openSync hcaller | unregister hcaller | forget hcaller | wait hcaller
      | timeout hcaller | answer hcaller =>
          rw [hidle] at hcaller
          cases hcaller
      | _ => exact hcalls

/-- The server opens the connection, and the client takes the answer. -/
def opensAndReturns : List Event := opensOne ++ [.client 1 (.answer openedAnswer 100000)]

end Session
