import WebsocketProxy.Library.Observed
import WebsocketProxy.Server.Attaching
import WebsocketProxy.Session.Agreement

/-!
# What a failed open leaves behind

`openWebSocket` returns `(0, false)` when its request is answered with `FAILED`, and when there
is no answer for 30 seconds. The server is not told of the latter, and goes on with the request.
If it then attaches no client for it, the call left nothing behind (`failed_open_leaves_nothing`).
But when the opening succeeds after the time was up, the client is attached to a connection that
its caller knows nothing of (`not_failed_open_leaves_nothing`).
-/

namespace WebsocketProxyClient

/-- The caller waits for the answer of message `n` and is about to return `(0, false)`: the time
is up, or the answer says so. -/
def Abandons (c : WebsocketProxyClient) (n : ℕ) : Event → Prop
  | .timeout _ => Session.awaited c = some n
  | .answer answer _ => Session.awaited c = some n ∧
      (answer.status = .failed ∨ answer.wsOpen.id = 0 ∧ answer.wsOpen.newConnection = false)
  | _ => False

instance (c : WebsocketProxyClient) (n : ℕ) (ev : Event) : Decidable (c.Abandons n ev) :=
  match ev with
  | .timeout _ => inferInstanceAs (Decidable (Session.awaited c = some n))
  | .answer .. => inferInstanceAs (Decidable (_ ∧ (_ ∨ _ ∧ _)))
  | .load | .takeTime _ | .read _ | .sendHeartbeat _ | .compare | .disconnect | .rehash _
  | .openWebSocket _ | .spawnWebsocketsProxyServer _ | .waitForServerReady _ | .register ..
  | .sendOpenMessage .. | .closeWebSocket .. | .unregister _ | .forget | .subscribe ..
  | .unsubscribe .. | .send .. | .setLogLevel .. | .wait .. => inferInstanceAs (Decidable False)

end WebsocketProxyClient

namespace Session

open WebsocketProxyClient (Observation)
open WebsocketProxy (announcements)

/-- What is noted of an `OpenWs` message and the client that sent it. -/
structure Outcome where
  /-- `openWebSocket` returned `(0, false)`. -/
  gaveUp : Bool := false
  /-- The client was attached to a connection in a step about the message. -/
  attached : Bool := false
  /-- The numbers of the messages, published in steps about the message, that tell the client of a
  connection. -/
  announced : List ℕ := []
  /-- The client got an id in `websockets_` from one of these. -/
  gained : Bool := false

/-- The call of the client `p` that waits for the answer of message `n` returns `(0, false)`. -/
def GivesUp (s s' : Session) (p : UInt64) (n : ℕ) : Prop :=
  awaited (s.clients p) = some n ∧ awaited (s'.clients p) = none ∧
    .returned (.openWebSocket 0 false) ∈ s.seen s' p

/-- The client `p` reads one of the messages and gets an id in `websockets_`. -/
def Gains (s s' : Session) (p : UInt64) (announced : List ℕ) : Prop :=
  (s.clients p).serverQueueIndex ∈ announced ∧
    ∃ id ∈ (s'.clients p).websockets.keys, id ∉ (s.clients p).websockets

instance (s s' : Session) (p : UInt64) (n : ℕ) : Decidable (s.GivesUp s' p n) :=
  inferInstanceAs (Decidable (_ ∧ _ ∧ _))

instance (s s' : Session) (p : UInt64) (announced : List ℕ) : Decidable (s.Gains s' p announced) :=
  haveI : Decidable (∃ id ∈ (s'.clients p).websockets.keys, id ∉ (s.clients p).websockets) :=
    List.decidableBEx _ _
  inferInstanceAs (Decidable (_ ∧ _))

/-- What is noted after a step. -/
def Outcome.after (p : UInt64) (n : ℕ) (s : Session) (ev : Event) (s' : Session)
    (outcome : Outcome) : Outcome :=
  match ev with
  | .server ev =>
      if s.server.Concerns n ev then
        { outcome with
          attached := outcome.attached || decide (WebsocketProxy.Joins p s.server s'.server)
          announced := outcome.announced ++ announcements p s.server s'.server }
      else outcome
  | .client _ (.read _) =>
      { outcome with gained := outcome.gained || decide (s.Gains s' p outcome.announced) }
  | .client .. => { outcome with gaveUp := outcome.gaveUp || decide (s.GivesUp s' p n) }

/-- Sessions, observed for what becomes of message `n` of the client `p`. -/
def opening (p : UInt64) (n : ℕ) : TransitionSystem (Observed Session Outcome) Event :=
  system.observed {} (Outcome.after p n)

/-- When the call of the client `p` for message `n` returns `(0, false)`, the message is not
answered with `SUCCESS`. Afterwards, if it is not answered at all, the server attaches no client
for it. -/
def LetsGo (p : UInt64) (n : ℕ) (w : Observed Session Outcome) : Event → Prop
  | .client q ev => q = p → (w.state.clients p).Abandons n ev →
      .success ∉ w.state.server.stores n
  | .server ev => w.notes.gaveUp → w.state.server.stores n = [] →
      ¬ w.state.server.AttachesFor n p ev

instance (p : UInt64) (n : ℕ) (w : Observed Session Outcome) (ev : Event) :
    Decidable (LetsGo p n w ev) :=
  match ev with
  | .client .. => inferInstanceAs (Decidable (_ → _ → _))
  | .server _ => inferInstanceAs (Decidable (_ → _ → _))

/-! ### Steps -/

variable {p : UInt64} {n : ℕ}

/-- A call that returns `(0, false)` was about to. -/
theorem GivesUp.abandons {s s' : Session} {q : UInt64} {ev : WebsocketProxyClient.Event}
    (h : s.GivesUp s' p n) (hstep : s.step (.client q ev) = some s') :
  q = p ∧ (s.clients p).Abandons n ev
  := by
  obtain ⟨hbefore, hafter, hseen⟩ := h
  rcases step_seen hstep p with ⟨-, hnothing⟩ | ⟨ev', published, hev, hclient, -⟩
  · rw [hnothing] at hseen
    cases hseen
  · obtain ⟨rfl, rfl⟩ := Event.client.inj hev
    use rfl
    cases hcaller : (s.clients q).caller with
    | waiting msg start req =>
        have hmsg := hbefore
        rw [awaited, hcaller] at hmsg
        have hchanged : (s'.clients q).caller ≠ (s.clients q).caller := by
          intro hsame
          rw [awaited, hsame, hcaller] at hafter
          cases hafter
        rcases hclient.stops_waiting hcaller hchanged with ⟨now, rfl, -⟩ |
          ⟨answer, now, rfl, -, hc⟩
        · exact hbefore
        · use hbefore
          rw [seen, hc] at hseen
          cases req with
          | register o =>
              simp only [WebsocketProxyClient.handleAnswer] at hseen
              split at hseen
              case isTrue hfailed => exact Or.inl hfailed
              case isFalse =>
                rw [List.drop_length] at hseen
                cases hseen
          | openWs =>
              simp only [WebsocketProxyClient.handleAnswer] at hseen
              split at hseen
              case isTrue hfailed => exact Or.inl hfailed
              case isFalse =>
                right
                simp only [WebsocketProxyClient.returns, List.drop_left, List.mem_singleton,
                  Observation.returned.injEq, WebsocketProxyClient.Result.openWebSocket.injEq]
                  at hseen
                exact ⟨hseen.1.symm, hseen.2.symm⟩
          | closeWs =>
              simp only [WebsocketProxyClient.handleAnswer, List.drop_length] at hseen
              cases hseen
          | subscribe =>
              simp only [WebsocketProxyClient.handleAnswer, WebsocketProxyClient.returns,
                List.drop_left, List.mem_singleton] at hseen
              cases hseen
    | _ =>
        rw [awaited, hcaller] at hbefore
        cases hbefore

/-! ### Runs -/

/-- What was attached or announced for the message is answered with `SUCCESS`, and none of it
was after the call gave up. -/
structure LeftNothing (n : ℕ) (w : Observed Session Outcome) : Prop where
  answered : w.notes.attached ∨ w.notes.announced ≠ [] → .success ∈ w.state.server.stores n
  gained : w.notes.gained → w.notes.announced ≠ []
  gaveUp : w.notes.gaveUp → ¬ w.notes.attached ∧ w.notes.announced = []

/-- A handler of the server keeps what is known of the message. -/
theorem LeftNothing.server {w w' : Observed Session Outcome} {ev : WebsocketProxy.Event}
    (h : LeftNothing n w) (hserver : WebsocketProxy.system.Reachable w.state.server)
    (hm : ∀ m, w.state.clientQueue[n]? = some m → m.pid = p ∧ ∃ req, m.data = .openWs req)
    (hletsgo : LetsGo p n w (.server ev)) (hstep : (opening p n).step w (.server ev) = some w') :
  LeftNothing n w'
  := by
  obtain ⟨hsession, hnotes⟩ := TransitionSystem.observed_step.mp hstep
  obtain ⟨hfinds, px, hpx, hs'⟩ := step_server hsession
  have hpx' : w'.state.server = px := by rw [hs']
  have hkeeps : .success ∈ w.state.server.stores n → .success ∈ px.stores n := by
    intro hmem
    obtain ⟨news, hnews⟩ :=
      WebsocketProxy.step_stores_append (WebsocketProxy.reachable_wellFormed hserver) hpx n
    rw [hnews]
    apply List.mem_append_left _ hmem
  simp only [Outcome.after] at hnotes
  split at hnotes
  case isFalse =>
    constructor
    · rw [hnotes, hpx']
      exact fun hattached => hkeeps (h.answered hattached)
    · rw [hnotes]
      apply h.gained
    · rw [hnotes]
      apply h.gaveUp
  case isTrue hconcerns =>
    rw [hpx'] at hnotes
    have hattaches : WebsocketProxy.Joins p w.state.server px ∨ announcements p w.state.server px ≠ [] →
        w.state.server.AttachesFor n p ev ∧ .success ∈ px.stores n := by
      apply WebsocketProxy.step_attaches hpx hconcerns
      rintro m rfl
      obtain rfl : w.state.server.taken = n := hconcerns
      apply hm m hfinds.symm
    constructor
    · rw [hnotes, hpx']
      simp only [Bool.or_eq_true, decide_eq_true_eq, ne_eq, List.append_eq_nil_iff]
      intro hattached
      rcases em (w.notes.attached ∨ w.notes.announced ≠ []) with hbefore | hbefore
      · apply hkeeps (h.answered hbefore)
      · apply (hattaches _).2
        rw [not_or, not_not] at hbefore
        rcases hattached with (hattached | hjoins) | hannounced
        · exact absurd hattached hbefore.1
        · apply Or.inl hjoins
        · exact Or.inr (fun hnone => hannounced ⟨hbefore.2, hnone⟩)
    · rw [hnotes]
      exact fun hgained => List.append_ne_nil_of_left_ne_nil (h.gained hgained) _
    · rw [hnotes]
      intro hgaveUp
      obtain ⟨hattached, hannounced⟩ := h.gaveUp hgaveUp
      have hnot : ¬ (WebsocketProxy.Joins p w.state.server px ∨ announcements p w.state.server px ≠ []) := by
        intro hjoins
        have hattaches := (hattaches hjoins).1
        exact hletsgo hgaveUp
          (hattaches.unanswered (WebsocketProxy.reachable_valid hserver)) hattaches
      rw [not_or, not_not] at hnot
      simp only [Bool.or_eq_true, decide_eq_true_eq]
      exact ⟨not_or.mpr ⟨hattached, hnot.1⟩, by rw [hannounced, hnot.2]; rfl⟩

/-- A step of a client keeps what is known of the message. -/
theorem LeftNothing.client {w w' : Observed Session Outcome} {q : UInt64}
    {ev : WebsocketProxyClient.Event} (h : LeftNothing n w)
    (hletsgo : LetsGo p n w (.client q ev)) (hstep : (opening p n).step w (.client q ev) = some w') :
  LeftNothing n w'
  := by
  obtain ⟨hsession, hnotes⟩ := TransitionSystem.observed_step.mp hstep
  obtain ⟨-, c, published, -, hs'⟩ := step_client hsession
  have hserver : w'.state.server = w.state.server := by rw [hs']; rfl
  rcases em (∃ result, ev = .read result) with ⟨result, rfl⟩ | hread
  · constructor
    · rw [hnotes, hserver]
      apply h.answered
    · rw [hnotes]
      simp only [Outcome.after, Bool.or_eq_true, decide_eq_true_eq]
      rintro (hgained | ⟨hannounced, -⟩)
      · apply h.gained hgained
      · apply List.ne_nil_of_mem hannounced
    · rw [hnotes]
      apply h.gaveUp
  · have hnotes : w'.notes = { w.notes with
        gaveUp := w.notes.gaveUp || decide (w.state.GivesUp w'.state p n) } := by
      rw [hnotes]
      cases ev with
      | read result => exact absurd ⟨result, rfl⟩ hread
      | _ => rfl
    constructor
    · rw [hnotes, hserver]
      apply h.answered
    · rw [hnotes]
      apply h.gained
    · rw [hnotes]
      simp only [Bool.or_eq_true, decide_eq_true_eq]
      rintro (hgaveUp | hgivesUp)
      · apply h.gaveUp hgaveUp
      · obtain ⟨hq, habandons⟩ := hgivesUp.abandons hsession
        have hanswer := fun hattached => hletsgo hq habandons (h.answered hattached)
        rw [← not_ne_iff (a := w.notes.announced), ← not_or]
        exact hanswer

/-- When the steps of a run let go, a call that gave up left nothing. -/
theorem reachable_leftNothing {w : Observed Session Outcome}
    (h : (opening p n).ReachableUnder (LetsGo p n) w) :
  (∀ m, w.state.clientQueue[n]? = some m → m.pid = p ∧ ∃ req, m.data = .openWs req) →
    LeftNothing n w
  := by
  apply h.invariant
  · rintro w ⟨-, hnotes⟩ -
    constructor
    · rw [hnotes]
      rintro (⟨⟨⟩⟩ | hne)
      exact absurd rfl hne
    · rw [hnotes]
      rintro ⟨⟩
    · rw [hnotes]
      rintro ⟨⟩
  · intro w ev w' hreachable hw hletsgo hstep hm
    have hsession : system.Reachable w.state := hreachable.observed
    have hstays := TransitionSystem.observed_step.mp hstep
    cases ev with
    | server ev =>
        obtain ⟨-, px, -, hs'⟩ := step_server hstays.1
        rw [hs'] at hm
        exact (hw hm).server (reachable_taken hsession).1 hm hletsgo hstep
    | client q ev =>
        obtain ⟨-, c, published, -, hs'⟩ := step_client hstays.1
        rw [hs'] at hm
        refine (hw ?_).client hletsgo hstep
        intro m hn
        apply hm m
        exact (List.getElem?_append_left (List.getElem?_eq_some_iff.mp hn).1).trans hn

/-- In every run whose steps let go, a call of `openWebSocket` that returned `(0, false)` left
nothing behind: the client was not attached to a connection because of its message, and got no id
in `websockets_` because of it. -/
theorem failed_open_leaves_nothing {w : Observed Session Outcome}
    (h : (opening p n).ReachableUnder (LetsGo p n) w) {req : WsOpen}
    (hreq : w.state.clientQueue[n]? = some { pid := p, data := .openWs req })
    (hgaveUp : w.notes.gaveUp) :
  ¬ w.notes.attached ∧ ¬ w.notes.gained
  := by
  have hleft := reachable_leftNothing h (by
    intro m hm
    rw [hreq] at hm
    obtain rfl := Option.some.inj hm
    exact ⟨rfl, req, rfl⟩)
  obtain ⟨hattached, hannounced⟩ := hleft.gaveUp hgaveUp
  exact ⟨hattached, fun hgained => hleft.gained hgained hannounced⟩

/-- A client connects and asks for a connection. -/
def askToOpen : List Event :=
  connectOne ++ [.client 1 (.sendOpenMessage 1 100000 100000),
    Event.take { pid := 1, data := .openWs { url := [104], apiKey := [] } }]

/-- The host is not found, and the caller is told. -/
def openRefused : List Event :=
  askToOpen ++ [.server (.complete 0 (.resumed (.success 0))),
    .server (.complete 0 (.resumed (.failure ⟨.other, [101]⟩))),
    .client 1 (.answer
      { pid := 1, data := .openWs { url := [104], apiKey := [], newConnection := true }
        status := .failed } 100000)]

theorem failed_open_leaves_nothing_openRefused :
  ∃ w, (opening 1 1).RunUnder (LetsGo 1 1)
      { state := start 7 (fun _ => 100000) (fun _ => []), notes := {} } openRefused w ∧
    w.notes.gaveUp ∧ ¬ w.notes.attached ∧ ¬ w.notes.gained
  := by
  obtain ⟨w, hrun, hreq, hgaveUp⟩ : ∃ w, (opening 1 1).RunUnder (LetsGo 1 1)
        { state := start 7 (fun _ => 100000) (fun _ => []), notes := {} } openRefused w ∧
      w.state.clientQueue[1]? = some { pid := 1, data := .openWs { url := [104], apiKey := [] } } ∧
      w.notes.gaveUp = true :=
    TransitionSystem.exists_runUnder (by decide +kernel)
  use w, hrun, hgaveUp
  exact failed_open_leaves_nothing ⟨_, _, ⟨⟨7, _, _, rfl⟩, rfl⟩, hrun⟩ hreq hgaveUp

/-- The caller waits for 30 seconds. Then the connection is opened, and the client is told. -/
def openLate : List Event :=
  askToOpen ++ [.client 1 (.timeout 130001)] ++ Event.opened 0 ++
  Event.round 1 130001 (some (Event.wsOpen 1 70001))

/-- The client is attached to a connection, and has its id in `websockets_`, because of an open
that it was told had failed. -/
theorem not_failed_open_leaves_nothing :
  ¬ ∀ (p : UInt64) (n : ℕ) (w : Observed Session Outcome) (req : WsOpen),
    (opening p n).Reachable w →
    w.state.clientQueue[n]? = some { pid := p, data := .openWs req } →
    (∀ (k : ℕ) (m : Message) (req' : WsOpen), n < k → w.state.clientQueue[k]? = some m →
      m.pid = p → m.data = .openWs req' → req'.key ≠ req.key) →
    w.notes.gaveUp → ¬ w.notes.attached ∧ ¬ w.notes.gained
  := by
  intro hall
  obtain ⟨w, hrun, hreq, hlast, hlength, hgaveUp, hattached⟩ : ∃ w, (opening 1 1).Run
        { state := start 7 (fun _ => 100000) (fun _ => []), notes := {} } openLate w ∧
      w.state.clientQueue[1]? = some { pid := 1, data := .openWs { url := [104], apiKey := [] } } ∧
      w.state.clientQueue[2]? = some { pid := 1, data := .heartbeat } ∧
      w.state.clientQueue.length = 3 ∧ w.notes.gaveUp = true ∧
      w.notes.attached = true ∧ w.notes.gained = true :=
    TransitionSystem.exists_runUnder (by decide +kernel)
  have hleft := hall 1 1 w _ ⟨_, _, ⟨⟨7, _, _, rfl⟩, rfl⟩, hrun⟩ hreq (by
    intro k m req' hk hm _ hreq'
    obtain rfl : k = 2 := by
      have hlt := (List.getElem?_eq_some_iff.mp hm).1
      omega
    obtain rfl := Option.some.inj (hlast.symm.trans hm)
    cases hreq') hgaveUp
  apply hleft.1 hattached.1

end Session
