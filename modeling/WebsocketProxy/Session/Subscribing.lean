import WebsocketProxy.Library.Observed
import WebsocketProxy.Server.OpenAnswers
import WebsocketProxy.Session.Basic

/-!
# What `subscribe` reports

The server answers a subscription with `SUCCESS` when it records it, and with `FAILED` when the
sender is not registered or the connection is not found; and it writes into the slot of the
request whether there was a subscription to the symbol before. The caller waits for the answer,
but takes neither from it: `subscribe` returns `true` for any answer, and leaves the variable
`existing` as it was. So it reports what the server did exactly when that happens to be so
(`subscribe_reports_iff`).
-/

namespace WebsocketProxyClient

variable {c c' : WebsocketProxyClient} {ev : Event} {published : List Message}

/-- The caller waits for the answer of message `n` from this event on. -/
def Event.Asks (n : ℕ) : Event → Prop
  | register msg _ _ | sendOpenMessage msg _ _ | closeWebSocket _ msg _ _ => msg = n
  | subscribe _ _ msg _ _ => msg = n
  | _ => False

/-- A caller starts waiting when it publishes a request. -/
theorem Step.starts_waiting (h : Step c ev c' published) {n : ℕ} {start : UInt64} {req : Request}
    (hafter : c'.caller = .waiting n start req) :
  c.caller = .waiting n start req ∨ ev.Asks n ∧ ∀ existing, req = .subscribe existing →
    ∃ sub sent, ev = .subscribe sub existing n sent start
  := by
  cases h with
  | @readSome serverPid now msg =>
      obtain ⟨websockets, trace, worker, hresult⟩ := handleResult_keeps c serverPid now msg
      rw [hresult] at hafter
      apply Or.inl hafter
  | @sendHeartbeat now found sent =>
      obtain ⟨time, htime⟩ := sendHeartbeat_keeps c now sent
      rw [htime] at hafter
      apply Or.inl hafter
  | @wait msg start' req' now sent =>
      obtain ⟨time, htime⟩ := sendHeartbeat_keeps c now sent
      rw [htime] at hafter
      apply Or.inl hafter
  | disconnect =>
      rw [giveUp_keeps] at hafter
      apply Or.inl hafter
  | notConnected | load | takeTime | readNone | compare | rehash | ready | unsubscribe | send
  | setLogLevel => exact Or.inl hafter
  | register | openSync | closeWebSocket =>
      right
      obtain ⟨rfl, -, rfl⟩ := Caller.waiting.inj hafter
      exact ⟨rfl, fun existing h => by cases h⟩
  | @subscribe sub existing msg sent start' =>
      right
      obtain ⟨rfl, rfl, rfl⟩ := Caller.waiting.inj hafter
      use rfl
      rintro existing ⟨⟩
      exact ⟨sub, sent, rfl⟩
  | @answer msg start' req' answer now =>
      exfalso
      cases req' with
      | register o =>
          simp only [handleAnswer] at hafter
          split at hafter
          · cases hafter
          · cases hafter
      | openWs =>
          simp only [handleAnswer] at hafter
          split at hafter
          · cases hafter
          · cases hafter
      | closeWs | subscribe => cases hafter
  | _ => cases hafter

end WebsocketProxyClient

namespace WebsocketProxy

/-- The subscription to the symbol of a request, where the connection is looked up in `px` and
is as it is in `px'`. -/
def subscriptionIn (px px' : WebsocketProxy) (sub : WsSubscription) : Option Subscription :=
  (px.websocketsById.lookup sub.id).bind fun r =>
    (px'.sockets r).subscriptions.lookup (Message.symbolView sub)

/-- What the server finds and does when it handles a subscription. -/
structure Handling where
  /-- The sender is registered. -/
  registered : Bool
  /-- The connection is found. -/
  found : Bool
  /-- The connection had a subscription to the symbol. -/
  existed : Bool
  /-- The request is answered with `SUCCESS`. -/
  success : Bool
  /-- The sender is recorded in the subscription afterwards. -/
  recorded : Bool
deriving DecidableEq

/-- What the server finds and does when it takes the message `m` with the request `sub`. -/
def handling (px px' : WebsocketProxy) (m : Message) (sub : WsSubscription) : Handling where
  registered := m.pid ∈ px.clients
  found := (px.websocketsById.lookup sub.id).isSome
  existed := (px.subscriptionIn px sub).isSome
  success := .success ∈ px.answersIn px' px.taken
  recorded := (px.subscriptionIn px' sub).any fun s => m.pid ∈ s.clients

/-- `handleSubscribe` records the sender and answers with `SUCCESS`, or answers with `FAILED`. -/
theorem handleSubscribe_cases (px : WebsocketProxy) (m : Message) (sub : WsSubscription) :
  (m.pid ∈ px.clients ∧ (px.websocketsById.lookup sub.id).isSome ∧
    ((px.taking m).handleSubscribe px.taken sub).stores px.taken
      = px.stores px.taken ++ [.success] ∧
    ∃ s, px.subscriptionIn ((px.taking m).handleSubscribe px.taken sub) sub = some s ∧
      m.pid ∈ s.clients) ∨
  (¬ (m.pid ∈ px.clients ∧ (px.websocketsById.lookup sub.id).isSome) ∧
    ((px.taking m).handleSubscribe px.taken sub).stores px.taken
      = px.stores px.taken ++ [.failed])
  := by
  rcases getClient_taking_cases px m with ⟨hpid, clients, -, hget⟩ | ⟨hpid, hget⟩
  · cases hid : px.websocketsById.lookup sub.id with
    | none =>
        right
        have hid : ((px.taking m).refreshed clients).websocketsById.lookup sub.id = none := hid
        simp only [handleSubscribe, slots_taking, hget, if_true, hid]
        constructor
        · rintro ⟨-, ⟨⟩⟩
        · exact Function.update_self ..
    | some r =>
        left
        have hid' : ((px.taking m).refreshed clients).websocketsById.lookup sub.id = some r := hid
        simp only [handleSubscribe, slots_taking, hget, if_true, hid', subscriptionIn, hid,
          Option.bind_some]
        use hpid, rfl
        split
        case h_1 hnone =>
          use Function.update_self ..
          use { type := sub.type, clients := {m.pid} }
          constructor
          · dsimp only [storeStatus]
            rw [Tables.modifySocket_self, Websocket.send, UnorderedMap.lookup_insert_eq, if_pos rfl]
          · apply Finset.mem_singleton_self _
        case h_2 old hold =>
          use Function.update_self ..
          use
            { type := if old.type &&& sub.type = 0 then old.type ||| sub.type else old.type
              clients := insert m.pid old.clients }
          constructor
          · dsimp only [storeStatus, storeData]
            rw [Tables.modifySocket_self]
            -- passing the request on leaves the subscriptions alone
            rw [apply_ite Websocket.subscriptions, Websocket.send, ite_self]
            apply UnorderedMap.lookup_replace hold
          · apply Finset.mem_insert_self _ _
  · right
    simp only [handleSubscribe, slots_taking, hget]
    exact ⟨fun hregistered => hpid hregistered.1, Function.update_self ..⟩

/-- What the server does when it handles a subscription. -/
theorem step_subscribe {px px' : WebsocketProxy} {m : Message} {sub : WsSubscription}
    (h : px.step (.processClientMessage (some m)) = some px') (hsub : m.data = .subscribe sub) :
  ((px.handling px' m sub).success
    ↔ (px.handling px' m sub).registered ∧ (px.handling px' m sub).found) ∧
  ((px.handling px' m sub).success → (px.handling px' m sub).recorded)
  := by
  have hhandled : ((px.taking m).handleClientMessage px.taken).1
      = (px.taking m).handleSubscribe px.taken sub := by
    rw [handleClientMessage, slots_taking, hsub]
  obtain ⟨-, hstores, hsockets⟩ := message_handled h
  have hstores := congrFun hstores px.taken
  rw [hhandled] at hstores hsockets
  simp only [handling, decide_eq_true_eq]
  rcases handleSubscribe_cases px m sub with ⟨hpid, hfound, hanswer, s, hs, hmem⟩ |
    ⟨hnot, hanswer⟩
  · constructor
    · rw [answersIn_of_append (hstores.trans hanswer)]
      exact iff_of_true (List.mem_singleton_self _) ⟨hpid, hfound⟩
    · intro _
      have hs' : px.subscriptionIn px' sub = some s := by
        rw [subscriptionIn, hsockets]
        exact hs
      rw [hs', Option.any_some, decide_eq_true_eq]
      exact hmem
  · have hfailed : .success ∉ px.answersIn px' px.taken := by
      rw [answersIn_of_append (hstores.trans hanswer), List.mem_singleton]
      rintro ⟨⟩
    constructor
    · apply iff_of_false hfailed hnot
    · exact fun hsuccess => absurd hsuccess hfailed

end WebsocketProxy

namespace Session

open WebsocketProxyClient (Observation)

/-- What is noted of a call of `subscribe`. -/
structure Subscribing where
  /-- The arguments of the call. -/
  called : Option (WsSubscription × Bool) := none
  /-- What the server found and did when it handled the message. -/
  handled : Option WebsocketProxy.Handling := none
  /-- What the call returned with the answer, and what it left in `existing`. -/
  returned : Option (Bool × Bool) := none

/-- What a call of `subscribe` returned, and what it left in `existing`. -/
def subscribeResult : Observation → Option (Bool × Bool)
  | .returned (.subscribe success existing) => some (success, existing)
  | _ => none

/-- What is noted after a step, of the call of the client `p` that publishes message `n`. -/
def Subscribing.after (p : UInt64) (n : ℕ) (s : Session) (ev : Event) (s' : Session)
    (notes : Subscribing) : Subscribing :=
  match ev with
  | .client q (.subscribe sub existing msg _ _) =>
      if q = p ∧ msg = n then { notes with called := some (sub, existing) } else notes
  | .server (.processClientMessage (some m)) =>
      match m.data with
      | .subscribe sub =>
          if s.server.taken = n then
            { notes with handled := some (s.server.handling s'.server m sub) }
          else notes
      | _ => notes
  | .client q (.answer _ _) =>
      if q = p ∧ awaited (s.clients p) = some n then
        { notes with returned := (s.seen s' p).findSome? subscribeResult }
      else notes
  | _ => notes

/-- Sessions, observed for the call of `subscribe` by the client `p` that publishes message `n`. -/
def subscribing (p : UInt64) (n : ℕ) : TransitionSystem (Observed Session Subscribing) Event :=
  system.observed {} (Subscribing.after p n)

/-- What the call returns, and leaves in `existing`, is what the server did. -/
structure Reports (handling : WebsocketProxy.Handling) (success existing : Bool) : Prop where
  answered : success ↔ handling.success
  recorded : handling.success → handling.recorded
  existed : handling.success → existing = handling.existed
  rejected : ¬ (handling.registered ∧ handling.found) → success = false

/-! ### Runs -/

variable {p : UInt64} {n : ℕ}

/-- What is known of the call: the caller that waits for message `n` is the one that was noted,
its request is message `n`, and when it returned with the answer it returned `true` and the value
`existing` it was called with. -/
structure Noted (p : UInt64) (n : ℕ) (w : Observed Session Subscribing) : Prop where
  waits : ∀ start existing, (w.state.clients p).caller = .waiting n start (.subscribe existing) →
    ∃ sub, w.notes.called = some (sub, existing)
  called : ∀ sub existing, w.notes.called = some (sub, existing) → n < w.state.clientQueue.length
  handled : ∀ handling, w.notes.handled = some handling →
    (handling.success ↔ handling.registered ∧ handling.found) ∧
      (handling.success → handling.recorded)
  returned : ∀ success existing, w.notes.returned = some (success, existing) →
    success = true ∧ ∃ sub, w.notes.called = some (sub, existing)

/-- What a handler of the server adds to the notes. -/
theorem noted_server {w w' : Observed Session Subscribing} {ev : WebsocketProxy.Event}
    (hstep : (subscribing p n).step w (.server ev) = some w') :
  w'.notes = w.notes ∨ ∃ handling, (handling.success ↔ handling.registered ∧ handling.found) ∧
    (handling.success → handling.recorded) ∧ w'.notes = { w.notes with handled := some handling }
  := by
  obtain ⟨hsession, hnotes⟩ := TransitionSystem.observed_step.mp hstep
  obtain ⟨-, px, hpx, hs'⟩ := step_server hsession
  have hpx' : w'.state.server = px := by rw [hs']
  rw [hnotes]
  simp only [Subscribing.after]
  split
  case h_1 heq => cases heq
  case h_2 m heq =>
    obtain rfl := Event.server.inj heq
    split
    case h_1 sub hsub =>
      split
      case isTrue =>
        obtain ⟨hsuccess, hrecorded⟩ := WebsocketProxy.step_subscribe hpx hsub
        right
        use w.state.server.handling px m sub, hsuccess, hrecorded
        rw [hpx']
      case isFalse => exact Or.inl rfl
    case h_2 => exact Or.inl rfl
  case h_3 heq => cases heq
  case h_4 => exact Or.inl rfl

/-- A handler of the server keeps what is known of the call. -/
theorem Noted.server {w w' : Observed Session Subscribing} {ev : WebsocketProxy.Event}
    (h : Noted p n w) (hstep : (subscribing p n).step w (.server ev) = some w') :
  Noted p n w'
  := by
  obtain ⟨hsession, -⟩ := TransitionSystem.observed_step.mp hstep
  obtain ⟨-, px, -, hs'⟩ := step_server hsession
  have hclients : w'.state.clients = w.state.clients := by rw [hs']
  have hqueue : w'.state.clientQueue = w.state.clientQueue := by rw [hs']
  rcases noted_server hstep with hnotes | ⟨handling, hsuccess, hrecorded, hnotes⟩
  · constructor
    · rw [hclients, hnotes]
      apply h.waits
    · rw [hqueue, hnotes]
      apply h.called
    · rw [hnotes]
      apply h.handled
    · rw [hnotes]
      apply h.returned
  · constructor
    · rw [hclients, hnotes]
      apply h.waits
    · rw [hqueue, hnotes]
      apply h.called
    · rw [hnotes]
      rintro _ ⟨⟩
      exact ⟨hsuccess, hrecorded⟩
    · rw [hnotes]
      apply h.returned

/-- The notes of a call are made when it publishes its message. -/
theorem noted_client {w w' : Observed Session Subscribing} {q : UInt64}
    {ev : WebsocketProxyClient.Event}
    (hstep : (subscribing p n).step w (.client q ev) = some w') :
  (∃ sub existing sent start, q = p ∧ ev = .subscribe sub existing n sent start ∧
    w'.notes = { w.notes with called := some (sub, existing) }) ∨
  (¬ (q = p ∧ ∃ sub existing sent start, ev = .subscribe sub existing n sent start) ∧
    (w'.notes = w.notes ∨ ∃ answer now, q = p ∧ ev = .answer answer now ∧
      awaited (w.state.clients p) = some n ∧
      w'.notes = { w.notes with
        returned := (w.state.seen w'.state p).findSome? subscribeResult }))
  := by
  obtain ⟨hsession, hnotes⟩ := TransitionSystem.observed_step.mp hstep
  rw [hnotes]
  cases ev with
  | subscribe sub existing msg sent start =>
      simp only [Subscribing.after]
      split
      case isTrue h =>
        obtain ⟨rfl, rfl⟩ := h
        exact Or.inl ⟨sub, existing, sent, start, rfl, rfl, rfl⟩
      case isFalse h =>
        right
        refine ⟨?_, Or.inl rfl⟩
        rintro ⟨hq, sub', existing', sent', start', hev⟩
        exact h ⟨hq, (WebsocketProxyClient.Event.subscribe.inj hev).2.2.1⟩
  | answer answer now =>
      right
      constructor
      · rintro ⟨-, sub', existing', sent', start', ⟨⟩⟩
      · simp only [Subscribing.after]
        split
        case isTrue h => exact Or.inr ⟨answer, now, h.1, rfl, h.2, rfl⟩
        case isFalse => exact Or.inl rfl
  | _ =>
      right
      constructor
      · rintro ⟨-, sub', existing', sent', start', ⟨⟩⟩
      · apply Or.inl rfl

/-- A call of `subscribe` that gets an answer returns `true`, and leaves `existing` alone. -/
theorem handleAnswer_subscribeResult {c : WebsocketProxyClient}
    {req : WebsocketProxyClient.Request} {answer : Message} {now : UInt64}
    {success existing : Bool}
    (h : ((c.handleAnswer req answer now).trace.drop c.trace.length).findSome? subscribeResult
      = some (success, existing)) :
  success = true ∧ req = .subscribe existing
  := by
  have hother : ∀ result, (∀ success existing, result ≠ .subscribe success existing) →
      ((c.returns result).trace.drop c.trace.length).findSome? subscribeResult = none := by
    intro result hresult
    rw [WebsocketProxyClient.returns, List.drop_left, List.findSome?_cons]
    cases result with
    | subscribe success existing => exact absurd rfl (hresult success existing)
    | _ => rfl
  cases req with
  | subscribe existing' =>
      simp only [WebsocketProxyClient.handleAnswer, WebsocketProxyClient.returns,
        List.drop_left, List.findSome?_cons, subscribeResult] at h
      obtain ⟨rfl, rfl⟩ := Prod.mk.inj (Option.some.inj h)
      exact ⟨rfl, rfl⟩
  | register o =>
      simp only [WebsocketProxyClient.handleAnswer] at h
      split at h
      · have hfailed : ∀ success existing, o.failed ≠ .subscribe success existing := by
          intro success existing
          unfold WebsocketProxyClient.Opening.failed
          split
          · rintro ⟨⟩
          · rintro ⟨⟩
        rw [WebsocketProxyClient.returns] at h
        cases (hother _ hfailed).symm.trans h
      · rw [List.drop_length] at h
        cases h
  | openWs =>
      simp only [WebsocketProxyClient.handleAnswer] at h
      split at h
      · cases (hother (.openWebSocket 0 false) (by rintro _ _ ⟨⟩)).symm.trans h
      · cases (hother (.openWebSocket _ _) (by rintro _ _ ⟨⟩)).symm.trans h
  | closeWs =>
      simp only [WebsocketProxyClient.handleAnswer, List.drop_length] at h
      cases h

/-- What the call returns when the caller takes an answer. -/
theorem answer_returns {s s' : Session} {answer : Message} {now : UInt64}
    (hstep : s.step (.client p (.answer answer now)) = some s')
    (hawaited : awaited (s.clients p) = some n) {success existing : Bool}
    (hreturned : (s.seen s' p).findSome? subscribeResult = some (success, existing)) :
  success = true ∧ ∃ start, (s.clients p).caller = .waiting n start (.subscribe existing)
  := by
  rcases step_seen hstep p with ⟨-, hnothing⟩ | ⟨ev', published, hev, hclient, -⟩
  · rw [hnothing] at hreturned
    cases hreturned
  · obtain ⟨-, rfl⟩ := Event.client.inj hev
    generalize hc' : s'.clients p = c' at hclient
    cases hclient with
    | @answer msg start req _ _ hcaller hanswer =>
        rw [awaited, hcaller] at hawaited
        obtain rfl := Option.some.inj hawaited
        rw [seen, hc'] at hreturned
        obtain ⟨hsuccess, rfl⟩ := handleAnswer_subscribeResult hreturned
        exact ⟨hsuccess, start, hcaller⟩

/-- A step of a client keeps what is known of the call. -/
theorem Noted.client {w w' : Observed Session Subscribing} {q : UInt64}
    {ev : WebsocketProxyClient.Event} (h : Noted p n w)
    (hstep : (subscribing p n).step w (.client q ev) = some w') :
  Noted p n w'
  := by
  have hsession : w.state.step (.client q ev) = some w'.state :=
    (TransitionSystem.observed_step.mp hstep).1
  obtain ⟨hfinds, c, published, hc, hs'⟩ := step_client hsession
  have hqueue : w'.state.clientQueue = w.state.clientQueue ++ published := by rw [hs']; rfl
  have hlength : w.state.clientQueue.length ≤ w'.state.clientQueue.length := by
    rw [hqueue, List.length_append]
    apply Nat.le_add_right
  rcases noted_client hstep with ⟨sub, existing, sent, start, rfl, rfl, hnotes⟩ | ⟨hnot, hnotes⟩
  · have hn : n = w.state.clientQueue.length := hfinds
    have hclient : w'.state.clients q = c := by
      rw [hs']
      exact Function.update_self ..
    have hcaller : c.caller = .waiting n start (.subscribe existing) ∧ published.length = 1 := by
      cases WebsocketProxyClient.perform_step hc
      exact ⟨rfl, rfl⟩
    constructor
    · intro start' existing' hwaits
      rw [hclient, hcaller.1] at hwaits
      obtain ⟨-, -, hreq⟩ := WebsocketProxyClient.Caller.waiting.inj hwaits
      obtain rfl := WebsocketProxyClient.Request.subscribe.inj hreq
      use sub
      rw [hnotes]
    · intro _ _ _
      rw [hqueue, List.length_append, hcaller.2, hn]
      apply Nat.lt_succ_self _
    · rw [hnotes]
      apply h.handled
    · rw [hnotes]
      intro success existing' hreturned
      obtain ⟨-, sub', hcalled⟩ := h.returned success existing' hreturned
      exact absurd (h.called sub' existing' hcalled) (by omega)
  · have hwaits : ∀ start existing, (w'.state.clients p).caller
        = .waiting n start (.subscribe existing) →
        (w.state.clients p).caller = .waiting n start (.subscribe existing) := by
      intro start existing hafter
      rcases step_seen hsession p with ⟨hsame, -⟩ | ⟨ev', published, hev, hclient, -⟩
      · rw [← hsame]
        exact hafter
      · obtain ⟨rfl, rfl⟩ := Event.client.inj hev
        rcases hclient.starts_waiting hafter with hbefore | ⟨-, hcall⟩
        · exact hbefore
        · obtain ⟨sub, sent, rfl⟩ := hcall existing rfl
          exact absurd ⟨rfl, sub, existing, sent, start, rfl⟩ hnot
    have hsame : w'.notes.called = w.notes.called ∧ w'.notes.handled = w.notes.handled := by
      rcases hnotes with hnotes | ⟨answer, now, -, -, -, hnotes⟩
      · rw [hnotes]
        exact ⟨rfl, rfl⟩
      · rw [hnotes]
        exact ⟨rfl, rfl⟩
    constructor
    · intro start existing hafter
      rw [hsame.1]
      apply h.waits start existing (hwaits start existing hafter)
    · intro sub existing hcalled
      rw [hsame.1] at hcalled
      exact (h.called sub existing hcalled).trans_le hlength
    · rw [hsame.2]
      apply h.handled
    · intro success existing hreturned
      rw [hsame.1]
      rcases hnotes with hnotes | ⟨answer, now, rfl, rfl, hawaited, hnotes⟩
      · rw [hnotes] at hreturned
        apply h.returned success existing hreturned
      · rw [hnotes] at hreturned
        obtain ⟨hsuccess, start, hcaller⟩ := answer_returns hsession hawaited hreturned
        use hsuccess
        apply h.waits start existing hcaller

/-- What is known of the call is so in every run. -/
theorem reachable_noted {w : Observed Session Subscribing} (h : (subscribing p n).Reachable w) :
  Noted p n w
  := by
  apply h.invariant
  · rintro w ⟨⟨pid, clock, names, hstart⟩, hnotes⟩
    constructor
    · rw [hstart]
      rintro start existing ⟨⟩
    · rw [hnotes]
      rintro sub existing ⟨⟩
    · rw [hnotes]
      rintro handling ⟨⟩
    · rw [hnotes]
      rintro success existing ⟨⟩
  · intro w ev w' _ hw _ hstep
    cases ev with
    | server ev => exact hw.server hstep
    | client q ev => exact hw.client hstep

/-- In every run, a call of `subscribe` that is answered in time reports what the server did if
and only if the client is registered and the connection is found when the server handles the
message, and the variable `existing` holds before the call what it should hold after it. -/
theorem subscribe_reports_iff {w : Observed Session Subscribing}
    (h : (subscribing p n).Reachable w) {sub : WsSubscription} {existing : Bool}
    (hcalled : w.notes.called = some (sub, existing)) {handling : WebsocketProxy.Handling}
    (hhandled : w.notes.handled = some handling) {success existing' : Bool}
    (hreturned : w.notes.returned = some (success, existing')) :
  Reports handling success existing' ↔
    handling.registered ∧ handling.found ∧ existing = handling.existed
  := by
  have hnoted := reachable_noted h
  obtain ⟨hanswered, hrecorded⟩ := hnoted.handled handling hhandled
  obtain ⟨rfl, sub', hcalled'⟩ := hnoted.returned success existing' hreturned
  obtain ⟨rfl, rfl⟩ := Prod.mk.inj (Option.some.inj (hcalled.symm.trans hcalled'))
  constructor
  · intro hreports
    have hsuccess := hreports.answered.mp rfl
    obtain ⟨hregistered, hfound⟩ := hanswered.mp hsuccess
    exact ⟨hregistered, hfound, hreports.existed hsuccess⟩
  · rintro ⟨hregistered, hfound, hexisting⟩
    have hsuccess := hanswered.mpr ⟨hregistered, hfound⟩
    constructor
    · apply iff_of_true rfl hsuccess
    · exact hrecorded
    · exact fun _ => hexisting
    · exact fun hnot => absurd ⟨hregistered, hfound⟩ hnot

/-- The request of a subscription on the connection with an id. -/
def subscriptionOn (id : UInt64) : WsSubscription :=
  { symbol := [65], id, type := SubscriptionType.quotes }

/-- A client that has a connection subscribes, and gets the answer of the server. -/
def subscribeOne (id : UInt64) (status : Message.Status) : List Event :=
  [.server .startHeartbeat] ++ Event.openWebSocketAsync 1 [104] 0 1 100000 ++ Event.opened 0 ++
  [.client 1 (.subscribe (subscriptionOn id) false 2 100000 100000),
    Event.take { pid := 1, data := .subscribe (subscriptionOn id) },
    .client 1 (.answer { pid := 1, data := .subscribe (subscriptionOn id), status } 100000)]

theorem subscribe_reports_subscribeOne :
  ∃ w, (subscribing 1 2).Run { state := start 7 (fun _ => 100000) (fun _ => []), notes := {} }
      (subscribeOne 70001 .success) w ∧
    Reports ⟨true, true, false, true, true⟩ true false
  := by
  obtain ⟨w, hrun, hcalled, hhandled, hreturned⟩ : ∃ w,
      (subscribing 1 2).Run { state := start 7 (fun _ => 100000) (fun _ => []), notes := {} }
        (subscribeOne 70001 .success) w ∧
      w.notes.called = some (subscriptionOn 70001, false) ∧
      w.notes.handled = some ⟨true, true, false, true, true⟩ ∧
      w.notes.returned = some (true, false) :=
    TransitionSystem.exists_runUnder (by decide +kernel)
  use w, hrun
  apply (subscribe_reports_iff ⟨_, _, ⟨⟨7, _, _, rfl⟩, rfl⟩, hrun⟩ hcalled hhandled hreturned).mpr
  exact ⟨rfl, rfl, rfl⟩

/-- A subscription on a connection that does not exist is answered with `FAILED`, and the call
returns `true`. -/
theorem not_subscribe_reports :
  ¬ ∀ (p : UInt64) (n : ℕ) (w : Observed Session Subscribing) (sub : WsSubscription)
      (existing : Bool) (handling : WebsocketProxy.Handling) (success existing' : Bool),
    (subscribing p n).Reachable w → w.notes.called = some (sub, existing) →
    w.notes.handled = some handling → w.notes.returned = some (success, existing') →
    Reports handling success existing'
  := by
  intro hall
  obtain ⟨w, hrun, hcalled, hhandled, hreturned⟩ : ∃ w,
      (subscribing 1 2).Run { state := start 7 (fun _ => 100000) (fun _ => []), notes := {} }
        (subscribeOne 99 .failed) w ∧
      w.notes.called = some (subscriptionOn 99, false) ∧
      w.notes.handled = some ⟨true, false, false, false, false⟩ ∧
      w.notes.returned = some (true, false) :=
    TransitionSystem.exists_runUnder (by decide +kernel)
  have hreports := hall 1 2 w _ _ _ _ _ ⟨_, _, ⟨⟨7, _, _, rfl⟩, rfl⟩, hrun⟩ hcalled hhandled
    hreturned
  cases hreports.answered.mp rfl

end Session
