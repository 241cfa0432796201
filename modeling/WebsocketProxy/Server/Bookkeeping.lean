import WebsocketProxy.Server.Subscriptions

/-!
# The bookkeeping of subscriptions

A subscription of a connection is there exactly while some client's latest request for its symbol
was to subscribe, and its clients are those whose latest request was. The remote server is told
of a subscription before it is told to end it, and is told to end it only when it ends
(`subscription_bookkeeping`).
-/

namespace SymbolRequest

/-- A client that subscribes joins, and one that unsubscribes leaves. -/
def holding : SymbolRequest → Holding UInt64
  | subscribe pid _ => .join pid
  | unsubscribe pid => .leave pid

/-- The trace of requests as one of keys that join and leave. -/
def holdings (trace : List (SymbolRequest × Bool)) : List (Holding UInt64 × Bool) :=
  trace.map fun e => (e.1.holding, e.2)

/-- The latest request of a client was to subscribe. -/
def Subscribed (trace : List (SymbolRequest × Bool)) (pid : UInt64) : Prop :=
  Holding.latest ((holdings trace).map Prod.fst) pid = some (.join pid)

theorem holdings_append (trace : List (SymbolRequest × Bool)) (q : SymbolRequest) (passed : Bool) :
  holdings (trace ++ [(q, passed)]) = holdings trace ++ [(q.holding, passed)]
  := List.map_append

end SymbolRequest

namespace WebsocketProxy

open SymbolRequest

/-- The clients of a subscription, if there is one. -/
def clientsOf (sub : Option Subscription) : Finset UInt64 :=
  match sub with
  | some sub => sub.clients
  | none => ∅

/-- A subscription has clients, and the remote server is told of it as a shared thing. -/
theorem Replays.notifies {trace : List (SymbolRequest × Bool)} {sub : Option Subscription}
    (h : Replays trace sub) :
  Holding.Notifies (holdings trace) (clientsOf sub) ∧ ∀ s ∈ sub, s.clients.Nonempty
  := by
  induction h with
  | nil => exact ⟨.nil, by rintro s ⟨⟩⟩
  | @snoc trace sub q _ ih =>
      obtain ⟨hnotifies, hnonempty⟩ := ih
      rw [holdings_append]
      cases q with
      | subscribe pid type =>
          cases sub with
          | none =>
              constructor
              · exact hnotifies.join pid (fun _ => rfl)
              · rintro s ⟨⟩
                apply Finset.singleton_nonempty pid
          | some s =>
              have hs := hnonempty s rfl
              rcases em (s.type &&& type = 0) with hnew | hold
              · rw [apply, if_pos hnew]
                constructor
                · exact hnotifies.join pid (fun _ => rfl)
                · rintro s' ⟨⟩
                  apply Finset.insert_nonempty _ _
              · rw [apply, if_neg hold]
                constructor
                · exact hnotifies.join pid (fun hempty => absurd hempty hs.ne_empty)
                · rintro s' ⟨⟩
                  apply Finset.insert_nonempty _ _
      | unsubscribe pid =>
          cases sub with
          | none =>
              constructor
              · have hleave := hnotifies.leave pid false (by simp [clientsOf])
                exact hleave
              · rintro s ⟨⟩
          | some s =>
              have hs := hnonempty s rfl
              rcases em (s.clients.erase pid = ∅) with hlast | hstay
              · rw [apply, if_pos hlast]
                constructor
                · have hleave := hnotifies.leave pid true (by simpa using ⟨hs, hlast⟩)
                  rw [clientsOf, hlast] at hleave
                  exact hleave
                · rintro s' ⟨⟩
              · rw [apply, if_neg hstay]
                constructor
                · have hleave := hnotifies.leave pid false (by simp [clientsOf, hstay])
                  exact hleave
                · rintro s' ⟨⟩
                  apply Finset.nonempty_iff_ne_empty.mpr hstay

/-- The subscription is booked as the requests of the clients say. -/
structure Booked (trace : List (SymbolRequest × Bool)) (sub : Option Subscription) : Prop where
  /-- There is one exactly when some client's latest request was to subscribe. -/
  isSome_iff : sub.isSome ↔ ∃ pid, Subscribed trace pid
  /-- Its clients are those whose latest request was to subscribe. -/
  clients : ∀ s ∈ sub, ∀ pid, pid ∈ s.clients ↔ Subscribed trace pid
  nonempty : ∀ s ∈ sub, s.clients.Nonempty
  /-- The first request that is passed on is to subscribe. -/
  first : (Holding.told (holdings trace)).head? ≠ some false
  /-- Between two requests to unsubscribe that are passed on, one to subscribe is. -/
  alternates : (Holding.told (holdings trace)).IsChain fun a b => a = true ∨ b = true

theorem Replays.booked {trace : List (SymbolRequest × Bool)} {sub : Option Subscription}
    (h : Replays trace sub) :
  Booked trace sub
  := by
  obtain ⟨hnotifies, hnonempty⟩ := h.notifies
  obtain ⟨hfirst, halternates, -⟩ := hnotifies.alternates
  have hmem : ∀ pid, pid ∈ clientsOf sub ↔ Subscribed trace pid := by
    intro pid
    rw [hnotifies.holders]
    apply Holding.mem_holders_iff
  refine ⟨?_, ?_, hnonempty, hfirst, halternates⟩
  · cases sub with
    | none =>
        constructor
        · rintro ⟨⟩
        · rintro ⟨pid, hsubscribed⟩
          exact absurd ((hmem pid).mpr hsubscribed) (Finset.notMem_empty pid)
    | some s =>
        apply iff_of_true rfl
        obtain ⟨pid, hpid⟩ := hnonempty s rfl
        exact ⟨pid, (hmem pid).mp hpid⟩
  · rintro s ⟨⟩ pid
    apply hmem pid

/-- A request to unsubscribe is passed on only when the subscription ends. -/
theorem unsubscribe_passed {px px' : WebsocketProxy} {ev : Event} (hwf : px.WellFormed)
    (h : px.step ev = some px') {r : ℕ} {symbol : Bytes} {pid : UInt64}
    (hpassed : (.unsubscribe pid, true) ∈ symbolTrace r symbol px ev px') :
  (px.subscriptionOf r symbol).isSome ∧ px'.subscriptionOf r symbol = none
  := by
  rcases step_symbolTrace hwf h r symbol with ⟨htrace, -⟩ | ⟨q, htrace, hafter⟩
  · rw [htrace] at hpassed
    cases hpassed
  · rw [htrace, List.mem_singleton, Prod.mk.injEq] at hpassed
    obtain ⟨rfl, hpassed⟩ := hpassed
    rw [hafter]
    cases hsub : px.subscriptionOf r symbol with
    | none =>
        rw [hsub] at hpassed
        cases hpassed
    | some s =>
        rw [hsub, apply] at hpassed
        rw [apply]
        split
        case isTrue => exact ⟨rfl, rfl⟩
        case isFalse hstay =>
          rw [if_neg hstay] at hpassed
          cases hpassed

/-! ### Answers -/

/-- The answer to a request to subscribe. -/
theorem handleSubscribe_slot (px : WebsocketProxy) (m : Message) (req : WsSubscription) :
  ((px.taking m).handleSubscribe px.taken req).slots px.taken
    = if m.pid ∈ px.clients then
        match px.websocketsById.lookup req.id with
        | some r =>
            if (px.subscriptionOf r (Message.symbolView req)).isSome then
              { m with data := .subscribe { req with existing := true }, status := .success }
            else { m with status := .success }
        | none => { m with status := .failed }
      else { m with status := .failed }
  := by
  rcases getClient_taking_cases px m with ⟨hpid, clients, -, hget⟩ | ⟨hpid, hget⟩
  · rw [if_pos hpid]
    cases hid : px.websocketsById.lookup req.id with
    | none =>
        have hid' : ((px.taking m).refreshed clients).websocketsById.lookup req.id = none := hid
        simp only [handleSubscribe, slots_taking, hget, if_true, hid']
        rw [storeStatus_slots_self]
        exact congrArg (fun slot : Message => { slot with status := .failed }) (slots_taking px m)
    | some r =>
        have hid' : ((px.taking m).refreshed clients).websocketsById.lookup req.id = some r := hid
        simp only [handleSubscribe, slots_taking, hget, if_true, hid']
        split
        case h_1 hnone =>
          have hnone : px.subscriptionOf r (Message.symbolView req) = none := hnone
          rw [hnone, storeStatus_slots_self]
          exact congrArg (fun slot : Message => { slot with status := .success }) (slots_taking px m)
        case h_2 sub hsub =>
          have hsub : px.subscriptionOf r (Message.symbolView req) = some sub := hsub
          rw [hsub, storeStatus_slots_self, storeData_slots_self]
          exact congrArg (fun slot : Message =>
            { slot with data := .subscribe { req with existing := true }, status := .success })
            (slots_taking px m)
  · rw [if_neg hpid]
    simp only [handleSubscribe, slots_taking, hget, Bool.false_eq_true, if_false]
    rw [storeStatus_slots_self, slots_taking]

/-- A request is passed on: its sender is registered, and its connection is found. -/
def Passes (px : WebsocketProxy) (m : Message) (id : UInt64) : Prop :=
  m.pid ∈ px.clients ∧ ∃ r, px.websocketsById.lookup id = some r

theorem handleSubscribe_success_iff (px : WebsocketProxy) (m : Message) (req : WsSubscription) :
  (((px.taking m).handleSubscribe px.taken req).slots px.taken).status = .success ↔
    px.Passes m req.id
  := by
  rw [handleSubscribe_slot, Passes]
  rcases em (m.pid ∈ px.clients) with hpid | hpid
  · rw [if_pos hpid, and_iff_right hpid]
    cases hid : px.websocketsById.lookup req.id with
    | none => simp
    | some r =>
        apply iff_of_true _ ⟨r, rfl⟩
        dsimp only
        split
        · rfl
        · rfl
  · rw [if_neg hpid]
    apply iff_of_false
    · rintro ⟨⟩
    · exact fun h => hpid h.1

theorem subscribe_slot {px px' : WebsocketProxy} {m : Message} {req : WsSubscription}
    (h : px.step (.processClientMessage (some m)) = some px') (hm : m.data = .subscribe req) :
  px'.slots px.taken = ((px.taking m).handleSubscribe px.taken req).slots px.taken
  := by
  rw [message_slots h, handleClientMessage, slots_taking, hm]

/-- A request to subscribe that is answered with `SUCCESS` is told whether the subscription was
there. -/
theorem subscribe_existing {px px' : WebsocketProxy} {m : Message} {req : WsSubscription}
    (h : px.step (.processClientMessage (some m)) = some px') (hm : m.data = .subscribe req)
    (hreq : req.existing = false) (hsuccess : (px'.slots px.taken).status = .success) :
  ∃ answer, (px'.slots px.taken).data = .subscribe answer ∧
    (answer.existing = true ↔ ∃ r, px.websocketsById.lookup req.id = some r ∧
      (px.subscriptionOf r (Message.symbolView req)).isSome)
  := by
  rw [subscribe_slot h hm, handleSubscribe_slot] at hsuccess ⊢
  split at hsuccess
  case isFalse => cases hsuccess
  case isTrue hpid =>
    rw [if_pos hpid]
    split at hsuccess
    case h_2 => cases hsuccess
    case h_1 r hid =>
      rw [hid]
      split
      case isTrue hsub =>
        use { req with existing := true }, rfl
        exact iff_of_true rfl ⟨r, rfl, hsub⟩
      case isFalse hsub =>
        use req, hm
        rw [hreq]
        apply iff_of_false Bool.false_ne_true
        rintro ⟨r', hr', hsub'⟩
        obtain rfl := Option.some.inj hr'
        apply hsub hsub'

/-- Along every run the subscription of a symbol at a connection is booked as the requests of the
clients say, a request to unsubscribe is passed on only when the subscription ends, and a request
to subscribe that is answered with `SUCCESS` is told whether the subscription was there. -/
theorem subscription_bookkeeping {pid : UInt64} {clock : ℕ → UInt64} {es : List Event}
    {px : WebsocketProxy} (h : system.Run (start pid clock) es px) (r : ℕ) (symbol : Bytes) :
  Booked (system.outputs (symbolTrace r symbol) (start pid clock) es)
    (px.subscriptionOf r symbol) ∧
  ∀ ev px', px.step ev = some px' →
    (∀ pid, (.unsubscribe pid, true) ∈ symbolTrace r symbol px ev px' →
      (px.subscriptionOf r symbol).isSome ∧ px'.subscriptionOf r symbol = none) ∧
    (∀ m req, ev = .processClientMessage (some m) → m.data = .subscribe req →
      req.existing = false → (px'.slots px.taken).status = .success →
      ∃ answer, (px'.slots px.taken).data = .subscribe answer ∧
        (answer.existing = true ↔ ∃ r, px.websocketsById.lookup req.id = some r ∧
          (px.subscriptionOf r (Message.symbolView req)).isSome))
  := by
  have hwf : px.WellFormed := reachable_wellFormed ⟨_, _, ⟨pid, clock, rfl⟩, h⟩
  use (run_symbolTrace h r symbol).booked
  intro ev px' hstep
  constructor
  · intro pid hpassed
    apply unsubscribe_passed hwf hstep hpassed
  · rintro m req rfl hm hreq hsuccess
    apply subscribe_existing hstep hm hreq hsuccess

/-- Two clients subscribe to a symbol, the first of them twice, and one unsubscribes. -/
def subscribeShared : List Event :=
  openShared ++ [.subscribe 1 70001 [65], .subscribe 2 70001 [65], .subscribe 1 70001 [65],
    .unsubscribe 1 70001 [65]]

theorem subscription_bookkeeping_subscribeShared :
  ∃ px px', system.Run (start 7 fun _ => 1) subscribeShared px ∧
    Booked (system.outputs (symbolTrace 0 [65]) (start 7 fun _ => 1) subscribeShared)
      (some { type := SubscriptionType.quotes, clients := {2} }) ∧
    px.step (.unsubscribe 2 70001 [65]) = some px' ∧
    (px.subscriptionOf 0 [65]).isSome ∧ px'.subscriptionOf 0 [65] = none
  := by
  have hexec : ∃ px ∈ system.exec (start 7 fun _ => 1) subscribeShared,
      px.subscriptionOf 0 [65] = some { type := SubscriptionType.quotes, clients := {2} } ∧
      ∃ px' ∈ px.step (.unsubscribe 2 70001 [65]),
        (.unsubscribe 2, true) ∈ symbolTrace 0 [65] px (.unsubscribe 2 70001 [65]) px' := by
    decide +kernel
  obtain ⟨px, hrun, hsub, px', hstep, hpassed⟩ := TransitionSystem.exists_runUnder hexec
  obtain ⟨hbooked, hsteps⟩ := subscription_bookkeeping hrun 0 [65]
  rw [hsub] at hbooked
  use px, px', hrun, hbooked, hstep
  exact (hsteps _ _ hstep).1 2 hpassed

end WebsocketProxy
