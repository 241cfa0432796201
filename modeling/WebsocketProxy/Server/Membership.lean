import WebsocketProxy.Server.Projection

/-!
# Who belongs where

Clients are kept in three places: in the table of clients, in the connections they are
attached to, and in the subscriptions of these. The clients of a connection are registered,
as long as none is attached by an opening that outlasted it; and the clients of a
subscription are attached to its connection, as long as none subscribes without being
attached, and none leaves a connection that others keep before it has unsubscribed: no
departure takes a client from subscriptions.
-/

namespace WebsocketProxy

/-! ### Clients of connections -/

/-- The clients of stored connections are registered. -/
def AttachedRegistered (t : Tables) : Prop :=
  ∀ r, t.Stored r → ∀ pid ∈ (t.sockets r).clients, pid ∈ t.clients

/-- The client a connection was opened for is registered when the opening succeeds. -/
def EntersRegistered (px : WebsocketProxy) (ev : Event) : Prop :=
  ∀ p ∈ px.entering ev, (px.slots p.2).pid ∈ px.clients

instance (px : WebsocketProxy) (ev : Event) : Decidable (px.EntersRegistered ev) :=
  inferInstanceAs (Decidable (∀ p ∈ px.entering ev, _))

/-- A client that is dropped from the server leaves all connections. -/
theorem departing_subset_leaving (px : WebsocketProxy) (ev : Event) (r : ℕ) :
  px.departing ev ⊆ px.leaving ev r
  := by
  unfold leaving
  split
  case h_1 pid req hreceived =>
    have hnone : px.departing ev = ∅ := by
      unfold departing
      split
      case h_1 => cases hreceived
      case h_2 => rw [hreceived]
    rw [hnone]
    apply Finset.empty_subset
  case h_2 => exact Finset.Subset.refl _

/-- Nothing is attached to a connection whose opening succeeds, until it is entered. -/
theorem clients_of_entering {px : WebsocketProxy} {ev : Event} {r msg : ℕ}
    (hphases : (px.sockets r).Phases) (h : px.entering ev = some (r, msg)) :
  (px.sockets r).clients = ∅
  := by
  apply hphases.clients
  rw [(entering_eq_some h).2]
  rintro ⟨⟩

theorem Change.attachedRegistered {px : WebsocketProxy} {ev : Event} {t : Tables}
    (h : Change px ev t) (hphases : ∀ r, (px.sockets r).Phases) (hwf : px.WellFormed)
    (henters : px.EntersRegistered ev) (hpx : AttachedRegistered px.toTables) :
  AttachedRegistered t
  := by
  have hmodify : ∀ {r' : ℕ} {f : Websocket → Websocket} {r : ℕ} {q : UInt64},
      (∀ q ∈ (f (px.sockets r')).clients, q ∈ (px.sockets r').clients ∨ q ∈ px.clients) →
      px.Stored r → q ∈ ((px.modifySocket r' f).sockets r).clients → q ∈ px.clients := by
    intro r' f r q hf hr hq
    rcases eq_or_ne r r' with rfl | hne
    · rw [Tables.modifySocket_self] at hq
      rcases hf q hq with hq | hq
      · apply hpx r hr q hq
      · exact hq
    · rw [Tables.modifySocket_of_ne hne] at hq
      apply hpx r hr q hq
  cases h with
  | quiet hclients hbyId =>
      rintro r ⟨id, hid⟩ q hq
      exact (hclients q).mpr (hpx r ⟨id, (hbyId id).symm.trans hid⟩ q hq)
  | register hclients =>
      intro r hr q hq
      exact (hclients q).mpr (Or.inr (hpx r hr q hq))
  | depart h hclients =>
      intro r hr q hq
      obtain ⟨hr, -⟩ := (h.stored_iff r).mp hr
      rw [h.stored r hr, Websocket.leave_clients, Finset.mem_sdiff] at hq
      apply (hclients q).mpr
      use hpx r hr q hq.1
      exact fun hdeparting => hq.2 (departing_subset_leaving px ev r hdeparting)
  | @attach clients pid k r' hclients hpid hkey hlive =>
      intro r hr q hq
      dsimp only at hq
      apply (hclients q).mpr
      apply hmodify _ hr hq
      intro q hq
      rcases Finset.mem_insert.mp hq with rfl | hq
      · apply Or.inr hpid
      · apply Or.inl hq
  | @create clients req ws hclients hreq hnew =>
      intro r hr q hq
      have hr : px.Stored r := hr
      change q ∈ (Function.update px.sockets px.opens ws r).clients at hq
      rw [Function.update_of_ne (Nat.ne_of_lt (hwf.lt_opens r hr))] at hq
      exact (hclients q).mpr (hpx r hr q hq)
  | throw hclients =>
      intro r hr q hq
      exact (hclients q).mpr (hpx r hr q hq)
  | request hclients =>
      intro r hr q hq
      dsimp only at hq
      apply (hclients q).mpr
      apply hmodify _ hr hq
      intro q hq
      rw [foldl_send_frame] at hq
      apply Or.inl hq
  | complete _ hcomplete =>
      intro r hr q hq
      apply hmodify _ hr hq
      intro q hq
      rw [(Websocket.complete_spec hcomplete).clients] at hq
      apply Or.inl hq
  | @enter r' c ws calls msg hev hcomplete hentering =>
      have hpid := henters _ hentering
      have hclients : ws.clients = ∅ := by
        rw [(Websocket.complete_spec hcomplete).clients]
        apply clients_of_entering (hphases r') hentering
      intro r hr q hq
      rcases eq_or_ne r r' with rfl | hne
      · dsimp only at hq
        rw [Tables.modifySocket_self, hclients] at hq
        obtain rfl : q = (px.slots msg).pid := by simpa using hq
        exact hpid
      · dsimp only at hq
        rw [Tables.modifySocket_of_ne hne] at hq
        obtain ⟨id, hid⟩ := hr
        have hid : (px.websocketsById.emplace ws.id r').lookup id = some r := hid
        rw [UnorderedMap.lookup_emplace_eq] at hid
        split at hid
        case isTrue => exact absurd (Option.some.inj hid).symm hne
        case isFalse => exact hpx r ⟨id, hid⟩ q hq
  | closed _ hcomplete =>
      intro r hr q hq
      dsimp only at hq
      apply hmodify _ hr hq
      intro q hq
      rw [(Websocket.complete_spec hcomplete).clients] at hq
      apply Or.inl hq
  | closeAll _ h =>
      intro r hr
      exact absurd trivial ((h.stored_iff r).mp hr).2

/-- In every run in which the clients connections were opened for are registered when the
openings succeed, a stored connection has clients, and they are registered. -/
theorem attached_registered {px : WebsocketProxy}
    (h : system.ReachableUnder EntersRegistered px) {r : ℕ} (hr : px.Stored r) :
  (px.sockets r).clients.Nonempty ∧ ∀ pid ∈ (px.sockets r).clients, pid ∈ px.clients
  := by
  use (reachable_wellFormed h).nonempty r hr
  have hregistered : AttachedRegistered px.toTables := by
    apply h.invariant (I := fun px => AttachedRegistered px.toTables)
    · rintro px ⟨pid, clock, rfl⟩ r ⟨id, hid⟩
      cases hid
    · intro px ev px' hreachable hpx henters hstep
      have hwf := reachable_wellFormed hreachable
      obtain ⟨t, gone, hchange, hdrains⟩ := step_change hwf hstep
      have ht := hchange.attachedRegistered (reachable_phases hreachable) hwf henters hpx
      intro r hr pid hpid
      rw [hdrains.sockets] at hpid
      rw [hdrains.clients]
      apply ht r ((hdrains.stored_iff r).mp hr).1 pid hpid
  apply hregistered r hr

theorem attached_registered_openOne :
  ∃ px, system.RunUnder EntersRegistered (start 7 fun _ => 1) openOne px ∧
    (px.sockets 0).status = .connected ∧ (px.sockets 0).clients.Nonempty ∧
    ∀ pid ∈ (px.sockets 0).clients, pid ∈ px.clients
  := by
  have hexec : ∃ px ∈ system.execUnder EntersRegistered (start 7 fun _ => 1) openOne,
      px.websocketsById.lookup 70001 = some 0 ∧ (px.sockets 0).status = .connected := by
    decide +kernel
  obtain ⟨px, hrun, hid, hconnected⟩ := TransitionSystem.exists_runUnder hexec
  use px, hrun, hconnected
  exact attached_registered ⟨_, _, ⟨7, _, rfl⟩, hrun⟩ ⟨70001, hid⟩

/-- A client unregisters before the opening for it succeeds. -/
def openUnregistered : List Event :=
  [.register 1, .openWs 1 [104] [], .unregister 1] ++ Event.opened 0

/-- After this run a connection is stored and connected, and its only client is not
registered. -/
theorem not_attached_registered :
  ∃ px, system.Run (start 7 fun _ => 1) openUnregistered px ∧
    px.websocketsById.lookup 70001 = some 0 ∧ (px.sockets 0).status = .connected ∧
    (px.sockets 0).clients = {1} ∧ 1 ∉ px.clients
  := TransitionSystem.exists_runUnder (by decide +kernel)

/-! ### Clients of subscriptions -/

/-- The clients of the subscriptions of a connection are attached to it. -/
def SubscribersAttached (ws : Websocket) : Prop :=
  ∀ symbol sub, ws.subscriptions.lookup symbol = some sub → sub.clients ⊆ ws.clients

/-- A client subscribes only at a connection it is attached to, and a client that leaves a
connection others keep is in none of its subscriptions. -/
def Unsubscribes (px : WebsocketProxy) (ev : Event) : Prop :=
  ∀ kvp ∈ px.websocketsById.entries,
    px.subscribing ev kvp.2 ⊆ (px.sockets kvp.2).clients ∧
    (¬ (px.sockets kvp.2).clients ⊆ px.leaving ev kvp.2 →
      ∀ entry ∈ (px.sockets kvp.2).subscriptions.entries,
        Disjoint entry.2.clients (px.leaving ev kvp.2))

instance (px : WebsocketProxy) (ev : Event) : Decidable (px.Unsubscribes ev) :=
  inferInstanceAs (Decidable (∀ kvp ∈ px.websocketsById.entries, _ ∧ (_ → ∀ entry ∈ _, _)))

theorem Unsubscribes.of_stored {px : WebsocketProxy} {ev : Event} (h : px.Unsubscribes ev) {r : ℕ}
    (hr : px.Stored r) :
  px.subscribing ev r ⊆ (px.sockets r).clients ∧
    (¬ (px.sockets r).clients ⊆ px.leaving ev r → ∀ symbol sub,
      (px.sockets r).subscriptions.lookup symbol = some sub →
      Disjoint sub.clients (px.leaving ev r))
  := by
  obtain ⟨id, hid⟩ := hr
  obtain ⟨hsubscribing, hleaving⟩ := h ⟨id, r⟩ (UnorderedMap.mem_entries_iff.mpr hid)
  use hsubscribing
  intro hstay symbol sub hsub
  exact hleaving hstay ⟨symbol, sub⟩ (UnorderedMap.mem_entries_iff.mpr hsub)

/-- A connection that keeps clients keeps its subscribers attached. -/
theorem SocketChange.subscribersAttached {px : WebsocketProxy} {ev : Event} {r : ℕ}
    {ws : Websocket} (h : SocketChange px ev r ws) (hguard : px.Unsubscribes ev)
    (hnonempty : ws.clients.Nonempty) (hpx : SubscribersAttached (px.sockets r)) :
  SubscribersAttached ws
  := by
  have hcomplete : ∀ {c ws calls}, (px.sockets r).complete c = some (ws, calls) →
      SubscribersAttached ws := by
    intro c ws calls hc symbol sub hsub
    rw [(Websocket.complete_spec hc).subscriptions] at hsub
    rw [(Websocket.complete_spec hc).clients]
    apply hpx symbol sub hsub
  cases h with
  | same => exact hpx
  | leave hr =>
      rw [Websocket.leave_clients, Finset.sdiff_nonempty] at hnonempty
      intro symbol sub hsub
      rw [Websocket.leave_subscriptions] at hsub
      rw [Websocket.leave_clients]
      apply Finset.subset_sdiff.mpr
      use hpx symbol sub hsub
      exact (hguard.of_stored hr).2 hnonempty symbol sub hsub
  | attach =>
      intro symbol sub hsub
      exact (hpx symbol sub hsub).trans (Finset.subset_insert _ _)
  | create hr hreq hnew =>
      rw [(Websocket.new_fresh hnew).clients] at hnonempty
      exact absurd rfl hnonempty.ne_empty
  | request hr hsubscriptions =>
      intro symbol sub hsub
      rw [foldl_send_frame] at hsub ⊢
      intro pid hpid
      rcases hsubscriptions symbol sub hsub pid hpid with hnew | ⟨old, hold, hpid⟩
      · exact (hguard.of_stored hr).1 hnew
      · apply hpx symbol old hold hpid
  | complete _ hc => exact hcomplete hc
  | enter _ hc =>
      intro symbol sub hsub
      exact (hcomplete hc symbol sub hsub).trans (Finset.subset_insert _ _)
  | close =>
      intro symbol sub hsub
      rw [Websocket.close_subscriptions] at hsub
      rw [Websocket.close_clients]
      apply hpx symbol sub hsub

/-- A connection that is stored after a change was stored before, or is entered. -/
theorem Change.stored {px : WebsocketProxy} {ev : Event} {t : Tables} (h : Change px ev t)
    {r : ℕ} (hr : t.Stored r) :
  px.Stored r ∨ ∃ msg, px.entering ev = some (r, msg)
  := by
  obtain ⟨id, hid⟩ := hr
  cases h with
  | quiet _ hbyId => exact Or.inl ⟨id, (hbyId id).symm.trans hid⟩
  | register | attach | create | throw | request | complete | closed => exact Or.inl ⟨id, hid⟩
  | depart h => exact Or.inl ⟨id, ((h.byId id r).mp hid).1⟩
  | @enter r' c ws calls msg hev hcomplete hentering =>
      have hid : (px.websocketsById.emplace ws.id r').lookup id = some r := hid
      rw [UnorderedMap.lookup_emplace_eq] at hid
      split at hid
      case isTrue =>
        right
        obtain rfl := Option.some.inj hid
        use msg, hentering
      case isFalse => exact Or.inl ⟨id, hid⟩
  | closeAll _ h => exact Or.inl ⟨id, ((h.byId id r).mp hid).1⟩

theorem reachable_subscribersAttached {px : WebsocketProxy}
    (h : system.ReachableUnder Unsubscribes px) :
  ∀ r, px.Stored r → SubscribersAttached (px.sockets r)
  := by
  apply h.invariant (I := fun px => ∀ r, px.Stored r → SubscribersAttached (px.sockets r))
  · rintro px ⟨pid, clock, rfl⟩ r ⟨id, hid⟩
    cases hid
  · intro px ev px' hreachable hpx hguard hstep r hr
    have hwf := reachable_wellFormed hreachable
    obtain ⟨t, gone, hchange, hdrains⟩ := step_change hwf hstep
    have hr : t.Stored r := ((hdrains.stored_iff r).mp hr).1
    rw [hdrains.sockets]
    apply (hchange.socket r).subscribersAttached hguard ((hchange.wellFormed hwf).nonempty r hr)
    rcases hchange.stored hr with hr | ⟨msg, hentering⟩
    · apply hpx r hr
    · have hnone : (px.sockets r).subscriptions = ∅ := by
        apply (reachable_phases hreachable r).subscriptions
        rw [(entering_eq_some hentering).2]
        rintro ⟨⟩
      intro symbol sub hsub
      rw [hnone, AList.lookup_empty] at hsub
      cases hsub

/-- When the last client of a subscription unsubscribes, the subscription is erased and the
request is passed on. -/
theorem handleUnsubscribe_last {px : WebsocketProxy} {m : Message} {req : WsSubscription} {r : ℕ}
    {sub : Subscription} (hpid : m.pid ∈ px.clients)
    (hid : px.websocketsById.lookup req.id = some r)
    (hsub : (px.sockets r).subscriptions.lookup (Message.symbolView req) = some sub)
    (hlast : sub.clients ⊆ {m.pid}) :
  ((px.taking m).handleUnsubscribe px.taken req).sockets r
    = { px.sockets r with
        subscriptions := (px.sockets r).subscriptions.erase (Message.symbolView req) }.send req.request
  := by
  have hempty : sub.clients.erase m.pid = ∅ := Websocket.subset_singleton_iff_erase.mp hlast
  rcases getClient_taking_cases px m with ⟨-, clients, hclients, hget⟩ | ⟨hnot, -⟩
  · have hid : ((px.taking m).refreshed clients).websocketsById.lookup req.id = some r := hid
    have hsub : (((px.taking m).refreshed clients).sockets r).subscriptions.lookup
        (Message.symbolView req) = some sub := hsub
    simp only [handleUnsubscribe, slots_taking, hget, if_true, hid, hsub, hempty]
    have hself := Tables.modifySocket_self ((px.taking m).refreshed clients).toTables r
      (fun ws => { ws with
        subscriptions := ws.subscriptions.erase (Message.symbolView req) }.send req.request)
    exact hself
  · exact absurd hpid hnot

/-- In every run in which clients subscribe only where they are attached, and unsubscribe
before they leave, the clients of the subscriptions of stored connections are attached to
them. So when no other client attached to a connection is in a subscription, the
`Unsubscribe` of the last one erases the subscription and passes the request on. -/
theorem subscribers_attached {px : WebsocketProxy} (h : system.ReachableUnder Unsubscribes px) :
  (∀ r, px.Stored r → ∀ symbol sub, (px.sockets r).subscriptions.lookup symbol = some sub →
    sub.clients ⊆ (px.sockets r).clients) ∧
  ∀ m req r sub px', m.data = .unsubscribe req → m.pid ∈ px.clients →
    px.websocketsById.lookup req.id = some r →
    (px.sockets r).subscriptions.lookup (Message.symbolView req) = some sub →
    (∀ q ∈ (px.sockets r).clients, q ∈ sub.clients → q = m.pid) →
    px.step (.processClientMessage (some m)) = some px' →
    px'.sockets r = { px.sockets r with
      subscriptions := (px.sockets r).subscriptions.erase (Message.symbolView req) }.send req.request
  := by
  have hattached := reachable_subscribersAttached h
  use hattached
  intro m req r sub px' hm hpid hid hsub hlast hstep
  have hsubset : sub.clients ⊆ {m.pid} := by
    intro q hq
    apply Finset.mem_singleton.mpr
    exact hlast q (hattached r ⟨req.id, hid⟩ _ sub hsub hq) hq
  have hhandled : ((px.taking m).handleClientMessage px.taken)
      = ((px.taking m).handleUnsubscribe px.taken req, false) := by
    simp only [handleClientMessage, slots_taking, hm]
  have hsocket := handleUnsubscribe_last hpid hid hsub hsubset
  rcases processClientMessage_cases (runHandler_of_step hstep) with ⟨hthrew, -⟩ | ⟨-, rfl⟩
  · rw [hhandled] at hthrew
    cases hthrew
  · rw [processNext_toTables, hhandled]
    dsimp only
    rw [Tables.removeClosedSockets_sockets]
    exact hsocket

/-- Two clients subscribe, and one of them unsubscribes and leaves. -/
def unsubscribeFirst : List Event :=
  openShared ++ [.subscribe 1 70001 [65], .subscribe 2 70001 [65], .unsubscribe 1 70001 [65],
    .closeWs 1 70001]

/-- After this run, the subscription is that of the other client. -/
theorem subscribers_attached_unsubscribeFirst :
  ∃ px, system.RunUnder Unsubscribes (start 7 fun _ => 1) unsubscribeFirst px ∧
    (px.sockets 0).clients = {2} ∧
    ∃ sub, (px.sockets 0).subscriptions.lookup [65] = some sub ∧ sub.clients ⊆ {2}
  := by
  have hexec : ∃ px ∈ system.execUnder Unsubscribes (start 7 fun _ => 1) unsubscribeFirst,
      px.websocketsById.lookup 70001 = some 0 ∧ (px.sockets 0).clients = {2} ∧
      ((px.sockets 0).subscriptions.lookup [65]).isSome := by
    decide +kernel
  obtain ⟨px, hrun, hid, hclients, hsome⟩ := TransitionSystem.exists_runUnder hexec
  obtain ⟨sub, hsub⟩ := Option.isSome_iff_exists.mp hsome
  use px, hrun, hclients, sub, hsub
  rw [← hclients]
  exact (subscribers_attached ⟨_, _, ⟨7, _, rfl⟩, hrun⟩).1 0 ⟨70001, hid⟩ [65] sub hsub

/-- One of two subscribed clients leaves without unsubscribing. -/
def leaveSubscribed : List Event :=
  openShared ++ [.subscribe 1 70001 [65], .subscribe 2 70001 [65], .closeWs 1 70001]

/-- The client that left is still in the subscription, and when the other unsubscribes, the
subscription is not erased and the request is not passed on. -/
theorem not_subscribers_attached :
  ∃ px, system.Run (start 7 fun _ => 1) leaveSubscribed px ∧
    px.websocketsById.lookup 70001 = some 0 ∧ (px.sockets 0).clients = {2} ∧
    ((px.sockets 0).subscriptions.lookup [65]).map Subscription.clients = some {1, 2} ∧
    ∃ px' ∈ px.step (.unsubscribe 2 70001 [65]),
      ((px'.sockets 0).subscriptions.lookup [65]).map Subscription.clients = some {1} ∧
      (px'.sockets 0).transport = (px.sockets 0).transport
  := TransitionSystem.exists_runUnder (by decide +kernel)

end WebsocketProxy
