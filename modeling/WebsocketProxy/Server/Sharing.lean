import WebsocketProxy.Server.Numbering

/-!
# Connections that are shared

Several clients share one connection. A client leaves it by its own `CloseWs` or
`Unregister`, or because its own heartbeats stopped. The departures of the others, in which
the server goes through all connections, neither take the client from the connection nor
close or drop it.
-/

namespace WebsocketProxy

/-- A client takes itself from a connection in a step: by a `CloseWs` for the id of the
connection, by an `Unregister`, or because its heartbeats stopped. -/
def OwnDeparture (px : WebsocketProxy) (ev : Event) (q : UInt64) (r : ℕ) : Prop :=
  (∃ m req, ev = .processClientMessage (some m) ∧ m.pid = q ∧ m.data = .closeWs req ∧
      req.id = (px.sockets r).id) ∨
    (∃ m, ev = .processClientMessage (some m) ∧ m.pid = q ∧ m.data = .unregister) ∨
    (ev = .startHeartbeat ∧ q ∈ px.expired)

/-- The server is not shut down, and the counter of ids does not wrap. -/
def Ongoing (px : WebsocketProxy) (ev : Event) : Prop :=
  match ev with
  | .shutdownClosure => False
  | ev => px.CountsOn ev

instance (px : WebsocketProxy) (ev : Event) : Decidable (px.Ongoing ev) := by
  cases ev <;> unfold Ongoing <;> infer_instance

theorem Ongoing.countsOn {px : WebsocketProxy} {ev : Event} (h : px.Ongoing ev) :
  px.CountsOn ev
  := by
  cases ev with
  | shutdownClosure => cases h
  | _ => exact h

theorem Ongoing.ne_shutdownClosure {px : WebsocketProxy} {ev : Event} (h : px.Ongoing ev) :
  ev ≠ .shutdownClosure
  := by
  rintro rfl
  cases h

theorem received_eq_some {px : WebsocketProxy} {ev : Event} {q : UInt64} {data : Message.Data}
    (h : px.received ev = some (q, data)) :
  q ∈ px.clients ∧ ∃ m, ev = .processClientMessage (some m) ∧ m.pid = q ∧ m.data = data
  := by
  cases ev with
  | processClientMessage msg =>
      cases msg with
      | none => cases h
      | some m =>
          simp only [received] at h
          split at h
          case isTrue hpid =>
            obtain ⟨rfl, rfl⟩ := Prod.mk.inj (Option.some.inj h)
            exact ⟨hpid, m, rfl, rfl, rfl⟩
          case isFalse => cases h
  | _ => cases h

/-- The clients that leave a stored connection take themselves from it. -/
theorem ownDeparture_of_mem_leaving {px : WebsocketProxy} (hwf : px.WellFormed) {ev : Event}
    {q : UInt64} {r : ℕ} (h : q ∈ px.leaving ev r) :
  px.OwnDeparture ev q r
  := by
  have hdeparting : q ∈ px.departing ev → px.OwnDeparture ev q r := by
    intro h
    right
    unfold departing at h
    split at h
    case h_1 =>
      right
      exact ⟨rfl, h⟩
    case h_2 =>
      left
      split at h
      case h_1 pid hreceived =>
        obtain rfl := Finset.mem_singleton.mp h
        exact (received_eq_some hreceived).2
      case h_2 => exact absurd h (Finset.notMem_empty q)
  unfold leaving at h
  split at h
  case h_1 pid req hreceived =>
    left
    split at h
    case isTrue hid =>
      obtain rfl := Finset.mem_singleton.mp h
      obtain ⟨-, m, hev, hpid, hm⟩ := received_eq_some hreceived
      exact ⟨m, req, hev, hpid, hm, (hwf.byId req.id r hid).symm⟩
    case isFalse => exact absurd h (Finset.notMem_empty q)
  case h_2 => exact hdeparting h

/-! ### What changes do to the clients of a connection -/

/-- A client that a change takes from a connection leaves it. -/
theorem SocketChange.mem_leaving {px : WebsocketProxy} {ev : Event} {r : ℕ} {ws : Websocket}
    (h : SocketChange px ev r ws) (hwf : px.WellFormed) {q : UInt64}
    (hbefore : q ∈ (px.sockets r).clients) (hafter : q ∉ ws.clients) :
  q ∈ px.leaving ev r
  := by
  cases h with
  | same => exact absurd hbefore hafter
  | leave hr =>
      rw [Websocket.leave_clients, Finset.mem_sdiff, not_and_not_right] at hafter
      apply hafter hbefore
  | attach => exact absurd (Finset.mem_insert_of_mem hbefore) hafter
  | create hr hreq hnew =>
      rw [hr, hwf.blank px.opens (Nat.le_refl _)] at hbefore
      exact absurd hbefore (Finset.notMem_empty q)
  | request =>
      rw [foldl_send_frame] at hafter
      exact absurd hbefore hafter
  | complete _ hcomplete =>
      rw [(Websocket.complete_spec hcomplete).clients] at hafter
      exact absurd hbefore hafter
  | enter _ hcomplete =>
      rw [(Websocket.complete_spec hcomplete).clients] at hafter
      exact absurd (Finset.mem_insert_of_mem hbefore) hafter
  | close =>
      rw [Websocket.close_clients] at hafter
      exact absurd hbefore hafter

/-- What is not a completion of its own does not close a connection that a client stays
attached to. -/
theorem SocketChange.closesStarted {px : WebsocketProxy} {ev : Event} {r : ℕ} {ws : Websocket}
    (h : SocketChange px ev r ws) (hwf : px.WellFormed) (hev : ev ≠ .shutdownClosure)
    (hown : ∀ c, ev ≠ .complete r c) {q : UInt64} (hq : q ∈ (px.sockets r).clients)
    (hstays : q ∉ px.leaving ev r) :
  ws.closesStarted = (px.sockets r).closesStarted
  := by
  cases h with
  | same | attach => rfl
  | leave hr => rw [Websocket.leave_of_not_subset (fun hall => hstays (hall hq))]
  | create hr hreq hnew =>
      rw [hr, hwf.blank px.opens (Nat.le_refl _)] at hq
      exact absurd hq (Finset.notMem_empty q)
  | request => rw [foldl_send_frame]
  | complete hev => exact absurd hev (hown _)
  | enter hev => exact absurd hev (hown _)
  | close h => exact absurd h hev

/-! ### Steps -/

/-- A connection that is drained was noted for removal before the step. -/
theorem step_change_holds {px px' : WebsocketProxy} {ev : Event} (hwf : px.WellFormed)
    (h : px.step ev = some px') :
  ∃ t gone, Change px ev t ∧ t.Drains px'.toTables gone ∧
    ∀ r, t.Stored r → gone r → px.closedSockets.Holds (t.sockets r).id
  := by
  rcases em (∃ r c, ev = .complete r c) with ⟨r, c, rfl⟩ | hcomplete
  · refine ⟨_, _, complete_change (runHandler_of_step h), Tables.Drains.refl _, ?_⟩
    rintro r - ⟨⟩
  · obtain ⟨t, gone, hchange, hdrains⟩ := step_change hwf h
    refine ⟨t, gone, hchange, hdrains, ?_⟩
    intro r hr hgone
    have hholds := hdrains.holds r hr hgone
    have hring : t.closedSockets = px.closedSockets := by
      cases hchange with
      | quiet | register | attach | create | throw | request | complete | enter => rfl
      | depart h => exact h.closedSockets
      | closed hev => exact absurd ⟨_, _, hev⟩ hcomplete
      | closeAll _ h => exact h.closedSockets
    rw [hring] at hholds
    exact hholds

/-- While the server is not shut down and the counter of ids does not wrap, a client leaves
a connection only by a departure of its own. A connection is dropped only in a step in which
all its clients depart so, when it is closed, or after a close of it was completed. A
connection a client stays attached to is not dropped before that, and no step but a
completion of its own closes it. -/
theorem sharing_safe {px px' : WebsocketProxy} {ev : Event}
    (h : system.ReachableUnder Ongoing px) (hongoing : px.Ongoing ev)
    (hstep : px.step ev = some px') :
  (∀ r, ∀ q ∈ (px.sockets r).clients, q ∉ (px'.sockets r).clients → px.OwnDeparture ev q r) ∧
  (∀ r, px.Stored r → ¬ px'.Stored r →
    ((∀ q ∈ (px.sockets r).clients, px.OwnDeparture ev q r) ∧
      px'.sockets r = { px.sockets r with clients := ∅ }.close) ∨
    0 < (px.sockets r).closesDone) ∧
  (∀ r, ∀ q ∈ (px.sockets r).clients, ¬ px.OwnDeparture ev q r →
    (px.Stored r → px'.Stored r ∨ 0 < (px.sockets r).closesDone) ∧
    ((∀ c, ev ≠ .complete r c) →
      (px'.sockets r).closesStarted = (px.sockets r).closesStarted))
  := by
  have hwf := reachable_wellFormed h
  have hnumbered := reachable_numbered (fun _ _ => Ongoing.countsOn) h
  obtain ⟨t, gone, hchange, hdrains, hholds⟩ := step_change_holds hwf hstep
  have hleaves : ∀ r, ∀ q ∈ (px.sockets r).clients, q ∉ (px'.sockets r).clients →
      px.OwnDeparture ev q r := by
    intro r q hbefore hafter
    rw [hdrains.sockets] at hafter
    apply ownDeparture_of_mem_leaving hwf
    exact (hchange.socket r).mem_leaving hwf hbefore hafter
  have hdropped : ∀ r, px.Stored r → ¬ px'.Stored r →
      ((∀ q ∈ (px.sockets r).clients, px.OwnDeparture ev q r) ∧
        px'.sockets r = { px.sockets r with clients := ∅ }.close) ∨
      0 < (px.sockets r).closesDone := by
    intro r hbefore hafter
    rcases em (t.Stored r) with hr | hr
    · right
      have hgone : gone r := by
        by_contra hstays
        exact hafter ((hdrains.stored_iff r).mpr ⟨hr, hstays⟩)
      have hframe := step_frame hwf hstep (hwf.lt_opens r hbefore)
      have hheld := hholds r hr hgone
      rw [← hdrains.sockets, hframe.id] at hheld
      apply hnumbered.closesDone_pos hwf (constructed_of_stored hwf hbefore) hheld
    · left
      rcases hchange.dropped hbefore hr with ⟨hall, hclosed⟩ | ⟨hshutdown, -⟩
      · constructor
        · exact fun q hq => ownDeparture_of_mem_leaving hwf (hall hq)
        · rw [hdrains.sockets, hclosed]
      · exact absurd hshutdown hongoing.ne_shutdownClosure
  use hleaves, hdropped
  intro r q hq hstays
  constructor
  · intro hbefore
    rcases em (px'.Stored r) with hafter | hafter
    · apply Or.inl hafter
    · right
      rcases hdropped r hbefore hafter with ⟨hall, -⟩ | hdone
      · exact absurd (hall q hq) hstays
      · exact hdone
  · intro hown
    rw [hdrains.sockets]
    apply (hchange.socket r).closesStarted hwf hongoing.ne_shutdownClosure hown hq
    exact fun hleaving => hstays (ownDeparture_of_mem_leaving hwf hleaving)

/-- When one of two clients that share a connection closes it, the other keeps it. -/
theorem sharing_safe_openShared :
  ∃ px px', system.RunUnder Ongoing (start 7 fun _ => 1) openShared px ∧
    px.step (.closeWs 1 70001) = some px' ∧ px.Stored 0 ∧ px'.Stored 0 ∧
    (px'.sockets 0).closesStarted = (px.sockets 0).closesStarted
  := by
  have hexec : ∃ px ∈ system.execUnder Ongoing (start 7 fun _ => 1) openShared,
      px.websocketsById.lookup 70001 = some 0 ∧ (px.sockets 0).clients = {1, 2} ∧
      (px.sockets 0).closesDone = 0 ∧ px.Ongoing (.closeWs 1 70001) ∧
      (px.step (.closeWs 1 70001)).isSome := by
    decide +kernel
  obtain ⟨px, hrun, hstored, hclients, hdone, hongoing, hstep⟩ :=
    TransitionSystem.exists_runUnder hexec
  obtain ⟨px', hstep⟩ := Option.isSome_iff_exists.mp hstep
  have hother : ¬ px.OwnDeparture (.closeWs 1 70001) 2 0 := by
    rintro (⟨m, req, hev, hpid, -⟩ | ⟨m, hev, hpid, -⟩ | ⟨hev, -⟩)
    · obtain rfl := Option.some.inj (Event.processClientMessage.inj hev)
      exact absurd hpid (by decide)
    · obtain rfl := Option.some.inj (Event.processClientMessage.inj hev)
      exact absurd hpid (by decide)
    · cases hev
  have hmem : 2 ∈ (px.sockets 0).clients := by
    rw [hclients]
    decide
  obtain ⟨-, -, hstays⟩ := sharing_safe ⟨_, _, ⟨7, _, rfl⟩, hrun⟩ hongoing hstep
  obtain ⟨hkept, hopen⟩ := hstays 0 2 hmem hother
  refine ⟨px, px', hrun, hstep, ⟨70001, hstored⟩, ?_, hopen (fun c => by rintro ⟨⟩)⟩
  apply (hkept ⟨70001, hstored⟩).resolve_right
  rw [hdone]
  apply Nat.lt_irrefl 0

end WebsocketProxy
