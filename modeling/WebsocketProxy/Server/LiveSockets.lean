import WebsocketProxy.Server.Bookkeeping

/-!
# Requests to connections that are closing

A connection that fails stays in the tables until it is drained. `handleSubscribe` and
`sendWsRequest` do not ask for the status of the connection they find: a request is answered with
`SUCCESS` also when the connection is closing or closed. The answer is right exactly when no close
of the connection has been started (`success_live_iff`).
-/

/-- The id of the connection that a request to subscribe or to send is for. -/
def Message.Data.addressed : Message.Data → Option UInt64
  | .subscribe req => some req.id
  | .wsRequest req => some req.id
  | _ => none

namespace WebsocketProxy

/-- A stored connection is connected until a close of it is started. -/
theorem stored_connected_iff {px : WebsocketProxy} (h : system.Reachable px) {r : ℕ}
    (hr : px.Stored r) :
  (px.sockets r).status = .connected ↔ (px.sockets r).closesStarted = 0
  := by
  obtain ⟨moves, hlived⟩ := reachable_lived h r
  cases hlived with
  | unopened hstatus _ _ hdone =>
      have hclosed := stored_disconnected_done h r hr hstatus
      omega
  | connecting _ hopening =>
      rw [(reachable_wellFormed h).opened r hr] at hopening
      cases hopening
  | connected hstatus _ hstarted => exact iff_of_true hstatus hstarted
  | disconnecting _ hstatus _ hstarted | disconnected _ hstatus _ hstarted =>
      rw [hstatus, hstarted]
      decide

/-! ### Answers and records -/

theorem sendWsRequest_success_iff (px : WebsocketProxy) (m : Message) (req : WsRequest) :
  (((px.taking m).sendWsRequest px.taken req).slots px.taken).status = .success ↔
    px.Passes m req.id
  := by
  rw [Passes]
  rcases getClient_taking_cases px m with ⟨hpid, clients, -, hget⟩ | ⟨hpid, hget⟩
  · rw [and_iff_right hpid]
    cases hid : px.websocketsById.lookup req.id with
    | none =>
        have hid' : ((px.taking m).refreshed clients).websocketsById.lookup req.id = none := hid
        simp only [sendWsRequest, slots_taking, hget, if_true, hid', storeStatus_slots_self]
        simp
    | some r =>
        have hid' : ((px.taking m).refreshed clients).websocketsById.lookup req.id = some r := hid
        simp only [sendWsRequest, slots_taking, hget, if_true, hid', storeStatus_slots_self]
        simp
  · simp only [sendWsRequest, slots_taking, hget, Bool.false_eq_true, if_false,
      storeStatus_slots_self]
    simp [hpid]

/-- A request is answered with `SUCCESS` exactly when it is passed on. -/
theorem request_success_iff {px px' : WebsocketProxy} {m : Message} {id : UInt64}
    (h : px.step (.processClientMessage (some m)) = some px') (hid : m.data.addressed = some id) :
  (px'.slots px.taken).status = .success ↔ px.Passes m id
  := by
  rw [message_slots h, handleClientMessage, slots_taking]
  cases hm : m.data with
  | subscribe req =>
      rw [hm] at hid
      obtain rfl := Option.some.inj hid
      apply handleSubscribe_success_iff
  | wsRequest req =>
      rw [hm] at hid
      obtain rfl := Option.some.inj hid
      apply sendWsRequest_success_iff
  | _ =>
      rw [hm] at hid
      cases hid

/-- A request records a subscription only if it is passed on. -/
theorem request_records {px px' : WebsocketProxy} {m : Message} {id : UInt64}
    (hwf : px.WellFormed) (h : px.step (.processClientMessage (some m)) = some px')
    (hid : m.data.addressed = some id) {r : ℕ} {symbol : Bytes}
    (hrecords : px'.subscriptionOf r symbol ≠ px.subscriptionOf r symbol) :
  px.Passes m id
  := by
  rcases step_symbolTrace hwf h r symbol with ⟨-, hsame⟩ | ⟨q, htrace, -⟩
  · exact absurd hsame hrecords
  · rcases em (m.pid ∈ px.clients) with hpid | hpid
    · use hpid, r
      cases hm : m.data with
      | subscribe req =>
          have hreceived : px.received (.processClientMessage (some m))
              = some (m.pid, .subscribe req) := received_of_mem hpid hm
          rw [hm] at hid
          obtain rfl := Option.some.inj hid
          simp only [symbolTrace, hreceived] at htrace
          split at htrace
          case isTrue hfound => exact hfound.1
          case isFalse => cases htrace
      | wsRequest req =>
          have hreceived : px.received (.processClientMessage (some m))
              = some (m.pid, .wsRequest req) := received_of_mem hpid hm
          simp only [symbolTrace, hreceived] at htrace
          cases htrace
      | _ =>
          rw [hm] at hid
          cases hid
    · have hreceived : px.received (.processClientMessage (some m)) = none := if_neg hpid
      simp only [symbolTrace, hreceived] at htrace
      cases htrace

/-- The moment at which a request is answered with `SUCCESS`, or records a subscription, the
connection that it is for is connected. -/
def SucceedsLive (px : WebsocketProxy) (id : UInt64) (px' : WebsocketProxy) : Prop :=
  ((px'.slots px.taken).status = .success ∨
    ∃ r symbol, px'.subscriptionOf r symbol ≠ px.subscriptionOf r symbol) →
  ∃ r, px.websocketsById.lookup id = some r ∧ (px.sockets r).status = .connected

/-- A request succeeds for a connection that is connected only, exactly when no close was started
of the connection that is found for a registered sender. -/
theorem success_live_iff {px px' : WebsocketProxy} {m : Message} {id : UInt64}
    (h : system.Reachable px) (hstep : px.step (.processClientMessage (some m)) = some px')
    (hid : m.data.addressed = some id) :
  px.SucceedsLive id px' ↔
    (m.pid ∈ px.clients → ∀ r, px.websocketsById.lookup id = some r →
      (px.sockets r).closesStarted = 0)
  := by
  constructor
  · intro hlive hpid r hr
    obtain ⟨r', hr', hconnected⟩ :=
      hlive (Or.inl ((request_success_iff hstep hid).mpr ⟨hpid, r, hr⟩))
    obtain rfl := Option.some.inj (hr'.symm.trans hr)
    exact (stored_connected_iff h ⟨id, hr⟩).mp hconnected
  · intro hopen hsuccess
    have hpasses : px.Passes m id := by
      rcases hsuccess with hsuccess | ⟨r, symbol, hrecords⟩
      · exact (request_success_iff hstep hid).mp hsuccess
      · apply request_records (reachable_wellFormed h) hstep hid hrecords
    obtain ⟨hpid, r, hr⟩ := hpasses
    use r, hr
    exact (stored_connected_iff h ⟨id, hr⟩).mpr (hopen hpid r hr)

theorem success_live_iff_openOne :
  ∃ px px', system.Run (start 7 fun _ => 1) openOne px ∧
    px.step (.subscribe 1 70001 [65]) = some px' ∧ px.SucceedsLive 70001 px'
  := by
  have hexec : ∃ px ∈ system.exec (start 7 fun _ => 1) openOne,
      px.websocketsById.lookup 70001 = some 0 ∧ (px.sockets 0).closesStarted = 0 ∧
      (px.step (.subscribe 1 70001 [65])).isSome := by
    decide +kernel
  obtain ⟨px, hrun, hid, hstarted, hsome⟩ := TransitionSystem.exists_runUnder hexec
  obtain ⟨px', hstep⟩ := Option.isSome_iff_exists.mp hsome
  have hreachable : system.Reachable px := ⟨_, _, ⟨7, _, rfl⟩, hrun⟩
  use px, px', hrun, hstep
  apply (success_live_iff hreachable hstep rfl).mpr
  intro _ r hr
  obtain rfl := Option.some.inj (hid.symm.trans hr)
  exact hstarted

/-- A connection fails, and its close is started. -/
def failedOne : List Event := openOne ++ [.complete 0 (.read (.error ⟨.other, []⟩))]

/-- Requests are answered with `SUCCESS`, and a subscription is recorded, while the connection is
disconnecting. -/
theorem not_success_live :
  ∃ px, system.Run (start 7 fun _ => 1) failedOne px ∧
    px.websocketsById.lookup 70001 = some 0 ∧ (px.sockets 0).status = .disconnecting ∧
    (∃ px' ∈ px.step (.message 1 (.wsRequest { id := 70001, data := [104] })),
      (px'.slots px.taken).status = .success) ∧
    ∃ px' ∈ px.step (.subscribe 1 70001 [65]),
      (px'.slots px.taken).status = .success ∧
      px.subscriptionOf 0 [65] = none ∧ (px'.subscriptionOf 0 [65]).isSome
  := TransitionSystem.exists_runUnder (by decide +kernel)

end WebsocketProxy
