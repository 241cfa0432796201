import WebsocketProxy.Library.Clocked
import WebsocketProxy.Server.Draining

/-!
# Shutdown

`shutdown` posts a closure that closes all stored connections, and this posts another, which
is to stop the server when five seconds have passed. The timer it waits with is its own, and is
destroyed when it ends: that cancels the wait, and the handler of the timer can run at once. So
the server waits for no close: it can be stopped before the closes are done, unless they were
done before the connections were closed by the shutdown.
-/

namespace WebsocketProxy

/-- The server with a clock. Time passes while handlers run, and between them. -/
def clocked : TransitionSystem (Clocked WebsocketProxy) (Event × ℕ) :=
  system.clocked fun _ _ _ => []

/-- The handler of the close of the connection at a reference has run, and the clients were
told that the connection was closed. -/
structure CloseDone (px : WebsocketProxy) (r : ℕ) : Prop where
  done : 0 < (px.sockets r).closesDone
  published : ∃ msg ∈ px.serverQueue, msg.data.Closes (px.sockets r).id

/-- Only the completion of a close is counted as one. -/
theorem SocketChange.closesDone {px : WebsocketProxy} {ev : Event} {r : ℕ} {ws : Websocket}
    (h : SocketChange px ev r ws) (hclose : ∀ ec, ev ≠ .complete r (.close ec))
    (hdone : 0 < ws.closesDone) :
  0 < (px.sockets r).closesDone
  := by
  have hcomplete : ∀ {c ws calls}, ev = .complete r c →
      (px.sockets r).complete c = some (ws, calls) → 0 < ws.closesDone →
      0 < (px.sockets r).closesDone := by
    rintro c ws calls hev hc hdone
    rcases (Websocket.complete_spec hc).calls with ⟨_, _, -, -, -, hws⟩ | ⟨ec, _, rfl, -⟩ |
      ⟨-, hsame, -⟩
    · rw [hws] at hdone
      exact hdone
    · exact absurd hev (hclose ec)
    · rw [← hsame]
      exact hdone
  cases h with
  | same | attach => exact hdone
  | leave =>
      rw [Websocket.leave_closesDone] at hdone
      exact hdone
  | create _ _ hnew =>
      rw [(Websocket.new_fresh hnew).closesDone] at hdone
      exact absurd hdone (Nat.lt_irrefl 0)
  | request =>
      rw [foldl_send_frame] at hdone
      exact hdone
  | complete hev hc => exact hcomplete hev hc hdone
  | enter hev hc => exact hcomplete hev hc hdone
  | close =>
      rw [Websocket.close_frame] at hdone
      exact hdone

/-- A step keeps what is published. -/
theorem serverQueue_subset_step {px px' : WebsocketProxy} {ev : Event}
    (h : px.step ev = some px') :
  ∀ msg ∈ px.serverQueue, msg ∈ px'.serverQueue
  := by
  have hpublishes : ∃ datas, px.Publishes datas px' := by
    rcases em (∃ r c, ev = .complete r c) with ⟨r, c, rfl⟩ | hother
    · obtain ⟨ws, calls, -, hpublishes⟩ := complete_publishes h
      exact ⟨_, hpublishes⟩
    · obtain ⟨datas, hpublishes, -⟩ := step_publishes h (fun r c hev => hother ⟨r, c, hev⟩)
      exact ⟨_, hpublishes⟩
  obtain ⟨datas, hpublishes⟩ := hpublishes
  intro msg hmsg
  rw [hpublishes.serverQueue]
  apply List.mem_append_left _ hmsg

/-- When a close is done, the clients were told. -/
theorem closed_published {guard : WebsocketProxy → Event → Prop} {px : WebsocketProxy}
    (h : system.ReachableUnder guard px) :
  ∀ r, 0 < (px.sockets r).closesDone → px.CloseDone r
  := by
  apply h.invariant (I := fun px => ∀ r, 0 < (px.sockets r).closesDone → px.CloseDone r)
  · rintro px ⟨pid, clock, rfl⟩ r hdone
    exact absurd hdone (Nat.lt_irrefl 0)
  · intro px ev px' hreachable hpx _ hstep r hdone
    have hwf := reachable_wellFormed hreachable
    use hdone
    rcases em (∃ ec, ev = .complete r (.close ec)) with ⟨ec, rfl⟩ | hclose
    · obtain ⟨ws, calls, hcomplete, hpublishes⟩ := complete_publishes hstep
      obtain ⟨errors, -, rfl, -⟩ := Websocket.complete_close hcomplete
      have hlt := hwf.lt_opens_of_complete hcomplete
      have hmem : Message.Data.closeWs { id := (px.sockets r).id }
          ∈ (errors ++ [Websocket.Callback.onWsClosed]).filterMap (px.callData r) := by
        apply List.mem_filterMap.mpr
        exact ⟨_, List.mem_append_right _ (List.mem_singleton_self _), rfl⟩
      refine ⟨{ pid := px.pid, data := .closeWs { id := (px.sockets r).id } }, ?_, ?_⟩
      · rw [hpublishes.serverQueue]
        apply List.mem_append_right
        apply List.mem_map_of_mem hmem
      · rw [(step_frame hwf hstep hlt).id]
        rfl
    · obtain ⟨t, gone, hchange, hdrains⟩ := step_change hwf hstep
      have hbefore : 0 < (px.sockets r).closesDone := by
        apply (hchange.socket r).closesDone (fun ec hev => hclose ⟨ec, hev⟩)
        rw [← hdrains.sockets]
        exact hdone
      obtain ⟨msg, hmsg, hcloses⟩ := (hpx r hbefore).published
      have hlt := lt_opens_of_constructed hwf (constructed_of_closesDone hbefore)
      use msg, serverQueue_subset_step hstep msg hmsg
      rw [(step_frame hwf hstep hlt).id]
      exact hcloses

/-- The close of a stored connection that is disconnected is done. -/
theorem stored_disconnected_done {guard : WebsocketProxy → Event → Prop} {px : WebsocketProxy}
    (h : system.ReachableUnder guard px) :
  ∀ r, px.Stored r → (px.sockets r).status = .disconnected → 0 < (px.sockets r).closesDone
  := by
  apply h.invariant (I := fun px => ∀ r, px.Stored r → (px.sockets r).status = .disconnected →
    0 < (px.sockets r).closesDone)
  · rintro px ⟨pid, clock, rfl⟩ r ⟨id, ⟨⟩⟩
  · intro px ev px' hreachable hpx _ hstep r hr hstatus
    have hwf := reachable_wellFormed hreachable
    rcases em (∃ r ec, ev = .complete r (.close ec)) with ⟨r', ec, rfl⟩ | hclose
    · obtain ⟨ws, -, -, hdone, htables⟩ := close_toTables hstep
      rw [htables] at hr hstatus ⊢
      dsimp only at hstatus ⊢
      rcases eq_or_ne r r' with rfl | hne
      · rw [Tables.modifySocket_self]
        exact hdone
      · rw [Tables.modifySocket_of_ne hne] at hstatus ⊢
        apply hpx r hr hstatus
    · obtain ⟨t, gone, hchange, hdrains⟩ := step_change hwf hstep
      have hafter := ((hdrains.stored_iff r).mp hr).1
      rw [hdrains.sockets] at hstatus ⊢
      obtain ⟨hbefore, hstatus⟩ := hchange.disconnected (fun r ec hev => hclose ⟨r, ec, hev⟩) hwf
        (reachable_lived hreachable) hafter hstatus
      exact Nat.lt_of_lt_of_le (hpx r hbefore hstatus)
        ((hchange.socket r).frame hwf (hwf.lt_opens r hbefore)).closesDone_le

/-! ### The shutdown -/

theorem runHandler_shutdownClosure {px px' : WebsocketProxy}
    (h : px.step .shutdownClosure = some px') :
  px' = { px with shutdownClosures := px.shutdownClosures - 1 }.shutdownClosure ∧
    px.stopped = false
  := by
  constructor
  · cases ran_of_step h with
    | shutdownClosure => rfl
  · rw [step] at h
    split at h
    case isTrue => cases h
    case isFalse hrunning => exact Bool.eq_false_iff.mpr hrunning

/-- The closure that is to wait and the handler of its timer can run at once, and the server is
stopped. Nothing else happens to it. -/
theorem stops_at_once {px : WebsocketProxy} (hposted : 0 < px.stopClosures)
    (hrunning : px.stopped = false) (time : ℕ) :
  clocked.Run { state := px, time } [(.stopClosure, time), (.timerHandler, time)]
    { state := { px with stopClosures := px.stopClosures - 1, stopped := true }, time }
  := by
  have hshows : TransitionSystem.Shows time time [] := by
    constructor
    · apply Nat.le_refl time
    · rintro _ ⟨⟩
    · rintro _ ⟨⟩
  have hclosure : clocked.step { state := px, time } (.stopClosure, time) = some
      { state := { px with stopClosures := px.stopClosures - 1
                           timerHandlers := px.timerHandlers + 1 }, time } := by
    simp [clocked, TransitionSystem.clocked, system, step, runHandler, hrunning, hposted, hshows]
  have hhandler : clocked.step
      { state := { px with stopClosures := px.stopClosures - 1
                           timerHandlers := px.timerHandlers + 1 }, time } (.timerHandler, time)
      = some { state := { px with stopClosures := px.stopClosures - 1, stopped := true }, time } := by
    simp [clocked, TransitionSystem.clocked, system, step, runHandler, hrunning, hshows]
  exact (TransitionSystem.RunUnder.single trivial hclosure).append (.single trivial hhandler)

/-- A close that is done stays so. -/
theorem run_closeDone {c c' : Clocked WebsocketProxy} {es : List (Event × ℕ)}
    (h : clocked.Reachable c) (hrun : clocked.Run c es c') {r : ℕ}
    (hdone : 0 < (c.state.sockets r).closesDone) :
  c'.state.CloseDone r
  := by
  have hboth : clocked.Reachable c' ∧ 0 < (c'.state.sockets r).closesDone := by
    apply hrun.preserves (I := fun c => clocked.Reachable c ∧ 0 < (c.state.sockets r).closesDone)
    · rintro c e c' ⟨hreachable, hdone⟩ _ hstep
      have hwf := reachable_wellFormed hreachable.clocked
      have hlt := lt_opens_of_constructed hwf (constructed_of_closesDone hdone)
      have hframe := step_frame hwf (TransitionSystem.clocked_step hstep).1 hlt
      use hreachable.step trivial hstep
      apply Nat.lt_of_lt_of_le hdone hframe.closesDone_le
    · exact ⟨h, hdone⟩
  apply closed_published hboth.1.clocked r hboth.2

/-- The server is stopped after a shutdown only when the closes of the connections that were
stored are done or five seconds have passed since they were closed, whatever happens in
between, if and only if these connections were all disconnected before. -/
theorem graceful_shutdown_iff {c c' : Clocked WebsocketProxy} {stop : ℕ}
    (h : clocked.Reachable c) (hstep : clocked.step c (.shutdownClosure, stop) = some c') :
  (∀ es c'', clocked.Run c' es c'' → c''.state.stopped = true → ∀ r, c.state.Stored r →
    c''.state.CloseDone r ∨ c'.time + 5000 ≤ c''.time) ↔
  ∀ r, c.state.Stored r → (c.state.sockets r).status = .disconnected
  := by
  have hreachable' := h.step trivial hstep
  obtain ⟨hclosure, -, -⟩ := TransitionSystem.clocked_step hstep
  obtain ⟨hpx', hrunning⟩ := runHandler_shutdownClosure hclosure
  have hsocket : ∀ r, c.state.Stored r → c'.state.sockets r = (c.state.sockets r).close := by
    intro r hr
    rw [shutdownClosure_toTables hclosure]
    exact (Tables.closeAll_closesAll _).stored r hr
  constructor
  · intro hgraceful r hr
    have hposted : 0 < c'.state.stopClosures := by
      rw [hpx']
      apply Nat.succ_pos _
    have hrunning' : c'.state.stopped = false := by
      rw [hpx']
      exact hrunning
    rcases hgraceful _ _ (stops_at_once hposted hrunning' c'.time) rfl r hr with hdone | htime
    · have hdone := hdone.done
      dsimp only at hdone
      rw [hsocket r hr, Websocket.close_frame] at hdone
      obtain ⟨moves, hlived⟩ := reachable_lived h.clocked r
      exact (hlived.closed hdone).1
    · dsimp only at htime
      omega
  · intro hdisconnected es c'' hrun _ r hr
    left
    apply run_closeDone hreachable' hrun
    rw [hsocket r hr, Websocket.close_frame]
    apply stored_disconnected_done h.clocked r hr (hdisconnected r hr)

/-- A connection fails and its close is done, before the server is shut down. -/
def shutdownClosed : List (Event × ℕ) := (failOne ++ [Event.signal]).map fun ev => (ev, 0)

theorem graceful_shutdown_iff_shutdownClosed :
  ∃ c c', clocked.Run { state := start 7 fun _ => 0 } shutdownClosed c ∧
    clocked.step c (.shutdownClosure, 0) = some c' ∧ c.state.Stored 0 ∧
    ∀ es c'', clocked.Run c' es c'' → c''.state.stopped = true →
      c''.state.CloseDone 0 ∨ c'.time + 5000 ≤ c''.time
  := by
  have hexec : ∃ c ∈ clocked.exec { state := start 7 fun _ => 0 } shutdownClosed,
      (clocked.step c (.shutdownClosure, 0)).isSome ∧
      c.state.websocketsById.lookup 70001 = some 0 ∧
      ∀ kvp ∈ c.state.websocketsById.entries,
        (c.state.sockets kvp.2).status = .disconnected := by
    decide +kernel
  obtain ⟨c, hrun, hsome, hid, hall⟩ := TransitionSystem.exists_runUnder hexec
  obtain ⟨c', hstep⟩ := Option.isSome_iff_exists.mp hsome
  have hreachable : clocked.Reachable c := ⟨_, _, ⟨7, _, rfl⟩, hrun⟩
  use c, c', hrun, hstep, ⟨_, hid⟩
  intro es c'' hrun' hstopped
  apply (graceful_shutdown_iff hreachable hstep).mpr _ es c'' hrun' hstopped 0 ⟨_, hid⟩
  rintro r ⟨id, hr⟩
  exact hall ⟨id, r⟩ (UnorderedMap.mem_entries_iff.mpr hr)

/-- A connection is open when the server is shut down. -/
def shutdownOpen : List (Event × ℕ) := (openOne ++ [Event.signal]).map fun ev => (ev, 0)

/-- After this run the server is stopped at once, before the close is done. -/
theorem not_graceful_shutdown :
  ∃ c, clocked.Run { state := start 7 fun _ => 0 } shutdownOpen c ∧
    c.state.websocketsById.lookup 70001 = some 0 ∧
    ∃ c' ∈ clocked.step c (.shutdownClosure, 0),
      ∃ c'' ∈ clocked.exec c' [(.stopClosure, 0), (.timerHandler, 0)],
        c''.state.stopped = true ∧ (c''.state.sockets 0).closesDone = 0 ∧
        c''.time < c'.time + 5000
  := TransitionSystem.exists_runUnder (by decide +kernel)

end WebsocketProxy
