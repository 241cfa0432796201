import WebsocketProxy.Server.Published
import WebsocketProxy.Server.Requests

/-!
# To whom connections are granted

When the slots of messages that openings are for are not reused, every broadcast that tells a
client that a connection was opened names a connection whose url and key that client asked
for. That stays so, as connections keep their ids and keys.
-/

namespace Websocket

theorem new_port {id : UInt64} {url apiKey : Bytes} {msg : ℕ} {ws : Websocket}
    (h : new id url apiKey msg = some ws) :
  ws.port ≠ 65535
  := by
  simp only [new, Option.map_eq_some_iff] at h
  obtain ⟨⟨host, port⟩, -, rfl⟩ := h
  dsimp only
  split
  case isTrue =>
    split
    · decide
    · decide
  case isFalse hport => exact hport

theorem step_port {ws ws' : Websocket} {e : Event} (h : ws.step e = some ws') :
  ws'.port = ws.port
  := by
  cases e with
  | completed c =>
      obtain ⟨⟨ws'', calls⟩, hc, rfl⟩ := Option.map_eq_some_iff.mp h
      rw [(complete_spec hc).frame]
  | close =>
      obtain rfl := Option.some.inj h
      unfold close
      split
      · rfl
      · rfl
  | send | setClients | setSubscriptions =>
      obtain rfl := Option.some.inj h
      rfl

/-- What was constructed can be told from memory that no connection was constructed in: the
constructor replaces the port that stands for none. -/
theorem reachable_ne_blank {ws : Websocket} (h : system.Reachable ws) :
  ws ≠ blank
  := by
  have hport : ws.port ≠ 65535 := by
    apply h.invariant (I := fun ws => ws.port ≠ 65535)
    · rintro ws ⟨id, url, apiKey, msg, hnew⟩
      apply new_port hnew
    · intro ws e ws' _ hport _ hstep
      rw [step_port hstep]
      exact hport
  rintro rfl
  apply hport rfl

end Websocket

namespace WebsocketProxy

/-- What was constructed stays so. -/
theorem step_constructed {px px' : WebsocketProxy} {ev : Event} (hpx : system.Reachable px)
    (h : px.step ev = some px') {r : ℕ} (hr : px.Constructed r) :
  px'.Constructed r
  := by
  have hwf := reachable_wellFormed hpx
  have hreachable := (reachable_run hpx r).resolve_left hr
  obtain ⟨es, hrun⟩ := step_projects hwf h (lt_opens_of_constructed hwf hr)
  apply Websocket.reachable_ne_blank
  apply hreachable.run (hrun.mono _)
  exact fun _ _ _ => trivial

/-- The connection with the given id is one whose url and key the client `pid` asked for in
one of the messages. -/
def Granted (px : WebsocketProxy) (ms : List Message) (pid id : UInt64) : Prop :=
  ∃ r, px.Constructed r ∧ (px.sockets r).id = id ∧
    ∃ m ∈ ms, ∃ req, m.pid = pid ∧ m.data = .openWs req ∧ req.key = (px.sockets r).key

theorem Granted.mono {px : WebsocketProxy} {ms ms' : List Message} {pid id : UInt64}
    (h : px.Granted ms pid id) (hsub : ms ⊆ ms') :
  px.Granted ms' pid id
  := by
  obtain ⟨r, hr, hid, m, hm, hasked⟩ := h
  use r, hr, hid, m, hsub hm

/-- Connections keep what they were granted for. -/
theorem Granted.step {px px' : WebsocketProxy} {ms : List Message} {ev : Event} {pid id : UInt64}
    (h : px.Granted ms pid id) (hpx : system.Reachable px) (hstep : px.step ev = some px') :
  px'.Granted ms pid id
  := by
  obtain ⟨r, hr, hid, m, hm, req, hpid, hreq, hkey⟩ := h
  have hwf := reachable_wellFormed hpx
  have hframe := step_frame hwf hstep (lt_opens_of_constructed hwf hr)
  use r, step_constructed hpx hstep hr, hframe.id.trans hid, m, hm, req, hpid, hreq
  rw [hkey, hframe.key]

/-- What is published about an opening names a connection that its client asked for. -/
theorem Requested.announces {px px' : WebsocketProxy} {ms : List Message} {ev : Event}
    (hpx : px.Requested ms) (hwf : px.WellFormed) (h : px.step ev = some px') :
  ∃ datas, px.Publishes datas px' ∧
    ∀ data ∈ datas, ∀ m, data = .openWs m → px.Granted (ms ++ ev.taken.toList) m.clientPid m.id
  := by
  rcases em (∃ r c, ev = .complete r c) with ⟨r, c, rfl⟩ | hcomplete
  · obtain ⟨ws, calls, hc, hpublishes⟩ := complete_publishes h
    use calls.filterMap (px.callData r), hpublishes
    rintro data hdata m rfl
    obtain ⟨call, hcall, hm⟩ := List.mem_filterMap.mp hdata
    -- only the call that ends an opening is about an opening
    have hopened : ∃ msg, call = .opened msg true ∧
        m = { id := (px.sockets r).id, clientPid := (px.slots msg).pid, newConnection := true } := by
      cases call with
      | onWsError | onWsData | onWsClosed => cases hm
      | opened msg success =>
          cases success with
          | true =>
              use msg, rfl
              exact (Message.Data.openWs.inj (Option.some.inj hm)).symm
          | false => cases hm
    obtain ⟨n, rfl, rfl⟩ := hopened
    have hopening : ∃ stage, (px.sockets r).opening = some (stage, n) := by
      rcases (Websocket.complete_spec hc).calls with ⟨port, msg, -, hopening, hcalls, -⟩ |
        ⟨ec, errors, -, hsilent, hcalls, -⟩ | ⟨hsilent, -⟩
      · rw [hcalls, List.mem_singleton] at hcall
        obtain ⟨rfl, -⟩ := Websocket.Callback.opened.inj hcall
        use .handshake
      · rw [hcalls, List.mem_append, List.mem_singleton] at hcall
        rcases hcall with hcall | hcall
        · exact (hsilent _ hcall).elim
        · cases hcall
      · exact (hsilent _ hcall).elim
    obtain ⟨stage, hopening⟩ := hopening
    obtain ⟨m, req, hm, hreq, hkey, hslot⟩ := hpx.opening hopening
    use r, constructed_of_complete hc, rfl, m
    constructor
    · apply List.mem_append_left
      apply List.mem_of_getElem? hm
    · use req
      rw [hslot]
      exact ⟨rfl, hreq, hkey⟩
  · obtain ⟨datas, hpublishes, hannounces⟩ := step_publishes h (fun r c hev => hcomplete ⟨r, c, hev⟩)
    use datas, hpublishes
    rintro data hdata m rfl
    cases hannounces _ hdata with
    | @attached m req r hev hreq hpid hkey hlive =>
        obtain ⟨hkey, hr⟩ := hpx.byKey _ r hkey
        use r, constructed_of_stored hwf hr, rfl, m
        constructor
        · rw [hev]
          apply List.mem_append_right
          apply List.mem_singleton_self m
        · exact ⟨req, rfl, hreq, hkey.symm⟩

/-- In runs in which the slots are kept, every broadcast of an opening names a connection that
its client asked for. -/
theorem run_granted {pid : UInt64} {clock : ℕ → UInt64} {es : List Event} {px : WebsocketProxy}
    (h : system.RunUnder SlotsKept (start pid clock) es px) {msg : Message}
    (hmsg : msg ∈ px.serverQueue) {m : WsOpen} (hm : msg.data = .openWs m) :
  px.Granted (messages es) m.clientPid m.id
  := by
  induction h generalizing msg m with
  | nil => cases hmsg
  | @snoc es px ev px' hrun hkept hstep ih =>
      have hreachable : system.Reachable px :=
        ⟨_, es, ⟨pid, clock, rfl⟩, hrun.mono (fun _ _ _ => trivial)⟩
      obtain ⟨datas, hpublishes, hgranted⟩ :=
        (run_requested hrun).announces (reachable_wellFormed hreachable) hstep
      rw [hpublishes.serverQueue] at hmsg
      rw [messages_snoc]
      apply Granted.step _ hreachable hstep
      rcases List.mem_append.mp hmsg with hmsg | hmsg
      · exact (ih hmsg hm).mono (List.subset_append_left _ _)
      · obtain ⟨data, hdata, rfl⟩ := List.mem_map.mp hmsg
        apply hgranted data hdata m hm

end WebsocketProxy
