import WebsocketProxy.Server.Projection

/-!
# The read loop of connections

A connected connection reads on, as long as no read ends with an error on which `on_read`
returns without a failure: closed by the peer, end of file, or aborted. On such an error the
connection stays connected with no read outstanding, and clients are still attached to it.
-/

namespace WebsocketProxy

/-- The connection a read of which fails in a step, and the error. -/
def failedRead : Event → Option (ℕ × ErrorCode)
  | .complete r (.read (.error ec)) => some (r, ec)
  | _ => none

/-- No read of a connected connection ends with an error that is passed over. -/
def ReadsOn (px : WebsocketProxy) (ev : Event) : Prop :=
  ∀ p ∈ failedRead ev, (px.sockets p.1).status = .connected → ¬ p.2.Quiet

instance (px : WebsocketProxy) (ev : Event) : Decidable (px.ReadsOn ev) :=
  inferInstanceAs (Decidable (∀ p ∈ failedRead ev, _))

end WebsocketProxy

namespace Websocket

/-- A connection that reads one message at a time while it is connected. -/
structure Reading (ws : Websocket) : Prop extends Phases ws where
  reading : ws.status = .connected → ws.reads = 1

/-- A completion keeps a connection reading, unless a read of it ends with an error that is
passed over. -/
theorem Reading.complete {ws ws' : Websocket} {c : Completion} {calls : List Callback}
    (hws : ws.Reading)
    (hread : ∀ ec, c = .read (.error ec) → ws.status = .connected → ¬ ec.Quiet)
    (h : ws.complete c = some (ws', calls)) :
  ws'.Reading
  := by
  use hws.toPhases.complete h
  have hreads := hws.reads
  have hconnected := hws.reading
  intro hstatus
  cases c with
  | resumed result =>
      simp only [Websocket.complete, Option.bind_eq_some_iff] at h
      obtain ⟨⟨stage, msg⟩, hopening, h⟩ := h
      unfold openResume at h
      split at h <;> simp only [fail, Websocket.close] at h <;> grind [Status.toNat]
  | read result =>
      simp only [Websocket.complete, onRead, fail, Websocket.close] at h
      grind [Status.toNat]
  | write i ec =>
      simp only [Websocket.complete, onWrite, fail, Websocket.close] at h
      grind [Status.toNat]
  | close ec =>
      simp only [Websocket.complete, onClose, fail, Websocket.close] at h
      grind

/-- So does every event. -/
theorem Reading.step {ws ws' : Websocket} {e : Event} (hws : ws.Reading)
    (hmanaged : ws.Managed e)
    (hread : ∀ c, e = .completed c → ∀ ec, c = .read (.error ec) → ws.status = .connected →
      ¬ ec.Quiet)
    (h : ws.step e = some ws') :
  ws'.Reading
  := by
  have hphases := hws.toPhases.step hmanaged h
  cases e with
  | completed c =>
      obtain ⟨⟨ws'', calls⟩, hc, rfl⟩ := Option.map_eq_some_iff.mp h
      apply hws.complete (hread c rfl) hc
  | close =>
      obtain rfl := Option.some.inj h
      use hphases
      intro hconnected
      rcases closing_close ws with hclosing | hclosing
      · rw [hconnected] at hclosing
        cases hclosing
      · rw [hconnected] at hclosing
        cases hclosing
  | send | setClients | setSubscriptions =>
      obtain rfl := Option.some.inj h
      exact ⟨hphases, hws.reading⟩

end Websocket

namespace WebsocketProxy

theorem reachable_reading {px : WebsocketProxy} (h : system.ReachableUnder ReadsOn px) (r : ℕ) :
  (px.sockets r).Reading
  := by
  apply reachable_connection (P := fun ws c => ∀ ec, c = .read (.error ec) →
    ws.status = .connected → ¬ ec.Quiet) _ _ _ _ h
  · intro px r c hguard ec hc
    apply hguard (r, ec)
    rw [hc]
    rfl
  · exact ⟨Websocket.phases_blank, fun h => by cases h⟩
  · intro id url apiKey msg ws hfresh
    use hfresh.phases
    rw [hfresh.status]
    rintro ⟨⟩
  · exact fun hws hmanaged hread hstep => hws.step hmanaged hread hstep

/-- A client comes to a connection by a message only if the connection is found by url and
key, and is not closing. -/
theorem attaches_live {px px' : WebsocketProxy} {msg : Option Message} (hwf : px.WellFormed)
    (h : px.step (.processClientMessage msg) = some px') {r : ℕ} {pid : UInt64}
    (hbefore : pid ∉ (px.sockets r).clients) (hafter : pid ∈ (px'.sockets r).clients) :
  (∃ k, px.websocketsByUrlApiKey.lookup k = some r) ∧ ¬ (px.sockets r).Closing
  := by
  obtain ⟨t, gone, hchange, hdrains⟩ := step_change hwf h
  have hsocket := hchange.socket r
  rw [hdrains.sockets] at hafter
  generalize t.sockets r = ws at hsocket hafter
  cases hsocket with
  | same => exact absurd hafter hbefore
  | leave hr =>
      rw [Websocket.leave_clients] at hafter
      exact absurd (Finset.mem_sdiff.mp hafter).1 hbefore
  | attach hpid hkey hlive => exact ⟨⟨_, hkey⟩, hlive⟩
  | create hr hreq hnew =>
      rw [(Websocket.new_fresh hnew).clients] at hafter
      exact absurd hafter (Finset.notMem_empty pid)
  | request hr hsub =>
      rw [foldl_send_frame] at hafter
      exact absurd hafter hbefore
  | complete hev => cases hev
  | enter hev => cases hev
  | close hev => cases hev

/-- In every run in which no read of a connected connection ends with an error that is
passed over, a stored connection that is connected has one read outstanding, and so has
every connection a message attaches a client to. -/
theorem connected_reads {px : WebsocketProxy} (h : system.ReachableUnder ReadsOn px) :
  (∀ r, px.Stored r → (px.sockets r).status = .connected → (px.sockets r).reads = 1) ∧
    ∀ msg px' r pid, px.step (.processClientMessage msg) = some px' →
      pid ∉ (px.sockets r).clients → pid ∈ (px'.sockets r).clients → (px.sockets r).reads = 1
  := by
  have hreading := reachable_reading h
  have hwf := reachable_wellFormed h
  constructor
  · intro r _ hconnected
    apply (hreading r).reading hconnected
  · intro msg px' r pid hstep hbefore hafter
    obtain ⟨⟨k, hk⟩, hlive⟩ := attaches_live hwf hstep hbefore hafter
    apply (hreading r).reading
    cases hstatus : (px.sockets r).status with
    | connecting => exact absurd (hwf.byKey_opened k r hk) ((hreading r).connecting hstatus)
    | connected => rfl
    | disconnecting => exact absurd (Or.inl hstatus) hlive
    | disconnected => exact absurd (Or.inr hstatus) hlive

/-- The one stored connection of this run has a read outstanding. -/
theorem connected_reads_openOne :
  ∃ px, system.RunUnder ReadsOn (start 7 fun _ => 1) openOne px ∧ px.Stored 0 ∧
    (px.sockets 0).reads = 1
  := by
  have hexec : ∃ px ∈ system.execUnder ReadsOn (start 7 fun _ => 1) openOne,
      px.websocketsById.lookup 70001 = some 0 ∧ (px.sockets 0).status = .connected := by
    decide +kernel
  obtain ⟨px, hrun, hstored, hconnected⟩ := TransitionSystem.exists_runUnder hexec
  use px, hrun, ⟨70001, hstored⟩
  apply (connected_reads ⟨_, _, ⟨_, _, rfl⟩, hrun⟩).1 0 ⟨70001, hstored⟩ hconnected

/-- The peer ends the connection of a client, and another client asks for it. -/
def endOfFile : List Event :=
  openOne ++ [.complete 0 (.read (.error ⟨.eof, []⟩)), .register 2, .openWs 2 [104] []]

/-- After the peer ended it, a connection is connected with no read outstanding, and another
client is attached to it. -/
theorem not_connected_reads :
  ∃ px, system.Run (start 7 fun _ => 1) endOfFile px ∧
    px.websocketsById.lookup 70001 = some 0 ∧ (px.sockets 0).status = .connected ∧
    (px.sockets 0).reads = 0 ∧ (px.sockets 0).clients = {1, 2}
  := TransitionSystem.exists_runUnder (by decide +kernel)

end WebsocketProxy
