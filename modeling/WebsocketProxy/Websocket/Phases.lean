import WebsocketProxy.Websocket.Lifecycle

/-!
# The phases of a connection

A connection is being opened, is open, is closing, or is closed. The proxy leaves a
connection alone while it is being opened (`Managed`), and in runs that respect this the
phases follow each other as intended: `Phases` is kept by every event.
-/

namespace Websocket

/-- Nothing but the completions of its own operations happens to a connection that is
being opened. -/
def Managed (ws : Websocket) : Event → Prop
  | .completed _ => True
  | .send _ | .close | .setClients _ | .setSubscriptions _ => ws.opening = none

/-- What holds in each phase of a connection. -/
structure Phases (ws : Websocket) : Prop where
  /-- Nothing is attached to a connection that is being opened. -/
  clients : ws.opening ≠ none → ws.clients = ∅
  subscriptions : ws.opening ≠ none → ws.subscriptions = ∅
  /-- A connection that is being opened is not connected yet, and was never closed. -/
  not_connected : ws.opening ≠ none → ws.status ≠ .connected
  not_closed : ws.opening ≠ none → ws.closesStarted = 0
  /-- Nothing is read or written before a connection is opened. -/
  reads : ws.opening ≠ none → ws.reads = 0
  writes : ws.opening ≠ none → ws.writes = []
  /-- Only a connection that is being opened is connecting. -/
  connecting : ws.status = .connecting → ws.opening ≠ none
  /-- A connection a close of which was started is closing. -/
  closing : 0 < ws.closesStarted → ws.Closing
  done_le : ws.closesDone ≤ ws.closesStarted

theorem phases_blank :
  Phases blank
  := by
  constructor <;> simp [blank, Closing]

theorem Fresh.phases {ws : Websocket} {id : UInt64} {url apiKey : Bytes} {msg : ℕ}
    (h : Fresh ws id url apiKey msg) :
  Phases ws
  := by
  constructor
  · exact fun _ => h.clients
  · exact fun _ => h.subscriptions
  · simp [h.status]
  · exact fun _ => h.closesStarted
  · exact fun _ => h.reads
  · exact fun _ => h.writes
  · simp [h.status]
  · simp [h.closesStarted]
  · simp [h.closesStarted, h.closesDone]

/-- Completions keep the phases. -/
theorem Phases.complete {ws ws' : Websocket} {c : Completion} {calls : List Callback}
    (hws : ws.Phases) (h : ws.complete c = some (ws', calls)) :
  ws'.Phases
  := by
  obtain ⟨hclients, hsubscriptions, hconnected, hclosed, hreads, hwrites, hconnecting, hclosing,
    hdone⟩ := hws
  cases c with
  | resumed result =>
      simp only [Websocket.complete, Option.bind_eq_some_iff] at h
      obtain ⟨⟨stage, msg⟩, hopening, h⟩ := h
      unfold openResume at h
      split at h <;> simp only [fail, Websocket.close] at h <;>
        constructor <;> grind [Closing, Status.toNat]
  | read result =>
      simp only [Websocket.complete, onRead, fail, Websocket.close] at h
      constructor <;> grind [Closing, Status.toNat]
  | write i ec =>
      simp only [Websocket.complete, onWrite, fail, Websocket.close] at h
      constructor <;> grind [Closing, Status.toNat]
  | close ec =>
      simp only [Websocket.complete, onClose, fail, Websocket.close] at h
      constructor <;> grind [Closing, Status.toNat]

/-- Closing an opened connection keeps the phases. -/
theorem Phases.close {ws : Websocket} (hws : ws.Phases) (hopened : ws.opening = none) :
  ws.close.Phases
  := by
  rcases em ws.Closing with h | h
  · rw [close_of_closing h]
    exact hws
  · have hclosing := closing_close ws
    rw [close_of_not_closing h] at hclosing ⊢
    constructor
    · simp [hopened]
    · simp [hopened]
    · simp [hopened]
    · simp [hopened]
    · simp [hopened]
    · simp [hopened]
    · simp
    · exact fun _ => hclosing
    · apply Nat.le_succ_of_le hws.done_le

/-- Every event that respects the opening keeps the phases. -/
theorem Phases.step {ws ws' : Websocket} {e : Event} (hws : ws.Phases) (hmanaged : ws.Managed e)
    (h : ws.step e = some ws') :
  ws'.Phases
  := by
  cases e with
  | completed c =>
      obtain ⟨⟨ws'', calls⟩, hc, rfl⟩ := Option.map_eq_some_iff.mp h
      apply hws.complete hc
  | send buffer =>
      obtain rfl := Option.some.inj h
      exact ⟨hws.clients, hws.subscriptions, hws.not_connected, hws.not_closed, hws.reads,
        fun h => absurd hmanaged h, hws.connecting, hws.closing, hws.done_le⟩
  | close =>
      obtain rfl := Option.some.inj h
      apply hws.close hmanaged
  | setClients clients =>
      obtain rfl := Option.some.inj h
      exact ⟨fun h => absurd hmanaged h, hws.subscriptions, hws.not_connected, hws.not_closed,
        hws.reads, hws.writes, hws.connecting, hws.closing, hws.done_le⟩
  | setSubscriptions subscriptions =>
      obtain rfl := Option.some.inj h
      exact ⟨hws.clients, fun h => absurd hmanaged h, hws.not_connected, hws.not_closed,
        hws.reads, hws.writes, hws.connecting, hws.closing, hws.done_le⟩

end Websocket
