import WebsocketProxy.Websocket.Lifecycle

/-!
# Outgoing messages

All sends of a connection share one buffer, and each write passes on all that is readable
in it. The messages handed to the transport are the payloads of the sends, and no write
starts while another is outstanding, exactly in those runs in which every `send` finds no
write outstanding and nothing left in the buffer (`transmits_iff`).
-/

namespace Websocket

/-- The payload of an event, if it is a call of `send`. -/
def Event.payload : Event → Option Bytes
  | .send buffer => some buffer
  | _ => none

/-- The payloads of the calls of `send`, in their order. -/
def payloads (es : List Event) : List Bytes := es.filterMap Event.payload

theorem payloads_snoc (es : List Event) (e : Event) :
  payloads (es ++ [e]) = payloads es ++ e.payload.toList
  := by
  rw [payloads, payloads, List.filterMap_append]
  cases h : e.payload with
  | none => simp [h]
  | some buffer => simp [h]

/-- A write is started only when none is outstanding. -/
def WriteAlone (ws : Websocket) : Event → Prop
  | .send _ => ws.writes = []
  | _ => True

/-- `send` is called only when no write is outstanding and the buffer is empty. -/
def SendIdle (ws : Websocket) : Event → Prop
  | .send _ => ws.writes = [] ∧ ws.wBuffer = []
  | _ => True

instance (ws : Websocket) (e : Event) : Decidable (ws.SendIdle e) :=
  match e with
  | .send _ => inferInstanceAs (Decidable (_ ∧ _))
  | .completed _ | .close | .setClients _ | .setSubscriptions _ => .isTrue trivial

/-- A `send` hands what was in the buffer and its payload to the transport as one message;
nothing else hands anything to it. -/
theorem step_transport {ws ws' : Websocket} {e : Event} (h : ws.step e = some ws') :
  ws'.transport = ws.transport ++ (e.payload.map (ws.wBuffer ++ ·)).toList
  := by
  cases e with
  | completed c =>
      obtain ⟨⟨ws'', calls⟩, hc, rfl⟩ := Option.map_eq_some_iff.mp h
      simp [(complete_spec hc).transport, Event.payload]
  | send buffer =>
      obtain rfl := Option.some.inj h
      rfl
  | close =>
      obtain rfl := Option.some.inj h
      simp [Event.payload]
  | setClients clients =>
      obtain rfl := Option.some.inj h
      simp [Event.payload]
  | setSubscriptions subscriptions =>
      obtain rfl := Option.some.inj h
      simp [Event.payload]

/-- When every `send` finds the buffer empty, the messages are the payloads. -/
theorem transport_of_sendIdle {ws ws' : Websocket} {es : List Event}
    (h₀ : ws.transport = []) (h : system.RunUnder SendIdle ws es ws') :
  ws'.transport = payloads es
  := by
  induction h with
  | nil => apply h₀
  | @snoc es t e u _ hidle hstep ih =>
      rw [step_transport hstep, ih, payloads_snoc]
      cases e with
      | send buffer =>
          rw [hidle.2]
          rfl
      | completed | close | setClients | setSubscriptions => rfl

/-- When the messages are the payloads and no write starts while another is outstanding,
every `send` found the buffer empty: the message of a `send` is its payload only then. -/
theorem sendIdle_of_transport {ws ws' : Websocket} {es : List Event}
    (h : system.RunUnder WriteAlone ws es ws')
    (htransport : ws'.transport = payloads es) :
  system.RunUnder SendIdle ws es ws'
  := by
  induction h with
  | nil => apply TransitionSystem.RunUnder.nil
  | @snoc es t e u _ halone hstep ih =>
      rw [step_transport hstep, payloads_snoc] at htransport
      cases e with
      | send buffer =>
          have hsplit := List.append_inj' htransport rfl
          have hbuffer : t.wBuffer = [] := by simpa [Event.payload] using hsplit.2
          have hidle : SendIdle t (.send buffer) := ⟨halone, hbuffer⟩
          apply TransitionSystem.RunUnder.snoc (ih hsplit.1) hidle hstep
      | completed | close | setClients | setSubscriptions =>
          have hprefix : t.transport = payloads es := by simpa [Event.payload] using htransport
          apply TransitionSystem.RunUnder.snoc (ih hprefix) _ hstep
          trivial

/-- In every run of a connection, the messages handed to the transport are the payloads
passed to `send`, and no write is started while another is outstanding, if and only if
every `send` is called when no write is outstanding and the buffer is empty. -/
theorem transmits_iff {ws ws' : Websocket} {es : List Event} (hws : system.initial ws) :
  ws'.transport = payloads es ∧ system.RunUnder WriteAlone ws es ws'
    ↔ system.RunUnder SendIdle ws es ws'
  := by
  obtain ⟨id, url, apiKey, msg, hnew⟩ := hws
  have htransport := (new_fresh hnew).transport
  constructor
  · rintro ⟨hpayloads, halone⟩
    apply sendIdle_of_transport halone hpayloads
  · intro hidle
    use transport_of_sendIdle htransport hidle
    apply hidle.mono
    intro s e hs
    cases e with
    | send => apply hs.1
    | completed | close | setClients | setSubscriptions => trivial

/-- The events of a connection that is opened and sends two payloads, the second while the
write of the first is outstanding. -/
def twoSends : List Event :=
  List.replicate 5 (.completed (.resumed (.success 443))) ++ [.send [97], .send [98]]

/-- A connection that is opened and sends two payloads, the second while the write of the
first is outstanding, transmits the first payload twice. -/
theorem not_transmits :
  ∃ ws ws', system.initial ws ∧ system.Run ws twoSends ws' ∧
    ws'.transport = [[97], [97, 98]] ∧
    ¬ (ws'.transport = payloads twoSends ∧ system.RunUnder WriteAlone ws twoSends ws')
  := by
  obtain ⟨ws, hws⟩ : ∃ ws, new 1 (toBytes "h") [] 0 = some ws :=
    Option.isSome_iff_exists.mp (by decide +kernel)
  have hexec : ∃ ws' ∈ (new 1 (toBytes "h") [] 0).bind (system.exec · twoSends),
      ws'.transport = [[97], [97, 98]] := by decide +kernel
  rw [hws] at hexec
  obtain ⟨ws', hrun, htransport⟩ := TransitionSystem.exists_runUnder hexec
  use ws, ws', ⟨1, toBytes "h", [], 0, hws⟩, hrun, htransport
  rintro ⟨hpayloads, -⟩
  rw [htransport] at hpayloads
  revert hpayloads
  decide

/-- The events of a connection that is opened and sends two payloads, the second after the
write of the first completed. -/
def spacedSends : List Event :=
  List.replicate 5 (.completed (.resumed (.success 443))) ++
    [.send [97], .completed (.write 0 none), .send [98]]

theorem transmits_spacedSends :
  ∃ ws ws', system.initial ws ∧ ws'.transport = payloads spacedSends ∧
    system.RunUnder WriteAlone ws spacedSends ws'
  := by
  obtain ⟨ws, hws⟩ : ∃ ws, new 1 (toBytes "h") [] 0 = some ws :=
    Option.isSome_iff_exists.mp (by decide +kernel)
  have hexec : ∃ ws' ∈ (new 1 (toBytes "h") [] 0).bind (system.execUnder SendIdle · spacedSends),
      ws'.writes.length = 1 := by decide +kernel
  rw [hws] at hexec
  obtain ⟨ws', hidle, -⟩ := TransitionSystem.exists_runUnder hexec
  use ws, ws', ⟨1, toBytes "h", [], 0, hws⟩
  apply (transmits_iff ⟨1, toBytes "h", [], 0, hws⟩).mpr hidle

end Websocket
