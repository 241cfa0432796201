import WebsocketProxy.Websocket.Phases
import WebsocketProxy.Server.Handlers

/-!
# Runs of the server, seen from one connection

What a step of the server does to one connection is a run of that connection as a
transition system of its own (`step_projects`). Properties that all events of a connection
keep therefore hold of all connections in all reachable states of the server
(`ReachableUnder.connection`).
-/

namespace WebsocketProxy

/-- An event of a connection in the step of `ev` from `px`: it respects the opening of the
connection, and a completion is that of the step. -/
def EventOf (px : WebsocketProxy) (ev : Event) (r : ℕ) (ws : Websocket) (e : Websocket.Event) :
    Prop :=
  ws.Managed e ∧ ∀ c, e = .completed c → ev = .complete r c ∧ ws = px.sockets r

/-- A run of a connection in the step of `ev` from `px`. -/
abbrev RunOf (px : WebsocketProxy) (ev : Event) (r : ℕ) :
    Websocket → List Websocket.Event → Websocket → Prop :=
  Websocket.system.RunUnder (px.EventOf ev r)

/-! ### Runs of one connection -/

theorem RunOf.setClients {px : WebsocketProxy} {ev : Event} {r : ℕ} {ws : Websocket}
    (hopened : ws.opening = none) (clients : Finset UInt64) :
  px.RunOf ev r ws [.setClients clients] { ws with clients }
  := by
  apply TransitionSystem.RunUnder.single _ rfl
  use hopened
  intro c h
  cases h

theorem RunOf.close {px : WebsocketProxy} {ev : Event} {r : ℕ} {ws : Websocket}
    (hopened : ws.opening = none) :
  px.RunOf ev r ws [.close] ws.close
  := by
  apply TransitionSystem.RunUnder.single _ rfl
  use hopened
  intro c h
  cases h

/-- Clients leave a connection. -/
theorem RunOf.leave {px : WebsocketProxy} {ev : Event} {r : ℕ} {ws : Websocket}
    (hopened : ws.opening = none) (dep : Finset UInt64) :
  ∃ es, px.RunOf ev r ws es (ws.leave dep)
  := by
  unfold Websocket.leave
  split
  · exact ⟨_, (RunOf.setClients hopened _).append (RunOf.close hopened)⟩
  · exact ⟨_, RunOf.setClients hopened _⟩

/-- The subscriptions of a connection change, and requests are sent. -/
theorem RunOf.request {px : WebsocketProxy} {ev : Event} {r : ℕ} {ws : Websocket}
    (hopened : ws.opening = none) (subscriptions : UnorderedMap Bytes Subscription)
    (buffers : List Bytes) :
  px.RunOf ev r ws (.setSubscriptions subscriptions :: buffers.map .send)
    (buffers.foldl Websocket.send { ws with subscriptions })
  := by
  have hset : px.RunOf ev r ws [.setSubscriptions subscriptions] { ws with subscriptions } := by
    apply TransitionSystem.RunUnder.single _ rfl
    use hopened
    intro c h
    cases h
  have hsend : ∀ ws : Websocket, ws.opening = none →
      px.RunOf ev r ws (buffers.map .send) (buffers.foldl Websocket.send ws) := by
    induction buffers with
    | nil =>
        intro ws _
        apply TransitionSystem.RunUnder.nil
    | cons buffer buffers ih =>
        intro ws hopened
        have hfirst : px.RunOf ev r ws [.send buffer] (ws.send buffer) := by
          apply TransitionSystem.RunUnder.single _ rfl
          use hopened
          intro c h
          cases h
        apply hfirst.append (ih _ _)
        exact hopened
  apply hset.append (hsend { ws with subscriptions } hopened)

/-- An operation of a connection completes. -/
theorem RunOf.completed {px : WebsocketProxy} {ev : Event} {r : ℕ} {c : Websocket.Completion}
    {ws : Websocket} {calls : List Websocket.Callback} (hev : ev = .complete r c)
    (hcomplete : (px.sockets r).complete c = some (ws, calls)) :
  px.RunOf ev r (px.sockets r) [.completed c] ws
  := by
  apply TransitionSystem.RunUnder.single
  · use trivial
    intro c' h
    obtain rfl := Websocket.Event.completed.inj h
    use hev
  · exact Option.map_eq_some_iff.mpr ⟨(ws, calls), hcomplete, rfl⟩

/-! ### Steps of the server -/

/-- A change of the tables is a run of each connection. -/
theorem SocketChange.projects {px : WebsocketProxy} {ev : Event} {r : ℕ} {ws : Websocket}
    (h : SocketChange px ev r ws) (hwf : px.WellFormed) (hr : r < px.opens) :
  ∃ es, px.RunOf ev r (px.sockets r) es ws
  := by
  cases h with
  | same => exact ⟨[], .nil⟩
  | leave hr => apply RunOf.leave (hwf.opened r hr)
  | attach hpid hkey hlive => exact ⟨_, RunOf.setClients (hwf.byKey_opened _ r hkey) _⟩
  | create hnew => exact absurd hnew (Nat.ne_of_lt hr)
  | @request subscriptions buffers hr hsub =>
      exact ⟨_, RunOf.request (hwf.opened r hr) subscriptions buffers⟩
  | complete hev hcomplete hentering => exact ⟨_, RunOf.completed hev hcomplete⟩
  | enter hev hcomplete hentering =>
      obtain ⟨port, rfl, hopening⟩ := entering_complete (hev ▸ hentering)
      have hopened := congrArg Websocket.opening (Websocket.complete_handshake hopening hcomplete).1
      exact ⟨_, (RunOf.completed hev hcomplete).append (RunOf.setClients hopened _)⟩
  | close hev hr => exact ⟨_, RunOf.close (hwf.opened r hr)⟩

/-- What a step does to one connection is a run of the connection. -/
theorem step_projects {px px' : WebsocketProxy} {ev : Event} (hwf : px.WellFormed)
    (h : px.step ev = some px') {r : ℕ} (hr : r < px.opens) :
  ∃ es, px.RunOf ev r (px.sockets r) es (px'.sockets r)
  := by
  obtain ⟨t, gone, hchange, hdrains⟩ := step_change hwf h
  rw [hdrains.sockets]
  exact (hchange.socket r).projects hwf hr

/-- The id and the key of a connection that was constructed do not change. -/
theorem SocketChange.frame {px : WebsocketProxy} {ev : Event} {r : ℕ} {ws : Websocket}
    (h : SocketChange px ev r ws) (hwf : px.WellFormed) (hr : r < px.opens) :
  Websocket.Frame (px.sockets r) ws
  := by
  obtain ⟨es, hrun⟩ := h.projects hwf hr
  apply hrun.preserves
  · exact fun ws e ws' hws _ hwstep => hws.trans (Websocket.step_frame hwstep)
  · exact ⟨rfl, rfl, Nat.le_refl _⟩

/-- No step changes the id or the key of a connection. -/
theorem step_frame {px px' : WebsocketProxy} {ev : Event} (hwf : px.WellFormed)
    (h : px.step ev = some px') {r : ℕ} (hr : r < px.opens) :
  Websocket.Frame (px.sockets r) (px'.sockets r)
  := by
  obtain ⟨t, gone, hchange, hdrains⟩ := step_change hwf h
  rw [hdrains.sockets]
  exact (hchange.socket r).frame hwf hr

/-- Nothing happens to what was not constructed, until it is. -/
theorem SocketChange.of_blank {px : WebsocketProxy} {ev : Event} {r : ℕ} {ws : Websocket}
    (h : SocketChange px ev r ws) (hwf : px.WellFormed)
    (hblank : px.sockets r = Websocket.blank) :
  ws = Websocket.blank ∨ r = px.opens ∧ ∃ req, px.opensNew ev = some req ∧
    Websocket.new (px.pid * 10000 + (px.websocketId + 1).toUInt64) req.url req.apiKey px.taken
      = some ws
  := by
  have hunstored : ¬ px.Stored r := by
    intro hr
    have hnonempty := hwf.nonempty r hr
    rw [hblank] at hnonempty
    apply hnonempty.ne_empty rfl
  have hcomplete : ∀ {c result}, (px.sockets r).complete c ≠ some result := by
    intro c result hc
    rw [hblank] at hc
    cases c with
    | resumed | read | write | close => cases hc
  cases h with
  | same => exact Or.inl hblank
  | leave hr => exact absurd hr hunstored
  | attach hpid hkey hlive =>
      rw [hblank] at hlive
      exact absurd (Or.inr rfl) hlive
  | @create req ws hr hreq hnew =>
      right
      use hr, req, hreq
  | request hr hsub => exact absurd hr hunstored
  | complete hev hc => exact absurd hc hcomplete
  | enter hev hc => exact absurd hc hcomplete
  | close hev hr => exact absurd hr hunstored

theorem step_of_blank {px px' : WebsocketProxy} {ev : Event} (hwf : px.WellFormed)
    (h : px.step ev = some px') {r : ℕ} (hblank : px.sockets r = Websocket.blank) :
  px'.sockets r = Websocket.blank ∨
    ∃ id url apiKey msg, Websocket.new id url apiKey msg = some (px'.sockets r)
  := by
  obtain ⟨t, gone, hchange, hdrains⟩ := step_change hwf h
  rw [hdrains.sockets]
  rcases (hchange.socket r).of_blank hwf hblank with h | ⟨-, req, -, h⟩
  · apply Or.inl h
  · exact Or.inr ⟨_, _, _, _, h⟩

/-! ### Reachable states -/

theorem start_wellFormed (pid : UInt64) (clock : ℕ → UInt64) :
  (start pid clock).WellFormed
  := by
  have hnone : ∀ id, (start pid clock).websocketsById.lookup id = none := fun _ => rfl
  have hnone' : ∀ k, (start pid clock).websocketsByUrlApiKey.lookup k = none := fun _ => rfl
  constructor
  · exact fun _ _ => rfl
  · simp [hnone]
  · simp [Tables.Stored, hnone]
  · simp [Tables.Stored, hnone]
  · simp [Tables.Stored, hnone]
  · simp [hnone']
  · simp [hnone']

/-- Steps keep the tables well formed. -/
theorem step_wellFormed {px px' : WebsocketProxy} {ev : Event} (hwf : px.WellFormed)
    (h : px.step ev = some px') :
  px'.WellFormed
  := by
  obtain ⟨t, gone, hchange, hdrains⟩ := step_change hwf h
  apply hdrains.wellFormed (hchange.wellFormed hwf)

/-- The tables of reachable states are well formed. -/
theorem reachable_wellFormed {px : WebsocketProxy} {guard : WebsocketProxy → Event → Prop}
    (h : system.ReachableUnder guard px) :
  px.WellFormed
  := by
  apply h.invariant (I := fun px => px.WellFormed)
  · rintro px ⟨pid, clock, rfl⟩
    apply start_wellFormed
  · intro px ev px' _ hwf _ hstep
    apply step_wellFormed hwf hstep

/-- A property of connections that holds as they are constructed, and that their events
keep, holds of all connections in reachable states. A condition on the completions in the
steps of the server can be used. -/
theorem reachable_connection {guard : WebsocketProxy → Event → Prop}
    {P : Websocket → Websocket.Completion → Prop} {I : Websocket → Prop}
    (hguard : ∀ px r c, guard px (.complete r c) → P (px.sockets r) c)
    (hblank : I Websocket.blank)
    (hnew : ∀ {id url apiKey msg ws}, Websocket.Fresh ws id url apiKey msg → I ws)
    (hstep : ∀ {ws ws' e}, I ws → ws.Managed e → (∀ c, e = .completed c → P ws c) →
      ws.step e = some ws' → I ws')
    {px : WebsocketProxy} (h : system.ReachableUnder guard px) (r : ℕ) :
  I (px.sockets r)
  := by
  revert r
  apply h.invariant (I := fun px => ∀ r, I (px.sockets r))
  · rintro px ⟨pid, clock, rfl⟩ r
    exact hblank
  · intro px ev px' hreachable hI hg h r
    have hwf := reachable_wellFormed hreachable
    rcases lt_or_ge r px.opens with hr | hr
    · obtain ⟨es, hrun⟩ := step_projects hwf h hr
      apply hrun.preserves _ (hI r)
      rintro ws e ws' hws ⟨hmanaged, hcompleted⟩ hwstep
      apply hstep hws hmanaged _ hwstep
      intro c hc
      obtain ⟨rfl, rfl⟩ := hcompleted c hc
      apply hguard px r c hg
    · rcases step_of_blank hwf h (hwf.blank r hr) with hblank' | ⟨id, url, apiKey, msg, hnew'⟩
      · rw [hblank']
        exact hblank
      · apply hnew (Websocket.new_fresh hnew')

/-- All connections go through their phases as intended. -/
theorem reachable_phases {guard : WebsocketProxy → Event → Prop} {px : WebsocketProxy}
    (h : system.ReachableUnder guard px) (r : ℕ) :
  (px.sockets r).Phases
  := by
  apply reachable_connection (P := fun _ _ => True) (fun _ _ _ _ => trivial) _ _ _ h
  · apply Websocket.phases_blank
  · exact fun hfresh => hfresh.phases
  · exact fun hws hmanaged _ hwstep => hws.step hmanaged hwstep

/-- Every connection of the server comes about by a run of the connection from its
construction. -/
theorem reachable_run {px : WebsocketProxy} (h : system.Reachable px) :
  ∀ r, px.sockets r = Websocket.blank ∨ Websocket.system.Reachable (px.sockets r)
  := by
  apply h.invariant
  · rintro px ⟨pid, clock, rfl⟩ r
    apply Or.inl rfl
  · intro px ev px' hreachable ih _ h r
    have hwf := reachable_wellFormed hreachable
    rcases ih r with hblank | hws
    · rcases step_of_blank hwf h hblank with hblank' | hnew
      · apply Or.inl hblank'
      · apply Or.inr (TransitionSystem.ReachableUnder.initial hnew)
    · rcases lt_or_ge r px.opens with hr | hr
      · right
        obtain ⟨es, hrun⟩ := step_projects hwf h hr
        apply hws.run (hrun.mono _)
        exact fun _ _ _ => trivial
      · rcases step_of_blank hwf h (hwf.blank r hr) with hblank' | hnew
        · apply Or.inl hblank'
        · apply Or.inr (TransitionSystem.ReachableUnder.initial hnew)

end WebsocketProxy
