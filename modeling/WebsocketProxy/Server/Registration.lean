import WebsocketProxy.Library.Since
import WebsocketProxy.Server.Loop

/-!
# Who is registered

A client is registered only as long as the last message it registered or unregistered with
was a `Register`. It can be dropped earlier, when its heartbeats stop.
-/

namespace Message

/-- The message registers the client `p`. -/
def Registers (p : UInt64) (m : Message) : Prop := m.pid = p ∧ ∃ reg, m.data = .register reg

/-- The message unregisters the client `p`. -/
def Unregisters (p : UInt64) (m : Message) : Prop := m.pid = p ∧ m.data = .unregister

instance (p : UInt64) (m : Message) : Decidable (m.Unregisters p) :=
  inferInstanceAs (Decidable (_ ∧ _))

/-- The last message by which the client `p` registers or unregisters is one that registers it. -/
def Registered (p : UInt64) (ms : List Message) : Prop :=
  Since (Registers p) (Unregisters p) ms

theorem registered_concat {p : UInt64} {ms : List Message} {m : Message} :
  Registered p (ms ++ [m]) ↔ m.Registers p ∨ Registered p ms ∧ ¬ m.Unregisters p
  := Since.concat_iff

end Message

namespace WebsocketProxy

/-- Only a `Register` adds a client. -/
theorem Change.mem_clients {px : WebsocketProxy} {ev : Event} {t : Tables} (h : Change px ev t)
    {q : UInt64} (hq : q ∈ t.clients) :
  q ∈ px.clients ∨ ∃ m, ev = .processClientMessage (some m) ∧ m.Registers q
  := by
  cases h with
  | quiet hclients | attach hclients | create hclients | throw hclients | request hclients =>
      apply Or.inl ((hclients q).mp hq)
  | @register clients m reg hclients hev hreg =>
      rcases (hclients q).mp hq with rfl | hq
      · exact Or.inr ⟨m, hev, rfl, reg, hreg⟩
      · apply Or.inl hq
  | depart _ hclients => exact Or.inl ((hclients q).mp hq).1
  | complete | enter | closed => exact Or.inl hq
  | closeAll _ h =>
      rw [h.clients] at hq
      apply Or.inl hq

theorem step_mem_clients {px px' : WebsocketProxy} {ev : Event} (hwf : px.WellFormed)
    (h : px.step ev = some px') {q : UInt64} (hq : q ∈ px'.clients) :
  q ∈ px.clients ∨ ∃ m, ev = .processClientMessage (some m) ∧ m.Registers q
  := by
  obtain ⟨t, gone, hchange, hdrains⟩ := step_change hwf h
  rw [hdrains.clients] at hq
  apply hchange.mem_clients hq

/-- The clients after a message are those its handling leaves. -/
theorem message_clients {px px' : WebsocketProxy} {m : Message}
    (h : px.step (.processClientMessage (some m)) = some px') :
  px'.clients = ((px.taking m).handleClientMessage px.taken).1.clients
  := by
  rcases processClientMessage_cases (runHandler_of_step h) with ⟨-, rfl⟩ | ⟨-, rfl⟩
  · unfold caught
    split
    · rfl
    · rfl
  · rw [processNext_toTables, Tables.removeClosedSockets_clients]

/-- `Unregister` drops its sender. -/
theorem step_unregister {px px' : WebsocketProxy} {m : Message} {p : UInt64} (hwf : px.WellFormed)
    (h : px.step (.processClientMessage (some m)) = some px') (hm : m.Unregisters p) :
  p ∉ px'.clients
  := by
  obtain ⟨rfl, hm⟩ := hm
  have hhandled : m.pid ∉ ((px.taking m).handleClientMessage px.taken).1.clients := by
    rw [handleClientMessage, slots_taking, hm]
    simp only [unregisterClient]
    split
    case isTrue =>
      intro hmem
      have hunregisters := unregisterClientAt_unregisters (px.taking m) hwf m.pid
      exact ((hunregisters.mem_clients m.pid).mp hmem).2 (Finset.mem_singleton_self _)
    case isFalse hout => exact hout
  rw [message_clients h]
  exact hhandled

/-- `Register` registers its sender. -/
theorem step_register {px px' : WebsocketProxy} {m : Message} {p : UInt64}
    (h : px.step (.processClientMessage (some m)) = some px') (hm : m.Registers p) :
  p ∈ px'.clients
  := by
  obtain ⟨rfl, reg, hreg⟩ := hm
  have hhandled : m.pid ∈ ((px.taking m).handleClientMessage px.taken).1.clients := by
    rw [handleClientMessage, slots_taking, hreg]
    apply AList.mem_replace.mpr
    apply UnorderedMap.mem_emplace.mpr
    rw [slots_taking]
    apply Or.inl rfl
  rw [message_clients h]
  exact hhandled

/-- The clients that a step drops sent `Unregister`, or their heartbeats stopped. -/
theorem mem_departing {px : WebsocketProxy} {ev : Event} {q : UInt64} (h : q ∈ px.departing ev) :
  ev = .startHeartbeat ∧ q ∈ px.expired ∨
    ∃ m, ev = .processClientMessage (some m) ∧ m.Unregisters q
  := by
  cases ev with
  | startHeartbeat => exact Or.inl ⟨rfl, h⟩
  | processClientMessage msg =>
      right
      cases msg with
      | none => exact absurd h (Finset.notMem_empty q)
      | some m =>
          simp only [departing, received] at h
          split at h
          case h_1 pid hreceived =>
            split at hreceived
            case isTrue =>
              obtain ⟨rfl, hdata⟩ := Prod.mk.inj (Option.some.inj hreceived)
              use m, rfl, (Finset.mem_singleton.mp h).symm, hdata
            case isFalse => cases hreceived
          case h_2 => exact absurd h (Finset.notMem_empty q)
  | _ => exact absurd h (Finset.notMem_empty q)

/-- A change drops no other clients than those that depart. -/
theorem Change.departing_of_not_mem {px : WebsocketProxy} {ev : Event} {t : Tables}
    (h : Change px ev t) {q : UInt64} (hbefore : q ∈ px.clients) (hafter : q ∉ t.clients) :
  q ∈ px.departing ev
  := by
  cases h with
  | quiet hclients | attach hclients | create hclients | throw hclients | request hclients =>
      exact absurd ((hclients q).mpr hbefore) hafter
  | register hclients => exact absurd ((hclients q).mpr (Or.inr hbefore)) hafter
  | depart _ hclients =>
      by_contra hstays
      exact hafter ((hclients q).mpr ⟨hbefore, hstays⟩)
  | complete | enter | closed => exact absurd hbefore hafter
  | closeAll _ h =>
      rw [h.clients] at hafter
      exact absurd hbefore hafter

theorem step_departing {px px' : WebsocketProxy} {ev : Event} (hwf : px.WellFormed)
    (h : px.step ev = some px') {q : UInt64} (hbefore : q ∈ px.clients) (hafter : q ∉ px'.clients) :
  q ∈ px.departing ev
  := by
  obtain ⟨t, gone, hchange, hdrains⟩ := step_change hwf h
  rw [hdrains.clients] at hafter
  apply hchange.departing_of_not_mem hbefore hafter

/-- A client is registered only if it did not unregister since it registered. -/
theorem run_registered {pid : UInt64} {clock : ℕ → UInt64} {guard : WebsocketProxy → Event → Prop}
    {es : List Event} {px : WebsocketProxy} (h : system.RunUnder guard (start pid clock) es px)
    {q : UInt64} (hq : q ∈ px.clients) :
  Message.Registered q (messages es)
  := by
  induction h with
  | nil => exact absurd hq (AList.notMem_empty q)
  | @snoc es px ev px' hrun hguard hstep ih =>
      have hwf : px.WellFormed := reachable_wellFormed ⟨_, es, ⟨pid, clock, rfl⟩, hrun⟩
      rw [messages_snoc]
      rcases step_mem_clients hwf hstep hq with hbefore | ⟨m, rfl, hm⟩
      · cases htaken : ev.taken with
        | none =>
            rw [Option.toList_none, List.append_nil]
            apply ih hbefore
        | some m =>
            rw [Option.toList_some, Message.registered_concat]
            right
            use ih hbefore
            intro hm
            have hev : ev = .processClientMessage (some m) := by
              cases ev with
              | processClientMessage msg => exact congrArg Event.processClientMessage htaken
              | _ => cases htaken
            rw [hev] at hstep
            apply step_unregister hwf hstep hm hq
      · apply Message.registered_concat.mpr
        apply Or.inl hm

end WebsocketProxy
