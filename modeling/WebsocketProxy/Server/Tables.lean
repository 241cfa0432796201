import WebsocketProxy.Websocket.Lifecycle
import WebsocketProxy.Server.Basic

/-!
# What the operations on the tables do

`Tables.Departs` says in one form what the departures of clients do, whichever of the
operations they come from: each stored connection loses the clients that depart from it,
and the connections left without clients are closed and dropped. `closeWs` is the departure
of a client from one connection, the loops of `unregisterClient` that from all connections,
and departures one after the other are one departure.
-/

namespace Websocket

/-- The connection after the clients in `dep` left, closed if no client remains. -/
def leave (ws : Websocket) (dep : Finset UInt64) : Websocket :=
  if ws.clients ⊆ dep then { ws with clients := ws.clients \ dep }.close
  else { ws with clients := ws.clients \ dep }

/-- `leave` changes the clients, and the rest as `close` does. -/
theorem leave_frame (ws : Websocket) (dep : Finset UInt64) :
  ws.leave dep = { ws with
    clients := ws.clients \ dep, status := (ws.leave dep).status
    closesStarted := (ws.leave dep).closesStarted }
  := by
  unfold leave
  split
  · rw [close_frame]
  · rfl

@[simp]
theorem leave_clients (ws : Websocket) (dep : Finset UInt64) :
  (ws.leave dep).clients = ws.clients \ dep
  := by rw [leave_frame]

@[simp]
theorem leave_subscriptions (ws : Websocket) (dep : Finset UInt64) :
  (ws.leave dep).subscriptions = ws.subscriptions
  := by rw [leave_frame]

@[simp]
theorem leave_id (ws : Websocket) (dep : Finset UInt64) :
  (ws.leave dep).id = ws.id
  := by rw [leave_frame]

@[simp]
theorem leave_key (ws : Websocket) (dep : Finset UInt64) :
  (ws.leave dep).key = ws.key
  := by rw [leave_frame]; rfl

@[simp]
theorem leave_opening (ws : Websocket) (dep : Finset UInt64) :
  (ws.leave dep).opening = ws.opening
  := by rw [leave_frame]

@[simp]
theorem leave_closesDone (ws : Websocket) (dep : Finset UInt64) :
  (ws.leave dep).closesDone = ws.closesDone
  := by rw [leave_frame]

/-- A connection all clients of which leave is closing. -/
theorem closing_leave {ws : Websocket} {dep : Finset UInt64} (h : ws.clients ⊆ dep) :
  (ws.leave dep).Closing
  := by
  rw [leave, if_pos h]
  apply closing_close

/-- A connection some client of which stays only loses the clients that leave. -/
theorem leave_of_not_subset {ws : Websocket} {dep : Finset UInt64} (h : ¬ ws.clients ⊆ dep) :
  ws.leave dep = { ws with clients := ws.clients \ dep }
  := if_neg h

/-- Leaving in two groups is leaving at once, if some client stays at first. -/
theorem leave_leave {ws : Websocket} {dep dep' : Finset UInt64} (h : ¬ ws.clients ⊆ dep) :
  (ws.leave dep).leave dep' = ws.leave (dep ∪ dep')
  := by
  have hunion : (ws.clients \ dep) \ dep' = ws.clients \ (dep ∪ dep') := sdiff_sdiff_left
  have hsub : ws.clients \ dep ⊆ dep' ↔ ws.clients ⊆ dep ∪ dep' := sdiff_le_iff
  rw [leave_of_not_subset h]
  simp only [leave, hunion, hsub]

/-- After all clients left, further ones leave nothing to do. -/
theorem leave_union_of_subset {ws : Websocket} {dep dep' : Finset UInt64}
    (h : ws.clients ⊆ dep) :
  ws.leave (dep ∪ dep') = ws.leave dep
  := by
  have h' : ws.clients ⊆ dep ∪ dep' := h.trans Finset.subset_union_left
  rw [leave, leave, if_pos h, if_pos h', Finset.sdiff_eq_empty_iff_subset.mpr h,
    Finset.sdiff_eq_empty_iff_subset.mpr h']

theorem leave_empty {ws : Websocket} (h : ws.clients.Nonempty) :
  ws.leave ∅ = ws
  := by
  rw [leave_of_not_subset, Finset.sdiff_empty]
  rw [Finset.subset_empty]
  apply h.ne_empty

end Websocket

namespace Tables

/-! ### Well-formed tables -/

/-- The connection is stored in `websocketsById`. -/
def Stored (t : Tables) (r : ℕ) : Prop := ∃ id, t.websocketsById.lookup id = some r

/-- Tables as they are in every state of the server. -/
structure WellFormed (t : Tables) : Prop where
  /-- References no connection was constructed at. -/
  blank : ∀ r, t.opens ≤ r → t.sockets r = Websocket.blank
  /-- Connections are stored under their ids. -/
  byId : ∀ id r, t.websocketsById.lookup id = some r → (t.sockets r).id = id
  /-- Stored connections were constructed. -/
  lt_opens : ∀ r, t.Stored r → r < t.opens
  /-- Stored connections were opened. -/
  opened : ∀ r, t.Stored r → (t.sockets r).opening = none
  /-- Stored connections have clients. -/
  nonempty : ∀ r, t.Stored r → (t.sockets r).clients.Nonempty
  /-- Connections found by url and key were constructed. -/
  byKey_lt_opens : ∀ k r, t.websocketsByUrlApiKey.lookup k = some r → r < t.opens
  /-- Connections found by url and key were opened. -/
  byKey_opened : ∀ k r, t.websocketsByUrlApiKey.lookup k = some r → (t.sockets r).opening = none

/-- No connection is constructed when stored connections change. -/
theorem WellFormed.blank_of_unstored {t t' : Tables} (ht : t.WellFormed) (hopens : t'.opens = t.opens)
    (hunstored : ∀ r, ¬ t.Stored r → t'.sockets r = t.sockets r) (r : ℕ) (hr : t'.opens ≤ r) :
  t'.sockets r = Websocket.blank
  := by
  rw [hopens] at hr
  rw [hunstored r]
  · apply ht.blank r hr
  · intro hs
    apply absurd (ht.lt_opens r hs)
    omega

@[simp]
theorem modifySocket_self (t : Tables) (r : ℕ) (f : Websocket → Websocket) :
  (t.modifySocket r f).sockets r = f (t.sockets r)
  := Function.update_self ..

theorem modifySocket_of_ne {r r' : ℕ} (h : r' ≠ r) (t : Tables) (f : Websocket → Websocket) :
  (t.modifySocket r f).sockets r' = t.sockets r'
  := Function.update_of_ne h ..

/-! ### Departures -/

/-- `t'` is `t` after the clients in `dep r` departed from each stored connection `r`. -/
structure Departs (t t' : Tables) (dep : ℕ → Finset UInt64) : Prop where
  stored : ∀ r, t.Stored r → t'.sockets r = (t.sockets r).leave (dep r)
  unstored : ∀ r, ¬ t.Stored r → t'.sockets r = t.sockets r
  byId : ∀ id r, t'.websocketsById.lookup id = some r ↔
    t.websocketsById.lookup id = some r ∧ ¬ (t.sockets r).clients ⊆ dep r
  byKey : ∀ k r, t'.websocketsByUrlApiKey.lookup k = some r ↔
    t.websocketsByUrlApiKey.lookup k = some r ∧
      ∀ r', t.Stored r' → (t.sockets r').clients ⊆ dep r' → (t.sockets r').key ≠ k
  closedSockets : t'.closedSockets = t.closedSockets
  closedSocketsIndex : t'.closedSocketsIndex = t.closedSocketsIndex
  websocketId : t'.websocketId = t.websocketId
  opens : t'.opens = t.opens

/-- A connection is stored as long as it is found under an id. -/
theorem stored_iff_of_byId {t t' : Tables} {gone : ℕ → Prop}
    (hbyId : ∀ id r, t'.websocketsById.lookup id = some r ↔
      t.websocketsById.lookup id = some r ∧ ¬ gone r) (r : ℕ) :
  t'.Stored r ↔ t.Stored r ∧ ¬ gone r
  := by
  constructor
  · rintro ⟨id, hid⟩
    obtain ⟨hid, hstay⟩ := (hbyId id r).mp hid
    use ⟨id, hid⟩
  · rintro ⟨⟨id, hid⟩, hstay⟩
    use id
    apply (hbyId id r).mpr ⟨hid, hstay⟩

/-- After a departure those connections are stored of which some client stayed. -/
theorem Departs.stored_iff {t t' : Tables} {dep : ℕ → Finset UInt64} (h : t.Departs t' dep)
    (r : ℕ) :
  t'.Stored r ↔ t.Stored r ∧ ¬ (t.sockets r).clients ⊆ dep r
  := stored_iff_of_byId h.byId r

/-- Only the departures from stored connections matter. -/
theorem Departs.congr {t t' : Tables} {dep dep' : ℕ → Finset UInt64} (h : t.Departs t' dep)
    (heq : ∀ r, t.Stored r → dep r = dep' r) :
  t.Departs t' dep'
  := by
  constructor
  · intro r hr
    rw [h.stored r hr, heq r hr]
  · apply h.unstored
  · intro id r
    rw [h.byId]
    apply and_congr_right
    intro hid
    rw [heq r ⟨id, hid⟩]
  · intro k r
    rw [h.byKey]
    apply and_congr_right
    intro _
    apply forall₂_congr
    intro r' hr'
    rw [heq r' hr']
  · apply h.closedSockets
  · apply h.closedSocketsIndex
  · apply h.websocketId
  · apply h.opens

/-- A departure of nobody changes nothing. -/
theorem Departs.refl {t : Tables} (ht : t.WellFormed) {dep : ℕ → Finset UInt64}
    (hdep : ∀ r, t.Stored r → dep r = ∅) :
  t.Departs t dep
  := by
  have hstay : ∀ r, t.Stored r → ¬ (t.sockets r).clients ⊆ dep r := by
    intro r hr
    rw [hdep r hr, Finset.subset_empty]
    apply (ht.nonempty r hr).ne_empty
  constructor
  · intro r hr
    rw [hdep r hr, Websocket.leave_empty (ht.nonempty r hr)]
  · intro r _
    rfl
  · intro id r
    constructor
    · intro hid
      use hid
      apply hstay r ⟨id, hid⟩
    · rintro ⟨hid, -⟩
      apply hid
  · intro k r
    constructor
    · intro hk
      use hk
      intro r' hr' hsub
      apply absurd hsub (hstay r' hr')
    · rintro ⟨hk, -⟩
      apply hk
  all_goals rfl

/-- Two departures are one. -/
theorem Departs.trans {t t' t'' : Tables} {dep dep' : ℕ → Finset UInt64}
    (h : t.Departs t' dep) (h' : t'.Departs t'' dep') :
  t.Departs t'' (fun r => dep r ∪ dep' r)
  := by
  have hclients : ∀ r, t.Stored r → (t'.sockets r).clients = (t.sockets r).clients \ dep r := by
    intro r hr
    rw [h.stored r hr, Websocket.leave_clients]
  have hsub : ∀ r, t.Stored r →
      ((t.sockets r).clients ⊆ dep r ∪ dep' r ↔ (t'.sockets r).clients ⊆ dep' r) := by
    intro r hr
    rw [hclients r hr]
    apply sdiff_le_iff.symm
  constructor
  · intro r hr
    by_cases hleft : (t.sockets r).clients ⊆ dep r
    · have hr' : ¬ t'.Stored r := fun hr' => ((h.stored_iff r).mp hr').2 hleft
      rw [h'.unstored r hr', h.stored r hr, Websocket.leave_union_of_subset hleft]
    · have hr' : t'.Stored r := (h.stored_iff r).mpr ⟨hr, hleft⟩
      rw [h'.stored r hr', h.stored r hr, Websocket.leave_leave hleft]
  · intro r hr
    have hr' : ¬ t'.Stored r := fun hr' => hr ((h.stored_iff r).mp hr').1
    rw [h'.unstored r hr', h.unstored r hr]
  · intro id r
    rw [h'.byId, h.byId]
    constructor
    · rintro ⟨⟨hid, -⟩, hstay⟩
      use hid
      rw [hsub r ⟨id, hid⟩]
      apply hstay
    · rintro ⟨hid, hstay⟩
      constructor
      · use hid
        intro hleft
        apply hstay (hleft.trans Finset.subset_union_left)
      · rw [← hsub r ⟨id, hid⟩]
        apply hstay
  · intro k r
    rw [h'.byKey, h.byKey]
    constructor
    · rintro ⟨⟨hk, hfirst⟩, hsecond⟩
      use hk
      intro r' hr' hall
      by_cases hleft : (t.sockets r').clients ⊆ dep r'
      · apply hfirst r' hr' hleft
      · have hr'' : t'.Stored r' := (h.stored_iff r').mpr ⟨hr', hleft⟩
        have := hsecond r' hr'' ((hsub r' hr').mp hall)
        rw [h.stored r' hr', Websocket.leave_key] at this
        apply this
    · rintro ⟨hk, hall⟩
      constructor
      · use hk
        intro r' hr' hleft
        apply hall r' hr' (hleft.trans Finset.subset_union_left)
      · intro r' hr'' hleft
        have hr' := ((h.stored_iff r').mp hr'').1
        rw [h.stored r' hr', Websocket.leave_key]
        apply hall r' hr' ((hsub r' hr').mpr hleft)
  · rw [h'.closedSockets, h.closedSockets]
  · rw [h'.closedSocketsIndex, h.closedSocketsIndex]
  · rw [h'.websocketId, h.websocketId]
  · rw [h'.opens, h.opens]

/-- Departures keep tables well formed. -/
theorem Departs.wellFormed {t t' : Tables} {dep : ℕ → Finset UInt64} (h : t.Departs t' dep)
    (ht : t.WellFormed) :
  t'.WellFormed
  := by
  have hstored : ∀ r, t'.Stored r → t.Stored r := fun r hr => ((h.stored_iff r).mp hr).1
  constructor
  · apply ht.blank_of_unstored h.opens h.unstored
  · intro id r hid
    obtain ⟨hid, -⟩ := (h.byId id r).mp hid
    rw [h.stored r ⟨id, hid⟩, Websocket.leave_id]
    apply ht.byId id r hid
  · intro r hr
    rw [h.opens]
    apply ht.lt_opens r (hstored r hr)
  · intro r hr
    rw [h.stored r (hstored r hr), Websocket.leave_opening]
    apply ht.opened r (hstored r hr)
  · intro r hr
    obtain ⟨hr, hstay⟩ := (h.stored_iff r).mp hr
    rw [h.stored r hr, Websocket.leave_clients]
    apply Finset.sdiff_nonempty.mpr hstay
  · intro k r hk
    rw [h.opens]
    apply ht.byKey_lt_opens k r ((h.byKey k r).mp hk).1
  · intro k r hk
    have hopened := ht.byKey_opened k r ((h.byKey k r).mp hk).1
    by_cases hr : t.Stored r
    · rw [h.stored r hr, Websocket.leave_opening]
      apply hopened
    · rw [h.unstored r hr]
      apply hopened

end Tables
