import WebsocketProxy.Server.LifeCycle
import WebsocketProxy.Server.Membership

/-!
# Connections that are drained

A connection that is closed leaves the tables by way of `closed_sockets_`: its id is put
there when its close completes, and read when `removeClosedSockets` runs. The ring does not
wait for its reader. As long as no id that is put in laps the reader, each stored connection
that is disconnecting has its close outstanding, each that is disconnected has its id where
it is read, and a drain leaves none of these behind. An id that laps the reader takes all
those with it that were not read.
-/

namespace Websocket

/-- A connection is disconnected by the completion of its close only. -/
theorem complete_disconnected {ws ws' : Websocket} {c : Completion} {calls : List Callback}
    (hc : ws.complete c = some (ws', calls)) (hclose : ∀ ec, c ≠ .close ec)
    (hstatus : ws'.status = .disconnected) :
  ws.status = .disconnected
  := by
  have hlife : SameLife ws ws' ∨ SameLife ws.close ws' → ws.status = .disconnected := by
    rintro (hsame | hclosed)
    · rw [← hsame.status, hstatus]
    · have hdisconnected : ws.close.status = .disconnected := by rw [← hclosed.status, hstatus]
      rcases em ws.Closing with h | h
      · rw [close_of_closing h] at hdisconnected
        exact hdisconnected
      · rw [close_of_not_closing h] at hdisconnected
        cases hdisconnected
  cases c with
  | resumed result =>
      simp only [complete, Option.bind_eq_some_iff] at hc
      obtain ⟨⟨stage, msg⟩, hopening, hc⟩ := hc
      unfold openResume at hc
      split at hc <;> simp only [fail, Websocket.close] at hc <;> grind
  | read result => exact hlife (complete_life hc (by rintro _ ⟨⟩) (by rintro _ ⟨⟩))
  | write i ec => exact hlife (complete_life hc (by rintro _ ⟨⟩) (by rintro _ ⟨⟩))
  | close ec => exact absurd rfl (hclose ec)

theorem close_disconnected {ws : Websocket} (h : ws.close.status = .disconnected) :
  ws.status = .disconnected
  := by
  rcases em ws.Closing with hclosing | hnot
  · rw [close_of_closing hclosing] at h
    exact h
  · rw [close_of_not_closing hnot] at h
    cases h

/-- The handler of the close tells the proxy that the connection is closed. -/
theorem complete_close {ws ws' : Websocket} {ec : Option ErrorCode} {calls : List Callback}
    (hc : ws.complete (.close ec) = some (ws', calls)) :
  ∃ errors, (∀ call ∈ errors, call.Silent) ∧ calls = errors ++ [.onWsClosed] ∧
    ws'.status = .disconnected ∧ 0 < ws'.closesDone
  := by
  have hspec := complete_spec hc
  rcases hspec.calls with ⟨_, _, ⟨⟩, _⟩ | ⟨ec', errors, -, hsilent, hcalls, hstatus, hdone, -⟩ |
    ⟨hsilent, -⟩
  · use errors, hsilent, hcalls, hstatus
    omega
  · have hmem : Callback.onWsClosed ∈ calls := by
      simp only [complete] at hc
      split at hc
      case isTrue =>
        have hcalls := congrArg Prod.snd (Option.some.inj hc)
        obtain rfl : _ = calls := hcalls
        apply List.mem_append_right _ (List.mem_singleton_self _)
      case isFalse => cases hc
    cases hsilent _ hmem

/-- The close of a disconnecting connection is outstanding. -/
theorem Lived.outstanding {ws : Websocket} {moves : List Status} (h : Lived ws moves)
    (hstatus : ws.status = .disconnecting) :
  ws.closesDone < ws.closesStarted
  := by
  cases h with
  | unopened hstatus' | connecting hstatus' | connected hstatus' | disconnected _ hstatus' =>
      rw [hstatus] at hstatus'
      cases hstatus'
  | disconnecting => omega

/-- A connection is not disconnected while its handshake is going on. -/
theorem Lived.not_disconnected {ws : Websocket} {moves : List Status} (h : Lived ws moves)
    {msg : ℕ} (hopening : ws.opening = some (.handshake, msg)) :
  ws.status ≠ .disconnected
  := by
  cases h with
  | unopened _ hspawned => cases hspawned _ _ hopening
  | connecting hstatus =>
      rw [hstatus]
      rintro ⟨⟩
  | connected _ hopened | disconnecting _ _ hopened | disconnected _ _ hopened =>
      rw [hopened] at hopening
      cases hopening

end Websocket

namespace Tables

/-- No closing connection is lost: while it is disconnecting its close is outstanding, and
when it is disconnected its id is among those the next drain reads. -/
structure Tracks (t : Tables) : Prop where
  disconnecting : ∀ r, t.Stored r → (t.sockets r).status = .disconnecting →
    (t.sockets r).closesDone < (t.sockets r).closesStarted
  disconnected : ∀ r, t.Stored r → (t.sockets r).status = .disconnected →
    (t.sockets r).id ∈ t.closedSockets.unread t.closedSocketsIndex

/-- The ring has its last elements, and its reader is not past them. -/
structure ReadsRing (t : Tables) : Prop where
  filled : t.closedSockets.Filled
  index_le : t.closedSocketsIndex ≤ t.closedSockets.reserved

/-! ### Drains -/

theorem lookup_removeClosed (t : Tables) (id id' : UInt64) :
  (t.removeClosed id).websocketsById.lookup id'
    = if id' = id then none else t.websocketsById.lookup id'
  := by
  unfold removeClosed
  split
  case h_1 hnone =>
    split
    case isTrue h => rw [h, hnone]
    case isFalse => rfl
  case h_2 => apply UnorderedMap.lookup_erase_eq

theorem removeClosed_ring (t : Tables) (id : UInt64) :
  (t.removeClosed id).closedSockets = t.closedSockets ∧
    (t.removeClosed id).closedSocketsIndex = t.closedSocketsIndex
  := by
  unfold removeClosed
  split
  · exact ⟨rfl, rfl⟩
  · exact ⟨rfl, rfl⟩

/-- The rounds of a drain erase the ids that are read. -/
theorem lookup_removeClosedLoop (n : ℕ) (id : UInt64) :
  ∀ t : Tables, (t.removeClosedLoop n).websocketsById.lookup id
    = if id ∈ t.closedSockets.readAll n t.closedSocketsIndex then none
      else t.websocketsById.lookup id
  := by
  induction n with
  | zero =>
      intro t
      rfl
  | succ n ih =>
      intro t
      rw [removeClosedLoop, RingQueue.readAll]
      cases hread : t.closedSockets.read t.closedSocketsIndex with
      | none => rfl
      | some p =>
          obtain ⟨v, j⟩ := p
          obtain ⟨hring, hindex⟩ := removeClosed_ring { t with closedSocketsIndex := j } v
          dsimp only
          rw [ih, hring, hindex, lookup_removeClosed]
          dsimp only
          rcases eq_or_ne id v with rfl | hne
          · rw [if_pos rfl, ite_self, if_pos List.mem_cons_self]
          · rw [if_neg hne]
            apply if_congr _ rfl rfl
            rw [List.mem_cons, or_iff_right hne]

theorem lookup_removeClosedSockets (t : Tables) (id : UInt64) :
  t.removeClosedSockets.websocketsById.lookup id
    = if id ∈ t.closedSockets.unread t.closedSocketsIndex then none
      else t.websocketsById.lookup id
  := lookup_removeClosedLoop _ id t

theorem ReadsRing.removeClosedLoop (n : ℕ) :
  ∀ {t : Tables}, t.ReadsRing → (t.removeClosedLoop n).ReadsRing
  := by
  induction n with
  | zero => exact id
  | succ n ih =>
      intro t ht
      rw [Tables.removeClosedLoop]
      split
      case h_1 => exact ht
      case h_2 v j hread =>
        obtain ⟨hring, hindex⟩ := removeClosed_ring { t with closedSocketsIndex := j } v
        apply ih
        constructor
        · rw [hring]
          apply ht.filled
        · rw [hring, hindex]
          exact (RingQueue.read_eq_some hread).2.2

/-- After a drain no stored connection is disconnected. -/
theorem Tracks.drained {t : Tables} (h : t.Tracks) (ht : t.WellFormed) {r : ℕ}
    (hr : t.removeClosedSockets.Stored r) :
  t.Stored r ∧ (t.removeClosedSockets.sockets r).status ≠ .disconnected
  := by
  obtain ⟨id, hid⟩ := hr
  rw [lookup_removeClosedSockets] at hid
  split at hid
  case isTrue => cases hid
  case isFalse hnot =>
    use ⟨id, hid⟩
    rw [removeClosedSockets_sockets]
    intro hstatus
    apply hnot
    rw [← ht.byId id r hid]
    exact h.disconnected r ⟨id, hid⟩ hstatus

/-- Nothing is lost by a drain. -/
theorem Tracks.removeClosedSockets {t : Tables} (h : t.Tracks) (ht : t.WellFormed) :
  t.removeClosedSockets.Tracks
  := by
  constructor
  · intro r hr hstatus
    rw [removeClosedSockets_sockets] at hstatus ⊢
    apply h.disconnecting r (h.drained ht hr).1 hstatus
  · intro r hr hstatus
    exact absurd hstatus (h.drained ht hr).2

theorem closeAll_closedSocketsIndex (t : Tables) :
  t.closeAll.closedSocketsIndex = t.closedSocketsIndex
  := by
  apply List.foldlRecOn (motive := fun t' : Tables => t'.closedSocketsIndex = t.closedSocketsIndex)
  · rfl
  · exact fun t' h kvp _ => h

end Tables

namespace WebsocketProxy

/-! ### Steps -/

/-- The id that a close puts in `closed_sockets_` does not lap the reader, or no other id of
a disconnected connection is lost with it. -/
def LosesNone (px : WebsocketProxy) : Event → Prop
  | .complete r (.close _) => px.closedSockets.Laps px.closedSocketsIndex →
      ∀ kvp ∈ px.websocketsById.entries,
        (px.sockets kvp.2).status = .disconnected → kvp.1 = (px.sockets r).id
  | _ => True

instance (px : WebsocketProxy) (ev : Event) : Decidable (px.LosesNone ev) :=
  match ev with
  | .complete _ (.close _) => inferInstanceAs (Decidable (_ → ∀ kvp ∈ _, _ → _))
  | .complete _ (.resumed _) | .complete _ (.read _) | .complete _ (.write _ _)
  | .processClientMessage _ | .startHeartbeat | .signal | .shutdownClosure | .stopClosure
  | .timerHandler | .slotReused _ _ | .rehash _ _ _ => inferInstanceAs (Decidable True)

/-- A close puts the id of the connection in `closed_sockets_`. -/
theorem close_toTables {px px' : WebsocketProxy} {r : ℕ} {ec : Option ErrorCode}
    (h : px.step (.complete r (.close ec)) = some px') :
  ∃ ws, ws.id = (px.sockets r).id ∧ ws.status = .disconnected ∧ 0 < ws.closesDone ∧
    px'.toTables = { px.modifySocket r (fun _ => ws) with
      closedSockets := px.closedSockets.push ws.id }
  := by
  obtain ⟨⟨ws, calls⟩, hcomplete, rfl⟩ := Option.map_eq_some_iff.mp (runHandler_of_step h)
  obtain ⟨errors, hsilent, rfl, hstatus, hdone⟩ := Websocket.complete_close hcomplete
  use ws, (Websocket.complete_spec hcomplete).id, hstatus, hdone
  apply perform_closed_toTables px r ws hsilent

/-- The closure of `shutdown` closes all connections. -/
theorem shutdownClosure_toTables {px px' : WebsocketProxy}
    (h : px.step .shutdownClosure = some px') :
  px'.toTables = px.closeAll
  := by
  cases ran_of_step h with
  | shutdownClosure => rfl

/-- Only closes put ids in `closed_sockets_`, and only drains read them. -/
theorem Change.ring {px : WebsocketProxy} {ev : Event} {t : Tables} (h : Change px ev t)
    (hclose : ∀ r ec, ev ≠ .complete r (.close ec)) (hshutdown : ev ≠ .shutdownClosure) :
  t.closedSockets = px.closedSockets ∧ t.closedSocketsIndex = px.closedSocketsIndex
  := by
  cases h with
  | quiet | register | attach | create | throw | request | complete | enter => exact ⟨rfl, rfl⟩
  | depart h => exact ⟨h.closedSockets, h.closedSocketsIndex⟩
  | @closed r c ws calls hev hcomplete _ hstatus hdone =>
      rcases (Websocket.complete_spec hcomplete).calls with ⟨_, _, -, -, -, hws⟩ |
        ⟨ec, _, rfl, -⟩ | ⟨-, hsame, -⟩
      · rw [hws] at hstatus
        cases hstatus
      · exact absurd hev (hclose r ec)
      · omega
  | closeAll hev => exact absurd hev hshutdown

/-- What other steps than a close leave disconnected was so. -/
theorem SocketChange.disconnected {px : WebsocketProxy} {ev : Event} {r : ℕ} {ws : Websocket}
    (h : SocketChange px ev r ws) (hclose : ∀ ec, ev ≠ .complete r (.close ec))
    (hr : r < px.opens) (hstatus : ws.status = .disconnected) :
  (px.sockets r).status = .disconnected
  := by
  have hcomplete : ∀ {c ws calls}, ev = .complete r c →
      (px.sockets r).complete c = some (ws, calls) → ws.status = .disconnected →
      (px.sockets r).status = .disconnected := by
    rintro c ws calls rfl hc hstatus
    apply Websocket.complete_disconnected hc _ hstatus
    rintro ec rfl
    apply hclose ec rfl
  cases h with
  | same | attach => exact hstatus
  | leave =>
      unfold Websocket.leave at hstatus
      split at hstatus
      · have hbefore := Websocket.close_disconnected hstatus
        exact hbefore
      · exact hstatus
  | create hnew => omega
  | request =>
      rw [foldl_send_frame] at hstatus
      exact hstatus
  | complete hev hc => exact hcomplete hev hc hstatus
  | enter hev hc => exact hcomplete hev hc hstatus
  | close => exact Websocket.close_disconnected hstatus

/-- A connection that is stored and disconnected after a change other than by a close was so
before. -/
theorem Change.disconnected {px : WebsocketProxy} {ev : Event} {t : Tables}
    (h : Change px ev t) (hclose : ∀ r ec, ev ≠ .complete r (.close ec)) (hwf : px.WellFormed)
    (hlived : ∀ r, ∃ moves, (px.sockets r).Lived moves) {r : ℕ} (hr : t.Stored r)
    (hstatus : (t.sockets r).status = .disconnected) :
  px.Stored r ∧ (px.sockets r).status = .disconnected
  := by
  have hdisconnected : r < px.opens → (px.sockets r).status = .disconnected :=
    fun hlt => (h.socket r).disconnected (hclose r) hlt hstatus
  rcases h.stored hr with hr | ⟨msg, hentering⟩
  · use hr
    apply hdisconnected (hwf.lt_opens r hr)
  · obtain ⟨-, hopening⟩ := entering_eq_some hentering
    have hlt : r < px.opens := by
      by_contra hge
      rw [hwf.blank r (by omega)] at hopening
      cases hopening
    obtain ⟨moves, hlived⟩ := hlived r
    exact absurd (hdisconnected hlt) (hlived.not_disconnected hopening)

/-- Steps keep the reader of the ring behind. -/
theorem readsRing_step {px px' : WebsocketProxy} {ev : Event} (hpx : px.ReadsRing)
    (hwf : px.WellFormed) (h : px.step ev = some px') :
  px'.ReadsRing
  := by
  have hother : (∀ r ec, ev ≠ .complete r (.close ec)) → ev ≠ .shutdownClosure →
      px'.ReadsRing := by
    intro hclose hshutdown
    obtain ⟨t, hchange, htables⟩ := step_tables hwf h
    obtain ⟨hring, hindex⟩ := hchange.ring hclose hshutdown
    have ht : t.ReadsRing := by
      constructor
      · rw [hring]
        apply hpx.filled
      · rw [hring, hindex]
        apply hpx.index_le
    rw [htables]
    split
    case isTrue => exact ht.removeClosedLoop _
    case isFalse => exact ht
  rcases em (∃ r ec, ev = .complete r (.close ec)) with ⟨r, ec, rfl⟩ | hclose
  · obtain ⟨ws, -, -, -, htables⟩ := close_toTables h
    rw [htables]
    constructor
    · apply hpx.filled.push ws.id
    · apply Nat.le_succ_of_le hpx.index_le
  · rcases eq_or_ne ev .shutdownClosure with rfl | hshutdown
    · rw [shutdownClosure_toTables h]
      constructor
      · rw [(Tables.closeAll_closesAll px.toTables).closedSockets]
        apply hpx.filled
      · rw [(Tables.closeAll_closesAll px.toTables).closedSockets,
          Tables.closeAll_closedSocketsIndex]
        apply hpx.index_le
    · exact hother (fun r ec hev => hclose ⟨r, ec, hev⟩) hshutdown

/-- A close loses a connection if and only if the id it puts in `closed_sockets_` takes another
one with it. -/
theorem close_tracks_iff {px px' : WebsocketProxy} {r : ℕ} {ec : Option ErrorCode}
    (hpx : px.Tracks) (hring : px.ReadsRing) (hwf : px.WellFormed)
    (hlived : ∀ r, ∃ moves, (px'.sockets r).Lived moves)
    (h : px.step (.complete r (.close ec)) = some px') :
  px'.Tracks ↔ px.LosesNone (.complete r (.close ec))
  := by
  obtain ⟨ws, hid, hstatus, -, htables⟩ := close_toTables h
  have hunread : px'.closedSockets.unread px'.closedSocketsIndex
      = (px.closedSockets.push ws.id).unread px.closedSocketsIndex := by
    rw [htables]
    rfl
  have hstored : ∀ {r'}, px'.Stored r' ↔ px.Stored r' := by
    intro r'
    rw [htables]
    rfl
  have hself : px'.sockets r = ws := by
    rw [htables]
    exact Tables.modifySocket_self px.toTables r (fun _ => ws)
  have hother : ∀ {r'}, r' ≠ r → px'.sockets r' = px.sockets r' := by
    intro r' hne
    rw [htables]
    exact Tables.modifySocket_of_ne hne px.toTables (fun _ => ws)
  constructor
  · rintro hpx' hlaps ⟨id, r'⟩ hkvp hdisconnected
    have hr' := UnorderedMap.mem_entries_iff.mp hkvp
    rw [← hwf.byId id r' hr']
    rcases eq_or_ne r' r with rfl | hne
    · rfl
    · have hmem := hpx'.disconnected r' (hstored.mpr ⟨id, hr'⟩) (by
        rw [hother hne]
        apply hdisconnected)
      rw [hunread, hlaps.unread_push hring.index_le, hother hne, List.mem_singleton, hid] at hmem
      exact hmem
  · intro hloses
    constructor
    · intro r' _ hdisconnecting
      obtain ⟨moves, hlived⟩ := hlived r'
      apply hlived.outstanding hdisconnecting
    · intro r' hr' hdisconnected
      rw [hunread]
      rcases em (px.closedSockets.Laps px.closedSocketsIndex) with hlaps | hnot
      · rw [hlaps.unread_push hring.index_le, List.mem_singleton]
        rcases eq_or_ne r' r with rfl | hne
        · rw [hself]
        · rw [hother hne] at hdisconnected ⊢
          obtain ⟨id, hr'⟩ := hstored.mp hr'
          rw [hwf.byId id r' hr', hid]
          exact hloses hlaps ⟨id, r'⟩ (UnorderedMap.mem_entries_iff.mpr hr') hdisconnected
      · rw [hring.filled.unread_push (by decide) hring.index_le hnot, List.mem_append]
        rcases eq_or_ne r' r with rfl | hne
        · right
          rw [hself]
          apply List.mem_singleton_self
        · left
          rw [hother hne] at hdisconnected ⊢
          apply hpx.disconnected r' (hstored.mp hr') hdisconnected

/-- Other steps lose no connection, and when they drop closed connections, they leave none
that is disconnected. -/
theorem tracks_step {px px' : WebsocketProxy} {ev : Event} (hpx : px.Tracks)
    (hwf : px.WellFormed) (hlived : ∀ r, ∃ moves, (px.sockets r).Lived moves)
    (hlived' : ∀ r, ∃ moves, (px'.sockets r).Lived moves)
    (hclose : ∀ r ec, ev ≠ .complete r (.close ec)) (h : px.step ev = some px') :
  px'.Tracks ∧ (px.drains ev → ∀ r, px'.Stored r → (px'.sockets r).status ≠ .disconnected)
  := by
  rcases eq_or_ne ev .shutdownClosure with rfl | hshutdown
  · have hnone : ∀ r, ¬ px'.Stored r := by
      intro r hr
      rw [shutdownClosure_toTables h] at hr
      exact (((Tables.closeAll_closesAll px.toTables).stored_iff r).mp hr).2 trivial
    constructor
    · constructor
      · exact fun r hr => absurd hr (hnone r)
      · exact fun r hr => absurd hr (hnone r)
    · exact fun _ r hr => absurd hr (hnone r)
  · obtain ⟨t, hchange, htables⟩ := step_tables hwf h
    obtain ⟨hring, hindex⟩ := hchange.ring hclose hshutdown
    have hsockets : px'.sockets = t.sockets := by
      rw [htables]
      split
      · apply Tables.removeClosedSockets_sockets
      · rfl
    have ht : t.Tracks := by
      constructor
      · intro r _ hstatus
        obtain ⟨moves, hlived⟩ := hlived' r
        rw [hsockets] at hlived
        apply hlived.outstanding hstatus
      · intro r hr hstatus
        obtain ⟨hbefore, hstatus⟩ := hchange.disconnected hclose hwf hlived hr hstatus
        have hid := ((hchange.socket r).frame hwf (hwf.lt_opens r hbefore)).id
        rw [hring, hindex, hid]
        apply hpx.disconnected r hbefore hstatus
    have hwf' := hchange.wellFormed hwf
    constructor
    · rw [htables]
      split
      · apply ht.removeClosedSockets hwf'
      · exact ht
    · intro hdrains r hr
      rw [htables, if_pos hdrains] at hr ⊢
      exact (ht.drained hwf' hr).2

/-! ### Runs -/

theorem reachable_lived {guard : WebsocketProxy → Event → Prop} {px : WebsocketProxy}
    (h : system.ReachableUnder guard px) (r : ℕ) :
  ∃ moves, (px.sockets r).Lived moves
  := by
  obtain ⟨_, es, ⟨pid, clock, rfl⟩, hrun⟩ := h
  exact ⟨_, run_lived hrun r⟩

theorem reachable_readsRing {guard : WebsocketProxy → Event → Prop} {px : WebsocketProxy}
    (h : system.ReachableUnder guard px) :
  px.ReadsRing
  := by
  apply h.invariant (I := fun px => px.ReadsRing)
  · rintro px ⟨pid, clock, rfl⟩
    exact ⟨RingQueue.filled_empty, Nat.le_refl 0⟩
  · intro px ev px' hreachable hpx _ hstep
    apply readsRing_step hpx (reachable_wellFormed hreachable) hstep

/-- A step loses no connection if and only if no id it puts in `closed_sockets_` takes another
one with it. -/
theorem tracks_iff_losesNone {guard : WebsocketProxy → Event → Prop} {px px' : WebsocketProxy}
    {ev : Event} (hreachable : system.ReachableUnder guard px) (hpx : px.Tracks)
    (h : px.step ev = some px') :
  (px'.Tracks ↔ px.LosesNone ev) ∧
    (px.drains ev → ∀ r, px'.Stored r → (px'.sockets r).status ≠ .disconnected)
  := by
  have hwf := reachable_wellFormed hreachable
  have hreachable' : system.Reachable px' := hreachable.reachable.step trivial h
  have hlived := reachable_lived hreachable
  have hlived' := reachable_lived hreachable'
  rcases em (∃ r ec, ev = .complete r (.close ec)) with ⟨r, ec, rfl⟩ | hclose
  · use close_tracks_iff hpx (reachable_readsRing hreachable) hwf hlived' h
    rintro ⟨⟩
  · obtain ⟨htracks, hdrained⟩ :=
      tracks_step hpx hwf hlived hlived' (fun r ec hev => hclose ⟨r, ec, hev⟩) h
    constructor
    · apply iff_of_true htracks
      unfold LosesNone
      split
      case h_1 r ec => exact absurd ⟨r, ec, rfl⟩ hclose
      case h_2 => trivial
    · exact hdrained

/-- In every run in which no id that is put in `closed_sockets_` takes others with it, each
stored connection that is disconnecting has its close outstanding, each that is disconnected
has its id among those the next drain reads, and no drain leaves one that is disconnected. The
first step that does not meet the condition loses a connection. -/
theorem closed_sockets_drained {px : WebsocketProxy} (h : system.ReachableUnder LosesNone px) :
  px.Tracks ∧ ∀ ev px', px.step ev = some px' →
    (px'.Tracks ↔ px.LosesNone ev) ∧
    (px.drains ev → ∀ r, px'.Stored r → (px'.sockets r).status ≠ .disconnected)
  := by
  have htracks : px.Tracks := by
    apply h.invariant (I := fun px => px.Tracks)
    · rintro px ⟨pid, clock, rfl⟩
      constructor
      · rintro r ⟨id, ⟨⟩⟩
      · rintro r ⟨id, ⟨⟩⟩
    · intro px ev px' hreachable hpx hloses hstep
      exact (tracks_iff_losesNone hreachable hpx hstep).1.mpr hloses
  use htracks
  intro ev px' hstep
  apply tracks_iff_losesNone h htracks hstep

/-- A connection fails, its close completes, and a message is handled. -/
def failOne : List Event :=
  openOne ++ [.complete 0 (.read (.error ⟨.other, []⟩)), .complete 0 (.close none)]

theorem closed_sockets_drained_failOne :
  ∃ px px', system.RunUnder LosesNone (start 7 fun _ => 0) failOne px ∧
    px.step (.processClientMessage none) = some px' ∧
    px.websocketsById.lookup 70001 = some 0 ∧ (px.sockets 0).status = .disconnected ∧
    px.Tracks ∧ ¬ px'.Stored 0
  := by
  have hexec : ∃ px ∈ system.execUnder LosesNone (start 7 fun _ => 0) failOne,
      px.websocketsById.lookup 70001 = some 0 ∧ (px.sockets 0).status = .disconnected ∧
      ∃ px' ∈ px.step (.processClientMessage none),
        px.drains (.processClientMessage none) ∧ (px'.sockets 0).status = .disconnected := by
    decide +kernel
  obtain ⟨px, hrun, hid, hstatus, px', hstep, hdrains, hstatus'⟩ :=
    TransitionSystem.exists_runUnder hexec
  obtain ⟨htracks, hsteps⟩ := closed_sockets_drained ⟨_, _, ⟨7, _, rfl⟩, hrun⟩
  refine ⟨px, px', hrun, hstep, hid, hstatus, htracks, ?_⟩
  intro hr
  exact (hsteps _ px' hstep).2 hdrains 0 hr hstatus'

/-- Sockets are opened, the first fails and is closed, and then the openings of the others
fail and they are closed, before another message is handled. -/
def failAll (n : ℕ) : List Event :=
  openOne ++ (List.range n).map (fun _ => .openWs 1 [105] []) ++
    [.complete 0 (.read (.error ⟨.other, []⟩)), .complete 0 (.close none)] ++
    (List.range n).flatMap fun r =>
      [.complete (r + 1) (.resumed (.success 443)),
        .complete (r + 1) (.resumed (.failure ⟨.other, []⟩)), .complete (r + 1) (.close none)]

/-- When 256 others are closed after the first one, and before a drain, the drain reads the id
of the last of them only, and leaves the first one in the tables. -/
theorem not_closed_sockets_drained :
  ∃ px, system.Run (start 7 fun _ => 0) (failAll 256) px ∧
    (px.sockets 0).status = .disconnected ∧ (px.sockets 0).id = 70001 ∧
    70001 ∉ px.closedSockets.unread px.closedSocketsIndex ∧
    ∃ px' ∈ px.step (.processClientMessage none), px.drains (.processClientMessage none) ∧
      px'.websocketsById.lookup 70001 = some 0 ∧ (px'.sockets 0).status = .disconnected
  := TransitionSystem.exists_runUnder (by decide +kernel)

end WebsocketProxy
