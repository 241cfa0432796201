import WebsocketProxy.Library.DoubleIndex
import WebsocketProxy.Server.Projection

/-!
# The two tables of connections

`websocketsById_` and `websocketsByUrlApiKey_` index the same connections, as long as every
connection that is entered finds no entry at its keys, and is entered under its own url and
key. Otherwise `emplace` keeps the older entry, and when the older connection is dropped,
the entry is erased with it.
-/

namespace WebsocketProxy

/-- The two tables index the same connections. -/
def TablesAgree (t : Tables) : Prop :=
  IndexesAgree t.websocketsById t.websocketsByUrlApiKey (fun r => (t.sockets r).id)
    (fun r => (t.sockets r).key)

/-- A connection whose opening succeeds is entered under its own url and key, and neither
table has an entry where it is entered. -/
def EntersFree (px : WebsocketProxy) (ev : Event) : Prop :=
  ∀ p ∈ px.entering ev, px.slotKey p.2 = (px.sockets p.1).key ∧
    px.websocketsByUrlApiKey.lookup (px.sockets p.1).key = none ∧
    px.websocketsById.lookup (px.sockets p.1).id = none

instance (px : WebsocketProxy) (ev : Event) : Decidable (px.EntersFree ev) :=
  inferInstanceAs (Decidable (∀ p ∈ px.entering ev, _))

/-- Dropping connections keeps the tables in agreement. -/
theorem TablesAgree.drops {t t' : Tables} {gone : ℕ → Prop} (h : TablesAgree t)
    (hdrops : t.Drops t' gone)
    (hkeys : ∀ r, t.Stored r → Websocket.Frame (t.sockets r) (t'.sockets r)) :
  TablesAgree t'
  := by
  have hdropped := IndexesAgree.drop h hdrops.byId hdrops.byKey
  apply hdropped.congr (fun _ => rfl) (fun _ => rfl)
  intro id r hid
  have hframe := hkeys r ⟨id, ((hdrops.byId id r).mp hid).1⟩
  exact ⟨hframe.id, hframe.key⟩

/-- A change keeps the tables in agreement, if a connection that it enters is entered
freely. -/
theorem Change.tablesAgree {px : WebsocketProxy} {ev : Event} {t : Tables} (h : Change px ev t)
    (hwf : px.WellFormed) (hfree : px.EntersFree ev) (hagree : TablesAgree px.toTables) :
  TablesAgree t
  := by
  have hframe : ∀ r, r < px.opens → Websocket.Frame (px.sockets r) (t.sockets r) :=
    fun r hr => (h.socket r).frame hwf hr
  have hstored : ∀ r, px.Stored r → Websocket.Frame (px.sockets r) (t.sockets r) :=
    fun r hr => hframe r (hwf.lt_opens r hr)
  have hkeys : ∀ id r, px.websocketsById.lookup id = some r →
      (t.sockets r).id = (px.sockets r).id ∧ (t.sockets r).key = (px.sockets r).key :=
    fun id r hid => ⟨(hstored r ⟨id, hid⟩).id, (hstored r ⟨id, hid⟩).key⟩
  cases h with
  | quiet _ hbyId hbyKey => exact hagree.congr hbyId hbyKey hkeys
  | register | attach | create | throw | request | complete | closed =>
      exact hagree.congr (fun _ => rfl) (fun _ => rfl) hkeys
  | depart h => exact hagree.drops h.drops hstored
  | @enter r c ws calls msg hev hcomplete hentering =>
      obtain ⟨hkey, hbyKey, hbyId⟩ := hfree (r, msg) hentering
      have hid := (Websocket.complete_spec hcomplete).id
      have hentered := IndexesAgree.emplace hagree (i := r) hbyId hbyKey
      rw [← hkey, ← hid] at hentered
      apply hentered.congr (fun _ => rfl) (fun _ => rfl)
      intro id r' hr'
      rw [UnorderedMap.lookup_emplace_eq] at hr'
      split at hr'
      case isTrue =>
        obtain rfl := Option.some.inj hr'
        have hr := hframe r (hwf.lt_opens_of_complete hcomplete)
        exact ⟨hr.id, hr.key⟩
      case isFalse => exact hkeys id r' hr'
  | closeAll _ h => exact hagree.drops h.toDrops hstored

/-- In every run in which connections are entered freely, the two tables agree: a connection
stored under an id has the id, and is found under its url and key; a connection found under
a url and key has them, and is stored under its id. -/
theorem tables_agree {px : WebsocketProxy} (h : system.ReachableUnder EntersFree px) :
  (∀ id r, px.websocketsById.lookup id = some r → (px.sockets r).id = id ∧
      px.websocketsByUrlApiKey.lookup (px.sockets r).key = some r) ∧
    (∀ k r, px.websocketsByUrlApiKey.lookup k = some r → (px.sockets r).key = k ∧
      px.websocketsById.lookup (px.sockets r).id = some r)
  := by
  have hagree : TablesAgree px.toTables := by
    apply h.invariant (I := fun px => TablesAgree px.toTables)
    · rintro px ⟨pid, clock, rfl⟩
      apply IndexesAgree.empty
    · intro px ev px' hreachable hagree hfree hstep
      have hwf := reachable_wellFormed hreachable
      obtain ⟨t, gone, hchange, hdrains⟩ := step_change hwf hstep
      apply (hchange.tablesAgree hwf hfree hagree).drops hdrains.toDrops
      intro r _
      rw [hdrains.sockets]
      exact ⟨rfl, rfl, Nat.le_refl _⟩
  exact ⟨fun id r hid => hagree.ofA hid, fun k r hk => hagree.ofB hk⟩

/-- A connection is opened, fails, and is closed and drained before it is replaced. -/
def replaceDrained : List Event :=
  openOne ++ [.complete 0 (.read (.error ⟨.other, []⟩)), .complete 0 (.close none),
    .processClientMessage none, .openWs 1 [104] []] ++ Event.opened 1

/-- After this run the replacement is found under its url and key. -/
theorem tables_agree_replaceDrained :
  ∃ px, system.RunUnder EntersFree (start 7 fun _ => 1) replaceDrained px ∧
    px.websocketsById.lookup 70002 = some 1 ∧
    px.websocketsByUrlApiKey.lookup (px.sockets 1).key = some 1
  := by
  have hexec : ∃ px ∈ system.execUnder EntersFree (start 7 fun _ => 1) replaceDrained,
      px.websocketsById.lookup 70002 = some 1 := by
    decide +kernel
  obtain ⟨px, hrun, hid⟩ := TransitionSystem.exists_runUnder hexec
  use px, hrun, hid
  exact ((tables_agree ⟨_, _, ⟨7, _, rfl⟩, hrun⟩).1 70002 1 hid).2

/-- A connection fails, and its replacement is opened before its close is completed. -/
def replaceClosing : List Event :=
  openOne ++ [.complete 0 (.read (.error ⟨.other, []⟩)), .openWs 1 [104] []] ++ Event.opened 1

/-- While the first connection is closing, its replacement is stored and not found under its
url and key; nor is it when the first connection was drained. -/
theorem not_tables_agree :
  (∃ px, system.Run (start 7 fun _ => 1) replaceClosing px ∧
    (px.sockets 0).status = .disconnecting ∧ px.websocketsById.lookup 70002 = some 1 ∧
    px.websocketsByUrlApiKey.lookup (px.sockets 1).key = some 0) ∧
  ∃ px, system.Run (start 7 fun _ => 1)
      (replaceClosing ++ [.complete 0 (.close none), .processClientMessage none]) px ∧
    px.websocketsById.lookup 70002 = some 1 ∧
    px.websocketsByUrlApiKey.lookup (px.sockets 1).key = none
  := by
  constructor
  · exact TransitionSystem.exists_runUnder (by decide +kernel)
  · exact TransitionSystem.exists_runUnder (by decide +kernel)

end WebsocketProxy
