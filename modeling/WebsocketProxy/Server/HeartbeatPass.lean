import WebsocketProxy.Server.Unregistering

/-!
# The pass of `checkHeartbeats`

The pass evicts the clients whose heartbeats stopped one by one, while it iterates over the table
of clients. What it leaves is the departure of all of them at once, whatever the order of the
iteration (`heartbeat_pass`).
-/

namespace WebsocketProxy

/-! ### The loop -/

/-- What the loop of `checkHeartbeats` may change. -/
theorem foldl_checkClient_frame (now : UInt64) (entries : List (Σ _ : UInt64, ClientInfo)) :
  ∀ px : WebsocketProxy, entries.foldl (checkClient now) px = { px with
    toTables := (entries.foldl (checkClient now) px).toTables
    shutdownTime := (entries.foldl (checkClient now) px).shutdownTime
    readings := (entries.foldl (checkClient now) px).readings }
  := by
  induction entries with
  | nil => exact fun _ => rfl
  | cons kvp entries ih =>
      intro px
      have hround : checkClient now px kvp = { px with
          toTables := (checkClient now px kvp).toTables
          shutdownTime := (checkClient now px kvp).shutdownTime
          readings := (checkClient now px kvp).readings } := by
        simp only [checkClient, unregisterClientAt, getTimestamp]
        split
        · split
          · rfl
          · rfl
        · rfl
      rw [List.foldl_cons, ih, hround]

@[simp]
theorem unregisterClientAt_clients (px : WebsocketProxy) (pid : UInt64) :
  (px.unregisterClientAt pid).clients = px.clients.erase pid
  := by
  simp only [unregisterClientAt, getTimestamp, Tables.unregisterSockets_clients]
  split
  · rfl
  · rfl

/-- `unregisterClient` takes a reading for `shutdownTime` when the last client is dropped. -/
theorem unregisterClientAt_shutdownTime (px : WebsocketProxy) (pid : UInt64) :
  ((px.unregisterClientAt pid).shutdownTime, (px.unregisterClientAt pid).readings)
    = if UnorderedMap.isEmpty (px.clients.erase pid) then (px.clock px.readings, px.readings + 1)
      else (px.shutdownTime, px.readings)
  := by
  simp only [unregisterClientAt, getTimestamp, Tables.unregisterSockets_clients]
  split
  · rfl
  · rfl

/-- The clients after the loop are those that did not expire. -/
theorem foldl_checkClient_lookup (now : UInt64) (entries : List (Σ _ : UInt64, ClientInfo))
    (pid : UInt64) :
  ∀ px : WebsocketProxy, (entries.foldl (checkClient now) px).clients.lookup pid
    = if pid ∈ expiredAmong now entries then none else px.clients.lookup pid
  := by
  induction entries with
  | nil =>
      intro px
      rw [if_neg]
      · rfl
      · simp [expiredAmong]
  | cons kvp entries ih =>
      intro px
      have hround : (checkClient now px kvp).clients.lookup pid
          = if kvp.1 = pid ∧ now - kvp.2.lastHeartbeatTime > 30000 then none
            else px.clients.lookup pid := by
        unfold checkClient
        split
        case isTrue hexpired =>
          rw [unregisterClientAt_clients, UnorderedMap.lookup_erase_eq]
          apply if_congr _ rfl rfl
          rw [and_iff_left hexpired, eq_comm]
        case isFalse hfresh => rw [if_neg (fun h => hfresh h.2)]
      rw [List.foldl_cons, ih, hround]
      simp only [mem_expiredAmong_cons]
      split
      case isTrue hlater => rw [if_pos (Or.inr hlater)]
      case isFalse hlater =>
        apply if_congr _ rfl rfl
        exact (or_iff_left hlater).symm

/-- The loop takes a reading for `shutdownTime` when it evicts the last client. -/
theorem foldl_checkClient_shutdownTime (now : UInt64) (entries : List (Σ _ : UInt64, ClientInfo)) :
  ∀ px : WebsocketProxy, (entries.map Sigma.fst).Nodup → (∀ kvp ∈ entries, kvp.1 ∈ px.clients) →
    let px' := entries.foldl (checkClient now) px
    (px'.shutdownTime, px'.readings)
      = if px'.clients.isEmpty ∧ ¬ px.clients.isEmpty then (px.clock px.readings, px.readings + 1)
        else (px.shutdownTime, px.readings)
  := by
  induction entries with
  | nil =>
      intro px _ _
      dsimp only [List.foldl_nil]
      rw [if_neg]
      exact fun h => h.2 h.1
  | cons kvp entries ih =>
      intro px hnodup hmem
      obtain ⟨hnew, hnodup⟩ := List.nodup_cons.mp hnodup
      have hkvp : kvp.1 ∈ px.clients := hmem kvp List.mem_cons_self
      have hrest : ∀ kvp' ∈ entries, kvp'.1 ∈ px.clients :=
        fun kvp' hkvp' => hmem kvp' (List.mem_cons_of_mem kvp hkvp')
      have hnonempty : ¬ px.clients.isEmpty := fun h => UnorderedMap.isEmpty_iff.mp h kvp.1 hkvp
      rw [List.foldl_cons]
      rcases em (now - kvp.2.lastHeartbeatTime > 30000) with hexpired | hfresh
      · rw [checkClient, if_pos hexpired]
        have hstay : ∀ kvp' ∈ entries, kvp'.1 ∈ (px.unregisterClientAt kvp.1).clients := by
          intro kvp' hkvp'
          rw [unregisterClientAt_clients, AList.mem_erase]
          refine ⟨?_, hrest kvp' hkvp'⟩
          intro heq
          apply hnew
          rw [← heq]
          apply List.mem_map_of_mem hkvp'
        have hround := px.unregisterClientAt_shutdownTime kvp.1
        rcases em (UnorderedMap.isEmpty (px.clients.erase kvp.1) = true) with hempty | hothers
        · cases entries with
          | nil =>
              rw [if_pos hempty] at hround
              dsimp only [List.foldl_nil]
              rw [hround, unregisterClientAt_clients, if_pos ⟨hempty, hnonempty⟩]
          | cons kvp' entries =>
              have hkvp' := hstay kvp' List.mem_cons_self
              rw [unregisterClientAt_clients] at hkvp'
              exact absurd hkvp' (UnorderedMap.isEmpty_iff.mp hempty kvp'.1)
        · rw [if_neg hothers, Prod.mk.injEq] at hround
          have hloop := ih _ hnodup hstay
          have hclock : (px.unregisterClientAt kvp.1).clock = px.clock := by
            simp only [unregisterClientAt, getTimestamp]
            split
            · rfl
            · rfl
          rw [unregisterClientAt_clients, hclock, hround.1, hround.2] at hloop
          simp only [hothers, hnonempty] at hloop ⊢
          exact hloop
      · rw [checkClient, if_neg hfresh]
        apply ih px hnodup hrest

/-! ### Calls of `close` -/

/-- The connections that the loop of `checkHeartbeats` calls `close` of. -/
def checkCloseCalls (now : UInt64) : List (Σ _ : UInt64, ClientInfo) → WebsocketProxy → List ℕ
  | [], _ => []
  | kvp :: entries, px =>
      (if now - kvp.2.lastHeartbeatTime > 30000 then px.unregisterCloseCalls kvp.1 else [])
        ++ checkCloseCalls now entries (checkClient now px kvp)

/-- The connections that `checkHeartbeats` calls `close` of. -/
def heartbeatCloseCalls (px : WebsocketProxy) : List ℕ :=
  if px.clients.isEmpty then []
  else
    let (now, px) := px.getTimestamp
    let (_, px) := px.sendHeartbeat now
    checkCloseCalls now px.clients.entries px

/-- The loop closes the connections all clients of which expired. -/
theorem mem_checkCloseCalls (now : UInt64) (entries : List (Σ _ : UInt64, ClientInfo)) (r : ℕ) :
  ∀ px : WebsocketProxy, px.WellFormed →
    (r ∈ checkCloseCalls now entries px ↔
      px.Stored r ∧ (px.sockets r).clients ⊆ expiredAmong now entries)
  := by
  induction entries with
  | nil =>
      intro px hwf
      apply iff_of_false List.not_mem_nil
      rintro ⟨hr, hsub⟩
      exact (hwf.nonempty r hr).ne_empty (Finset.subset_empty.mp hsub)
  | cons kvp entries ih =>
      intro px hwf
      rw [checkCloseCalls, List.mem_append, checkClient]
      rcases em (now - kvp.2.lastHeartbeatTime > 30000) with hexpired | hfresh
      · have hcons : expiredAmong now (kvp :: entries) = {kvp.1} ∪ expiredAmong now entries := by
          ext pid
          rw [mem_expiredAmong_cons, Finset.mem_union, Finset.mem_singleton, and_iff_left hexpired,
            eq_comm]
        have hdeparts := (unregisterClientAt_unregisters px hwf kvp.1).departs
        rw [if_pos hexpired, if_pos hexpired, ih _ (hdeparts.wellFormed hwf), hcons,
          Tables.mem_unregisterCloseCalls hwf, ← Websocket.subset_singleton_iff_erase,
          hdeparts.stored_iff]
        constructor
        · rintro (⟨hr, hsub⟩ | ⟨⟨hr, hstay⟩, hsub⟩)
          · exact ⟨hr, hsub.trans Finset.subset_union_left⟩
          · rw [hdeparts.stored r hr, Websocket.leave_clients] at hsub
            exact ⟨hr, sdiff_le_iff.mp hsub⟩
        · rintro ⟨hr, hsub⟩
          rcases em ((px.sockets r).clients ⊆ {kvp.1}) with hlast | hstay
          · exact Or.inl ⟨hr, hlast⟩
          · right
            use ⟨hr, hstay⟩
            rw [hdeparts.stored r hr, Websocket.leave_clients]
            apply sdiff_le_iff.mpr hsub
      · have hcons : expiredAmong now (kvp :: entries) = expiredAmong now entries := by
          ext pid
          rw [mem_expiredAmong_cons, or_iff_right (fun h => hfresh h.2)]
        rw [if_neg hfresh, if_neg hfresh, ih px hwf, hcons]
        apply or_iff_right List.not_mem_nil

/-! ### The pass -/

/-- A client whose last heartbeat was too long before `now`. -/
def Expired (px : WebsocketProxy) (now pid : UInt64) : Prop :=
  ∃ client, px.clients.lookup pid = some client ∧
    30000 < now.toNat - client.lastHeartbeatTime.toNat

/-- All clients of the connection at `r` expired, and there are some. -/
def Deserted (px : WebsocketProxy) (now : UInt64) (r : ℕ) : Prop :=
  px.Stored r ∧ (∃ pid ∈ (px.sockets r).clients, px.Expired now pid) ∧
    ∀ pid ∈ (px.sockets r).clients, px.Expired now pid

/-- The server `px'` is `px` after the clients that expired by `now` were evicted. -/
structure EvictsExpired (px px' : WebsocketProxy) (now : UInt64) : Prop where
  clients : ∀ pid client, px'.clients.lookup pid = some client ↔
    px.clients.lookup pid = some client ∧
      now.toNat - client.lastHeartbeatTime.toNat ≤ 30000
  sockets : ∀ r, px.Stored r → ∀ pid, pid ∈ (px'.sockets r).clients ↔
    pid ∈ (px.sockets r).clients ∧ ¬ px.Expired now pid
  closes : ∀ r, r ∈ px.heartbeatCloseCalls ↔ px.Deserted now r
  /-- The calls of `close` find the connections without clients. -/
  closed : ∀ r, px.Deserted now r → px'.sockets r = { px.sockets r with clients := ∅ }.close
  kept : ∀ r, ¬ px.Deserted now r →
    px'.sockets r = { px.sockets r with clients := (px'.sockets r).clients }
  unstored : ∀ r, ¬ px.Stored r → px'.sockets r = px.sockets r
  byId : ∀ id r, px'.websocketsById.lookup id = some r ↔
    px.websocketsById.lookup id = some r ∧ ¬ px.Deserted now r
  byKey : ∀ k r, px'.websocketsByUrlApiKey.lookup k = some r ↔
    px.websocketsByUrlApiKey.lookup k = some r ∧
      ∀ r', px.Deserted now r' → (px.sockets r').key ≠ k
  /-- `shutdownTime` is set exactly when no client is left. -/
  shutdownTime : (px'.shutdownTime, px'.readings)
    = if px'.clients.isEmpty then (px.clock (px.readings + 1), px.readings + 2)
      else (px.shutdownTime, px.readings + 1)

/-- The servers differ in the orders in which iterations meet entries, at most. -/
structure SameButOrder (px px' : WebsocketProxy) : Prop where
  frame : px' = { px with
    clients := px'.clients
    websocketsById := px'.websocketsById
    websocketsByUrlApiKey := px'.websocketsByUrlApiKey }
  clients : ∀ pid, px'.clients.lookup pid = px.clients.lookup pid
  byId : ∀ id, px'.websocketsById.lookup id = px.websocketsById.lookup id
  byKey : ∀ k, px'.websocketsByUrlApiKey.lookup k = px.websocketsByUrlApiKey.lookup k

/-- The server when the pass enters its loop. -/
def passing (px : WebsocketProxy) : WebsocketProxy :=
  ({ px with readings := px.readings + 1 }.sendHeartbeat (px.clock px.readings)).2

/-- Before the loop a heartbeat of the server may be published. -/
theorem passing_frame (px : WebsocketProxy) :
  px.passing = { px with
    readings := px.readings + 1
    serverQueue := px.passing.serverQueue
    lastHeartbeatTime := px.passing.lastHeartbeatTime }
  := by
  rcases sendHeartbeat_cases { px with readings := px.readings + 1 } (px.clock px.readings) with
    h | h
  · rw [passing, h]
  · rw [passing, h]
    rfl

theorem checkHeartbeats_eq {px : WebsocketProxy} (h : ¬ px.clients.isEmpty) :
  px.checkHeartbeats.2 = px.clients.entries.foldl (checkClient (px.clock px.readings)) px.passing ∧
    px.heartbeatCloseCalls
      = checkCloseCalls (px.clock px.readings) px.clients.entries px.passing
  := by
  have hclients : px.passing.clients = px.clients := by rw [passing_frame]
  have hloop : px.checkHeartbeats.2
      = px.passing.clients.entries.foldl (checkClient (px.clock px.readings)) px.passing := by
    rw [checkHeartbeats, if_neg h]
    rfl
  have hcalls : px.heartbeatCloseCalls
      = checkCloseCalls (px.clock px.readings) px.passing.clients.entries px.passing := by
    rw [heartbeatCloseCalls, if_neg h]
    rfl
  rw [hclients] at hloop hcalls
  exact ⟨hloop, hcalls⟩

/-- The pass takes a second reading for `shutdownTime` when it evicts the last client. -/
theorem checkHeartbeats_shutdownTime {px : WebsocketProxy} (h : ¬ px.clients.isEmpty) :
  (px.checkHeartbeats.2.shutdownTime, px.checkHeartbeats.2.readings)
    = if px.checkHeartbeats.2.clients.isEmpty then (px.clock (px.readings + 1), px.readings + 2)
      else (px.shutdownTime, px.readings + 1)
  := by
  have hmem : ∀ kvp ∈ px.clients.entries, kvp.1 ∈ px.passing.clients := by
    intro kvp hkvp
    rw [passing_frame]
    exact UnorderedMap.mem_iff_lookup.mpr ⟨_, UnorderedMap.mem_entries_iff.mp hkvp⟩
  have hset := foldl_checkClient_shutdownTime (px.clock px.readings) px.clients.entries
    px.passing px.clients.keys_nodup hmem
  rw [← (checkHeartbeats_eq h).1] at hset
  dsimp only at hset
  rw [hset, passing_frame]
  apply if_congr (and_iff_left h) rfl rfl

/-- What the pass may change. -/
theorem checkHeartbeats_frame {px : WebsocketProxy} (h : ¬ px.clients.isEmpty) :
  px.checkHeartbeats.2 = { px with
    toTables := px.checkHeartbeats.2.toTables
    shutdownTime := px.checkHeartbeats.2.shutdownTime
    readings := px.checkHeartbeats.2.readings
    serverQueue := px.passing.serverQueue
    lastHeartbeatTime := px.passing.lastHeartbeatTime }
  := by
  rw [(checkHeartbeats_eq h).1, foldl_checkClient_frame, passing_frame]

/-- When no heartbeat was noted at a time after `now`, the differences do not wrap around. -/
theorem mem_expiredAmong_iff {px : WebsocketProxy} {now : UInt64}
    (hstored : ∀ pid client, px.clients.lookup pid = some client → client.lastHeartbeatTime ≤ now)
    (pid : UInt64) :
  pid ∈ expiredAmong now px.clients.entries ↔ px.Expired now pid
  := by
  rw [mem_expiredAmong]
  apply exists_congr
  intro client
  rw [UnorderedMap.mem_entries_iff]
  apply and_congr_right
  intro hlookup
  rw [gt_iff_lt, UInt64.lt_iff_toNat_lt, UInt64.toNat_sub_of_le _ _ (hstored pid client hlookup)]
  rfl

theorem deserted_iff {px : WebsocketProxy} (hwf : px.WellFormed) {now : UInt64}
    (hstored : ∀ pid client, px.clients.lookup pid = some client → client.lastHeartbeatTime ≤ now)
    (r : ℕ) :
  px.Deserted now r ↔
    px.Stored r ∧ (px.sockets r).clients ⊆ expiredAmong now px.clients.entries
  := by
  apply and_congr_right
  intro hr
  constructor
  · rintro ⟨-, hall⟩ pid hpid
    exact (mem_expiredAmong_iff hstored pid).mpr (hall pid hpid)
  · intro hsub
    obtain ⟨pid, hpid⟩ := hwf.nonempty r hr
    constructor
    · exact ⟨pid, hpid, (mem_expiredAmong_iff hstored pid).mp (hsub hpid)⟩
    · exact fun pid hpid => (mem_expiredAmong_iff hstored pid).mp (hsub hpid)

theorem checkHeartbeats_evictsExpired {px : WebsocketProxy} (hwf : px.WellFormed)
    (hclients : ¬ px.clients.isEmpty)
    (hstored : ∀ pid client, px.clients.lookup pid = some client →
      client.lastHeartbeatTime ≤ px.clock px.readings) :
  px.EvictsExpired px.checkHeartbeats.2 (px.clock px.readings)
  := by
  obtain ⟨hloop, hcalls⟩ := checkHeartbeats_eq hclients
  have hdeparts : px.Departs px.checkHeartbeats.2.toTables
      (fun _ => expiredAmong (px.clock px.readings) px.clients.entries) :=
    (checkHeartbeats_unregisters hwf rfl).departs
  have hpassing : px.passing.toTables = px.toTables := by rw [passing_frame]
  constructor
  · intro pid client
    rw [hloop, foldl_checkClient_lookup, hpassing]
    split
    case isTrue hexpired =>
      obtain ⟨client', hlookup', hlate⟩ := (mem_expiredAmong_iff hstored pid).mp hexpired
      apply iff_of_false
      · rintro ⟨⟩
      · rintro ⟨hlookup, hfresh⟩
        obtain rfl := Option.some.inj (hlookup'.symm.trans hlookup)
        exact absurd hfresh (not_le.mpr hlate)
    case isFalse hfresh =>
      symm
      apply and_iff_left_of_imp
      intro hlookup
      rw [← not_lt]
      intro hlate
      exact hfresh ((mem_expiredAmong_iff hstored pid).mpr ⟨client, hlookup, hlate⟩)
  · intro r hr pid
    rw [hdeparts.stored r hr, Websocket.leave_clients, Finset.mem_sdiff,
      mem_expiredAmong_iff hstored]
  · intro r
    rw [hcalls, mem_checkCloseCalls _ _ _ _ (by rw [hpassing]; exact hwf), hpassing,
      deserted_iff hwf hstored]
  · intro r hgone
    obtain ⟨hr, hsub⟩ := (deserted_iff hwf hstored r).mp hgone
    rw [hdeparts.stored r hr, Websocket.leave, if_pos hsub,
      Finset.sdiff_eq_empty_iff_subset.mpr hsub]
  · intro r hstays
    rcases em (px.Stored r) with hr | hr
    · have hsub : ¬ (px.sockets r).clients ⊆
          expiredAmong (px.clock px.readings) px.clients.entries :=
        fun hsub => hstays ((deserted_iff hwf hstored r).mpr ⟨hr, hsub⟩)
      rw [hdeparts.stored r hr, Websocket.leave_of_not_subset hsub]
    · rw [hdeparts.unstored r hr]
  · exact hdeparts.unstored
  · intro id r
    rw [hdeparts.byId]
    apply and_congr_right
    intro hid
    rw [deserted_iff hwf hstored, and_iff_right ⟨id, hid⟩]
  · intro k r
    rw [hdeparts.byKey]
    simp only [deserted_iff hwf hstored, and_imp]
  · apply checkHeartbeats_shutdownTime hclients

/-! ### The order of the iteration -/

theorem expiredAmong_perm {entries entries' : List (Σ _ : UInt64, ClientInfo)}
    (h : entries'.Perm entries) (now : UInt64) :
  expiredAmong now entries' = expiredAmong now entries
  := by
  ext pid
  simp only [mem_expiredAmong, h.mem_iff]

/-- Tables that differ in the orders of entries at most. -/
theorem eq_of_frame {t t' : Tables} (hsockets : t'.sockets = t.sockets)
    (hclosed : t'.closedSockets = t.closedSockets)
    (hindex : t'.closedSocketsIndex = t.closedSocketsIndex)
    (hwebsocketId : t'.websocketId = t.websocketId) (hopens : t'.opens = t.opens) :
  t' = { t with
    clients := t'.clients
    websocketsById := t'.websocketsById
    websocketsByUrlApiKey := t'.websocketsByUrlApiKey }
  := by rw [← hsockets, ← hclosed, ← hindex, ← hwebsocketId, ← hopens]

/-- Departures of the same clients lead to the same connections. -/
theorem departs_unique {t t₁ t₂ : Tables} {dep : ℕ → Finset UInt64} (h₁ : t.Departs t₁ dep)
    (h₂ : t.Departs t₂ dep) :
  t₂.sockets = t₁.sockets ∧
    (∀ id, t₂.websocketsById.lookup id = t₁.websocketsById.lookup id) ∧
    ∀ k, t₂.websocketsByUrlApiKey.lookup k = t₁.websocketsByUrlApiKey.lookup k
  := by
  refine ⟨?_, ?_, ?_⟩
  · funext r
    rcases em (t.Stored r) with hr | hr
    · rw [h₁.stored r hr, h₂.stored r hr]
    · rw [h₁.unstored r hr, h₂.unstored r hr]
  · intro id
    apply Option.ext
    intro r
    exact (h₂.byId id r).trans (h₁.byId id r).symm
  · intro k
    apply Option.ext
    intro r
    exact (h₂.byKey k r).trans (h₁.byKey k r).symm

theorem passing_withClients (px : WebsocketProxy) (clients : UnorderedMap UInt64 ClientInfo) :
  ({ px with clients } : WebsocketProxy).passing = { px.passing with clients }
  := by
  simp only [passing, sendHeartbeat]
  split
  · rfl
  · rfl

/-- The pass leads to the same in whichever order it meets the clients. -/
theorem checkHeartbeats_perm {px px' : WebsocketProxy} (hwf : px.WellFormed)
    (hpx' : px' = { px with clients := px'.clients })
    (hperm : px'.clients.entries.Perm px.clients.entries) :
  SameButOrder px.checkHeartbeats.2 px'.checkHeartbeats.2
  := by
  have hlookup : ∀ pid, px'.clients.lookup pid = px.clients.lookup pid :=
    fun pid => AList.perm_lookup hperm
  have hisEmpty : px'.clients.isEmpty = px.clients.isEmpty := UnorderedMap.isEmpty_congr hlookup
  rcases em (px.clients.isEmpty = true) with hempty | hclients
  · have hsame : px.checkHeartbeats.2 = px := by rw [checkHeartbeats, if_pos hempty]
    have hsame' : px'.checkHeartbeats.2 = px' := by
      rw [checkHeartbeats, if_pos (hisEmpty.trans hempty)]
    rw [hsame, hsame']
    refine ⟨?_, hlookup, ?_, ?_⟩
    · rw [hpx']
    · rw [hpx']
      exact fun _ => rfl
    · rw [hpx']
      exact fun _ => rfl
  · have hclients' : ¬ px'.clients.isEmpty := by
      rw [hisEmpty]
      exact hclients
    have hwf' : px'.WellFormed := by
      rw [hpx']
      apply hwf.withClients px'.clients
    have hexpired : expiredAmong (px'.clock px'.readings) px'.clients.entries
        = expiredAmong (px.clock px.readings) px.clients.entries := by
      rw [expiredAmong_perm hperm, hpx']
    have hdeparts : px.Departs px.checkHeartbeats.2.toTables
        (fun _ => expiredAmong (px.clock px.readings) px.clients.entries) :=
      (checkHeartbeats_unregisters hwf rfl).departs
    have hdeparts' : px.Departs px'.checkHeartbeats.2.toTables
        (fun _ => expiredAmong (px.clock px.readings) px.clients.entries) := by
      have hown := (checkHeartbeats_unregisters hwf' rfl).departs
      rw [hexpired] at hown
      rw [hpx'] at hown ⊢
      apply hown.ofClients
    obtain ⟨hsockets, hbyId, hbyKey⟩ := departs_unique hdeparts hdeparts'
    have hpassing : px'.passing = { px.passing with clients := px'.clients } := by
      rw [← passing_withClients, ← hpx']
    have hlookups : ∀ pid, px'.checkHeartbeats.2.clients.lookup pid
        = px.checkHeartbeats.2.clients.lookup pid := by
      intro pid
      rw [(checkHeartbeats_eq hclients).1, (checkHeartbeats_eq hclients').1,
        foldl_checkClient_lookup, foldl_checkClient_lookup, hexpired, passing_frame px, hpassing]
      apply if_congr Iff.rfl rfl (hlookup pid)
    have hset := checkHeartbeats_shutdownTime hclients
    have hset' := checkHeartbeats_shutdownTime hclients'
    rw [UnorderedMap.isEmpty_congr hlookups] at hset'
    have hboth : (px'.checkHeartbeats.2.shutdownTime, px'.checkHeartbeats.2.readings)
        = (px.checkHeartbeats.2.shutdownTime, px.checkHeartbeats.2.readings) := by
      rw [hset, hset', hpx']
    rw [Prod.mk.injEq] at hboth
    have htables := eq_of_frame hsockets
      (hdeparts'.closedSockets.trans hdeparts.closedSockets.symm)
      (hdeparts'.closedSocketsIndex.trans hdeparts.closedSocketsIndex.symm)
      (hdeparts'.websocketId.trans hdeparts.websocketId.symm)
      (hdeparts'.opens.trans hdeparts.opens.symm)
    refine ⟨?_, hlookups, hbyId, hbyKey⟩
    calc px'.checkHeartbeats.2
        = { px with
            toTables := px'.checkHeartbeats.2.toTables
            shutdownTime := px.checkHeartbeats.2.shutdownTime
            readings := px.checkHeartbeats.2.readings
            serverQueue := px.passing.serverQueue
            lastHeartbeatTime := px.passing.lastHeartbeatTime } := by
          have hframe := checkHeartbeats_frame hclients'
          rw [hpassing, hboth.1, hboth.2] at hframe
          rw [hframe, hpx']
      _ = { px.checkHeartbeats.2 with toTables := px'.checkHeartbeats.2.toTables } := by
          rw [checkHeartbeats_frame hclients]
      _ = { px.checkHeartbeats.2 with
            clients := px'.checkHeartbeats.2.clients
            websocketsById := px'.checkHeartbeats.2.websocketsById
            websocketsByUrlApiKey := px'.checkHeartbeats.2.websocketsByUrlApiKey } :=
          congrArg (fun t => { px.checkHeartbeats.2 with toTables := t }) htables

/-- The pass evicts exactly the clients whose last heartbeat is older than 30 s, and what it
leads to does not depend on the order in which it meets the clients. -/
theorem heartbeat_pass {px : WebsocketProxy} (h : system.Reachable px)
    (hclients : ¬ px.clients.isEmpty)
    (hstored : ∀ pid client, px.clients.lookup pid = some client →
      client.lastHeartbeatTime ≤ px.clock px.readings) :
  px.EvictsExpired px.checkHeartbeats.2 (px.clock px.readings) ∧
  ∀ clients : UnorderedMap UInt64 ClientInfo, clients.entries.Perm px.clients.entries →
    SameButOrder px.checkHeartbeats.2 { px with clients }.checkHeartbeats.2
  := by
  have hwf : px.WellFormed := reachable_wellFormed h
  use checkHeartbeats_evictsExpired hwf hclients hstored
  intro clients hperm
  apply checkHeartbeats_perm hwf rfl hperm

/-- A client with a connection of its own stops its heartbeats, and another one does not. -/
def heartbeatLost : List Event := openOwn ++ [.message 2 .heartbeat]

/-- The clock stands still until the last heartbeat. -/
def lateClock (n : ℕ) : UInt64 := if n < 8 then 1 else 40000

theorem heartbeat_pass_heartbeatLost :
  ∃ px, system.Run (start 7 lateClock) heartbeatLost px ∧
    px.EvictsExpired px.checkHeartbeats.2 40000 ∧ px.heartbeatCloseCalls = [1]
  := by
  have hexec : ∃ px ∈ system.exec (start 7 lateClock) heartbeatLost,
      ¬ px.clients.isEmpty ∧ px.clock px.readings = 40000 ∧ px.heartbeatCloseCalls = [1] ∧
      ∀ kvp ∈ px.clients.entries, kvp.2.lastHeartbeatTime ≤ px.clock px.readings := by
    decide +kernel
  obtain ⟨px, hrun, hclients, hnow, hcalls, hstored⟩ := TransitionSystem.exists_runUnder hexec
  have hreachable : system.Reachable px := ⟨_, _, ⟨7, _, rfl⟩, hrun⟩
  have hpass := heartbeat_pass hreachable hclients
    (fun pid client hlookup => hstored ⟨pid, client⟩ (UnorderedMap.mem_entries_iff.mpr hlookup))
  rw [hnow] at hpass
  exact ⟨px, hrun, hpass.1, hcalls⟩

end WebsocketProxy
