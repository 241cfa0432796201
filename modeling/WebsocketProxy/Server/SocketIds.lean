import WebsocketProxy.Server.Numbering

/-!
# The ids of the connections of several servers

A server that ends is followed by another one, with another process id. Their ids are numbers
of their own, `10000` from one process id to the next, as long as their counters stay among
them: this is `InRange`, and `distinctIds_iff` says that the connections that were ever
constructed have different ids exactly then. A client that keeps an id finds no other
connection under it (`DistinctIds.lookup`).
-/

namespace WebsocketProxy

/-- The id of a connection, as a number: nothing overflows. -/
theorem Counted.toNat_id {px : WebsocketProxy} (h : px.Counted) (hpid : px.pid.toNat < 2 ^ 32)
    {r : ℕ} (hr : px.Constructed r) :
  (px.sockets r).id.toNat = px.pid.toNat * 10000 + (r + 1) % 2 ^ 32
  := by
  have hadd : ∀ c < 2 ^ 32, px.pid.toNat * 10000 + c < 2 ^ 64 := by
    intro c hc
    omega
  have hmul : px.pid.toNat * 10000 < 2 ^ 64 := by omega
  have hsum := hadd _ (Nat.mod_lt (r + 1) (Nat.two_pow_pos 32))
  have hbase : (10000 : UInt64).toNat = 10000 := by rfl
  rw [h.id r hr, UInt64.toNat_add, UInt64.toNat_mul, UInt32.toNat_toUInt64, UInt32.toNat_ofNat',
    hbase, Nat.mod_eq_of_lt hmul, Nat.mod_eq_of_lt hsum]

/-! ### Runs of several servers -/

section

variable {ι : Type*}

/-- Servers with process ids of 32 bits, each after a run. No two have the same process id, and
none has the process id 0. -/
structure Servers (servers : ι → WebsocketProxy) : Prop where
  reachable : ∀ i, system.Reachable (servers i)
  pid_ne : ∀ i, (servers i).pid ≠ 0
  pid_lt : ∀ i, (servers i).pid.toNat < 2 ^ 32
  pid_inj : ∀ i j, (servers i).pid = (servers j).pid → i = j

/-- The connections the servers ever constructed have different ids, and none has the id 0. -/
structure DistinctIds (servers : ι → WebsocketProxy) : Prop where
  ne_zero : ∀ i r, (servers i).Constructed r → ((servers i).sockets r).id ≠ 0
  inj : ∀ i j r r', (servers i).Constructed r → (servers j).Constructed r' →
    ((servers i).sockets r).id = ((servers j).sockets r').id → i = j ∧ r = r'

/-- The counter of a server does not come back to a number it had for another connection, and
it is not ahead of the number of a connection of another server by `10000` for each process id
between them. -/
structure InRange (servers : ι → WebsocketProxy) : Prop where
  own : ∀ i r r', (servers i).Constructed r → (servers i).Constructed r' →
    (r + 1) % 2 ^ 32 = (r' + 1) % 2 ^ 32 → r = r'
  other : ∀ i j r r', (servers i).pid < (servers j).pid → (servers i).Constructed r →
    (servers j).Constructed r' →
    (r + 1) % 2 ^ 32
      ≠ ((servers j).pid.toNat - (servers i).pid.toNat) * 10000 + (r' + 1) % 2 ^ 32

variable {servers : ι → WebsocketProxy}

theorem Servers.toNat_id (h : Servers servers) {i : ι} {r : ℕ} (hr : (servers i).Constructed r) :
  ((servers i).sockets r).id.toNat = (servers i).pid.toNat * 10000 + (r + 1) % 2 ^ 32
  := (reachable_counted (h.reachable i)).toNat_id (h.pid_lt i) hr

/-- For all servers with different process ids, after any runs: the connections they ever
constructed have different ids, if and only if the counters stay in range. -/
theorem distinctIds_iff (h : Servers servers) :
  DistinctIds servers ↔ InRange servers
  := by
  constructor
  · rintro ⟨-, hinj⟩
    constructor
    · intro i r r' hr hr' hcounter
      have hid : ((servers i).sockets r).id = ((servers i).sockets r').id := by
        apply UInt64.toNat.inj
        rw [h.toNat_id hr, h.toNat_id hr', hcounter]
      exact (hinj i i r r' hr hr' hid).2
    · intro i j r r' hpid hr hr' hcounter
      have hlt := UInt64.lt_iff_toNat_lt.mp hpid
      have hid : ((servers i).sockets r).id = ((servers j).sockets r').id := by
        apply UInt64.toNat.inj
        rw [h.toNat_id hr, h.toNat_id hr']
        omega
      obtain ⟨rfl, -⟩ := hinj i j r r' hr hr' hid
      exact absurd hlt (Nat.lt_irrefl _)
  · rintro ⟨hown, hother⟩
    constructor
    · intro i r hr hzero
      have hid := h.toNat_id hr
      have hpid : (servers i).pid.toNat ≠ 0 := by
        intro hpid
        apply h.pid_ne i (UInt64.toNat.inj hpid)
      rw [hzero, UInt64.toNat_zero] at hid
      omega
    · intro i j r r' hr hr' hid
      have hnum := congrArg UInt64.toNat hid
      rw [h.toNat_id hr, h.toNat_id hr'] at hnum
      rcases Nat.lt_trichotomy (servers i).pid.toNat (servers j).pid.toNat with hlt | heq | hlt
      · apply absurd _ (hother i j r r' (UInt64.lt_iff_toNat_lt.mpr hlt) hr hr')
        omega
      · obtain rfl := h.pid_inj i j (UInt64.toNat.inj heq)
        use rfl
        apply hown i r r' hr hr'
        omega
      · apply absurd _ (hother j i r' r (UInt64.lt_iff_toNat_lt.mpr hlt) hr' hr)
        omega

/-- A client that keeps an id finds its connection under it, or none: in the server it was
opened by, and in every other one. -/
theorem DistinctIds.lookup (hids : DistinctIds servers) (h : Servers servers) {i j : ι} {r r' : ℕ}
    (hr : (servers i).Constructed r)
    (hlookup : (servers j).websocketsById.lookup ((servers i).sockets r).id = some r') :
  i = j ∧ r = r'
  := by
  have hwf := reachable_wellFormed (h.reachable j)
  have hconstructed := constructed_of_stored hwf ⟨_, hlookup⟩
  apply hids.inj i j r r' hr hconstructed (hwf.byId _ _ hlookup).symm

/-- The counters stay in range if no server has opened more connections than there are numbers
up to the next process id. -/
theorem inRange_of_opens_le (h : Servers servers) (hwrap : ∀ i, (servers i).opens < 2 ^ 32)
    (hle : ∀ i j, (servers i).pid < (servers j).pid →
      (servers i).opens ≤ ((servers j).pid.toNat - (servers i).pid.toNat) * 10000) :
  InRange servers
  := by
  have hcounter : ∀ i r, (servers i).Constructed r →
      r < (servers i).opens ∧ (r + 1) % 2 ^ 32 = r + 1 := by
    intro i r hr
    have hlt := lt_opens_of_constructed (reachable_wellFormed (h.reachable i)) hr
    use hlt
    apply Nat.mod_eq_of_lt
    apply Nat.lt_of_le_of_lt hlt (hwrap i)
  constructor
  · intro i r r' hr hr' hsame
    rw [(hcounter i r hr).2, (hcounter i r' hr').2] at hsame
    apply Nat.succ.inj hsame
  · intro i j r r' hpid hr hr'
    obtain ⟨hlt, hnum⟩ := hcounter i r hr
    obtain ⟨-, hnum'⟩ := hcounter j r' hr'
    have hopens := hle i j hpid
    rw [hnum, hnum']
    omega

/-- The counters stay in range if every server opens at most `10000` connections. -/
theorem inRange_of_opens_le_base (h : Servers servers) (hle : ∀ i, (servers i).opens ≤ 10000) :
  InRange servers
  := by
  apply inRange_of_opens_le h
  · intro i
    exact (hle i).trans_lt (by decide)
  · intro i j hpid
    have hlt := UInt64.lt_iff_toNat_lt.mp hpid
    have hopens := hle i
    omega

end

/-! ### A server that leaves its range -/

/-- A request of client 1. -/
def openMessage : Message := { pid := 1, data := .openWs { url := [104], apiKey := [] } }

/-- A server in which client 1 can open connections, and has opened as many. -/
structure Opening (px : WebsocketProxy) (n : ℕ) : Prop where
  running : px.stopped = false ∧ px.run = true ∧ px.shutdownTime = 0
  messageHandlers : 0 < px.messageHandlers
  client : 1 ∈ px.clients
  byKey : px.websocketsByUrlApiKey = ∅
  closedSockets : px.closedSockets = .empty
  opens : px.opens = n
  constructed : ∀ r < n, px.Constructed r

/-- The request is handled by `openNewWs`, which does not throw. -/
theorem Opening.handles {px : WebsocketProxy} {n : ℕ} (h : px.Opening n) :
  ∃ px₁, (px.taking openMessage).handleClientMessage px.taken = (px₁, false) ∧
    { px₁ with messageHandlers := px₁.messageHandlers + 1 }.Opening (n + 1)
  := by
  have hhost : (Websocket.splitHost (Websocket.splitUrl [104]).2.1).isSome := by decide +kernel
  obtain ⟨host, hhost⟩ := Option.isSome_iff_exists.mp hhost
  obtain ⟨ws, hnew⟩ : ∃ ws, Websocket.new (px.pid * 10000 + (px.websocketId + 1).toUInt64)
      [104] [] px.taken = some ws := by
    simp only [Websocket.new, hhost]
    exact ⟨_, rfl⟩
  rcases getClient_taking_cases px openMessage with ⟨-, clients, hclients, hget⟩ | ⟨hnot, -⟩
  · have hkey : ((px.taking openMessage).refreshed clients).websocketsByUrlApiKey = ∅ := h.byKey
    have hdata : openMessage.data = .openWs { url := [104], apiKey := [] } := by rfl
    simp only [handleClientMessage, slots_taking, hdata, openWs, hget, if_true, hkey]
    change ∃ px₁, ((px.taking openMessage).refreshed clients).openNewWs px.taken _ = _ ∧ _
    simp only [openNewWs]
    split
    case h_1 hnone => cases hnew.symm.trans hnone
    case h_2 ws' hsome =>
      refine ⟨_, rfl, h.running, Nat.succ_pos _, (hclients 1).mpr h.client, h.byKey,
        h.closedSockets, congrArg Nat.succ h.opens, ?_⟩
      intro r hr
      change Function.update px.sockets px.opens ws' r ≠ Websocket.blank
      rcases eq_or_ne r px.opens with rfl | hne
      · rw [Function.update_self]
        rintro rfl
        cases (Websocket.new_fresh hsome).opening
      · rw [Function.update_of_ne hne]
        apply h.constructed
        have hopens := h.opens
        omega
  · exact absurd h.client hnot

/-- The client opens one more connection. -/
theorem Opening.step {px : WebsocketProxy} {n : ℕ} (h : px.Opening n) :
  ∃ px', px.step (.openWs 1 [104] []) = some px' ∧ px'.Opening (n + 1)
  := by
  obtain ⟨hstopped, -, -⟩ := h.running
  obtain ⟨px', hpx'⟩ : ∃ px', px.step (.openWs 1 [104] []) = some px' := by
    rw [WebsocketProxy.step, hstopped]
    simp only [Event.openWs, Event.message, runHandler, if_pos h.messageHandlers]
    exact ⟨_, rfl⟩
  use px', hpx'
  obtain ⟨px₁, hhandle, hopening⟩ := h.handles
  obtain ⟨-, hrun, htime⟩ := hopening.running
  have hsome := processClientMessage_some (m := openMessage) hpx' (congrArg Prod.snd hhandle)
  -- there is nothing to read in `closed_sockets_`
  have hremove : px₁.removeClosedSockets = px₁.toTables := by
    have hclosed : px₁.closedSockets = .empty := hopening.closedSockets
    rw [Tables.removeClosedSockets, hclosed, RingQueue.empty, Nat.zero_sub]
    rfl
  rw [hhandle, hremove, processNext, if_pos hrun, if_neg (not_not.mpr htime)] at hsome
  rw [hsome]
  exact hopening

/-- After client 1 registered, it can open as many connections as it likes. -/
theorem exists_opening (pid : UInt64) (n : ℕ) :
  ∃ px, system.Reachable px ∧ px.pid = pid ∧ px.Opening n
  := by
  induction n with
  | zero =>
      have hstart : system.Reachable (start pid fun _ => 0) := .initial ⟨pid, _, rfl⟩
      obtain ⟨px, hstep, hpid, hopening⟩ : ∃ px,
          (start pid fun _ => 0).step (.register 1) = some px ∧ px.pid = pid ∧
            px.Opening 0 := by
        refine ⟨_, rfl, rfl, ⟨rfl, rfl, rfl⟩, Nat.succ_pos _, ?_, rfl, rfl, rfl, ?_⟩
        · apply AList.mem_replace.mpr (UnorderedMap.mem_emplace.mpr (Or.inl rfl))
        · intro r hr
          exact absurd hr (Nat.not_lt_zero r)
      exact ⟨px, hstart.step (e := .register 1) trivial hstep, hpid, hopening⟩
  | succ n ih =>
      obtain ⟨px, hreachable, hpid, hopening⟩ := ih
      obtain ⟨px', hstep, hopening'⟩ := hopening.step
      use px', hreachable.step trivial hstep
      exact ⟨(step_pid hstep).trans hpid, hopening'⟩

/-- Two servers, the second with the next process id. -/
def pair (px px' : WebsocketProxy) : Bool → WebsocketProxy
  | false => px
  | true => px'

/-- There are servers with the process ids 7 and 8 that opened as many connections each. -/
theorem exists_pair (n n' : ℕ) :
  ∃ px px', Servers (pair px px') ∧ px.pid = 7 ∧ px'.pid = 8 ∧ px.Opening n ∧ px'.Opening n'
  := by
  obtain ⟨px, hreachable, hpid, hopening⟩ := exists_opening 7 n
  obtain ⟨px', hreachable', hpid', hopening'⟩ := exists_opening 8 n'
  refine ⟨px, px', ⟨?_, ?_, ?_, ?_⟩, hpid, hpid', hopening, hopening'⟩
  · rintro (_ | _)
    · exact hreachable
    · exact hreachable'
  · rintro (_ | _)
    · rw [pair, hpid]
      decide
    · rw [pair, hpid']
      decide
  · rintro (_ | _)
    · rw [pair, hpid]
      decide
    · rw [pair, hpid']
      decide
  · rintro (_ | _) (_ | _) heq
    · rfl
    · rw [pair, pair, hpid, hpid'] at heq
      cases heq
    · rw [pair, pair, hpid, hpid'] at heq
      cases heq
    · rfl

/-- As long as a server opens at most `10000` connections, it has its ids for itself. -/
theorem distinctIds_pair :
  ∃ px px', px.pid = 7 ∧ px'.pid = 8 ∧ px.opens = 10000 ∧ px'.opens = 10000 ∧
    DistinctIds (pair px px')
  := by
  obtain ⟨px, px', hservers, hpid, hpid', hopening, hopening'⟩ := exists_pair 10000 10000
  refine ⟨px, px', hpid, hpid', hopening.opens, hopening'.opens, ?_⟩
  apply (distinctIds_iff hservers).mpr
  apply inRange_of_opens_le_base hservers
  rintro (_ | _)
  · apply hopening.opens.le
  · apply hopening'.opens.le

/-- The `10001`st connection of the server with the process id 7 has the id of the first one of
the server with the process id 8. -/
theorem ids_collide :
  ∃ px px', Servers (pair px px') ∧ px.pid = 7 ∧ px'.pid = 8 ∧ px.opens = 10001 ∧ px'.opens = 1 ∧
    (px.sockets 10000).id = 80001 ∧ (px'.sockets 0).id = 80001 ∧ ¬ DistinctIds (pair px px')
  := by
  obtain ⟨px, px', hservers, hpid, hpid', hopening, hopening'⟩ := exists_pair 10001 1
  have hlast : px.Constructed 10000 := hopening.constructed _ (Nat.lt_succ_self _)
  have hfirst : px'.Constructed 0 := hopening'.constructed _ Nat.zero_lt_one
  have hid : (px.sockets 10000).id = 80001 := by
    have hcounted := (reachable_counted (hservers.reachable false)).id 10000 hlast
    rw [pair, hpid] at hcounted
    exact hcounted
  have hid' : (px'.sockets 0).id = 80001 := by
    have hcounted := (reachable_counted (hservers.reachable true)).id 0 hfirst
    rw [pair, hpid'] at hcounted
    exact hcounted
  refine ⟨px, px', hservers, hpid, hpid', hopening.opens, hopening'.opens, hid, hid', ?_⟩
  intro hids
  have hsame := (hids.inj false true 10000 0 hlast hfirst (hid.trans hid'.symm)).1
  cases hsame

end WebsocketProxy
