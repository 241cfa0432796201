import WebsocketProxy.Server.Registration

/-!
# The roster of clients

`Roster` is the part of the server that says who is registered and when each was last heard of.
It is a transition system of its own: a client is registered, refreshed or unregistered, or the
clock is read for something else. What a step of the server does to it is a run (`step_roster`);
a message of a registered client refreshes it, unless it is of a type that the handler does not
look the sender up for (`step_lookup`).
-/

/-- The clients of the server, and the readings of the clock. -/
structure Roster where
  clock : ℕ → UInt64
  clients : UnorderedMap UInt64 ClientInfo
  shutdownTime : UInt64
  readings : ℕ

namespace Roster

/-- What happens to the clients of the server. -/
inductive Event where
  /-- The clock is read. -/
  | read
  | refresh (pid : UInt64)
  | register (pid : UInt64)
  | unregister (pid : UInt64)
  | rehash (clients : UnorderedMap UInt64 ClientInfo)

/-- The client that an event is about. -/
def Event.pid : Event → Option UInt64
  | refresh pid | register pid | unregister pid => some pid
  | read | rehash _ => none

/-- The roster after an event. -/
def step (ro : Roster) : Event → Option Roster
  | .read => some { ro with readings := ro.readings + 1 }
  | .refresh pid =>
      (ro.clients.lookup pid).map fun client =>
        { ro with
          clients := ro.clients.replace pid
            { client with lastHeartbeatTime := ro.clock ro.readings }
          readings := ro.readings + 1 }
  | .register pid =>
      some { ro with
        clients := (ro.clients.emplace pid ⟨0, 0⟩).replace pid ⟨pid, ro.clock ro.readings⟩
        shutdownTime := 0
        readings := ro.readings + 1 }
  | .unregister pid =>
      let ro := { ro with clients := ro.clients.erase pid }
      some (
        if ro.clients.isEmpty then
          { ro with shutdownTime := ro.clock ro.readings, readings := ro.readings + 1 }
        else ro)
  | .rehash clients => if clients.entries.Perm ro.clients.entries then some { ro with clients } else none

/-- The roster as a transition system. -/
def system : TransitionSystem Roster Event where
  initial ro := ro.clients = ∅
  step := step

/-- The clock is not changed, and no reading is taken back. -/
theorem step_clock {ro ro' : Roster} {e : Event} (h : ro.step e = some ro') :
  ro'.clock = ro.clock ∧ ro.readings ≤ ro'.readings
  := by
  cases e with
  | read | register =>
      obtain rfl := Option.some.inj h
      exact ⟨rfl, Nat.le_succ _⟩
  | refresh pid =>
      obtain ⟨client, -, rfl⟩ := Option.map_eq_some_iff.mp h
      exact ⟨rfl, Nat.le_succ _⟩
  | unregister pid =>
      obtain rfl := Option.some.inj h
      dsimp only
      split
      · exact ⟨rfl, Nat.le_succ _⟩
      · exact ⟨rfl, Nat.le_refl _⟩
  | rehash clients =>
      simp only [step] at h
      split at h
      case isTrue =>
        obtain rfl := Option.some.inj h
        exact ⟨rfl, Nat.le_refl _⟩
      case isFalse => cases h

/-- The entry of a client after an event is as it was, or it was made with a reading of the
clock in an event about the client. -/
theorem step_lookup {ro ro' : Roster} {e : Event} (h : ro.step e = some ro') {p : UInt64}
    {info : ClientInfo} (hinfo : ro'.clients.lookup p = some info) :
  (ro.clients.lookup p = some info ∧ e.pid ≠ some p) ∨
    (info.lastHeartbeatTime = ro.clock ro.readings ∧ ro'.readings = ro.readings + 1)
  := by
  cases e with
  | read =>
      obtain rfl := Option.some.inj h
      exact Or.inl ⟨hinfo, (Option.some_ne_none p).symm⟩
  | refresh pid =>
      obtain ⟨client, -, rfl⟩ := Option.map_eq_some_iff.mp h
      dsimp only at hinfo
      rw [UnorderedMap.lookup_replace_eq] at hinfo
      split at hinfo
      case isTrue hp =>
        obtain rfl := Option.some.inj hinfo
        exact Or.inr ⟨rfl, rfl⟩
      case isFalse hp =>
        left
        use hinfo
        intro hpid
        apply hp
        use (Option.some.inj hpid).symm
        rw [Option.some.inj hpid]
        exact UnorderedMap.mem_iff_lookup.mpr ⟨info, hinfo⟩
  | register pid =>
      obtain rfl := Option.some.inj h
      dsimp only at hinfo
      rw [UnorderedMap.lookup_replace_eq] at hinfo
      split at hinfo
      case isTrue hp =>
        obtain rfl := Option.some.inj hinfo
        exact Or.inr ⟨rfl, rfl⟩
      case isFalse hp =>
        have hne : p ≠ pid := fun heq => hp ⟨heq, UnorderedMap.mem_emplace.mpr (Or.inl rfl)⟩
        rw [UnorderedMap.lookup_emplace_ne _ hne] at hinfo
        exact Or.inl ⟨hinfo, fun hpid => hne (Option.some.inj hpid).symm⟩
  | unregister pid =>
      obtain rfl := Option.some.inj h
      have hinfo : (ro.clients.erase pid).lookup p = some info := by
        dsimp only at hinfo
        split at hinfo
        · exact hinfo
        · exact hinfo
      obtain ⟨hne, hinfo⟩ := UnorderedMap.lookup_erase_eq_some.mp hinfo
      left
      use hinfo
      intro hpid
      apply hne (Option.some.inj hpid).symm
  | rehash clients =>
      simp only [step] at h
      split at h
      case isTrue hperm =>
        obtain rfl := Option.some.inj h
        dsimp only at hinfo
        rw [AList.perm_lookup hperm] at hinfo
        exact Or.inl ⟨hinfo, (Option.some_ne_none p).symm⟩
      case isFalse => cases h

variable {guard : Roster → Event → Prop}

theorem run_clock {ro ro' : Roster} {es : List Event} (h : system.RunUnder guard ro es ro') :
  ro'.clock = ro.clock ∧ ro.readings ≤ ro'.readings
  := by
  induction h with
  | nil => exact ⟨rfl, Nat.le_refl _⟩
  | snoc _ _ hstep ih =>
      obtain ⟨hclock, hle⟩ := step_clock hstep
      exact ⟨hclock.trans ih.1, Nat.le_trans ih.2 hle⟩

/-- The entry of a client after a run is as it was, or it was made with a reading of the clock,
as it was when one of the events is about the client. -/
theorem run_lookup {ro ro' : Roster} {es : List Event} (h : system.RunUnder guard ro es ro')
    {p : UInt64} {info : ClientInfo} (hinfo : ro'.clients.lookup p = some info) :
  (ro.clients.lookup p = some info ∧ ∀ e ∈ es, e.pid ≠ some p) ∨
    ∃ j, ro.readings ≤ j ∧ j < ro'.readings ∧ info.lastHeartbeatTime = ro.clock j
  := by
  induction h with
  | nil => exact Or.inl ⟨hinfo, fun e he => absurd he List.not_mem_nil⟩
  | @snoc es ro' e ro'' hrun _ hstep ih =>
      obtain ⟨hclock, hle⟩ := run_clock hrun
      rcases step_lookup hstep hinfo with ⟨hbefore, hpid⟩ | ⟨htime, hreadings⟩
      · rcases ih hbefore with ⟨hbefore, hes⟩ | ⟨j, hj, hlt, htime⟩
        · left
          use hbefore
          intro e' he'
          rcases List.mem_append.mp he' with he' | he'
          · apply hes e' he'
          · rw [List.mem_singleton.mp he']
            exact hpid
        · exact Or.inr ⟨j, hj, Nat.lt_of_lt_of_le hlt (step_clock hstep).2, htime⟩
      · right
        rw [hclock] at htime
        exact ⟨_, hle, hreadings ▸ Nat.lt_succ_self _, htime⟩

end Roster

/-- The handler of a message of this type looks the sender up, or registers or unregisters it. -/
def Message.Data.Refreshes : Message.Data → Prop
  | register _ | unregister | openWs _ | closeWs _ | heartbeat | wsRequest _ | subscribe _
  | unsubscribe _ => True
  | wsData _ | wsError _ | logLevel _ | unknown => False

instance (data : Message.Data) : Decidable data.Refreshes :=
  match data with
  | .register _ | .unregister | .openWs _ | .closeWs _ | .heartbeat | .wsRequest _ | .subscribe _
  | .unsubscribe _ => inferInstanceAs (Decidable True)
  | .wsData _ | .wsError _ | .logLevel _ | .unknown => inferInstanceAs (Decidable False)

namespace WebsocketProxy

/-- The clients of the server, and the readings of its clock. -/
def roster (px : WebsocketProxy) : Roster where
  clock := px.clock
  clients := px.clients
  shutdownTime := px.shutdownTime
  readings := px.readings

/-- A step of the server can do this to its clients. -/
def Event.Causes (ev : Event) : Roster.Event → Prop
  | .register pid => ∃ m, ev = .processClientMessage (some m) ∧ m.Registers pid
  | .refresh pid => ∃ m, ev = .processClientMessage (some m) ∧ m.pid = pid
  | .unregister pid =>
      ev = .startHeartbeat ∨ ∃ m, ev = .processClientMessage (some m) ∧ m.Unregisters pid
  | .rehash _ => ∃ clients byId byUrlApiKey, ev = .rehash clients byId byUrlApiKey
  | .read => True

/-- In the step of `ev`, what goes on from `px` to `px'` is a run of the roster. -/
abbrev RosterRun (ev : Event) (px : WebsocketProxy) (es : List Roster.Event)
    (px' : WebsocketProxy) : Prop :=
  Roster.system.RunUnder (fun _ => ev.Causes) px.roster es px'.roster

theorem RosterRun.same {ev : Event} {px px' : WebsocketProxy} (h : px'.roster = px.roster) :
  RosterRun ev px [] px'
  := by
  rw [RosterRun, h]
  exact .nil

theorem RosterRun.single {ev : Event} {px px' : WebsocketProxy} {e : Roster.Event}
    (hev : ev.Causes e) (h : px.roster.step e = some px'.roster) :
  RosterRun ev px [e] px'
  := TransitionSystem.RunUnder.single hev h

theorem RosterRun.read {ev : Event} {px px' : WebsocketProxy}
    (h : px'.roster = { px.roster with readings := px.readings + 1 }) :
  RosterRun ev px [.read] px'
  := by
  apply RosterRun.single (e := .read) trivial
  rw [h]
  rfl

/-! ### Handlers -/

theorem getClient_roster {ev : Event} {px : WebsocketProxy} {pid : UInt64}
    (hev : ev.Causes (.refresh pid)) :
  RosterRun ev px (if pid ∈ px.clients then [.refresh pid] else []) (px.getClient pid).2
  := by
  cases hlookup : px.clients.lookup pid with
  | some client =>
      rw [if_pos (UnorderedMap.mem_iff_lookup.mpr ⟨client, hlookup⟩)]
      apply RosterRun.single hev
      simp only [Roster.step, getClient, hlookup, roster]
      rfl
  | none =>
      rw [if_neg (AList.lookup_eq_none.mp hlookup)]
      apply RosterRun.same
      simp only [getClient, hlookup]

theorem unregisterClientAt_roster {ev : Event} {px : WebsocketProxy} {pid : UInt64}
    (hev : ev.Causes (.unregister pid)) :
  RosterRun ev px [.unregister pid] (px.unregisterClientAt pid)
  := by
  apply RosterRun.single hev
  have hclients := Tables.unregisterSockets_clients px.toTables pid
  change some (if UnorderedMap.isEmpty (px.clients.erase pid) = true then _ else _) = _
  rcases em (UnorderedMap.isEmpty (px.clients.erase pid) = true) with hempty | hthere
  · simp only [unregisterClientAt, hclients, if_pos hempty]
    rfl
  · simp only [unregisterClientAt, hclients, if_neg hthere]
    rfl

theorem openNewWs_roster {ev : Event} (px : WebsocketProxy) (msg : ℕ) (req : WsOpen) :
  RosterRun ev px [] (px.openNewWs msg req).1
  := by
  apply RosterRun.same
  simp only [openNewWs]
  split
  · rfl
  · rfl

/-- The handling of a message of a type that refreshes is about its sender, if that is
registered. -/
theorem handleClientMessage_roster (px : WebsocketProxy) (m : Message) :
  ∃ es, RosterRun (.processClientMessage (some m)) (px.taking m) es
      ((px.taking m).handleClientMessage px.taken).1 ∧
    (m.data.Refreshes → m.pid ∈ px.clients → ∃ e ∈ es, e.pid = some m.pid)
  := by
  have hget : RosterRun (.processClientMessage (some m)) (px.taking m)
      (if m.pid ∈ px.clients then [.refresh m.pid] else []) ((px.taking m).getClient m.pid).2 :=
    getClient_roster ⟨m, rfl, rfl⟩
  have hwith : ∀ {es px'} {refreshes : Prop}, RosterRun (.processClientMessage (some m))
      ((px.taking m).getClient m.pid).2 es px' →
      ∃ es, RosterRun (.processClientMessage (some m)) (px.taking m) es px' ∧
        (refreshes → m.pid ∈ px.clients → ∃ e ∈ es, e.pid = some m.pid) := by
    intro es px' refreshes hrun
    refine ⟨_, hget.append hrun, ?_⟩
    intro _ hpid
    use .refresh m.pid
    rw [if_pos hpid]
    exact ⟨List.mem_append_left _ (List.mem_singleton_self _), rfl⟩
  have hsame : ∀ {px' : WebsocketProxy} {refreshes : Prop},
      px'.roster = ((px.taking m).getClient m.pid).2.roster →
      ∃ es, RosterRun (.processClientMessage (some m)) (px.taking m) es px' ∧
        (refreshes → m.pid ∈ px.clients → ∃ e ∈ es, e.pid = some m.pid) :=
    fun h => hwith (.same h)
  rw [handleClientMessage, slots_taking]
  cases hdata : m.data with
  | register reg =>
      use [.register m.pid]
      constructor
      · have hev : (Event.processClientMessage (some m)).Causes (.register m.pid) :=
          ⟨m, rfl, rfl, reg, hdata⟩
        apply RosterRun.single hev
        simp only [Roster.step, handleClientRegistration, roster, slots_taking]
        rfl
      · intro _ _
        exact ⟨_, List.mem_singleton_self _, rfl⟩
  | unregister =>
      simp only [unregisterClient]
      split
      case isTrue =>
        use [.unregister m.pid]
        constructor
        · exact unregisterClientAt_roster (Or.inr ⟨m, rfl, rfl, hdata⟩)
        · intro _ _
          exact ⟨_, List.mem_singleton_self _, rfl⟩
      case isFalse hout =>
        use [], .same rfl
        exact fun _ hpid => absurd hpid hout
  | heartbeat =>
      simp only [handleClientHeartbeat, slots_taking]
      apply hsame rfl
  | openWs req =>
      simp only [openWs, slots_taking]
      split
      · split
        · split
          · apply hwith (.read rfl)
          · apply hwith (openNewWs_roster _ _ _)
        · apply hwith (openNewWs_roster _ _ _)
      · apply hsame rfl
  | closeWs req =>
      simp only [closeWs, slots_taking]
      split
      · apply hsame
        simp only [roster, storeStatus, Tables.closeWs_clients]
      · apply hsame rfl
  | wsRequest req =>
      simp only [sendWsRequest, slots_taking]
      split
      · split
        · apply hsame rfl
        · apply hwith (.read rfl)
      · apply hwith (.read rfl)
  | subscribe req =>
      obtain ⟨sockets, slots, stores, storedAfter, hafter⟩ :=
        (px.taking m).handleSubscribe_changes px.taken req
      rw [slots_taking] at hafter
      dsimp only
      rw [hafter]
      apply hsame rfl
  | unsubscribe req =>
      obtain ⟨sockets, slots, stores, storedAfter, hafter⟩ :=
        (px.taking m).handleUnsubscribe_changes px.taken req
      rw [slots_taking] at hafter
      dsimp only
      rw [hafter]
      apply hsame rfl
  | _ => exact ⟨[], .same rfl, fun hrefreshes => hrefreshes.elim⟩

theorem processNext_roster (ev : Event) (px : WebsocketProxy) :
  ∃ es, RosterRun ev px es px.processNext
  := by
  simp only [processNext]
  split
  · split
    · split
      · exact ⟨_, .read rfl⟩
      · exact ⟨_, .read rfl⟩
    · exact ⟨_, .same rfl⟩
  · exact ⟨_, .same rfl⟩

theorem sendHeartbeat_roster (px : WebsocketProxy) (now : UInt64) :
  (px.sendHeartbeat now).2.roster = px.roster
  := by
  rcases sendHeartbeat_cases px now with h | h
  · rw [h]
  · rw [h]
    rfl

/-- Where there are clients, `checkHeartbeats` reads the clock before all else. -/
theorem checkHeartbeats_roster (px : WebsocketProxy) :
  px.clients.isEmpty ∧ px.checkHeartbeats.2 = px ∨
    ∃ es, RosterRun .startHeartbeat { px with readings := px.readings + 1 } es px.checkHeartbeats.2
  := by
  unfold checkHeartbeats
  split
  case isTrue hempty => exact Or.inl ⟨hempty, rfl⟩
  case isFalse =>
    right
    apply List.foldlRecOn (motive := fun px' : WebsocketProxy =>
      ∃ es, RosterRun .startHeartbeat { px with readings := px.readings + 1 } es px')
    · use []
      apply RosterRun.same
      rw [sendHeartbeat_roster]
      rfl
    · rintro px' ⟨es, hpx'⟩ kvp _
      unfold checkClient
      split
      · exact ⟨_, hpx'.append (unregisterClientAt_roster (Or.inl rfl))⟩
      · exact ⟨es, hpx'⟩

theorem startHeartbeat_roster (px : WebsocketProxy) :
  px.startHeartbeat.roster = px.checkHeartbeats.2.roster
  := by
  simp only [startHeartbeat]
  split
  · rfl
  · rfl

/-- The handler of the heartbeat timer reads the clock if it announces the server, and then
checks the heartbeats. -/
theorem heartbeatHandler_roster {px px' : WebsocketProxy}
    (h : px.runHandler .startHeartbeat = some px') :
  ∃ announced : WebsocketProxy, announced.roster
      = { px.roster with readings := px.readings + if px.startup then 1 else 0 } ∧
    px'.roster = announced.checkHeartbeats.2.roster
  := by
  cases ran_of_runHandler h with
  | announce hposted hstartup =>
      simp only [announce, getTimestamp, hstartup, if_true]
      refine ⟨_, ?_, startHeartbeat_roster _⟩
      apply sendHeartbeat_roster _ _
  | startHeartbeat hposted hstartup =>
      refine ⟨{ px with heartbeatHandlers := px.heartbeatHandlers - 1 }, ?_, ?_⟩
      · rw [hstartup]
        rfl
      · apply startHeartbeat_roster _

theorem perform_roster {ev : Event} (px : WebsocketProxy) (r : ℕ)
    (result : Websocket × List Websocket.Callback) :
  ∃ es, RosterRun ev px es (px.perform r result)
  := by
  apply List.foldlRecOn (motive := fun px' : WebsocketProxy => ∃ es, RosterRun ev px es px')
  · exact ⟨_, .same rfl⟩
  · rintro px' ⟨es, hpx'⟩ call _
    cases call with
    | onWsError | onWsData | onWsClosed => exact ⟨_, hpx'.append (RosterRun.read rfl)⟩
    | opened msg success =>
        cases success with
        | true => exact ⟨_, hpx'.append (RosterRun.read rfl)⟩
        | false => exact ⟨_, hpx'.append (RosterRun.same rfl)⟩

/-! ### Steps -/

/-- What a step does to the clients is a run of the roster, and about the sender of the message
that it takes, if the type of the message refreshes and the sender is registered. -/
theorem step_roster {px px' : WebsocketProxy} {ev : Event} (h : px.step ev = some px') :
  ∃ es, RosterRun ev px es px' ∧
    ∀ m ∈ ev.taken, m.data.Refreshes → m.pid ∈ px.clients → ∃ e ∈ es, e.pid = some m.pid
  := by
  have hother : ev.taken = none → (∃ es, RosterRun ev px es px') → ∃ es, RosterRun ev px es px' ∧
      ∀ m ∈ ev.taken, m.data.Refreshes → m.pid ∈ px.clients → ∃ e ∈ es, e.pid = some m.pid := by
    rintro hnone ⟨es, hes⟩
    use es, hes
    rw [hnone]
    rintro m ⟨⟩
  have hmessage : ∀ {m es' px'}, RosterRun (.processClientMessage (some m))
      ((px.taking m).handleClientMessage px.taken).1 es' px' →
      ∃ es, RosterRun (.processClientMessage (some m)) px es px' ∧
        ∀ m' ∈ some m, m'.data.Refreshes → m'.pid ∈ px.clients → ∃ e ∈ es, e.pid = some m'.pid := by
    intro m es' px' hes'
    obtain ⟨es, hes, habout⟩ := handleClientMessage_roster px m
    refine ⟨es ++ es', hes.append hes', ?_⟩
    rintro m' ⟨⟩ hrefreshes hpid
    obtain ⟨e, he, hepid⟩ := habout hrefreshes hpid
    exact ⟨e, List.mem_append_left _ he, hepid⟩
  have hheartbeat : ev = .startHeartbeat → ∃ es, RosterRun ev px es px' := by
    rintro rfl
    obtain ⟨announced, hannounced, hchecked⟩ := heartbeatHandler_roster (runHandler_of_step h)
    obtain ⟨es, hes⟩ : ∃ es, RosterRun .startHeartbeat px es announced := by
      cases hstartup : px.startup with
      | true =>
          rw [hstartup, if_pos rfl] at hannounced
          exact ⟨_, .read hannounced⟩
      | false =>
          rw [hstartup] at hannounced
          exact ⟨_, .same hannounced⟩
    rcases checkHeartbeats_roster announced with ⟨-, hsame⟩ | ⟨es', hes'⟩
    · use es
      rw [RosterRun, hchecked, hsame]
      exact hes
    · use es ++ ([.read] ++ es')
      rw [RosterRun, hchecked]
      apply hes.append ((RosterRun.read rfl).append hes')
  cases ran_of_step h with
  | @threw m =>
      apply hmessage (.same _)
      unfold caught
      split
      · rfl
      · rfl
  | @handled m =>
      obtain ⟨es', hes'⟩ := processNext_roster (.processClientMessage (some m))
        { ((px.taking m).handleClientMessage px.taken).1 with
          toTables := ((px.taking m).handleClientMessage px.taken).1.removeClosedSockets }
      have hdrained : RosterRun (.processClientMessage (some m))
          ((px.taking m).handleClientMessage px.taken).1 []
          { ((px.taking m).handleClientMessage px.taken).1 with
            toTables := ((px.taking m).handleClientMessage px.taken).1.removeClosedSockets } := by
        apply RosterRun.same
        simp only [roster, Tables.removeClosedSockets_clients]
      apply hmessage (hdrained.append hes')
  | noMessage =>
      apply hother rfl
      obtain ⟨es, hes⟩ := processNext_roster (.processClientMessage none) { px with
        messageHandlers := px.messageHandlers - 1
        toTables := px.removeClosedSockets }
      have hdrained : RosterRun (.processClientMessage none) px [] { px with
          messageHandlers := px.messageHandlers - 1
          toTables := px.removeClosedSockets } := by
        apply RosterRun.same
        simp only [roster, Tables.removeClosedSockets_clients]
      exact ⟨_, hdrained.append hes⟩
  | announce | startHeartbeat => exact hother rfl (hheartbeat rfl)
  | complete => exact hother rfl (perform_roster _ _ _)
  | signal | stopClosure | timerHandler | slotReused => exact hother rfl ⟨_, .same rfl⟩
  | shutdownClosure =>
      refine hother rfl ⟨_, .same ?_⟩
      simp only [roster, shutdownClosure, (Tables.closeAll_closesAll px.toTables).clients]
  | @rehash clients byId byUrlApiKey hclients =>
      refine hother rfl ⟨[.rehash clients], RosterRun.single ⟨_, _, _, rfl⟩ ?_⟩
      apply if_pos hclients

/-- The readings of the clock from `px` to `px'`. -/
def readingsUntil (px px' : WebsocketProxy) : List UInt64 :=
  (List.range' px.readings (px'.readings - px.readings)).map px.clock

theorem mem_readingsUntil {px px' : WebsocketProxy} {j : ℕ} (hle : px.readings ≤ j)
    (hlt : j < px'.readings) :
  px.clock j ∈ px.readingsUntil px'
  := by
  apply List.mem_map_of_mem
  apply List.mem_range'_1.mpr
  omega

/-- No step changes the clock, or takes a reading back. -/
theorem step_clock {px px' : WebsocketProxy} {ev : Event} (h : px.step ev = some px') :
  px'.clock = px.clock ∧ px.readings ≤ px'.readings
  := by
  obtain ⟨es, hes, -⟩ := step_roster h
  apply Roster.run_clock hes

/-- The entry of a client after a step is as it was, or it was made with a reading of the clock;
as it was when the step takes a message of the client whose type refreshes. -/
theorem step_lookup {px px' : WebsocketProxy} {ev : Event} (h : px.step ev = some px') {p : UInt64}
    {info : ClientInfo} (hinfo : px'.clients.lookup p = some info) :
  (px.clients.lookup p = some info ∧ ∀ m ∈ ev.taken, m.pid = p → ¬ m.data.Refreshes) ∨
    info.lastHeartbeatTime ∈ px.readingsUntil px'
  := by
  obtain ⟨es, hes, habout⟩ := step_roster h
  rcases Roster.run_lookup hes hinfo with ⟨hbefore, hnot⟩ | ⟨j, hle, hlt, htime⟩
  · left
    use hbefore
    rintro m hm rfl hrefreshes
    have hmem : m.pid ∈ px.clients := UnorderedMap.mem_iff_lookup.mpr ⟨info, hbefore⟩
    obtain ⟨e, he, hpid⟩ := habout m hm hrefreshes hmem
    apply hnot e he hpid
  · right
    rw [htime]
    apply mem_readingsUntil hle hlt

/-! ### Clients whose heartbeats stopped -/

/-- A client whose heartbeats stopped was last heard of more than 30 seconds before a time that
is read in the step that drops it. -/
theorem step_expired {px px' : WebsocketProxy} (h : px.step .startHeartbeat = some px') {p : UInt64}
    (hp : p ∈ px.expired) :
  ∃ info, px.clients.lookup p = some info ∧
    ∃ now ∈ px.readingsUntil px', now - info.lastHeartbeatTime > 30000
  := by
  obtain ⟨info, hentry, hexpired⟩ := mem_expiredAmong.mp hp
  have hlookup := UnorderedMap.mem_entries_iff.mp hentry
  obtain ⟨announced, hannounced, hchecked⟩ := heartbeatHandler_roster (runHandler_of_step h)
  refine ⟨info, hlookup, _, mem_readingsUntil (Nat.le_add_right _ _) ?_, hexpired⟩
  have hclients : announced.clients = px.clients := congrArg Roster.clients hannounced
  have hreadings : announced.readings = px.readings + if px.startup then 1 else 0 :=
    congrArg Roster.readings hannounced
  have hafter : px'.readings = announced.checkHeartbeats.2.readings := congrArg Roster.readings hchecked
  rw [← hreadings, hafter]
  rcases checkHeartbeats_roster announced with ⟨hempty, -⟩ | ⟨es, hes⟩
  · rw [hclients] at hempty
    exact absurd (UnorderedMap.mem_iff_lookup.mpr ⟨info, hlookup⟩) (UnorderedMap.isEmpty_iff.mp hempty p)
  · exact (Roster.run_clock hes).2

end WebsocketProxy
