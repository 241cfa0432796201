import WebsocketProxy.Server.Loop

/-!
# Automatic shutdown

The server shuts itself down when no client came for a minute. `shutdownTime` is zero, or
the reading of the clock at which the last client left. When the clock does not go back and
never reads zero, the server has had no client for a minute when it decides to shut down,
and gets none afterwards (`auto_shutdown_safe`).
-/

namespace WebsocketProxy

variable {joins : Prop}

/-- A client is registered. -/
def Occupied (px : WebsocketProxy) : Prop := ∃ pid, pid ∈ px.clients

theorem occupied_iff (px : WebsocketProxy) :
  px.Occupied ↔ ¬ px.clients.isEmpty
  := by
  rw [UnorderedMap.isEmpty_iff, not_forall_not]
  rfl

instance (px : WebsocketProxy) : Decidable px.Occupied :=
  decidable_of_iff _ px.occupied_iff.symm

/-- Going from `px` to `px'`, the clock may be read. The shutdown time and whether there is a
client stay as they were; or there is no client, and the shutdown time is one of the readings;
or, where clients may join, there is one, and the shutdown time is not set. -/
structure Ticks (joins : Prop) (px px' : WebsocketProxy) : Prop where
  clock : px'.clock = px.clock
  readings : px.readings ≤ px'.readings
  time : (joins ∧ px'.shutdownTime = 0 ∧ px'.Occupied) ∨
    (px'.shutdownTime = px.shutdownTime ∧ (px'.Occupied ↔ px.Occupied)) ∨
    (¬ px'.Occupied ∧ ∃ j, px.readings ≤ j ∧ j < px'.readings ∧ px'.shutdownTime = px.clock j)

theorem occupied_congr {px px' : WebsocketProxy}
    (h : ∀ pid, pid ∈ px'.clients ↔ pid ∈ px.clients) :
  px'.Occupied ↔ px.Occupied
  := exists_congr h

/-- The clients and the shutdown time stay as they are. -/
theorem Ticks.same {px px' : WebsocketProxy} (hclock : px'.clock = px.clock)
    (hreadings : px.readings ≤ px'.readings) (htime : px'.shutdownTime = px.shutdownTime)
    (hclients : ∀ pid, pid ∈ px'.clients ↔ pid ∈ px.clients) :
  Ticks joins px px'
  := ⟨hclock, hreadings, Or.inr (Or.inl ⟨htime, occupied_congr hclients⟩)⟩

theorem Ticks.trans {px px' px'' : WebsocketProxy} (h : Ticks joins px px')
    (h' : Ticks joins px' px'') :
  Ticks joins px px''
  := by
  constructor
  · rw [h'.clock, h.clock]
  · apply Nat.le_trans h.readings h'.readings
  · rcases h'.time with hset | ⟨hsame, hoccupied⟩ | ⟨hempty, j, hj, hlt, htime⟩
    · apply Or.inl hset
    · rcases h.time with ⟨hjoins, hzero, hthere⟩ | ⟨hsame', hoccupied'⟩ | ⟨hempty, j, hj, hlt, htime⟩
      · left
        rw [hsame]
        exact ⟨hjoins, hzero, hoccupied.mpr hthere⟩
      · right; left
        rw [hsame]
        exact ⟨hsame', hoccupied.trans hoccupied'⟩
      · right; right
        rw [hsame]
        exact ⟨fun hthere => hempty (hoccupied.mp hthere), j, hj,
          Nat.lt_of_lt_of_le hlt h'.readings, htime⟩
    · right; right
      rw [h.clock] at htime
      exact ⟨hempty, j, Nat.le_trans h.readings hj, hlt, htime⟩

/-! ### Handlers -/

theorem unregisterClientAt_ticks (px : WebsocketProxy) (pid : UInt64) :
  Ticks joins px (px.unregisterClientAt pid)
  := by
  have hclients := Tables.unregisterSockets_clients px.toTables pid
  simp only [unregisterClientAt]
  split
  case isTrue hempty =>
    have hempty := UnorderedMap.isEmpty_iff.mp hempty
    refine ⟨rfl, Nat.le_succ _, Or.inr (Or.inr ⟨?_, px.readings, Nat.le_refl _, Nat.lt_succ_self _, rfl⟩)⟩
    rintro ⟨q, hq⟩
    apply hempty q hq
  case isFalse hthere =>
    refine ⟨rfl, Nat.le_refl _, Or.inr (Or.inl ⟨rfl, ?_⟩)⟩
    have hafter : ∃ q, q ∈ (px.unregisterSockets pid).clients.erase pid := by
      by_contra hnone
      apply hthere (UnorderedMap.isEmpty_iff.mpr (not_exists.mp hnone))
    constructor
    · rintro ⟨q, hq⟩
      use q
      rw [← hclients]
      exact (AList.mem_erase.mp hq).2
    · exact fun _ => hafter

theorem getClient_ticks (px : WebsocketProxy) (pid : UInt64) :
  Ticks joins px (px.getClient pid).2
  := by
  rcases getClient_cases px pid with ⟨-, clients, hclients, hget⟩ | ⟨-, hget⟩
  · rw [hget]
    exact .same rfl (Nat.le_succ _) rfl hclients
  · rw [hget]
    exact .same rfl (Nat.le_refl _) rfl (fun _ => Iff.rfl)

theorem handleClientRegistration_ticks (hjoins : joins) (px : WebsocketProxy) (msg : ℕ)
    (reg : RegisterMessage) :
  Ticks joins px (px.handleClientRegistration msg reg)
  := by
  refine ⟨rfl, Nat.le_succ _, Or.inl ⟨hjoins, rfl, (px.slots msg).pid, ?_⟩⟩
  apply AList.mem_replace.mpr
  apply UnorderedMap.mem_emplace.mpr (Or.inl rfl)

theorem openNewWs_ticks (px : WebsocketProxy) (msg : ℕ) (req : WsOpen) :
  Ticks joins px (px.openNewWs msg req).1
  := by
  simp only [openNewWs]
  split
  · exact .same rfl (Nat.le_refl _) rfl (fun _ => Iff.rfl)
  · exact .same rfl (Nat.le_refl _) rfl (fun _ => Iff.rfl)

theorem openWs_ticks (px : WebsocketProxy) (msg : ℕ) (req : WsOpen) :
  Ticks joins px (px.openWs msg req).1
  := by
  have hget : Ticks joins px (px.getClient (px.slots msg).pid).2 := getClient_ticks ..
  simp only [openWs]
  split
  · split
    · split
      · apply hget.trans
        exact .same rfl (Nat.le_succ _) rfl (fun _ => Iff.rfl)
      · apply hget.trans (openNewWs_ticks _ _ _)
    · apply hget.trans (openNewWs_ticks _ _ _)
  · apply hget.trans
    exact .same rfl (Nat.le_refl _) rfl (fun _ => Iff.rfl)

/-- The handling of a message. -/
theorem handleClientMessage_ticks (hjoins : joins) (px : WebsocketProxy) (msg : ℕ) :
  Ticks joins px (px.handleClientMessage msg).1
  := by
  have hget : Ticks joins px (px.getClient (px.slots msg).pid).2 := getClient_ticks ..
  have hrest : ∀ {px' : WebsocketProxy}, px'.clock = (px.getClient (px.slots msg).pid).2.clock →
      (px.getClient (px.slots msg).pid).2.readings ≤ px'.readings →
      px'.shutdownTime = (px.getClient (px.slots msg).pid).2.shutdownTime →
      px'.clients = (px.getClient (px.slots msg).pid).2.clients → Ticks joins px px' := by
    intro px' hclock hreadings htime hclients
    apply hget.trans
    apply Ticks.same hclock hreadings htime
    rw [hclients]
    exact fun _ => Iff.rfl
  rw [handleClientMessage]
  split
  case h_1 => exact handleClientRegistration_ticks hjoins _ _ _
  case h_2 =>
    simp only [unregisterClient]
    split
    · apply unregisterClientAt_ticks
    · exact .same rfl (Nat.le_refl _) rfl (fun _ => Iff.rfl)
  case h_3 => exact hget
  case h_4 => apply openWs_ticks
  case h_5 =>
    simp only [closeWs]
    split
    · apply hrest
      · rfl
      · exact Nat.le_refl _
      · rfl
      · exact Tables.closeWs_clients _ _ _
    · exact hrest rfl (Nat.le_refl _) rfl rfl
  case h_6 =>
    simp only [sendWsRequest]
    split
    · split
      · exact hrest rfl (Nat.le_refl _) rfl rfl
      · exact hrest rfl (Nat.le_succ _) rfl rfl
    · exact hrest rfl (Nat.le_succ _) rfl rfl
  case h_7 req _ =>
    obtain ⟨sockets, slots, stores, storedAfter, hafter⟩ := px.handleSubscribe_changes msg req
    rw [hafter]
    exact hrest rfl (Nat.le_refl _) rfl rfl
  case h_8 req _ =>
    obtain ⟨sockets, slots, stores, storedAfter, hafter⟩ := px.handleUnsubscribe_changes msg req
    rw [hafter]
    exact hrest rfl (Nat.le_refl _) rfl rfl
  all_goals exact .same rfl (Nat.le_refl _) rfl (fun _ => Iff.rfl)

/-- The end of the handler of messages. -/
theorem processNext_ticks (px : WebsocketProxy) :
  Ticks joins px px.processNext
  := by
  obtain ⟨handlers, closures, readings, autoShutdown, hnext, hle⟩ := px.processNext_changes
  rw [hnext]
  exact .same rfl hle rfl (fun _ => Iff.rfl)

theorem sendHeartbeat_ticks (px : WebsocketProxy) (now : UInt64) :
  Ticks joins px (px.sendHeartbeat now).2
  := by
  rcases sendHeartbeat_cases px now with h | h
  · rw [h]
    exact .same rfl (Nat.le_refl _) rfl (fun _ => Iff.rfl)
  · rw [h]
    exact .same rfl (Nat.le_refl _) rfl (fun _ => Iff.rfl)

theorem startHeartbeat_ticks (px : WebsocketProxy) :
  Ticks joins px px.startHeartbeat
  := by
  have hcheck : Ticks joins px px.checkHeartbeats.2 := by
    unfold checkHeartbeats
    split
    · exact .same rfl (Nat.le_refl _) rfl (fun _ => Iff.rfl)
    · apply List.foldlRecOn (motive := fun px' : WebsocketProxy => Ticks joins px px')
      · have hread : Ticks joins px { px with readings := px.readings + 1 } :=
          .same rfl (Nat.le_succ _) rfl (fun _ => Iff.rfl)
        apply hread.trans (sendHeartbeat_ticks _ _)
      · intro px' hpx' kvp _
        unfold checkClient
        split
        · apply hpx'.trans (unregisterClientAt_ticks px' kvp.1)
        · exact hpx'
  simp only [startHeartbeat]
  split
  · apply hcheck.trans
    exact .same rfl (Nat.le_refl _) rfl (fun _ => Iff.rfl)
  · exact hcheck

theorem announce_ticks (px : WebsocketProxy) :
  Ticks joins px px.announce
  := by
  simp only [announce, getTimestamp]
  have hread : Ticks joins px { px with readings := px.readings + 1 } :=
    .same rfl (Nat.le_succ _) rfl (fun _ => Iff.rfl)
  apply (hread.trans (sendHeartbeat_ticks _ (px.clock px.readings))).trans
  apply Ticks.trans _ (startHeartbeat_ticks _)
  exact .same rfl (Nat.le_refl _) rfl (fun _ => Iff.rfl)

theorem perform_ticks (px : WebsocketProxy) (r : ℕ)
    (result : Websocket × List Websocket.Callback) :
  Ticks joins px (px.perform r result)
  := by
  apply List.foldlRecOn (motive := fun px' : WebsocketProxy => Ticks joins px px')
  · exact .same rfl (Nat.le_refl _) rfl (fun _ => Iff.rfl)
  · intro px' hpx' call _
    apply hpx'.trans
    cases call with
    | onWsError | onWsData | onWsClosed => exact .same rfl (Nat.le_succ _) rfl (fun _ => Iff.rfl)
    | opened msg success =>
        cases success with
        | true => exact .same rfl (Nat.le_succ _) rfl (fun _ => Iff.rfl)
        | false => exact .same rfl (Nat.le_refl _) rfl (fun _ => Iff.rfl)

/-! ### Steps -/

/-- Dropping closed connections is no matter of clients. -/
theorem removeClosedSockets_ticks (px : WebsocketProxy) :
  Ticks joins px { px with toTables := px.removeClosedSockets }
  := by
  have hclients : ∀ pid, pid ∈ px.removeClosedSockets.clients ↔ pid ∈ px.clients := by
    rw [Tables.removeClosedSockets_clients]
    exact fun _ => Iff.rfl
  apply Ticks.same _ _ _ hclients
  · rfl
  · apply Nat.le_refl _
  · rfl

/-- Unless a client joins, there is one only if there was. -/
theorem Ticks.occupied {px px' : WebsocketProxy} (h : Ticks joins px px') (hjoins : ¬ joins)
    (hthere : px'.Occupied) :
  px.Occupied
  := by
  rcases h.time with ⟨hjoins', -⟩ | ⟨-, hoccupied⟩ | ⟨hempty, -⟩
  · exact absurd hjoins' hjoins
  · apply hoccupied.mp hthere
  · exact absurd hthere hempty

theorem mem_iff_of_perm {κ υ : Type*} {m m' : UnorderedMap κ υ} (h : m'.entries.Perm m.entries)
    (k : κ) :
  k ∈ m' ↔ k ∈ m
  := by
  rw [AList.mem_keys, AList.mem_keys]
  exact (h.map Sigma.fst).mem_iff

/-- The handling of a message posts nothing. -/
theorem handleClientMessage_process (px : WebsocketProxy) (m : Message) :
  ((px.taking m).handleClientMessage px.taken).1.toProcess = (px.taking m).toProcess
  := by
  rcases handleClientMessage_handles px m with ⟨-, -, answers, hhandles, -⟩ |
    ⟨req, clients, -, hopen⟩
  · apply hhandles.process
  · rw [hopen]
    exact (openNewWs_handles ((px.taking m).refreshed clients) px.taken req).1.process

/-- What the handler of messages does up to its end, when it takes a message or finds none.
It ends early when the handling of the message throws. -/
theorem message_step {px px' : WebsocketProxy} {msg : Option Message}
    (h : px.step (.processClientMessage msg) = some px') :
  0 < px.messageHandlers ∧ ∃ px₁, Ticks (∃ m, msg = some m) px px₁ ∧
    px₁.messageHandlers = px.messageHandlers - 1 ∧ px₁.autoShutdown = px.autoShutdown ∧
    (px' = px₁ ∨ px' = px₁.processNext)
  := by
  -- what the handling of a message leaves
  have hhandling : ∀ m : Message, Ticks (∃ m', some m = some m') px
        ((px.taking m).handleClientMessage px.taken).1 ∧
      ((px.taking m).handleClientMessage px.taken).1.messageHandlers = px.messageHandlers - 1 ∧
      ((px.taking m).handleClientMessage px.taken).1.autoShutdown = px.autoShutdown := by
    intro m
    have htaking : Ticks (∃ m', some m = some m') px (px.taking m) :=
      .same rfl (Nat.le_refl _) rfl (fun _ => Iff.rfl)
    have hprocess := handleClientMessage_process px m
    refine ⟨htaking.trans (handleClientMessage_ticks ⟨m, rfl⟩ _ _), ?_, ?_⟩
    · have hhandlers := congrArg Process.messageHandlers hprocess
      exact hhandlers
    · have hauto := congrArg Process.autoShutdown hprocess
      exact hauto
  cases ran_of_step h with
  | noMessage hposted =>
      have htaken : Ticks (∃ m : Message, none = some m) px
          { px with messageHandlers := px.messageHandlers - 1 } :=
        .same rfl (Nat.le_refl _) rfl (fun _ => Iff.rfl)
      use hposted
      exact ⟨_, htaken.trans (removeClosedSockets_ticks _), rfl, rfl, Or.inr rfl⟩
  | @threw m hposted =>
      obtain ⟨hticks, hhandlers, hauto⟩ := hhandling m
      refine ⟨hposted, _, hticks.trans ?_, ?_, ?_, Or.inl rfl⟩
      · unfold caught
        split
        · exact .same rfl (Nat.le_refl _) rfl (fun _ => Iff.rfl)
        · exact .same rfl (Nat.le_refl _) rfl (fun _ => Iff.rfl)
      · rw [← hhandlers, caught]
        split
        · rfl
        · rfl
      · rw [← hauto, caught]
        split
        · rfl
        · rfl
  | @handled m hposted =>
      obtain ⟨hticks, hhandlers, hauto⟩ := hhandling m
      use hposted
      exact ⟨_, hticks.trans (removeClosedSockets_ticks _), hhandlers, hauto, Or.inr rfl⟩

/-- Every step ticks; clients join when a message is taken. -/
theorem step_ticks {px px' : WebsocketProxy} {ev : Event} (h : px.step ev = some px') :
  Ticks (∃ m, ev = .processClientMessage (some m)) px px'
  := by
  rcases em (∃ msg, ev = .processClientMessage msg) with ⟨msg, rfl⟩ | hother
  · obtain ⟨-, px₁, hticks, -, -, hpx'⟩ := message_step h
    have hticks : Ticks (∃ m, Event.processClientMessage msg = .processClientMessage (some m))
        px px₁ := by
      simpa only [Event.processClientMessage.injEq] using hticks
    rcases hpx' with rfl | rfl
    · exact hticks
    · apply hticks.trans (processNext_ticks _)
  · have hposted : Ticks (∃ m, Event.startHeartbeat = .processClientMessage (some m)) px
        { px with heartbeatHandlers := px.heartbeatHandlers - 1 } :=
      .same rfl (Nat.le_refl _) rfl (fun _ => Iff.rfl)
    cases ran_of_step h with
    | handled | threw | noMessage => exact absurd ⟨_, rfl⟩ hother
    | announce => exact hposted.trans (announce_ticks _)
    | startHeartbeat => exact hposted.trans (startHeartbeat_ticks _)
    | complete => apply perform_ticks
    | signal | stopClosure | timerHandler | slotReused =>
        exact .same rfl (Nat.le_refl _) rfl (fun _ => Iff.rfl)
    | shutdownClosure =>
        have hclients : ∀ pid, pid ∈ px.closeAll.clients ↔ pid ∈ px.clients := by
          rw [(Tables.closeAll_closesAll px.toTables).clients]
          exact fun _ => Iff.rfl
        apply Ticks.same _ _ _ hclients
        · rfl
        · apply Nat.le_refl _
        · rfl
    | rehash hclients => exact .same rfl (Nat.le_refl _) rfl (mem_iff_of_perm hclients)

/-- The handler decides to shut down at a reading of the clock a minute after the last client
left. -/
structure Decides (px px' : WebsocketProxy) : Prop where
  set : px.shutdownTime ≠ 0
  readings : px'.readings = px.readings + 1
  minute : 60000 ≤ px.clock px.readings - px.shutdownTime
  handlers : px'.messageHandlers = px.messageHandlers
  occupied : px'.Occupied ↔ px.Occupied

theorem processNext_decides {px : WebsocketProxy} (hbefore : px.autoShutdown = false)
    (hafter : px.processNext.autoShutdown = true) :
  px.Decides px.processNext
  := by
  have hnot : ∀ {px' : WebsocketProxy}, px'.autoShutdown = px.autoShutdown →
      px'.autoShutdown ≠ true := by
    intro px' hsame hafter
    rw [hsame, hbefore] at hafter
    cases hafter
  revert hafter
  simp only [processNext]
  split
  · split
    case isTrue hset =>
      split
      case isTrue hminute => exact fun _ => ⟨hset, rfl, hminute, rfl, Iff.rfl⟩
      case isFalse => exact fun hafter => absurd hafter (hnot rfl)
    case isFalse => exact fun hafter => absurd hafter (hnot rfl)
  · exact fun hafter => absurd hafter (hnot rfl)

/-- The end of the handler of messages posts it again, or decides to shut down. -/
theorem processNext_handlers (px : WebsocketProxy) :
  (px.processNext.autoShutdown = px.autoShutdown ∧
    px.processNext.messageHandlers ≤ px.messageHandlers + 1) ∨
  (px.processNext.autoShutdown = true ∧ px.processNext.messageHandlers = px.messageHandlers)
  := by
  simp only [processNext]
  split
  · split
    · split
      · exact Or.inr ⟨rfl, rfl⟩
      · exact Or.inl ⟨rfl, Nat.le_refl _⟩
    · exact Or.inl ⟨rfl, Nat.le_refl _⟩
  · exact Or.inl ⟨rfl, Nat.le_succ _⟩

/-- Steps that do not run the handler of messages leave it, and the decision to shut down, as
they are. -/
theorem step_handlers {px px' : WebsocketProxy} {ev : Event} (h : px.step ev = some px')
    (hev : ∀ msg, ev ≠ .processClientMessage msg) :
  px'.messageHandlers = px.messageHandlers ∧ px'.autoShutdown = px.autoShutdown
  := by
  cases ran_of_step h with
  | handled | threw | noMessage => exact absurd rfl (hev _)
  | announce =>
      have hprocess := (announce_keeps { px with
        heartbeatHandlers := px.heartbeatHandlers - 1 }).1
      have hhandlers := congrArg Process.messageHandlers hprocess
      have hauto := congrArg Process.autoShutdown hprocess
      exact ⟨hhandlers, hauto⟩
  | startHeartbeat =>
      have hprocess := (startHeartbeat_keeps { px with
        heartbeatHandlers := px.heartbeatHandlers - 1 }).1
      have hhandlers := congrArg Process.messageHandlers hprocess
      have hauto := congrArg Process.autoShutdown hprocess
      exact ⟨hhandlers, hauto⟩
  | @complete r c ws calls =>
      have hprocess : (px.perform r (ws, calls)).toProcess = px.toProcess :=
        foldl_callback_process r calls _
      exact ⟨congrArg Process.messageHandlers hprocess, congrArg Process.autoShutdown hprocess⟩
  | signal | stopClosure | timerHandler | shutdownClosure | slotReused | rehash =>
      exact ⟨rfl, rfl⟩

/-- Before a step decides to shut down, it does what a step can do. -/
theorem step_decides {px px' : WebsocketProxy} {ev : Event} (h : px.step ev = some px')
    (hbefore : px.autoShutdown = false) (hafter : px'.autoShutdown = true) :
  ∃ px₁, Ticks (∃ m, ev = .processClientMessage (some m)) px px₁ ∧ px₁.Decides px'
  := by
  rcases em (∃ msg, ev = .processClientMessage msg) with ⟨msg, rfl⟩ | hother
  · obtain ⟨-, px₁, hticks, -, hauto, rfl | rfl⟩ := message_step h
    · rw [hauto, hbefore] at hafter
      cases hafter
    · use px₁
      constructor
      · simpa only [Event.processClientMessage.injEq] using hticks
      · apply processNext_decides (hauto.trans hbefore) hafter
  · rw [(step_handlers h (fun msg hev => hother ⟨msg, hev⟩)).2, hbefore] at hafter
    cases hafter

/-! ### Runs -/

/-- The handler of messages is posted once at most, and not at all after the decision to shut
down. No client is there then, nor when the shutdown time is set. -/
structure Vacant (px : WebsocketProxy) : Prop where
  handlers_le : px.messageHandlers ≤ 1
  handlers : px.autoShutdown = true → px.messageHandlers = 0
  decided : px.autoShutdown = true → ¬ px.Occupied
  set : px.shutdownTime ≠ 0 → ¬ px.Occupied

theorem Ticks.set {px px' : WebsocketProxy} (h : Ticks joins px px')
    (hset : px.shutdownTime ≠ 0 → ¬ px.Occupied) (hset' : px'.shutdownTime ≠ 0) :
  ¬ px'.Occupied
  := by
  rcases h.time with ⟨-, hzero, -⟩ | ⟨hsame, hoccupied⟩ | ⟨hempty, -⟩
  · exact absurd hzero hset'
  · rw [hsame] at hset'
    exact fun hthere => hset hset' (hoccupied.mp hthere)
  · exact hempty

theorem start_vacant (pid : UInt64) (clock : ℕ → UInt64) :
  (start pid clock).Vacant
  := by
  constructor
  · apply Nat.le_refl _
  · rintro ⟨⟩
  · rintro ⟨⟩
  · exact fun h => absurd rfl h

theorem Vacant.step {px px' : WebsocketProxy} {ev : Event} (hpx : px.Vacant)
    (h : px.step ev = some px') :
  px'.Vacant
  := by
  have hset := (step_ticks h).set hpx.set
  rcases em (∃ msg, ev = .processClientMessage msg) with ⟨msg, rfl⟩ | hother
  · obtain ⟨hposted, px₁, hticks, hhandlers, hauto, hpx'⟩ := message_step h
    have hone := hpx.handlers_le
    have hundecided : px₁.autoShutdown = false := by
      rw [hauto, Bool.eq_false_iff]
      intro hdecided
      have := hpx.handlers hdecided
      omega
    rcases hpx' with rfl | rfl
    · constructor
      · omega
      · rw [hundecided]
        rintro ⟨⟩
      · rw [hundecided]
        rintro ⟨⟩
      · exact hset
    · have hcases := processNext_handlers px₁
      constructor
      · omega
      · intro hdecided
        rcases hcases with ⟨hsame, -⟩ | ⟨-, hnone⟩
        · rw [hsame, hundecided] at hdecided
          cases hdecided
        · omega
      · intro hdecided hthere
        have hdecides := processNext_decides hundecided hdecided
        apply hticks.set hpx.set hdecides.set (hdecides.occupied.mp hthere)
      · exact hset
  · have hother : ∀ msg, ev ≠ .processClientMessage msg := fun msg hev => hother ⟨msg, hev⟩
    obtain ⟨hhandlers, hauto⟩ := step_handlers h hother
    constructor
    · rw [hhandlers]
      apply hpx.handlers_le
    · rw [hhandlers, hauto]
      apply hpx.handlers
    · rw [hauto]
      intro hdecided hthere
      apply hpx.decided hdecided
      exact (step_ticks h).occupied (fun ⟨m, hev⟩ => hother (some m) hev) hthere
    · exact hset

theorem reachable_vacant {px : WebsocketProxy} (h : system.Reachable px) :
  px.Vacant
  := by
  apply h.invariant
  · rintro px ⟨pid, clock, rfl⟩
    apply start_vacant
  · exact fun px ev px' _ hpx _ hstep => hpx.step hstep

/-- From a state with a client on, in which `k` readings of the clock had been taken: when
there is no client the shutdown time is set, and it is a reading taken since. -/
structure Since (k : ℕ) (px : WebsocketProxy) : Prop where
  le : k ≤ px.readings
  left : ¬ px.Occupied → px.shutdownTime ≠ 0
  reading : px.shutdownTime ≠ 0 →
    ∃ j, k ≤ j ∧ j < px.readings ∧ px.shutdownTime = px.clock j

theorem Since.ticks {k : ℕ} {px px' : WebsocketProxy} (hpx : Since k px)
    (hclock : ∀ j, px.clock j ≠ 0) (h : Ticks joins px px') :
  Since k px'
  := by
  have hle := hpx.le
  have hreadings := h.readings
  rcases h.time with ⟨-, hzero, hthere⟩ | ⟨hsame, hoccupied⟩ | ⟨hempty, j, hj, hlt, htime⟩
  · constructor
    · omega
    · exact fun hempty => absurd hthere hempty
    · exact fun hset => absurd hzero hset
  · constructor
    · omega
    · rw [hsame]
      exact fun hempty => hpx.left (fun hthere => hempty (hoccupied.mpr hthere))
    · rw [hsame, h.clock]
      intro hset
      obtain ⟨j, hj, hlt, htime⟩ := hpx.reading hset
      exact ⟨j, hj, by omega, htime⟩
  · constructor
    · omega
    · rw [htime]
      exact fun _ => hclock j
    · rw [h.clock]
      exact fun _ => ⟨j, by omega, hlt, htime⟩

theorem run_clock {px px' : WebsocketProxy} {es : List Event} (h : system.Run px es px') :
  px'.clock = px.clock
  := by
  induction h with
  | nil => rfl
  | snoc _ _ hstep ih => rw [(step_ticks hstep).clock, ih]

theorem run_since {px₁ px : WebsocketProxy} {es : List Event} (hclock : ∀ j, px₁.clock j ≠ 0)
    (hvacant : px₁.Vacant) (hthere : px₁.Occupied) (h : system.Run px₁ es px) :
  Since px₁.readings px
  := by
  induction h with
  | nil =>
      constructor
      · apply Nat.le_refl _
      · exact fun hempty => absurd hthere hempty
      · exact fun hset => absurd hthere (hvacant.set hset)
  | snoc hrun _ hstep ih =>
      apply ih.ticks _ (step_ticks hstep)
      rw [run_clock hrun]
      exact hclock

/-- When the clock does not go back and never reads zero: after the decision to shut down, as
whenever the shutdown time is set, no client is there; the shutdown time is set when there
was a client and is none now; and the decision is taken a minute or more after a reading of
the clock that followed every state with a client. -/
theorem auto_shutdown_safe {pid : UInt64} {clock : ℕ → UInt64}
    (hmono : ∀ i j, i ≤ j → clock i ≤ clock j) (hclock : ∀ j, clock j ≠ 0) {es fs : List Event} {px₁ px : WebsocketProxy}
    (h₁ : system.Run (start pid clock) es px₁) (h : system.Run px₁ fs px) :
  (px.autoShutdown = true → ¬ px.Occupied) ∧
  (px.shutdownTime ≠ 0 → ¬ px.Occupied) ∧
  (px₁.Occupied → ¬ px.Occupied → px.shutdownTime ≠ 0) ∧
  ∀ ev px', px.step ev = some px' → px.autoShutdown = false → px'.autoShutdown = true →
    ¬ px'.Occupied ∧ (px₁.Occupied → ∃ j k, px₁.readings ≤ j ∧ j < k ∧ k + 1 = px'.readings ∧
      (clock j).toNat + 60000 ≤ (clock k).toNat)
  := by
  have hstart : system.Reachable (start pid clock) := .initial ⟨pid, clock, rfl⟩
  have hreachable₁ := hstart.run h₁
  have hvacant := reachable_vacant (hreachable₁.run h)
  have hclock₁ : px₁.clock = clock := run_clock h₁
  have hclock' : px.clock = clock := (run_clock h).trans hclock₁
  have hsince : px₁.Occupied → Since px₁.readings px := by
    intro hthere
    apply run_since _ (reachable_vacant hreachable₁) hthere h
    rw [hclock₁]
    exact hclock
  refine ⟨hvacant.decided, hvacant.set, fun hthere => (hsince hthere).left, ?_⟩
  intro ev px' hstep hbefore hafter
  use (hvacant.step hstep).decided hafter
  intro hthere
  obtain ⟨px₂, hticks, hdecides⟩ := step_decides hstep hbefore hafter
  have hsince₂ := (hsince hthere).ticks (by rw [hclock']; exact hclock) hticks
  obtain ⟨j, hj, hlt, htime⟩ := hsince₂.reading hdecides.set
  have hclock₂ : px₂.clock = clock := hticks.clock.trans hclock'
  have hminute := hdecides.minute
  rw [hclock₂] at htime hminute
  use j, px₂.readings, hj, hlt, hdecides.readings.symm
  have hle : clock j ≤ clock px₂.readings := hmono _ _ (Nat.le_of_lt hlt)
  rw [htime, UInt64.le_iff_toNat_le, UInt64.toNat_sub_of_le _ _ hle] at hminute
  have hle := UInt64.le_iff_toNat_le.mp hle
  have hconst : (60000 : UInt64).toNat = 60000 := rfl
  omega

/-- A clock that reads one, and a minute later from the fourth reading on. -/
def clockWithPause (j : ℕ) : UInt64 := if j < 3 then 1 else 60001

/-- The server shuts down a minute after its only client left. -/
theorem auto_shutdown_safe_pause :
  ∃ px₁ px px', system.Run (start 7 clockWithPause) [.register 1] px₁ ∧
    system.Run px₁ [.unregister 1] px ∧ px.step (.processClientMessage none) = some px' ∧
    px'.autoShutdown = true ∧ px₁.Occupied ∧ ¬ px'.Occupied ∧
    ∃ j k, px₁.readings ≤ j ∧ j < k ∧ k + 1 = px'.readings ∧
      (clockWithPause j).toNat + 60000 ≤ (clockWithPause k).toNat
  := by
  have hexec : ∃ px₁ ∈ system.exec (start 7 clockWithPause) [.register 1], 1 ∈ px₁.clients ∧
      ∃ px ∈ system.exec px₁ [.unregister 1], px.autoShutdown = false ∧
        ∃ px' ∈ px.step (.processClientMessage none), px'.autoShutdown = true := by
    decide +kernel
  obtain ⟨px₁, hrun₁, hthere, px, hrun, hbefore, px', hstep, hafter⟩ :=
    TransitionSystem.exists_runUnder hexec
  have hrun := TransitionSystem.runUnder_of_execUnder hrun
  have hmono : ∀ i j, i ≤ j → clockWithPause i ≤ clockWithPause j := by
    intro i j hij
    unfold clockWithPause
    split
    · split
      · decide
      · decide
    · rw [if_neg (by omega)]
      decide
  have hclock : ∀ j, clockWithPause j ≠ 0 := by
    intro j
    unfold clockWithPause
    split
    · decide
    · decide
  obtain ⟨-, -, -, hdecides⟩ := auto_shutdown_safe hmono hclock hrun₁ hrun
  obtain ⟨hempty, hminute⟩ := hdecides _ px' hstep hbefore hafter
  exact ⟨px₁, px, px', hrun₁, hrun, hstep, hafter, ⟨1, hthere⟩, hempty, hminute ⟨1, hthere⟩⟩

end WebsocketProxy
