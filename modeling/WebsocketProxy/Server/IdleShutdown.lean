import WebsocketProxy.Server.AutoShutdown

/-!
# The shutdown of an idle server

When the last client leaves, `shutdownTime` is set, and it stays as it is until a client registers
(`step_shutdownTime`). So the server does not only wait for a minute before it shuts itself down:
when it has had no client since a reading of the clock, the first handler of messages that ends a
minute later decides to shut down (`idle_shutdown_iff`). A server that no client ever registered
with never decides that (`not_shutdown_of_unused`).
-/

namespace WebsocketProxy

/-- No client is registered when the step is made. -/
def Unoccupied (px : WebsocketProxy) (_ : Event) : Prop := ¬ px.Occupied

instance (px : WebsocketProxy) (ev : Event) : Decidable (px.Unoccupied ev) :=
  inferInstanceAs (Decidable (¬ _))

/-! ### Messages -/

theorem handleClientMessage_registers {px : WebsocketProxy} {m : Message} {reg : RegisterMessage}
    (hm : m.data = .register reg) :
  ((px.taking m).handleClientMessage px.taken).1.Occupied
  := by
  rw [handleClientMessage, slots_taking, hm]
  use m.pid
  apply AList.mem_replace.mpr
  apply UnorderedMap.mem_emplace.mpr
  left
  rw [slots_taking]

/-- Without clients, a message that does not register one leaves the shutdown time as it is, and
its handling does not throw: no connection is constructed for a sender that is not registered. -/
theorem handleClientMessage_unoccupied {px : WebsocketProxy} {m : Message}
    (hempty : ¬ px.Occupied) (hm : ∀ reg, m.data ≠ .register reg) :
  ((px.taking m).handleClientMessage px.taken).1.shutdownTime = px.shutdownTime ∧
    ((px.taking m).handleClientMessage px.taken).2 = false
  := by
  have hpid : m.pid ∉ px.clients := fun hpid => hempty ⟨m.pid, hpid⟩
  have hget : (px.taking m).getClient m.pid = (false, px.taking m) := by
    rcases getClient_taking_cases px m with ⟨hthere, -⟩ | ⟨-, hget⟩
    · exact absurd hthere hpid
    · exact hget
  have hgetSlot : (px.taking m).getClient ((px.taking m).slots px.taken).pid
      = (false, px.taking m) := by
    rw [slots_taking, hget]
  rw [handleClientMessage, slots_taking]
  split
  case h_1 reg hdata => exact absurd hdata (hm reg)
  case h_2 =>
    have hpid : m.pid ∉ (px.taking m).clients := hpid
    rw [unregisterClient, if_neg hpid]
    exact ⟨rfl, rfl⟩
  case h_3 =>
    rw [handleClientHeartbeat, hgetSlot]
    exact ⟨rfl, rfl⟩
  case h_4 req _ =>
    simp only [openWs, hgetSlot]
    exact ⟨rfl, rfl⟩
  case h_5 req _ =>
    simp only [closeWs, hgetSlot]
    exact ⟨rfl, trivial⟩
  case h_6 req _ =>
    simp only [sendWsRequest, hgetSlot]
    exact ⟨rfl, trivial⟩
  case h_7 req _ =>
    simp only [handleSubscribe, hgetSlot]
    exact ⟨rfl, trivial⟩
  case h_8 req _ =>
    simp only [handleUnsubscribe, hgetSlot]
    exact ⟨rfl, trivial⟩
  all_goals exact ⟨rfl, rfl⟩

/-- What the handler of messages does up to its end, while no client is there. -/
structure Waits (px px₁ : WebsocketProxy) : Prop where
  shutdownTime : px₁.shutdownTime = px.shutdownTime
  clock : px₁.clock = px.clock
  readings : px.readings ≤ px₁.readings
  run : px₁.run = px.run
  autoShutdown : px₁.autoShutdown = px.autoShutdown

/-- Without clients before and after, the handler of messages waits, and comes to its end. -/
theorem message_waits {px px' : WebsocketProxy} {msg : Option Message}
    (h : px.step (.processClientMessage msg) = some px') (hempty : ¬ px.Occupied)
    (hempty' : ¬ px'.Occupied) :
  ∃ px₁, px.Waits px₁ ∧ px' = px₁.processNext
  := by
  have hunregistered : ∀ {m : Message} {px' : WebsocketProxy}, ¬ px'.Occupied →
      (∀ pid, pid ∈ ((px.taking m).handleClientMessage px.taken).1.clients ↔
        pid ∈ px'.clients) → ∀ reg, m.data ≠ .register reg := by
    intro m px' hempty' hclients reg hreg
    apply hempty' ((occupied_congr hclients).mp (handleClientMessage_registers hreg))
  cases ran_of_step h with
  | noMessage =>
      refine ⟨_, ?_, rfl⟩
      exact ⟨rfl, rfl, Nat.le_refl _, rfl, rfl⟩
  | @threw m _ hthrew =>
      have hclients : ∀ pid, pid ∈ ((px.taking m).handleClientMessage px.taken).1.clients ↔
          pid ∈ ((px.taking m).handleClientMessage px.taken).1.caught.clients := by
        unfold caught
        split
        · exact fun _ => Iff.rfl
        · exact fun _ => Iff.rfl
      have hreturns := (handleClientMessage_unoccupied hempty (hunregistered hempty' hclients)).2
      rw [hthrew] at hreturns
      cases hreturns
  | @handled m =>
      let px₁ : WebsocketProxy := { ((px.taking m).handleClientMessage px.taken).1 with
        toTables := ((px.taking m).handleClientMessage px.taken).1.removeClosedSockets }
      have hclients : ∀ pid, pid ∈ ((px.taking m).handleClientMessage px.taken).1.clients ↔
          pid ∈ px₁.processNext.clients := by
        obtain ⟨handlers, closures, readings, autoShutdown, hnext, -⟩ := px₁.processNext_changes
        rw [hnext]
        change ∀ pid, _ ↔ pid ∈ px₁.toTables.clients
        dsimp only [px₁]
        rw [Tables.removeClosedSockets_clients]
        exact fun _ => Iff.rfl
      have hsame := (handleClientMessage_unoccupied hempty (hunregistered hempty' hclients)).1
      have hticks := handleClientMessage_ticks trivial (px.taking m) px.taken
      have hprocess := handleClientMessage_process px m
      use px₁
      refine ⟨⟨hsame, hticks.clock, hticks.readings, ?_, ?_⟩, rfl⟩
      · have hrun := congrArg Process.run hprocess
        exact hrun
      · have hauto := congrArg Process.autoShutdown hprocess
        exact hauto

/-! ### Steps -/

theorem startHeartbeat_unoccupied {px : WebsocketProxy} (hempty : ¬ px.Occupied) :
  px.startHeartbeat.shutdownTime = px.shutdownTime
  := by
  have hclients : px.clients.isEmpty := not_not.mp (mt px.occupied_iff.mpr hempty)
  simp only [startHeartbeat, checkHeartbeats, if_pos hclients]
  split
  · rfl
  · rfl

theorem foldl_callback_shutdownTime (r : ℕ) (calls : List Websocket.Callback)
    (px : WebsocketProxy) :
  (calls.foldl (callback r) px).shutdownTime = px.shutdownTime
  := by
  induction calls generalizing px with
  | nil => rfl
  | cons call calls ih =>
      rw [List.foldl_cons, ih]
      cases call with
      | onWsError | onWsData | onWsClosed => rfl
      | opened msg success =>
          cases success with
          | true => rfl
          | false => rfl

/-- As long as no client is there, the shutdown time stays as it is. -/
theorem step_shutdownTime {px px' : WebsocketProxy} {ev : Event} (h : px.step ev = some px')
    (hempty : ¬ px.Occupied) (hempty' : ¬ px'.Occupied) :
  px'.shutdownTime = px.shutdownTime
  := by
  rcases em (∃ msg, ev = .processClientMessage msg) with ⟨msg, rfl⟩ | hother
  · obtain ⟨px₁, hwaits, rfl⟩ := message_waits h hempty hempty'
    obtain ⟨handlers, closures, readings, autoShutdown, hnext, -⟩ := px₁.processNext_changes
    rw [hnext]
    exact hwaits.shutdownTime
  · cases ran_of_step h with
    | handled | threw | noMessage => exact absurd ⟨_, rfl⟩ hother
    | announce =>
        simp only [announce, getTimestamp]
        rcases sendHeartbeat_cases { px with
            heartbeatHandlers := px.heartbeatHandlers - 1, readings := px.readings + 1 }
            (px.clock px.readings) with hsend | hsend
        · rw [hsend]
          exact startHeartbeat_unoccupied hempty
        · rw [hsend]
          exact startHeartbeat_unoccupied hempty
    | startHeartbeat => exact startHeartbeat_unoccupied hempty
    | @complete r c ws calls =>
        exact foldl_callback_shutdownTime r calls
          { px with toTables := px.modifySocket r fun _ => ws }
    | signal | stopClosure | timerHandler | slotReused | shutdownClosure | rehash => rfl

/-- The end of the handler of messages, when the shutdown time is not set. -/
theorem processNext_of_zero {px : WebsocketProxy} (hzero : px.shutdownTime = 0) :
  px.processNext.autoShutdown = px.autoShutdown
  := by
  simp only [processNext, hzero, ne_eq, not_true_eq_false, if_false]
  split
  · rfl
  · rfl

/-- The end of the handler of messages, when the shutdown time is set. -/
theorem processNext_of_set {px : WebsocketProxy} (hrun : px.run = true)
    (hset : px.shutdownTime ≠ 0) (hbefore : px.autoShutdown = false) :
  px.processNext.readings = px.readings + 1 ∧
    (px.processNext.autoShutdown = true ↔ 60000 ≤ px.clock px.readings - px.shutdownTime)
  := by
  simp only [processNext, hrun, if_true, getTimestamp]
  rw [if_pos hset]
  split
  case isTrue hminute =>
    constructor
    · rfl
    · exact iff_of_true rfl hminute
  case isFalse hearly =>
    constructor
    · rfl
    · apply iff_of_false _ hearly
      change px.autoShutdown ≠ true
      rw [hbefore]
      rintro ⟨⟩

/-! ### Runs -/

theorem run_shutdownTime {px₁ px : WebsocketProxy} {es : List Event}
    (h : system.RunUnder Unoccupied px₁ es px) (hempty : ¬ px.Occupied) :
  px.shutdownTime = px₁.shutdownTime
  := by
  induction h with
  | nil => rfl
  | snoc _ hbefore hstep ih => rw [step_shutdownTime hstep hbefore hempty, ih hbefore]

theorem run_readings_le {px px' : WebsocketProxy} {es : List Event} (h : system.Run px es px') :
  px.readings ≤ px'.readings
  := by
  induction h with
  | nil => apply Nat.le_refl _
  | snoc _ _ hstep ih => apply Nat.le_trans ih (step_ticks hstep).readings

/-- As long as no client registers, the shutdown time is not set and the server does not shut
itself down. -/
theorem not_shutdown_of_unused {pid : UInt64} {clock : ℕ → UInt64} {es : List Event}
    {px : WebsocketProxy} (h : system.RunUnder Unoccupied (start pid clock) es px)
    (hempty : ¬ px.Occupied) :
  px.shutdownTime = 0 ∧ px.autoShutdown = false
  := by
  use run_shutdownTime h hempty
  induction h with
  | nil => rfl
  | @snoc es px ev px' hrun hbefore hstep ih =>
      rcases em (∃ msg, ev = .processClientMessage msg) with ⟨msg, rfl⟩ | hother
      · obtain ⟨px₁, hwaits, rfl⟩ := message_waits hstep hbefore hempty
        rw [processNext_of_zero (hwaits.shutdownTime.trans (run_shutdownTime hrun hbefore)),
          hwaits.autoShutdown]
        apply ih hbefore
      · rw [(step_handlers hstep (fun msg hev => hother ⟨msg, hev⟩)).2]
        apply ih hbefore

/-- When the clock does not go back and never reads zero: the last client leaves in a step, which
sets the shutdown time to a reading of its own, and none registers from then on. Then a handler of
messages that ends while the server runs decides to shut down if and only if it reads a time that
is a minute or more later. -/
theorem idle_shutdown_iff {pid : UInt64} {clock : ℕ → UInt64}
    (hmono : ∀ i j, i ≤ j → clock i ≤ clock j) (hclock : ∀ j, clock j ≠ 0) {es fs : List Event}
    {px₀ px₁ px px' : WebsocketProxy} {ev : Event} {msg : Option Message}
    (h₀ : system.Run (start pid clock) es px₀) (hthere : px₀.Occupied)
    (hleaves : px₀.step ev = some px₁) (hempty₁ : ¬ px₁.Occupied)
    (h : system.RunUnder Unoccupied px₁ fs px) (hempty : ¬ px.Occupied) (hrun : px.run = true)
    (hstep : px.step (.processClientMessage msg) = some px') (hempty' : ¬ px'.Occupied) :
  ∃ j k, px₀.readings ≤ j ∧ j < px₁.readings ∧ px₁.shutdownTime = clock j ∧ j < k ∧
    k + 1 = px'.readings ∧ (px'.autoShutdown = true ↔ (clock j).toNat + 60000 ≤ (clock k).toNat)
  := by
  have hstart : system.Reachable (start pid clock) := .initial ⟨pid, clock, rfl⟩
  have hticks := step_ticks hleaves
  have hclock₀ : px₀.clock = clock := run_clock h₀
  have hrun₁ : system.Run px₁ fs px := h.mono fun _ _ _ => trivial
  have hclock₁ : px.clock = clock := by
    rw [run_clock hrun₁, hticks.clock, hclock₀]
  -- the reading at which the last client left
  obtain ⟨j, hle, hlt, htime⟩ : ∃ j, px₀.readings ≤ j ∧ j < px₁.readings ∧
      px₁.shutdownTime = clock j := by
    rcases hticks.time with ⟨-, -, hthere₁⟩ | ⟨-, hsame⟩ | ⟨-, j, hle, hlt, htime⟩
    · exact absurd hthere₁ hempty₁
    · exact absurd (hsame.mpr hthere) hempty₁
    · rw [hclock₀] at htime
      exact ⟨j, hle, hlt, htime⟩
  have hreadings := run_readings_le hrun₁
  obtain ⟨px₂, hwaits, rfl⟩ := message_waits hstep hempty hempty'
  have hset : px₂.shutdownTime = clock j := by
    rw [hwaits.shutdownTime, run_shutdownTime h hempty, htime]
  have hundecided : px.autoShutdown = false := by
    rw [Bool.eq_false_iff]
    intro hdecided
    have hreachable : system.Reachable px := hstart.run ((h₀.snoc trivial hleaves).append hrun₁)
    have hposted := (message_step hstep).1
    rw [(reachable_vacant hreachable).handlers hdecided] at hposted
    exact Nat.lt_irrefl 0 hposted
  obtain ⟨hlast, hdecides⟩ := processNext_of_set (hwaits.run.trans hrun)
    (hset ▸ hclock j) (hwaits.autoShutdown.trans hundecided)
  have hreadings₂ := hwaits.readings
  use j, px₂.readings, hle, hlt, htime, by omega, hlast.symm
  rw [hdecides, hwaits.clock, hclock₁, hset, UInt64.le_iff_toNat_le,
    UInt64.toNat_sub_of_le _ _ (hmono j _ (by omega))]
  have hconst : (60000 : UInt64).toNat = 60000 := rfl
  have hpast := UInt64.le_iff_toNat_le.mp (hmono j px₂.readings (by omega))
  omega

/-- A clock that reads a second later each time, up to the second minute. -/
def clockBySeconds (j : ℕ) : UInt64 := UInt64.ofNat (1000 + 1000 * min j 120)

theorem clockBySeconds_toNat (j : ℕ) :
  (clockBySeconds j).toNat = 1000 + 1000 * min j 120
  := by
  apply UInt64.toNat_ofNat_of_lt'
  rw [UInt64.size]
  omega

theorem clockBySeconds_mono {i j : ℕ} (h : i ≤ j) :
  clockBySeconds i ≤ clockBySeconds j
  := by
  rw [UInt64.le_iff_toNat_le, clockBySeconds_toNat, clockBySeconds_toNat]
  omega

theorem clockBySeconds_ne_zero (j : ℕ) :
  clockBySeconds j ≠ 0
  := by
  intro hzero
  have hread := clockBySeconds_toNat j
  rw [hzero] at hread
  change 0 = _ at hread
  omega

/-- The only client leaves, and the 60th handler of messages that finds none shuts down. -/
theorem idle_shutdown_iff_bySeconds :
  ∃ px₀ px₁ px px', system.Run (start 7 clockBySeconds) [.register 1] px₀ ∧
    px₀.step (.unregister 1) = some px₁ ∧
    system.RunUnder Unoccupied px₁ (List.replicate 58 (.processClientMessage none)) px ∧
    px.step (.processClientMessage none) = some px' ∧ px.autoShutdown = false ∧
    px'.autoShutdown = true ∧ ∃ j k, px₀.readings ≤ j ∧ j < px₁.readings ∧
      px₁.shutdownTime = clockBySeconds j ∧ j < k ∧ k + 1 = px'.readings ∧
      (clockBySeconds j).toNat + 60000 ≤ (clockBySeconds k).toNat
  := by
  have hexec : ∃ px₀ ∈ system.exec (start 7 clockBySeconds) [.register 1], px₀.Occupied ∧
      ∃ px₁ ∈ px₀.step (.unregister 1), ¬ px₁.Occupied ∧
      ∃ px ∈ system.execUnder Unoccupied px₁ (List.replicate 58 (.processClientMessage none)),
        ¬ px.Occupied ∧ px.run = true ∧ px.autoShutdown = false ∧
        ∃ px' ∈ px.step (.processClientMessage none), ¬ px'.Occupied ∧ px'.autoShutdown = true := by
    decide +kernel
  obtain ⟨px₀, hrun₀, hthere, px₁, hleaves, hempty₁, px, hexec, hempty, hrun, hbefore, px', hstep,
    hempty', hafter⟩ := TransitionSystem.exists_runUnder hexec
  have h := TransitionSystem.runUnder_of_execUnder hexec
  obtain ⟨j, k, hle, hlt, hset, hjk, hk, hiff⟩ := idle_shutdown_iff
    (fun i j h => clockBySeconds_mono h) clockBySeconds_ne_zero hrun₀ hthere hleaves hempty₁ h hempty hrun hstep hempty'
  use px₀, px₁, px, px', hrun₀, hleaves, h, hstep, hbefore, hafter
  exact ⟨j, k, hle, hlt, hset, hjk, hk, hiff.mp hafter⟩

end WebsocketProxy
