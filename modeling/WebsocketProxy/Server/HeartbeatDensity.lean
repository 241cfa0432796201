import WebsocketProxy.Server.Evictions

/-!
# How dense publications are

Whatever the server publishes, it notes a reading of the clock in `lastHeartbeatTime`, and a tick
of `startHeartbeat` publishes a heartbeat when that was too long ago. As long as there is a client
and the ticks follow each other closely, each window of time that is a little longer than
`heartbeatInterval` has a publication in it (`heartbeat_density`).
-/

namespace WebsocketProxy

/-- Going from `px` to `px'`, the clock may be read. Nothing is published, or the reading noted
for the last publication is one of the readings. -/
structure Stamps (px px' : WebsocketProxy) : Prop where
  clock : px'.clock = px.clock
  readings : px.readings ≤ px'.readings
  stamp : (px'.serverQueue.length = px.serverQueue.length ∧
      px'.lastHeartbeatTime = px.lastHeartbeatTime) ∨
    (px.serverQueue.length < px'.serverQueue.length ∧
      ∃ j, px.readings ≤ j ∧ j < px'.readings ∧ px'.lastHeartbeatTime = px.clock j)

/-- Nothing is published. -/
theorem Stamps.nothing {px px' : WebsocketProxy} (hclock : px'.clock = px.clock)
    (hreadings : px.readings ≤ px'.readings) (hqueue : px'.serverQueue = px.serverQueue)
    (htime : px'.lastHeartbeatTime = px.lastHeartbeatTime) :
  px.Stamps px'
  := ⟨hclock, hreadings, Or.inl ⟨congrArg List.length hqueue, htime⟩⟩

theorem Stamps.trans {px px' px'' : WebsocketProxy} (h : px.Stamps px') (h' : px'.Stamps px'') :
  px.Stamps px''
  := by
  have hreadings := h.readings
  have hreadings' := h'.readings
  constructor
  · rw [h'.clock, h.clock]
  · apply Nat.le_trans hreadings hreadings'
  · rcases h'.stamp with ⟨hlength', htime'⟩ | ⟨hlength', j, hj, hlt, htime'⟩
    · rw [hlength', htime']
      rcases h.stamp with hsame | ⟨hlength, j, hj, hlt, htime⟩
      · apply Or.inl hsame
      · right
        use hlength, j, hj, by omega
    · right
      rw [h.clock] at htime'
      constructor
      · rcases h.stamp with ⟨hlength, -⟩ | ⟨hlength, -⟩
        · omega
        · omega
      · use j, by omega

/-- A message is published with a new reading of the clock. -/
theorem Stamps.published {px px' : WebsocketProxy} {msg : Message} (hclock : px'.clock = px.clock)
    (hreadings : px'.readings = px.readings + 1) (hqueue : px'.serverQueue = px.serverQueue ++ [msg])
    (htime : px'.lastHeartbeatTime = px.clock px.readings) :
  px.Stamps px'
  := by
  constructor
  · exact hclock
  · omega
  · right
    constructor
    · rw [hqueue, List.length_append]
      apply Nat.lt_succ_self _
    · use px.readings, Nat.le_refl _, by omega

/-! ### Handlers -/

theorem getClient_stamps (px : WebsocketProxy) (pid : UInt64) :
  px.Stamps (px.getClient pid).2
  := by
  rcases getClient_cases px pid with ⟨-, clients, -, hget⟩ | ⟨-, hget⟩
  · rw [hget]
    exact .nothing rfl (Nat.le_succ _) rfl rfl
  · rw [hget]
    exact .nothing rfl (Nat.le_refl _) rfl rfl

theorem unregisterClientAt_stamps (px : WebsocketProxy) (pid : UInt64) :
  px.Stamps (px.unregisterClientAt pid)
  := by
  simp only [unregisterClientAt]
  split
  · exact .nothing rfl (Nat.le_succ _) rfl rfl
  · exact .nothing rfl (Nat.le_refl _) rfl rfl

theorem openNewWs_stamps (px : WebsocketProxy) (msg : ℕ) (req : WsOpen) :
  px.Stamps (px.openNewWs msg req).1
  := by
  simp only [openNewWs]
  split
  · exact .nothing rfl (Nat.le_refl _) rfl rfl
  · exact .nothing rfl (Nat.le_refl _) rfl rfl

theorem openWs_stamps (px : WebsocketProxy) (msg : ℕ) (req : WsOpen) :
  px.Stamps (px.openWs msg req).1
  := by
  have hget : px.Stamps (px.getClient (px.slots msg).pid).2 := getClient_stamps ..
  simp only [openWs]
  split
  · split
    · split
      · apply hget.trans
        exact .published rfl rfl rfl rfl
      · exact hget.trans (openNewWs_stamps ..)
    · exact hget.trans (openNewWs_stamps ..)
  · apply hget.trans
    exact .nothing rfl (Nat.le_refl _) rfl rfl

theorem sendWsRequest_stamps (px : WebsocketProxy) (msg : ℕ) (req : WsRequest) :
  px.Stamps (px.sendWsRequest msg req)
  := by
  have hget : px.Stamps (px.getClient (px.slots msg).pid).2 := getClient_stamps ..
  simp only [sendWsRequest]
  split
  · split
    · apply hget.trans
      exact .nothing rfl (Nat.le_refl _) rfl rfl
    · apply hget.trans
      exact .published rfl rfl rfl rfl
  · apply hget.trans
    exact .published rfl rfl rfl rfl

/-- The handling of a message. -/
theorem handleClientMessage_stamps (px : WebsocketProxy) (msg : ℕ) :
  px.Stamps (px.handleClientMessage msg).1
  := by
  have hrest : ∀ {px' : WebsocketProxy}, px'.clock = (px.getClient (px.slots msg).pid).2.clock →
      (px.getClient (px.slots msg).pid).2.readings ≤ px'.readings →
      px'.serverQueue = (px.getClient (px.slots msg).pid).2.serverQueue →
      px'.lastHeartbeatTime = (px.getClient (px.slots msg).pid).2.lastHeartbeatTime →
      px.Stamps px' := by
    intro px' hclock hreadings hqueue htime
    apply (px.getClient_stamps (px.slots msg).pid).trans
    exact .nothing hclock hreadings hqueue htime
  rw [handleClientMessage]
  split
  case h_1 => exact .nothing rfl (Nat.le_succ _) rfl rfl
  case h_2 =>
    simp only [unregisterClient]
    split
    · apply unregisterClientAt_stamps
    · exact .nothing rfl (Nat.le_refl _) rfl rfl
  case h_3 => apply getClient_stamps
  case h_4 => apply openWs_stamps
  case h_5 =>
    simp only [closeWs]
    split
    · exact hrest rfl (Nat.le_refl _) rfl rfl
    · exact hrest rfl (Nat.le_refl _) rfl rfl
  case h_6 => apply sendWsRequest_stamps
  case h_7 req _ =>
    obtain ⟨sockets, slots, stores, storedAfter, hafter⟩ := px.handleSubscribe_changes msg req
    rw [hafter]
    exact hrest rfl (Nat.le_refl _) rfl rfl
  case h_8 req _ =>
    obtain ⟨sockets, slots, stores, storedAfter, hafter⟩ := px.handleUnsubscribe_changes msg req
    rw [hafter]
    exact hrest rfl (Nat.le_refl _) rfl rfl
  all_goals exact .nothing rfl (Nat.le_refl _) rfl rfl

theorem processNext_stamps (px : WebsocketProxy) :
  px.Stamps px.processNext
  := by
  obtain ⟨handlers, closures, readings, autoShutdown, hnext, hle⟩ := px.processNext_changes
  rw [hnext]
  exact .nothing rfl hle rfl rfl

/-- A heartbeat is published with the reading that was just taken. -/
theorem passing_stamps (px : WebsocketProxy) :
  px.Stamps px.passing
  := by
  rcases sendHeartbeat_cases { px with readings := px.readings + 1 } (px.clock px.readings) with
    h | h
  · rw [passing, h]
    exact .nothing rfl (Nat.le_succ _) rfl rfl
  · rw [passing, h]
    exact .published rfl rfl rfl rfl

theorem checkHeartbeats_stamps (px : WebsocketProxy) :
  px.Stamps px.checkHeartbeats.2
  := by
  rcases em (px.clients.isEmpty = true) with hempty | hclients
  · rw [checkHeartbeats, if_pos hempty]
    exact .nothing rfl (Nat.le_refl _) rfl rfl
  · rw [(checkHeartbeats_eq hclients).1]
    apply px.passing_stamps.trans
    apply List.foldlRecOn (motive := fun px' : WebsocketProxy => px.passing.Stamps px')
    · exact .nothing rfl (Nat.le_refl _) rfl rfl
    · intro px' hpx' kvp _
      unfold checkClient
      split
      · apply hpx'.trans (unregisterClientAt_stamps px' kvp.1)
      · exact hpx'

theorem startHeartbeat_stamps (px : WebsocketProxy) :
  px.Stamps px.startHeartbeat
  := by
  simp only [startHeartbeat]
  split
  · apply px.checkHeartbeats_stamps.trans
    exact .nothing rfl (Nat.le_refl _) rfl rfl
  · apply px.checkHeartbeats_stamps

theorem announce_stamps (px : WebsocketProxy) :
  px.Stamps px.announce
  := by
  have hpassing : px.Stamps { px.passing with startup := false } := by
    apply px.passing_stamps.trans
    exact .nothing rfl (Nat.le_refl _) rfl rfl
  apply hpassing.trans (startHeartbeat_stamps _)

theorem perform_stamps (px : WebsocketProxy) (r : ℕ)
    (result : Websocket × List Websocket.Callback) :
  px.Stamps (px.perform r result)
  := by
  apply List.foldlRecOn (motive := fun px' : WebsocketProxy => px.Stamps px')
  · exact .nothing rfl (Nat.le_refl _) rfl rfl
  · intro px' hpx' call _
    apply hpx'.trans
    cases call with
    | onWsError | onWsData | onWsClosed => exact .published rfl rfl rfl rfl
    | opened msg success =>
        cases success with
        | true => exact .published rfl rfl rfl rfl
        | false => exact .nothing rfl (Nat.le_refl _) rfl rfl

/-- Every step stamps what it publishes. -/
theorem step_stamps {px px' : WebsocketProxy} {ev : Event} (h : px.step ev = some px') :
  px.Stamps px'
  := by
  have hhandled : ∀ m, px.Stamps ((px.taking m).handleClientMessage px.taken).1 := by
    intro m
    have htaking : px.Stamps (px.taking m) := .nothing rfl (Nat.le_refl _) rfl rfl
    apply htaking.trans ((px.taking m).handleClientMessage_stamps px.taken)
  have hposted : px.Stamps { px with heartbeatHandlers := px.heartbeatHandlers - 1 } :=
    .nothing rfl (Nat.le_refl _) rfl rfl
  cases ran_of_step h with
  | noMessage =>
      apply Stamps.trans _ (processNext_stamps _)
      exact .nothing rfl (Nat.le_refl _) rfl rfl
  | @threw m =>
      apply (hhandled m).trans
      unfold caught
      split
      · exact .nothing rfl (Nat.le_refl _) rfl rfl
      · exact .nothing rfl (Nat.le_refl _) rfl rfl
  | @handled m =>
      apply (hhandled m).trans
      apply Stamps.trans _ (processNext_stamps _)
      exact .nothing rfl (Nat.le_refl _) rfl rfl
  | announce => exact hposted.trans (announce_stamps _)
  | startHeartbeat => exact hposted.trans (startHeartbeat_stamps _)
  | complete => apply perform_stamps
  | signal | stopClosure | timerHandler | shutdownClosure | slotReused | rehash =>
      exact .nothing rfl (Nat.le_refl _) rfl rfl

/-! ### Publications -/

/-- The time noted for what a step publishes. -/
def publication (px : WebsocketProxy) (_ev : Event) (px' : WebsocketProxy) : List UInt64 :=
  if px.serverQueue.length < px'.serverQueue.length then [px'.lastHeartbeatTime] else []

/-- The reading that a tick of `startHeartbeat` takes. -/
def tick (px : WebsocketProxy) (ev : Event) (_px' : WebsocketProxy) : List UInt64 :=
  match ev with
  | .startHeartbeat => [px.checkReading]
  | _ => []

/-- The noted time is that of a publication, or there was none; and it is a reading. -/
structure Noted (clock : ℕ → UInt64) (publications : List UInt64) (px : WebsocketProxy) : Prop where
  sameClock : px.clock = clock
  mem : px.lastHeartbeatTime ∈ publications ∨ px.lastHeartbeatTime = 0
  reading : px.lastHeartbeatTime = 0 ∨ ∃ j < px.readings, px.lastHeartbeatTime = clock j

theorem run_noted {guard : WebsocketProxy → Event → Prop} {pid : UInt64} {clock : ℕ → UInt64}
    {es : List Event} {px : WebsocketProxy}
    (h : system.RunUnder guard (start pid clock) es px) :
  Noted clock (system.outputs publication (start pid clock) es) px
  := by
  induction h with
  | nil => exact ⟨rfl, Or.inr rfl, Or.inl rfl⟩
  | @snoc es px ev px' hrun _ hstep ih =>
      have hstamps := step_stamps hstep
      have hreadings := hstamps.readings
      rw [hrun.outputs_snoc hstep, publication]
      constructor
      · rw [hstamps.clock, ih.sameClock]
      · rcases hstamps.stamp with ⟨-, htime⟩ | ⟨hlength, -⟩
        · rw [htime]
          apply ih.mem.imp_left (List.mem_append_left _)
        · rw [if_pos hlength]
          apply Or.inl (List.mem_append_right _ (List.mem_singleton_self _))
      · rcases hstamps.stamp with ⟨-, htime⟩ | ⟨-, j, -, hlt, htime⟩
        · rw [htime]
          rcases ih.reading with hzero | ⟨j, hlt, hj⟩
          · apply Or.inl hzero
          · exact Or.inr ⟨j, by omega, hj⟩
        · rw [ih.sameClock] at htime
          exact Or.inr ⟨j, hlt, htime⟩

/-- `checkHeartbeats` publishes a heartbeat when the last publication is too long ago. -/
theorem checkHeartbeats_recent {px : WebsocketProxy} (hclients : ¬ px.clients.isEmpty)
    (hpast : px.lastHeartbeatTime ≤ px.clock px.readings) :
  px.checkHeartbeats.2.lastHeartbeatTime.toNat ≤ (px.clock px.readings).toNat ∧
    (px.clock px.readings).toNat ≤ px.checkHeartbeats.2.lastHeartbeatTime.toNat + 500
  := by
  have hafter : px.checkHeartbeats.2.lastHeartbeatTime = px.passing.lastHeartbeatTime := by
    rw [checkHeartbeats_frame hclients]
  rw [hafter]
  simp only [passing, sendHeartbeat]
  split
  case isTrue => exact ⟨Nat.le_refl _, Nat.le_add_right _ _⟩
  case isFalse hrecent =>
    use UInt64.le_iff_toNat_le.mp hpast
    rw [gt_iff_lt, UInt64.lt_iff_toNat_lt, UInt64.toNat_sub_of_le _ _ hpast, not_lt] at hrecent
    apply Nat.sub_le_iff_le_add'.mp hrecent

/-- After a tick the last publication is not long ago. -/
theorem tick_recent {px px' : WebsocketProxy} (hclock : ∀ i j, i ≤ j → px.clock i ≤ px.clock j)
    (hreading : px.lastHeartbeatTime = 0 ∨ ∃ j < px.readings, px.lastHeartbeatTime = px.clock j)
    (hoccupied : px.Occupied) (h : px.step .startHeartbeat = some px') :
  px'.lastHeartbeatTime.toNat ≤ px.checkReading.toNat ∧
    px.checkReading.toNat ≤ px'.lastHeartbeatTime.toNat + 500
  := by
  have hpast : ∀ k, px.readings ≤ k → px.lastHeartbeatTime ≤ px.clock k := by
    intro k hk
    rcases hreading with hzero | ⟨j, hlt, hj⟩
    · rw [hzero]
      apply UInt64.zero_le
    · rw [hj]
      exact hclock j k (by omega)
  have hstart : ∀ px₁ : WebsocketProxy,
      px₁.startHeartbeat.lastHeartbeatTime = px₁.checkHeartbeats.2.lastHeartbeatTime := by
    intro px₁
    simp only [startHeartbeat]
    split
    · rfl
    · rfl
  have hclients := px.occupied_iff.mp hoccupied
  unfold checkReading
  cases ran_of_step h with
  | announce hposted hstartup =>
      let announced : WebsocketProxy :=
        { ({ px with heartbeatHandlers := px.heartbeatHandlers - 1 } : WebsocketProxy).passing with
          startup := false }
      have hannounced : announced.clients = px.clients ∧ announced.clock = px.clock ∧
          announced.readings = px.readings + 1 ∧
          (announced.lastHeartbeatTime = px.lastHeartbeatTime ∨
            announced.lastHeartbeatTime = px.clock px.readings) := by
        simp only [announced, passing, sendHeartbeat]
        split
        · exact ⟨rfl, rfl, rfl, Or.inr rfl⟩
        · exact ⟨rfl, rfl, rfl, Or.inl rfl⟩
      obtain ⟨hsame, hsameClock, hnext, htime⟩ := hannounced
      have hpast' : announced.lastHeartbeatTime ≤ announced.clock announced.readings := by
        rw [hsameClock, hnext]
        rcases htime with htime | htime
        · rw [htime]
          apply hpast _ (Nat.le_succ _)
        · rw [htime]
          apply hclock _ _ (Nat.le_succ _)
      have hrecent := checkHeartbeats_recent (by rw [hsame]; exact hclients) hpast'
      rw [← hstart, hsameClock, hnext] at hrecent
      rw [if_pos hstartup]
      exact hrecent
  | startHeartbeat hposted hstarted =>
      rw [hstart, hstarted]
      exact checkHeartbeats_recent hclients (hpast px.readings (Nat.le_refl _))

/-! ### Windows of time -/

/-- Of times with small gaps, the last one before `b` is shortly before it. -/
theorem exists_last_before {d b first last : ℕ} {l : List ℕ}
    (h : (first :: (l ++ [last])).IsChain (fun t t' => t' ≤ t + d)) (hfirst : first + d < b)
    (hlast : b ≤ last) :
  ∃ t ∈ l, t < b ∧ b ≤ t + d
  := by
  induction l generalizing first with
  | nil =>
      have hgap := (List.isChain_cons_cons.mp h).1
      omega
  | cons t l ih =>
      obtain ⟨hgap, hrest⟩ := List.isChain_cons_cons.mp h
      rcases Nat.lt_or_ge (t + d) b with hearly | hlate
      · obtain ⟨t', ht', hbefore⟩ := ih hrest hearly
        exact ⟨t', List.mem_cons_of_mem t ht', hbefore⟩
      · exact ⟨t, List.mem_cons_self, by omega, hlate⟩

/-- The clock is not put back, and there is a client in the run `es` that comes after `es₀`. If the
ticks in it follow each other by `d` at most, from `first` on and until `last`, then in each
window between these that is longer than 500 + `d` + 1 there is a publication. -/
theorem heartbeat_density {pid : UInt64} {clock : ℕ → UInt64} {es₀ es : List Event}
    {px₀ px : WebsocketProxy} {d first last a b : ℕ} (hclock : ∀ i j, i ≤ j → clock i ≤ clock j)
    (h₀ : system.Run (start pid clock) es₀ px₀)
    (h : system.RunUnder (fun px _ => px.Occupied) px₀ es px)
    (hticks : (first :: ((system.outputs tick px₀ es).map UInt64.toNat ++ [last])).IsChain
      (fun t t' => t' ≤ t + d))
    (hfirst : first ≤ a) (hlast : b ≤ last) (hlong : a + (500 + d + 1) < b) :
  ∃ time ∈ system.outputs publication (start pid clock) (es₀ ++ es),
    a < time.toNat ∧ time.toNat < b
  := by
  obtain ⟨t, ht, hbefore, hafter⟩ := exists_last_before hticks (by omega) hlast
  obtain ⟨time, htime, rfl⟩ := List.mem_map.mp ht
  obtain ⟨pre, ev, post, px₁, px₂, rfl, hpre, hoccupied, hstep, htick⟩ := h.mem_outputs htime
  have hrun : system.Run (start pid clock) (es₀ ++ pre) px₁ :=
    h₀.append (hpre.mono fun _ _ _ => trivial)
  have hrun' : system.Run (start pid clock) (es₀ ++ pre ++ [ev]) px₂ := hrun.snoc trivial hstep
  have hnoted := run_noted hrun
  have hnoted' := run_noted hrun'
  have hreading : px₁.lastHeartbeatTime = 0 ∨
      ∃ j < px₁.readings, px₁.lastHeartbeatTime = px₁.clock j := by
    rw [hnoted.sameClock]
    apply hnoted.reading
  have hrecent : px₂.lastHeartbeatTime.toNat ≤ time.toNat ∧
      time.toNat ≤ px₂.lastHeartbeatTime.toNat + 500 := by
    cases ev with
    | startHeartbeat =>
        rw [List.mem_singleton.mp htick]
        apply tick_recent _ hreading hoccupied hstep
        rw [hnoted.sameClock]
        exact hclock
    | _ => cases htick
  rcases hnoted'.mem with hmem | hzero
  · use px₂.lastHeartbeatTime
    constructor
    · have hall : system.outputs publication (start pid clock) (es₀ ++ pre ++ [ev] ++ post)
          = system.outputs publication (start pid clock) (es₀ ++ pre ++ [ev])
            ++ system.outputs publication px₂ post := hrun'.outputs_append post
      rw [List.append_assoc, List.append_assoc, List.singleton_append] at hall
      rw [hall]
      apply List.mem_append_left _ hmem
    · omega
  · rw [hzero] at hrecent
    have hnone : (0 : UInt64).toNat = 0 := rfl
    omega

/-- Two hundred milliseconds pass between two readings of the clock, up to the hundredth. -/
def everyFifth (n : ℕ) : UInt64 := UInt64.ofNat (200 * min n 100)

theorem everyFifth_mono {i j : ℕ} (h : i ≤ j) :
  everyFifth i ≤ everyFifth j
  := by
  rw [everyFifth, everyFifth, UInt64.le_iff_toNat_le, UInt64.toNat_ofNat_of_lt',
    UInt64.toNat_ofNat_of_lt']
  · omega
  · rw [UInt64.size]
    omega
  · rw [UInt64.size]
    omega

/-- Ticks while a client is there, that send heartbeats of its own. -/
def ticking : List Event :=
  (List.replicate 8 [.startHeartbeat, .message 1 .heartbeat]).flatten ++ [.startHeartbeat]

theorem heartbeat_density_ticking :
  ∃ px₀ px, system.Run (start 7 everyFifth) [.register 1] px₀ ∧
    system.RunUnder (fun px _ => px.Occupied) px₀ ticking px ∧
    ∃ time ∈ system.outputs publication (start 7 everyFifth) ([.register 1] ++ ticking),
      1200 < time.toNat ∧ time.toNat < 2200
  := by
  have hexec : ∃ px₀ ∈ system.exec (start 7 everyFifth) [.register 1],
      ∃ px ∈ system.execUnder (fun px _ => px.Occupied) px₀ ticking,
        (400 :: ((system.outputs tick px₀ ticking).map UInt64.toNat ++ [3600])).IsChain
          (fun t t' => t' ≤ t + 400) := by
    decide +kernel
  obtain ⟨px₀, hrun₀, px, hexec', hticks⟩ := TransitionSystem.exists_runUnder hexec
  have hrun := TransitionSystem.runUnder_of_execUnder hexec'
  use px₀, px, hrun₀, hrun
  apply heartbeat_density (fun i j h => everyFifth_mono h) hrun₀ hrun hticks
  · decide
  · decide
  · decide

end WebsocketProxy
