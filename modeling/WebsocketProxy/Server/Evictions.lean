import WebsocketProxy.Server.AutoShutdown
import WebsocketProxy.Server.HeartbeatPass

/-!
# Ages that wrap around

The ages of heartbeats and of `shutdownTime` are unsigned differences of readings of the clock.
When the clock was put back between two of them, the difference wraps around, and is taken for a
very long time: a client that was just heard of is evicted, or a server whose last client just
left shuts down. This happens exactly when a reading is before the one that it is compared with,
up to the differences that wrap around to a short time (`evictions_iff`).
-/

/-- The reading `now` is not before `time`, or so long before it that the difference wraps around
to `bound` at most. -/
def NotBefore (bound : ℕ) (time now : UInt64) : Prop :=
  time.toNat ≤ now.toNat ∨ 2 ^ 64 ≤ (time.toNat - now.toNat) + bound

/-- An unsigned difference exceeds a bound only if the difference of the integers does, exactly
when it does not wrap around to more than the bound. -/
theorem notBefore_iff {bound : ℕ} (hbound : bound < 2 ^ 64) (time now : UInt64) :
  NotBefore bound time now ↔ (bound < (now - time).toNat → time.toNat + bound < now.toNat)
  := by
  have htime := time.toNat_lt
  have hnow := now.toNat_lt
  rw [NotBefore, UInt64.toNat_sub]
  omega

namespace WebsocketProxy

/-- The reading that the next pass of `checkHeartbeats` compares with. -/
def checkReading (px : WebsocketProxy) : UInt64 :=
  px.clock (px.readings + if px.startup then 1 else 0)

/-- The message unregisters the last client. -/
def UnregistersLast (px : WebsocketProxy) (m : Message) : Prop :=
  m.pid ∈ px.clients ∧ UnorderedMap.isEmpty (px.clients.erase m.pid)

instance (px : WebsocketProxy) (m : Message) : Decidable (px.UnregistersLast m) :=
  inferInstanceAs (Decidable (_ ∧ _))

/-- `shutdownTime`, and the next reading of the clock, when the handler of messages comes to its
end. When `shutdownTime` is set then, there are no clients. -/
def atEnd (px : WebsocketProxy) (msg : Option Message) : UInt64 × ℕ :=
  match msg with
  | none => (px.shutdownTime, px.readings)
  | some m =>
      match m.data with
      | .register _ => (0, px.readings + 1)
      | .unregister =>
          if px.UnregistersLast m then (px.clock px.readings, px.readings + 1)
          else (px.shutdownTime, px.readings)
      | .wsRequest _ => (px.shutdownTime, px.readings + 1)
      | _ => (px.shutdownTime, px.readings)

/-- The step evicts clients, and decides to shut down, only after the times that it should. -/
def Justified (px : WebsocketProxy) (ev : Event) (px' : WebsocketProxy) : Prop :=
  match ev with
  | .startHeartbeat =>
      ∀ pid client, px.clients.lookup pid = some client → pid ∉ px'.clients →
        client.lastHeartbeatTime.toNat + 30000 < px.checkReading.toNat
  | .processClientMessage _ =>
      px.shutdownClosures < px'.shutdownClosures →
        px'.shutdownTime.toNat + 60000 ≤ (px'.clock (px'.readings - 1)).toNat
  | _ => True

/-- The readings of the step are not before those that they are compared with, up to differences
that wrap around to a short time. -/
def ReadsForward (px : WebsocketProxy) (ev : Event) : Prop :=
  match ev with
  | .startHeartbeat =>
      ∀ pid client, px.clients.lookup pid = some client →
        NotBefore 30000 client.lastHeartbeatTime px.checkReading
  | .processClientMessage msg =>
      px.run = true → (px.atEnd msg).1 ≠ 0 →
        NotBefore 59999 (px.atEnd msg).1 (px.clock (px.atEnd msg).2)
  | _ => True

/-! ### Evictions -/

/-- The heartbeat handler evicts the clients whose age, as an unsigned difference, is too high. -/
theorem startHeartbeat_justified_iff {px px' : WebsocketProxy} (hwf : px.WellFormed)
    (h : px.step .startHeartbeat = some px') :
  Justified px .startHeartbeat px' ↔ ReadsForward px .startHeartbeat
  := by
  have hclients := (startHeartbeat_unregisters hwf (runHandler_of_step h)).mem_clients
  apply forall_congr'
  intro pid
  apply forall_congr'
  intro client
  apply forall_congr'
  intro hlookup
  have hmem : pid ∈ px.clients := UnorderedMap.mem_iff_lookup.mpr ⟨client, hlookup⟩
  have hgone : pid ∉ px'.clients ↔
      30000 < (px.checkReading - client.lastHeartbeatTime).toNat := by
    rw [hclients, and_iff_right hmem, not_not, expired, mem_expiredAmong]
    constructor
    · rintro ⟨client', hentry, hexpired⟩
      have hlookup' := UnorderedMap.mem_entries_iff.mp hentry
      obtain rfl := Option.some.inj (hlookup'.symm.trans hlookup)
      apply UInt64.lt_iff_toNat_lt.mp hexpired
    · intro hexpired
      exact ⟨client, UnorderedMap.mem_entries_iff.mpr hlookup, UInt64.lt_iff_toNat_lt.mpr hexpired⟩
  rw [hgone, notBefore_iff (by decide)]

/-! ### Decisions to shut down -/

/-- Unregistering the last client sets the shutdown time. -/
theorem unregisterClient_atEnd (px : WebsocketProxy) (m : Message) :
  (((px.taking m).unregisterClient m.pid).shutdownTime,
      ((px.taking m).unregisterClient m.pid).readings)
    = if px.UnregistersLast m then (px.clock px.readings, px.readings + 1)
      else (px.shutdownTime, px.readings)
  := by
  rw [unregisterClient]
  split
  case isTrue hpid =>
    have hpid : m.pid ∈ px.clients := hpid
    rw [unregisterClientAt_shutdownTime]
    apply if_congr (and_iff_right hpid).symm rfl rfl
  case isFalse hpid =>
    have hpid : m.pid ∉ px.clients := hpid
    rw [if_neg (fun h => hpid h.1)]
    rfl

/-- The shutdown time when a message was handled. -/
theorem handleClientMessage_shutdownTime (px : WebsocketProxy) (m : Message) :
  ((px.taking m).handleClientMessage px.taken).1.shutdownTime = (px.atEnd (some m)).1
  := by
  have hget : ((px.taking m).getClient m.pid).2.shutdownTime = px.shutdownTime := by
    rcases getClient_taking_cases px m with ⟨-, clients, -, hget⟩ | ⟨-, hget⟩
    · rw [hget]
      rfl
    · rw [hget]
      rfl
  have hopen : ∀ (px₁ : WebsocketProxy) (req : WsOpen),
      (px₁.openNewWs px.taken req).1.shutdownTime = px₁.shutdownTime := by
    intro px₁ req
    simp only [openNewWs]
    split
    · rfl
    · rfl
  rw [handleClientMessage, slots_taking, atEnd]
  cases m.data with
  | register reg => rfl
  | unregister =>
      apply congrArg Prod.fst (unregisterClient_atEnd px m)
  | heartbeat =>
      simp only [handleClientHeartbeat, slots_taking]
      exact hget
  | openWs req =>
      simp only [openWs, slots_taking]
      split
      · split
        · split
          · exact hget
          · exact (hopen _ _).trans hget
        · exact (hopen _ _).trans hget
      · exact hget
  | closeWs req =>
      simp only [closeWs, slots_taking]
      split
      · exact hget
      · exact hget
  | wsRequest req =>
      simp only [sendWsRequest, slots_taking]
      split
      · split
        · exact hget
        · exact hget
      · exact hget
  | subscribe req =>
      obtain ⟨sockets, slots, stores, storedAfter, hafter⟩ :=
        (px.taking m).handleSubscribe_changes px.taken req
      rw [slots_taking] at hafter
      dsimp only
      rw [hafter]
      exact hget
  | unsubscribe req =>
      obtain ⟨sockets, slots, stores, storedAfter, hafter⟩ :=
        (px.taking m).handleUnsubscribe_changes px.taken req
      rw [slots_taking] at hafter
      dsimp only
      rw [hafter]
      exact hget
  | _ => rfl

/-- The readings taken when a message was handled, if it leaves no client. -/
theorem handleClientMessage_readings {px : WebsocketProxy} (hset : px.shutdownTime ≠ 0 → ¬ px.Occupied)
    {m : Message} (hafter : (px.atEnd (some m)).1 ≠ 0) :
  ((px.taking m).handleClientMessage px.taken).1.readings = (px.atEnd (some m)).2 ∧
    ((px.taking m).handleClientMessage px.taken).2 = false
  := by
  rw [handleClientMessage, slots_taking]
  revert hafter
  rw [atEnd]
  cases hm : m.data with
  | register reg =>
      intro hafter
      exact absurd rfl hafter
  | unregister =>
      intro _
      exact ⟨congrArg Prod.snd (unregisterClient_atEnd px m), rfl⟩
  | _ =>
      intro hafter
      have hpid : m.pid ∉ px.clients := fun hpid => hset hafter ⟨m.pid, hpid⟩
      rcases getClient_taking_cases px m with ⟨hpid', -⟩ | ⟨-, hget⟩
      · exact absurd hpid' hpid
      · simp only [handleClientHeartbeat, openWs, closeWs, sendWsRequest, handleSubscribe,
          handleUnsubscribe, slots_taking, hget, Bool.false_eq_true, if_false, and_true]
        rfl

/-- The end of the handler of messages decides to shut down by the unsigned difference. -/
theorem processNext_closures (px : WebsocketProxy) :
  px.shutdownClosures < px.processNext.shutdownClosures ↔
    px.run = true ∧ px.shutdownTime ≠ 0 ∧
      59999 < (px.clock px.readings - px.shutdownTime).toNat
  := by
  have hle : (60000 : UInt64) ≤ px.clock px.readings - px.shutdownTime ↔
      59999 < (px.clock px.readings - px.shutdownTime).toNat := UInt64.le_iff_toNat_le
  rw [processNext]
  split
  case isTrue hrun =>
    split
    case isTrue hset =>
      rw [getTimestamp, ← hle]
      dsimp only
      split
      case isTrue hlong => exact iff_of_true (Nat.lt_succ_self _) ⟨hrun, hset, hlong⟩
      case isFalse hshort => exact iff_of_false (Nat.lt_irrefl _) (fun h => hshort h.2.2)
    case isFalse hunset => exact iff_of_false (Nat.lt_irrefl _) (fun h => hunset h.2.1)
  case isFalse hstopped => exact iff_of_false (Nat.lt_irrefl _) (fun h => hstopped h.1)

theorem processNext_times (px : WebsocketProxy) (hrun : px.run = true) (hset : px.shutdownTime ≠ 0) :
  px.processNext.shutdownTime = px.shutdownTime ∧ px.processNext.clock = px.clock ∧
    px.processNext.readings = px.readings + 1
  := by
  rw [processNext, if_pos hrun, if_pos hset, getTimestamp]
  dsimp only
  split
  · exact ⟨rfl, rfl, rfl⟩
  · exact ⟨rfl, rfl, rfl⟩

theorem processNext_justified_iff {px px₁ : WebsocketProxy}
    (hclosures : px₁.shutdownClosures = px.shutdownClosures) :
  (px.shutdownClosures < px₁.processNext.shutdownClosures →
    px₁.processNext.shutdownTime.toNat + 60000
      ≤ (px₁.processNext.clock (px₁.processNext.readings - 1)).toNat) ↔
  (px₁.run = true → px₁.shutdownTime ≠ 0 →
    NotBefore 59999 px₁.shutdownTime (px₁.clock px₁.readings))
  := by
  rw [← hclosures, processNext_closures, and_imp, and_imp]
  apply forall_congr'
  intro hrun
  apply forall_congr'
  intro hset
  obtain ⟨htime, hclock, hreadings⟩ := processNext_times px₁ hrun hset
  rw [htime, hclock, hreadings, Nat.add_sub_cancel, notBefore_iff (by decide)]
  apply Iff.rfl

theorem message_justified_iff {px px' : WebsocketProxy} {msg : Option Message}
    (hset : px.shutdownTime ≠ 0 → ¬ px.Occupied)
    (h : px.step (.processClientMessage msg) = some px') :
  Justified px (.processClientMessage msg) px' ↔ ReadsForward px (.processClientMessage msg)
  := by
  cases msg with
  | none =>
      cases ran_of_step h with
      | noMessage => exact processNext_justified_iff rfl
  | some m =>
      have hprocess := handleClientMessage_process px m
      have hsame {α : Type} (f : Process → α) :
          f ((px.taking m).handleClientMessage px.taken).1.toProcess = f (px.taking m).toProcess :=
        congrArg f hprocess
      have htime := handleClientMessage_shutdownTime px m
      have hreadings := fun hafter => handleClientMessage_readings hset (m := m) hafter
      have hclosures : ((px.taking m).handleClientMessage px.taken).1.shutdownClosures
          = px.shutdownClosures := hsame Process.shutdownClosures
      have hrun : ((px.taking m).handleClientMessage px.taken).1.run = px.run := hsame Process.run
      have hclock : ((px.taking m).handleClientMessage px.taken).1.clock = px.clock :=
        hsame Process.clock
      have hcases := processClientMessage_cases (runHandler_of_step h)
      generalize (px.taking m).handleClientMessage px.taken = handled at *
      rcases hcases with ⟨hthrew, rfl⟩ | ⟨hthrew, rfl⟩
      · apply iff_of_true
        · intro h
          rw [caught] at h
          split at h
          · exact absurd h (hclosures ▸ Nat.lt_irrefl _)
          · exact absurd h (hclosures ▸ Nat.lt_irrefl _)
        · intro _ hafter
          rw [(hreadings hafter).2] at hthrew
          cases hthrew
      · let drained : WebsocketProxy := { handled.1 with toTables := handled.1.removeClosedSockets }
        have hiff := @processNext_justified_iff px drained hclosures
        apply hiff.trans
        have hrest : (drained.run = true → drained.shutdownTime ≠ 0 →
            NotBefore 59999 drained.shutdownTime (drained.clock drained.readings)) ↔
            (px.run = true → (px.atEnd (some m)).1 ≠ 0 →
              NotBefore 59999 (px.atEnd (some m)).1 (px.clock handled.1.readings)) := by
          rw [← hrun, ← htime, ← hclock]
        apply hrest.trans
        apply forall_congr'
        intro _
        apply forall_congr'
        intro hafter
        rw [(hreadings hafter).1]

/-- Along every run the server evicts clients, and decides to shut down for want of clients, only
after the times that it should, exactly when the clock was not put back, up to differences that
wrap around to a short time. -/
theorem evictions_iff (pid : UInt64) (clock : ℕ → UInt64) (es : List Event) :
  system.Along Justified (start pid clock) es ↔
    system.Along (fun px ev _ => px.ReadsForward ev) (start pid clock) es
  := by
  apply TransitionSystem.along_congr
  · intro px ev px' hreachable hstep
    cases ev with
    | startHeartbeat => exact startHeartbeat_justified_iff (reachable_wellFormed hreachable) hstep
    | processClientMessage msg =>
        apply message_justified_iff (reachable_vacant hreachable).set hstep
    | _ => exact Iff.rfl
  · exact TransitionSystem.ReachableUnder.initial ⟨pid, clock, rfl⟩

/-- The clock is put back by a millisecond between any two readings. -/
def backwards (n : ℕ) : UInt64 := 1700000000000 - n.toUInt64

/-- A client is evicted at a reading before the one of its registration. The server then decides to
shut down at a reading before the one when the client was evicted. -/
theorem not_evictions :
  ∃ px, system.Run (start 7 backwards) [.register 1] px ∧
    ∃ px' ∈ px.step .startHeartbeat, ¬ Justified px .startHeartbeat px' ∧
      ∃ px'' ∈ px'.step (.processClientMessage none),
        ¬ Justified px' (.processClientMessage none) px''
  := by
  have hexec : ∃ px ∈ system.exec (start 7 backwards) [.register 1],
      px.clients.lookup 1 = some ⟨1, 1700000000000⟩ ∧ px.checkReading = 1699999999998 ∧
      ∃ px' ∈ px.step .startHeartbeat, 1 ∉ px'.clients ∧
        ∃ px'' ∈ px'.step (.processClientMessage none),
          px'.shutdownClosures < px''.shutdownClosures ∧
          px''.shutdownTime = 1699999999997 ∧ px''.clock (px''.readings - 1) = 1699999999996 := by
    decide +kernel
  obtain ⟨px, hrun, hclient, hnow, px', hstep, hgone, px'', hstep', hdecided, htime, hnow'⟩ :=
    TransitionSystem.exists_runUnder hexec
  refine ⟨px, hrun, px', hstep, ?_, px'', hstep', ?_⟩
  · intro hjustified
    have hlate := hjustified 1 _ hclient hgone
    rw [hnow] at hlate
    exact absurd hlate (by decide)
  · intro hjustified
    have hlate := hjustified hdecided
    rw [htime, hnow'] at hlate
    exact absurd hlate (by decide)

end WebsocketProxy
