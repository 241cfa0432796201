import WebsocketProxy.Server.HeartbeatDensity
import WebsocketProxy.Server.Roster

/-!
# Clients that fall silent

A client that the server hears nothing of any more does not stay. The ticks of `startHeartbeat`
compare its last heartbeat with the clock, and as long as they follow each other closely, one of
them evicts it when it was silent for a little longer than 30 seconds (`silent_client_evicted`).
What nobody else uses is closed then.
-/

namespace Roster

/-- The entry of a client that is neither registered nor refreshed stays, as long as it is there. -/
theorem step_lookup_of_quiet {ro ro' : Roster} {e : Event} (h : ro.step e = some ro') {p : UInt64}
    (hrefresh : e ≠ .refresh p) (hregister : e ≠ .register p) {info : ClientInfo}
    (hinfo : ro'.clients.lookup p = some info) :
  ro.clients.lookup p = some info
  := by
  cases e with
  | read =>
      obtain rfl := Option.some.inj h
      exact hinfo
  | refresh pid =>
      obtain ⟨client, -, rfl⟩ := Option.map_eq_some_iff.mp h
      dsimp only at hinfo
      rw [UnorderedMap.lookup_replace_eq, if_neg] at hinfo
      · exact hinfo
      · rintro ⟨rfl, -⟩
        exact hrefresh rfl
  | register pid =>
      obtain rfl := Option.some.inj h
      have hne : p ≠ pid := by
        rintro rfl
        exact hregister rfl
      dsimp only at hinfo
      rw [UnorderedMap.lookup_replace_eq, if_neg (fun heq => hne heq.1),
        UnorderedMap.lookup_emplace_ne _ hne] at hinfo
      exact hinfo
  | unregister pid =>
      obtain rfl := Option.some.inj h
      have hinfo : (ro.clients.erase pid).lookup p = some info := by
        dsimp only at hinfo
        split at hinfo
        · exact hinfo
        · exact hinfo
      exact (UnorderedMap.lookup_erase_eq_some.mp hinfo).2
  | rehash clients =>
      simp only [step] at h
      split at h
      case isTrue hperm =>
        obtain rfl := Option.some.inj h
        dsimp only at hinfo
        rw [AList.perm_lookup hperm] at hinfo
        exact hinfo
      case isFalse => cases h

theorem run_lookup_of_quiet {guard : Roster → Event → Prop} {ro ro' : Roster} {es : List Event}
    (h : system.RunUnder guard ro es ro') {p : UInt64}
    (hquiet : ∀ ro e, guard ro e → e ≠ .refresh p ∧ e ≠ .register p) {info : ClientInfo}
    (hinfo : ro'.clients.lookup p = some info) :
  ro.clients.lookup p = some info
  := by
  induction h with
  | nil => exact hinfo
  | snoc _ hg hstep ih =>
      obtain ⟨hrefresh, hregister⟩ := hquiet _ _ hg
      apply ih
      apply step_lookup_of_quiet hstep hrefresh hregister hinfo

end Roster

namespace WebsocketProxy

/-- No message of the client `p` is handled. -/
def NothingFrom (p : UInt64) (_ : WebsocketProxy) (ev : Event) : Prop :=
  ∀ m ∈ ev.taken, m.pid ≠ p

instance (p : UInt64) (px : WebsocketProxy) (ev : Event) : Decidable (NothingFrom p px ev) :=
  Option.decidableForallMem _

/-- Going from `px` to `px'`, the client `p` is evicted: it leaves every connection, and those that
only it used are closed and dropped. -/
structure Evicts (px px' : WebsocketProxy) (p : UInt64) : Prop where
  before : p ∈ px.clients
  after : p ∉ px'.clients
  leaves : ∀ r, px.Stored r → p ∉ (px'.sockets r).clients
  closes : ∀ r, px.Stored r → (px.sockets r).clients ⊆ {p} →
    (px'.sockets r).Closing ∧ ¬ px'.Stored r

/-! ### Steps -/

theorem NothingFrom.quiet {p : UInt64} {px : WebsocketProxy} {ev : Event}
    (h : NothingFrom p px ev) {e : Roster.Event} (hcauses : ev.Causes e) :
  e ≠ .refresh p ∧ e ≠ .register p
  := by
  constructor
  · rintro rfl
    obtain ⟨m, rfl, hpid⟩ := hcauses
    exact h m rfl hpid
  · rintro rfl
    obtain ⟨m, rfl, hpid, -⟩ := hcauses
    exact h m rfl hpid

/-- The entry of a client that nothing is heard of stays, as long as it is there. -/
theorem step_lookup_of_nothing {p : UInt64} {px px' : WebsocketProxy} {ev : Event}
    (h : px.step ev = some px') (hnothing : NothingFrom p px ev) {info : ClientInfo}
    (hinfo : px'.clients.lookup p = some info) :
  px.clients.lookup p = some info
  := by
  obtain ⟨es, hes, -⟩ := step_roster h
  exact Roster.run_lookup_of_quiet hes (fun _ _ hcauses => hnothing.quiet hcauses) hinfo

/-- A tick evicts a client that was last heard of too long ago. -/
theorem tick_drops {p : UInt64} {px px' : WebsocketProxy} (hwf : px.WellFormed)
    (h : px.step .startHeartbeat = some px') {info : ClientInfo}
    (hinfo : px.clients.lookup p = some info)
    (hlate : info.lastHeartbeatTime.toNat + 30000 < px.checkReading.toNat) :
  p ∉ px'.clients
  := by
  intro hmem
  have hclients := (startHeartbeat_unregisters hwf (runHandler_of_step h)).mem_clients
  apply ((hclients p).mp hmem).2
  apply mem_expiredAmong.mpr
  refine ⟨info, UnorderedMap.mem_entries_iff.mpr hinfo, ?_⟩
  have hle : info.lastHeartbeatTime ≤ px.checkReading := by
    rw [UInt64.le_iff_toNat_le]
    omega
  rw [gt_iff_lt, UInt64.lt_iff_toNat_lt]
  change _ < (px.checkReading - info.lastHeartbeatTime).toNat
  rw [UInt64.toNat_sub_of_le _ _ hle]
  have hconst : (30000 : UInt64).toNat = 30000 := rfl
  omega

/-- A client that nothing is heard of is dropped by ticks only, and these evict it. -/
theorem step_evicts {p : UInt64} {px px' : WebsocketProxy} {ev : Event} (hwf : px.WellFormed)
    (h : px.step ev = some px') (hnothing : NothingFrom p px ev) (hbefore : p ∈ px.clients)
    (hafter : p ∉ px'.clients) :
  ev = .startHeartbeat ∧ px.Evicts px' p
  := by
  rcases mem_departing (step_departing hwf h hbefore hafter) with ⟨rfl, hexpired⟩ |
    ⟨m, rfl, hpid, -⟩
  · have hdeparts := (startHeartbeat_unregisters hwf (runHandler_of_step h)).departs
    refine ⟨rfl, hbefore, hafter, ?_, ?_⟩
    · intro r hr hmem
      rw [hdeparts.stored r hr, Websocket.leave_clients] at hmem
      exact (Finset.mem_sdiff.mp hmem).2 hexpired
    · intro r hr halone
      have hall : (px.sockets r).clients ⊆ px.expired :=
        halone.trans (Finset.singleton_subset_iff.mpr hexpired)
      constructor
      · rw [hdeparts.stored r hr, Websocket.leave, if_pos hall]
        apply Websocket.closing_close
      · rintro ⟨id, hid⟩
        exact ((hdeparts.byId id r).mp hid).2 hall
  · exact absurd hpid (hnothing m rfl)

/-! ### Runs -/

variable {p pid : UInt64} {clock : ℕ → UInt64} {es₀ es : List Event} {px₀ px : WebsocketProxy}

/-- Every client was last heard of at a reading of the clock. -/
theorem run_lastHeard {guard : WebsocketProxy → Event → Prop}
    (h : system.RunUnder guard (start pid clock) es px) :
  px.clock = clock ∧ ∀ info, px.clients.lookup p = some info →
    ∃ j < px.readings, info.lastHeartbeatTime = clock j
  := by
  induction h with
  | nil =>
      use rfl
      rintro info ⟨⟩
  | snoc _ _ hstep ih =>
      obtain ⟨hclock, hheard⟩ := ih
      obtain ⟨hsame, hle⟩ := step_clock hstep
      use hsame.trans hclock
      intro info hinfo
      rcases step_lookup hstep hinfo with ⟨hbefore, -⟩ | hread
      · obtain ⟨j, hlt, htime⟩ := hheard info hbefore
        exact ⟨j, by omega, htime⟩
      · obtain ⟨j, hj, htime⟩ := List.mem_map.mp hread
        rw [hclock] at htime
        refine ⟨j, ?_, htime.symm⟩
        have := List.mem_range'_1.mp hj
        omega

/-- The entry of a client that nothing is heard of stays in a run, as long as it is there. -/
theorem run_lookup_of_nothing (h : system.RunUnder (NothingFrom p) px₀ es px) {info : ClientInfo}
    (hinfo : px.clients.lookup p = some info) :
  px₀.clients.lookup p = some info
  := by
  induction h with
  | nil => exact hinfo
  | snoc _ hnothing hstep ih =>
      apply ih
      apply step_lookup_of_nothing hstep hnothing hinfo

/-- As long as a client is there that nothing is heard of, no tick is late. -/
theorem run_ticks_soon (h₀ : system.Reachable px₀)
    (h : system.RunUnder (NothingFrom p) px₀ es px) {info : ClientInfo}
    (hinfo : px.clients.lookup p = some info) :
  ∀ time ∈ system.outputs tick px₀ es, time.toNat ≤ info.lastHeartbeatTime.toNat + 30000
  := by
  induction h with
  | nil => rintro time ⟨⟩
  | @snoc es px₁ ev px hrun hnothing hstep ih =>
      have hinfo₁ := step_lookup_of_nothing hstep hnothing hinfo
      rw [hrun.outputs_snoc hstep]
      intro time htime
      rcases List.mem_append.mp htime with htime | htime
      · exact ih hinfo₁ time htime
      · cases ev with
        | startHeartbeat =>
            rw [List.mem_singleton.mp htime]
            by_contra hlate
            have hwf := reachable_wellFormed (h₀.run (hrun.mono fun _ _ _ => trivial))
            apply tick_drops hwf hstep hinfo₁ (Nat.lt_of_not_le hlate)
            exact UnorderedMap.mem_iff_lookup.mpr ⟨info, hinfo⟩
        | _ => cases htime

/-- A client that nothing is heard of and that is gone was evicted by a tick. -/
theorem run_evicts (h₀ : system.Reachable px₀) (h : system.RunUnder (NothingFrom p) px₀ es px)
    (hbefore : p ∈ px₀.clients) (hafter : p ∉ px.clients) :
  ∃ pre post px₁ px₂, es = pre ++ .startHeartbeat :: post ∧
    system.RunUnder (NothingFrom p) px₀ pre px₁ ∧ px₁.step .startHeartbeat = some px₂ ∧
    px₁.Evicts px₂ p
  := by
  induction h with
  | nil => exact absurd hbefore hafter
  | @snoc es px₁ ev px hrun hnothing hstep ih =>
      rcases em (p ∈ px₁.clients) with hstill | hgone
      · have hwf := reachable_wellFormed (h₀.run (hrun.mono fun _ _ _ => trivial))
        obtain ⟨rfl, hevicts⟩ := step_evicts hwf hstep hnothing hstill hafter
        exact ⟨es, [], px₁, px, rfl, hrun, hstep, hevicts⟩
      · obtain ⟨pre, post, px₂, px₃, rfl, hpre, htick, hevicts⟩ := ih hgone
        refine ⟨pre, post ++ [ev], px₂, px₃, ?_, hpre, htick, hevicts⟩
        rw [List.append_assoc]
        rfl

/-- The clock is not put back, and in the run `es` that comes after `es₀` nothing is heard of the
client `p`. If the ticks in it follow each other by `d` at most, until a time that is more than
30000 + `d` milliseconds after the first reading that can be taken in it, then `p` is not
registered at its end; and if it was at its beginning, a tick in it has evicted it. -/
theorem silent_client_evicted {d last : ℕ} (hclock : ∀ i j, i ≤ j → clock i ≤ clock j)
    (h₀ : system.Run (start pid clock) es₀ px₀)
    (h : system.RunUnder (NothingFrom p) px₀ es px)
    (hticks : ((clock px₀.readings).toNat ::
      ((system.outputs tick px₀ es).map UInt64.toNat ++ [last])).IsChain (fun t t' => t' ≤ t + d))
    (hlong : (clock px₀.readings).toNat + (30000 + d) < last) :
  p ∉ px.clients ∧
    (p ∈ px₀.clients → ∃ pre post px₁ px₂, es = pre ++ .startHeartbeat :: post ∧
      system.RunUnder (NothingFrom p) px₀ pre px₁ ∧ px₁.step .startHeartbeat = some px₂ ∧
      px₁.Evicts px₂ p)
  := by
  have hreachable : system.Reachable px₀ := ⟨_, es₀, ⟨pid, clock, rfl⟩, h₀⟩
  suffices hgone : p ∉ px.clients from
    ⟨hgone, fun hbefore => run_evicts hreachable h hbefore hgone⟩
  intro hmem
  obtain ⟨info, hinfo⟩ := UnorderedMap.mem_iff_lookup.mp hmem
  obtain ⟨j, hj, hheard⟩ := (run_lastHeard h₀).2 info (run_lookup_of_nothing h hinfo)
  have hpast := UInt64.le_iff_toNat_le.mp (hclock j px₀.readings hj.le)
  obtain ⟨t, ht, hbefore, hafter⟩ := exists_last_before hticks (by omega) (Nat.le_refl last)
  obtain ⟨time, htime, rfl⟩ := List.mem_map.mp ht
  have hsoon := run_ticks_soon hreachable h hinfo time htime
  rw [hheard] at hsoon
  omega

/-- Ten seconds pass between two readings of the clock, up to the hundredth. -/
def byTenSeconds (j : ℕ) : UInt64 := UInt64.ofNat (10000 * min j 100)

theorem byTenSeconds_mono {i j : ℕ} (h : i ≤ j) :
  byTenSeconds i ≤ byTenSeconds j
  := by
  rw [byTenSeconds, byTenSeconds, UInt64.le_iff_toNat_le, UInt64.toNat_ofNat_of_lt',
    UInt64.toNat_ofNat_of_lt']
  · omega
  · rw [UInt64.size]
    omega
  · rw [UInt64.size]
    omega

/-- Ticks, and heartbeats of the client 2 only. -/
def heartbeatsOfTwo : List Event :=
  .startHeartbeat :: (List.replicate 3 [.message 2 .heartbeat, .startHeartbeat]).flatten

/-- Of two clients the silent one is evicted. -/
theorem silent_client_evicted_ofTwo :
  ∃ px₀ px, system.Run (start 7 byTenSeconds) [.register 1, .register 2] px₀ ∧
    system.RunUnder (NothingFrom 1) px₀ heartbeatsOfTwo px ∧ 1 ∉ px.clients ∧ 2 ∈ px.clients
  := by
  have hexec : ∃ px₀ ∈ system.exec (start 7 byTenSeconds) [.register 1, .register 2],
      ∃ px ∈ system.execUnder (NothingFrom 1) px₀ heartbeatsOfTwo, 2 ∈ px.clients ∧
        (byTenSeconds px₀.readings).toNat = 20000 ∧
        (20000 :: ((system.outputs tick px₀ heartbeatsOfTwo).map UInt64.toNat ++ [95000])).IsChain
          (fun t t' => t' ≤ t + 20000) := by
    decide +kernel
  obtain ⟨px₀, hrun₀, px, hexec', hthere, hfirst, hticks⟩ := TransitionSystem.exists_runUnder hexec
  have hrun := TransitionSystem.runUnder_of_execUnder hexec'
  rw [← hfirst] at hticks
  obtain ⟨hgone, -⟩ := silent_client_evicted (fun i j h => byTenSeconds_mono h) hrun₀ hrun hticks
    (by rw [hfirst]; decide)
  use px₀, px, hrun₀, hrun, hgone

end WebsocketProxy
