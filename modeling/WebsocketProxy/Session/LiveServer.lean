import WebsocketProxy.Server.HeartbeatDensity
import WebsocketProxy.Session.Liveness
import WebsocketProxy.Session.Reading

/-!
# Live servers

The worker of a client gives the server up when it reads nothing and has heard of no server for
`heartbeatTimeout`. A tick of `startHeartbeat` publishes a heartbeat when the last publication is
more than `heartbeatInterval` ago, if there is a client.

A server whose ticks are at most `d` apart is not given up by a client whose worker reads the
queue at most `r` after it took its time, if 500 + `d` + `r` is at most `heartbeatTimeout`
(`live_server_kept`). It does not matter how long the rounds of the worker take otherwise.
-/

namespace WebsocketProxyClient

/-- The client has a server, or its worker is in a round that began when it had one. -/
def Engaged (c : WebsocketProxyClient) : Prop := c.serverPid ≠ 0 ∨ c.worker ≠ .loading

instance (c : WebsocketProxyClient) : Decidable c.Engaged := inferInstanceAs (Decidable (_ ∨ _))

/-- The event moves the reading index to a new place in the server queue. -/
def Event.attaches : Event → Bool
  | spawnWebsocketsProxyServer (some _) | waitForServerReady true => true
  | _ => false

/-- The caller is about to connect. -/
def Caller.attaching : Caller → Bool
  | spawning _ | connecting _ => true
  | _ => false

/-- The time the worker took, when it reads the queue next. -/
def Worker.readsAt : Worker → Option UInt64
  | reading _ now => some now
  | _ => none

variable {c c' : WebsocketProxyClient} {ev : Event} {published : List Message}

/-- After an answer the caller does not go on to connect. -/
theorem handleAnswer_attaching (c : WebsocketProxyClient) (req : Request) (answer : Message)
    (now : UInt64) :
  (c.handleAnswer req answer now).caller.attaching = false
  := by
  cases req with
  | register o =>
      simp only [handleAnswer]
      split
      · rfl
      · rfl
  | openWs =>
      simp only [handleAnswer]
      split
      · rfl
      · rfl
  | closeWs id => rfl
  | subscribe existing => rfl

/-- The caller connects only when the client has no server. -/
theorem Step.attaching (h : Step c ev c' published) (hpid : c.caller.attaching → c.serverPid = 0) :
  c'.caller.attaching → c'.serverPid = 0
  := by
  cases h with
  | connect _ hzero => exact fun _ => hzero
  | spawned hcaller =>
      intro _
      apply hpid
      rw [hcaller]
      rfl
  | @readSome serverPid now msg =>
      obtain ⟨websockets, trace, worker, hresult⟩ := handleResult_keeps c serverPid now msg
      rw [hresult]
      exact hpid
  | @sendHeartbeat now found sent | @wait msg start req now sent =>
      obtain ⟨time, htime⟩ := sendHeartbeat_keeps c now sent
      rw [htime]
      exact hpid
  | disconnect =>
      rw [giveUp_keeps]
      exact fun _ => rfl
  | @answer msg start req answer now =>
      rw [handleAnswer_attaching]
      exact fun h => Bool.noConfusion h
  | notConnected | load | takeTime | readNone | compare | rehash | unsubscribe | send
  | setLogLevel | ready => exact hpid
  | _ => exact fun h => Bool.noConfusion h

/-- What a step does to the time of the last message, and to the reading index: it reads a
message, takes an answer that stores its time, attaches the client to the queue, or leaves them
as they are. -/
inductive Hearing (c : WebsocketProxyClient) (ev : Event) (c' : WebsocketProxyClient) : Prop
  | read {serverPid now msg} (hev : ev = .read (some msg))
      (hworker : c.worker = .reading serverPid now)
      (htime : c'.lastServerHeartbeatTime = now)
      (hindex : c'.serverQueueIndex = c.serverQueueIndex + 1)
  | answer {answer now} (hev : ev = .answer answer now) (htime : c'.lastServerHeartbeatTime = now)
      (hindex : c'.serverQueueIndex = c.serverQueueIndex)
  | attach (hev : ev.attaches) (hcaller : c.caller.attaching)
      (hpid : c'.serverPid = c.serverPid) (hworker : c'.worker = c.worker)
      (htime : c'.lastServerHeartbeatTime = c.lastServerHeartbeatTime)
  | same (hengaged : c'.Engaged → c.Engaged)
      (htime : c'.lastServerHeartbeatTime = c.lastServerHeartbeatTime)
      (hindex : c'.serverQueueIndex = c.serverQueueIndex)

/-- Every step hears in one of these ways. -/
theorem Step.hearing (h : Step c ev c' published) :
  Hearing c ev c'
  := by
  have hround : c.worker ≠ .loading → c'.Engaged → c.Engaged := fun hworker _ => Or.inr hworker
  have hsame : c.Engaged → c.Engaged := fun hengaged => hengaged
  cases h with
  | load _ hpid => exact .same (fun _ => Or.inl hpid) rfl rfl
  | takeTime hworker | readNone hworker | compare hworker =>
      apply Hearing.same (hround _) rfl rfl
      rw [hworker]
      rintro ⟨⟩
  | @readSome serverPid now msg hworker =>
      obtain ⟨websockets, trace, worker, hresult⟩ := handleResult_keeps c serverPid now msg
      rw [hresult]
      exact .read rfl hworker rfl rfl
  | @sendHeartbeat now found sent hworker =>
      obtain ⟨time, htime⟩ := sendHeartbeat_keeps c now sent
      rw [htime] at hround ⊢
      apply Hearing.same (hround _) rfl rfl
      rw [hworker]
      rintro ⟨⟩
  | disconnect hworker =>
      rw [giveUp_keeps] at hround ⊢
      apply Hearing.same (hround _) rfl rfl
      rw [hworker]
      rintro ⟨⟩
  | spawned hcaller | ready hcaller =>
      have hattaching : c.caller.attaching := by rw [hcaller]; rfl
      exact .attach rfl hattaching rfl rfl rfl
  | forget => exact .same (Or.imp_left fun hpid => absurd rfl hpid) rfl rfl
  | @wait msg start req now sent =>
      obtain ⟨time, htime⟩ := sendHeartbeat_keeps c now sent
      rw [htime]
      exact .same hsame rfl rfl
  | @answer msg start req answer now =>
      obtain ⟨serverPid, caller, seen, hanswer⟩ := handleAnswer_keeps c req answer now
      cases req with
      | register o | openWs =>
          rw [hanswer]
          exact .answer rfl rfl rfl
      | closeWs id | subscribe existing => exact .same hsame rfl rfl
  | _ => exact .same hsame rfl rfl

/-- Only a comparison that finds the server silent for too long makes the worker give it up. -/
theorem Step.disconnecting (h : Step c ev c' published) (hafter : c'.worker = .disconnecting) :
  c.worker = .disconnecting ∨ ∃ now, c.worker.compares = some now ∧ c.isTimedOut now
  := by
  cases h with
  | @compare now found hworker =>
      right
      dsimp only at hafter
      split at hafter
      case isTrue hsilent =>
        obtain ⟨hfound, htimed⟩ := Bool.and_eq_true_iff.mp hsilent
        obtain rfl : found = false := by simpa using hfound
        use now
        rw [hworker]
        exact ⟨rfl, htimed⟩
      case isFalse => cases hafter
  | @readSome serverPid now msg =>
      unfold handleResult at hafter
      split at hafter
      · cases hafter
      · cases hafter
  | load | takeTime | readNone | sendHeartbeat | disconnect => cases hafter
  | @wait msg start req now sent =>
      obtain ⟨time, htime⟩ := sendHeartbeat_keeps c now sent
      rw [htime] at hafter
      exact Or.inl hafter
  | answer =>
      rw [handleAnswer_worker] at hafter
      exact Or.inl hafter
  | _ => exact Or.inl hafter

/-! ### A client that hears of its server -/

/-- What the client `c` has heard of a server, at the time `time`: the server has published
`length` messages, the last at the time `stamp`, and its last tick was at the time `ticked`. -/
structure Listens (d r : ℕ) (c : WebsocketProxyClient) (time length stamp ticked : ℕ) : Prop where
  heard_le : c.lastServerHeartbeatTime.toNat ≤ time
  now_le : ∀ now ∈ c.worker.now, now.toNat ≤ time
  attaching : c.caller.attaching → c.serverPid = 0
  /-- A client that has read all messages has heard of the last one. -/
  unread : c.Engaged →
    c.serverQueueIndex < length ∨ stamp ≤ c.lastServerHeartbeatTime.toNat + r
  /-- The last tick was soon after the last publication, or before the client heard of it. -/
  ticked : c.Engaged → ticked ≤ stamp + 500 ∨ ticked ≤ c.lastServerHeartbeatTime.toNat + r
  compares : ∀ now ∈ c.worker.compares, c.lastServerHeartbeatTime ≤ now ∧
    now.toNat ≤ c.lastServerHeartbeatTime.toNat + (500 + d + r)
  kept : c.worker ≠ .disconnecting
  silent : .callback .onWebsocketProxyServerDisconnected ∉ c.trace

variable {d r time time' length length' stamp stamp' ticked ticked' : ℕ}

/-- The server goes on, and the client does nothing. -/
theorem Listens.later (h : Listens d r c time length stamp ticked) (htime : time ≤ time')
    (hpublished : length' = length ∧ stamp' = stamp ∨
      c.serverQueueIndex < length' ∧ stamp ≤ stamp')
    (hticked : ticked' = ticked ∨ (c.Engaged → ticked' ≤ stamp' + 500)) :
  Listens d r c time' length' stamp' ticked'
  := by
  have hstamp : stamp ≤ stamp' := by
    rcases hpublished with ⟨-, hsame⟩ | ⟨-, hle⟩
    · exact hsame.ge
    · exact hle
  constructor
  · apply Nat.le_trans h.heard_le htime
  · exact fun now hnow => Nat.le_trans (h.now_le now hnow) htime
  · exact h.attaching
  · intro hengaged
    rcases hpublished with ⟨rfl, rfl⟩ | ⟨hlt, -⟩
    · apply h.unread hengaged
    · exact Or.inl hlt
  · intro hengaged
    rcases hticked with rfl | hticked
    · rcases h.ticked hengaged with hsoon | hbefore
      · apply Or.inl (Nat.le_trans hsoon (Nat.add_le_add_right hstamp 500))
      · exact Or.inr hbefore
    · exact Or.inl (hticked hengaged)
  · exact h.compares
  · exact h.kept
  · exact h.silent

/-- After a step the client has heard of something just now, or of nothing new. -/
theorem Listens.hears (h : Listens d r c time length stamp ticked) (hstep : Step c ev c' published)
    (hreadings : ∀ now ∈ ev.readings, time ≤ now.toNat) (htime : time ≤ time')
    (hreads : ∀ now ∈ c.worker.readsAt, time' ≤ now.toNat + r)
    (hattaches : ev.attaches → c.worker = .loading) (hengaged : c'.Engaged) :
  time ≤ c'.lastServerHeartbeatTime.toNat + r ∨
    c.Engaged ∧ c'.lastServerHeartbeatTime = c.lastServerHeartbeatTime ∧
      c'.serverQueueIndex = c.serverQueueIndex
  := by
  cases hstep.hearing with
  | @read serverPid now msg hev hworker hlast hindex =>
      left
      rw [hlast]
      apply Nat.le_trans htime (hreads now _)
      rw [hworker]
      rfl
  | @answer answer now hev hlast hindex =>
      left
      rw [hlast]
      apply Nat.le_add_right_of_le (hreadings now _)
      rw [hev]
      apply List.mem_singleton_self
  | attach hev hcaller hpid hworker =>
      rcases hengaged with hserver | hround
      · exact absurd (hpid.trans (h.attaching hcaller)) hserver
      · exact absurd (hworker.trans (hattaches hev)) hround
  | same hbefore hlast hindex => exact Or.inr ⟨hbefore hengaged, hlast, hindex⟩

/-- What the worker is going to compare is not later than what the client has heard of by more
than what a tick, the interval of heartbeats and the reading of the queue take. -/
theorem Listens.step_compares (h : Listens d r c time length stamp ticked)
    (hstep : Step c ev c' published) (hreadings : ∀ now ∈ ev.readings, time ≤ now.toNat)
    (hfinds : ev = .read none → length ≤ c.serverQueueIndex) (hstores : c.StoresInTime ev)
    (hticks : c.Engaged → time ≤ ticked + d) :
  ∀ now ∈ c'.worker.compares, c'.lastServerHeartbeatTime ≤ now ∧
    now.toNat ≤ c'.lastServerHeartbeatTime.toNat + (500 + d + r)
  := by
  intro now hnow
  have hle := hstep.compares_le hstores (fun now hnow => (h.compares now hnow).1) now hnow
  use hle
  rcases hstep.compares hnow with ⟨hbefore, hsame | ⟨msg, start, req, answer, hev, -⟩⟩ |
    ⟨rfl, ⟨serverPid, hworker⟩, hsame⟩
  · rw [hsame]
    apply (h.compares now hbefore).2
  · -- what is stored now is later than all that was stored before
    have hnew : time ≤ c'.lastServerHeartbeatTime.toNat := by
      apply hreadings
      rw [hev]
      apply List.mem_singleton_self
    have hold := (h.compares now hbefore).2
    have hheard := h.heard_le
    omega
  · -- the queue has no message that the worker has not read
    have hengaged : c.Engaged := by
      right
      rw [hworker]
      rintro ⟨⟩
    have hread : now.toNat ≤ time := by
      apply h.now_le
      rw [hworker]
      rfl
    have hindex := hfinds rfl
    have htime := hticks hengaged
    rw [hsame]
    rcases h.unread hengaged with hunread | hstamp
    · omega
    · rcases h.ticked hengaged with hsoon | hbefore
      · omega
      · omega

/-- A client that hears of its server in time goes on doing so. -/
theorem Listens.step (h : Listens d r c time length stamp ticked) (hstep : Step c ev c' published)
    (hshows : ∀ now ∈ ev.readings, time ≤ now.toNat ∧ now.toNat ≤ time') (htime : time ≤ time')
    (hstamp : stamp ≤ time) (hticked : ticked ≤ time)
    (hfinds : ev = .read none → length ≤ c.serverQueueIndex)
    (hreads : ∀ now ∈ c.worker.readsAt, time' ≤ now.toNat + r)
    (hattaches : ev.attaches → c.worker = .loading) (hstores : c.StoresInTime ev)
    (hticks : c.Engaged → time' ≤ ticked + d) (hsum : 500 + d + r ≤ 15000) :
  Listens d r c' time' length stamp ticked
  := by
  have hreadings : ∀ now ∈ ev.readings, time ≤ now.toNat := fun now hnow => (hshows now hnow).1
  have hhears := h.hears hstep hreadings htime hreads hattaches
  constructor
  · cases hstep.hearing with
    | @read serverPid now msg hev hworker hlast hindex =>
        rw [hlast]
        apply Nat.le_trans (h.now_le now _) htime
        rw [hworker]
        rfl
    | @answer answer now hev hlast hindex =>
        rw [hlast]
        apply (hshows now _).2
        rw [hev]
        apply List.mem_singleton_self
    | attach _ _ _ _ hlast | same _ hlast =>
        rw [hlast]
        apply Nat.le_trans h.heard_le htime
  · intro now hnow
    rcases hstep.now hnow with hbefore | rfl
    · apply Nat.le_trans (h.now_le now hbefore) htime
    · apply (hshows now (List.mem_singleton_self now)).2
  · apply hstep.attaching h.attaching
  · intro hengaged
    rcases hhears hengaged with hnow | ⟨hbefore, hlast, hindex⟩
    · exact Or.inr (Nat.le_trans hstamp hnow)
    · rw [hlast, hindex]
      apply h.unread hbefore
  · intro hengaged
    rcases hhears hengaged with hnow | ⟨hbefore, hlast, -⟩
    · exact Or.inr (Nat.le_trans hticked hnow)
    · rw [hlast]
      apply h.ticked hbefore
  · apply h.step_compares hstep hreadings hfinds hstores
    exact fun hengaged => Nat.le_trans htime (hticks hengaged)
  · intro hdisconnecting
    rcases hstep.disconnecting hdisconnecting with hbefore | ⟨now, hnow, htimed⟩
    · apply h.kept hbefore
    · obtain ⟨hle, hsoon⟩ := h.compares now hnow
      obtain ⟨-, htimed⟩ := Bool.and_eq_true_iff.mp htimed
      have hlate := UInt64.lt_iff_toNat_lt.mp (of_decide_eq_true htimed)
      rw [UInt64.toNat_sub_of_le _ _ hle] at hlate
      have hlimit : heartbeatTimeout.toNat = 15000 := rfl
      omega
  · obtain ⟨seen, htrace, hsees⟩ := hstep.sees
    rw [htrace]
    intro hgiven
    rcases List.mem_append.mp hgiven with hbefore | hseen
    · apply h.silent hbefore
    · cases hsees with
      | disconnected hev =>
          subst hev
          cases hstep with
          | disconnect hworker => apply h.kept hworker
      | nothing | returned | ignored | opened | closed | error | data => simp at hseen

end WebsocketProxyClient

namespace WebsocketProxy

/-- The reading that a tick compares with is taken in it, if there is a client. -/
theorem checkReading_mem {px px' : WebsocketProxy} (h : px.step .startHeartbeat = some px')
    (hoccupied : px.Occupied) :
  px.checkReading ∈ px.readingsUntil px'
  := by
  obtain ⟨announced, hannounced, hchecked⟩ := heartbeatHandler_roster (runHandler_of_step h)
  apply mem_readingsUntil (Nat.le_add_right _ _)
  have hclients : announced.clients = px.clients := congrArg Roster.clients hannounced
  have hreadings : announced.readings = px.readings + if px.startup then 1 else 0 :=
    congrArg Roster.readings hannounced
  have hafter : px'.readings = announced.checkHeartbeats.2.readings :=
    congrArg Roster.readings hchecked
  rw [← hreadings, hafter]
  rcases checkHeartbeats_roster announced with ⟨hempty, -⟩ | ⟨es, hes⟩
  · rw [hclients] at hempty
    exact absurd hempty (px.occupied_iff.mp hoccupied)
  · exact (Roster.run_clock hes).2

end WebsocketProxy

namespace Session

open WebsocketProxyClient (Listens)

/-! ### Sessions -/

/-- The event is a tick of the server. -/
def Event.ticks : Event → Bool
  | .server .startHeartbeat => true
  | _ => false

/-- The time of the last tick of the server, after a step: the reading that it compares with, or
the end of the step if there is no client, when none is taken. -/
def tickAfter (c : Clocked Session) (e : Event × ℕ) (c' : Clocked Session) (ticked : ℕ) : ℕ :=
  if e.1.ticks then
    if c.state.server.Occupied then c.state.server.checkReading.toNat else c'.time
  else ticked

/-- A session with a clock, with a note of the time of the last tick. -/
def noted : TransitionSystem (Observed (Clocked Session) ℕ) (Event × ℕ) :=
  clocked.observed 0 tickAfter

/-- If the client `p` makes the step, it stores no time too late, and it attaches to the queue
only between two rounds of its worker. -/
def InTurn (s : Session) (p : UInt64) : Event → Prop
  | .client q ev => q = p → (s.clients p).StoresInTime ev ∧
      (ev.attaches → (s.clients p).worker = .loading)
  | .server _ => True

instance (s : Session) (p : UInt64) (ev : Event) : Decidable (s.InTurn p ev) :=
  match ev with
  | .client _ _ => inferInstanceAs (Decidable (_ → _ ∧ (_ → _)))
  | .server _ => .isTrue trivial

/-- While the client `p` has a server, or is in a round, the ticks are at most `d` apart and find
a client; and the worker of `p` reads the queue at most `r` after it took its time. -/
structure Attends (d r : ℕ) (p : UInt64) (w : Observed (Clocked Session) ℕ) (e : Event × ℕ) :
    Prop where
  ticks : (w.state.state.clients p).Engaged → e.2 ≤ w.notes + d
  occupied : (w.state.state.clients p).Engaged → e.1.ticks → w.state.state.server.Occupied
  reads : ∀ now ∈ (w.state.state.clients p).worker.readsAt, e.2 ≤ now.toNat + r
  inTurn : w.state.state.InTurn p e.1

instance (d r : ℕ) (p : UInt64) (w : Observed (Clocked Session) ℕ) (e : Event × ℕ) :
    Decidable (Attends d r p w e) :=
  haveI : Decidable (∀ now ∈ (w.state.state.clients p).worker.readsAt, e.2 ≤ now.toNat + r) :=
    Option.decidableForallMem _
  decidable_of_iff
    (((w.state.state.clients p).Engaged → e.2 ≤ w.notes + d) ∧
      ((w.state.state.clients p).Engaged → e.1.ticks → w.state.state.server.Occupied) ∧
      (∀ now ∈ (w.state.state.clients p).worker.readsAt, e.2 ≤ now.toNat + r) ∧
      w.state.state.InTurn p e.1)
    ⟨fun h => ⟨h.1, h.2.1, h.2.2.1, h.2.2.2⟩,
      fun h => ⟨h.ticks, h.occupied, h.reads, h.inTurn⟩⟩

/-- The server publishes with readings of its clock, which are past, and the client `p` hears of
it in time. -/
structure Heard (clock : ℕ → UInt64) (d r : ℕ) (p : UInt64)
    (w : Observed (Clocked Session) ℕ) : Prop where
  sameClock : w.state.state.server.clock = clock
  stamped : w.state.state.server.lastHeartbeatTime = 0 ∨
    ∃ j < w.state.state.server.readings, w.state.state.server.lastHeartbeatTime = clock j
  stamp_le : w.state.state.server.lastHeartbeatTime.toNat ≤ w.state.time
  ticked_le : w.notes ≤ w.state.time
  listens : Listens d r (w.state.state.clients p) w.state.time
    w.state.state.server.serverQueue.length w.state.state.server.lastHeartbeatTime.toNat w.notes

variable {clock : ℕ → UInt64} {d r : ℕ} {p : UInt64} {w w' : Observed (Clocked Session) ℕ}
  {stop : ℕ}

/-- A step with the clock and the note is a step of the session. -/
theorem noted_step {e : Event × ℕ} (h : noted.step w e = some w') :
  w.state.state.step e.1 = some w'.state.state ∧
    TransitionSystem.Shows w.state.time w'.state.time
      ((w.state.state.readings e.1 w'.state.state).map UInt64.toNat) ∧
    w'.state.time = e.2 ∧ w'.notes = tickAfter w.state e w'.state w.notes
  := by
  obtain ⟨hstep, hnotes⟩ := TransitionSystem.observed_step.mp h
  obtain ⟨hstep, htime, hshows⟩ := TransitionSystem.clocked_step hstep
  exact ⟨hstep, hshows, htime, hnotes⟩

/-- A step of a client leaves the server and the note as they are. -/
theorem Heard.client {q : UInt64} {ev : WebsocketProxyClient.Event} (h : Heard clock d r p w)
    (hsum : 500 + d + r ≤ 15000) (hattends : Attends d r p w (.client q ev, stop))
    (hstep : noted.step w (.client q ev, stop) = some w') :
  Heard clock d r p w'
  := by
  obtain ⟨hsession, hshows, htime, hnotes⟩ := noted_step hstep
  obtain ⟨hfinds, c, published, hc, hs'⟩ := step_client hsession
  have hle := hshows.le
  have hserver : w'.state.state.server = w.state.state.server := by
    rw [hs']
    rfl
  have hnotes : w'.notes = w.notes := hnotes
  constructor
  · rw [hserver]
    apply h.sameClock
  · rw [hserver]
    apply h.stamped
  · rw [hserver]
    apply Nat.le_trans h.stamp_le hle
  · rw [hnotes]
    apply Nat.le_trans h.ticked_le hle
  · rw [hserver, hnotes]
    rcases eq_or_ne p q with rfl | hne
    · have hself : w'.state.state.clients p = c := by
        rw [hs']
        apply Function.update_self
      rw [hself]
      obtain ⟨hstores, hattaches⟩ := hattends.inTurn rfl
      apply h.listens.step (WebsocketProxyClient.perform_step hc) _ hle h.stamp_le h.ticked_le _ _
        hattaches hstores _ hsum
      · intro now hnow
        have hread : now.toNat ∈ ev.readings.map UInt64.toNat := List.mem_map_of_mem hnow
        exact ⟨hshows.ge_start _ hread, hshows.le_stop _ hread⟩
      · rintro rfl
        exact List.getElem?_eq_none_iff.mp hfinds.symm
      · rw [htime]
        exact hattends.reads
      · rw [htime]
        exact hattends.ticks
    · have hother : w'.state.state.clients p = w.state.state.clients p := by
        rw [hs']
        exact Function.update_of_ne hne ..
      rw [hother]
      exact h.listens.later hle (Or.inl ⟨rfl, rfl⟩) (Or.inl rfl)

/-- What the server publishes in a step is stamped with a reading in it. -/
theorem Heard.server {ev : WebsocketProxy.Event} (h : Heard clock d r p w)
    (hclock : ∀ i j, i ≤ j → clock i ≤ clock j) (hreachable : system.Reachable w.state.state)
    (hattends : Attends d r p w (.server ev, stop))
    (hstep : noted.step w (.server ev, stop) = some w') :
  Heard clock d r p w'
  := by
  obtain ⟨hsession, hshows, htime, hnotes⟩ := noted_step hstep
  obtain ⟨-, px, hpx, hs'⟩ := step_server hsession
  have hle := hshows.le
  have hserver : w'.state.state.server = px := by rw [hs']
  have hclients : w'.state.state.clients = w.state.state.clients := by rw [hs']
  have hstamps := WebsocketProxy.step_stamps hpx
  have hshown : ∀ now ∈ w.state.state.server.readingsUntil px,
      w.state.time ≤ now.toNat ∧ now.toNat ≤ w'.state.time := by
    intro now hnow
    rw [← hserver] at hnow
    have hread := List.mem_map_of_mem (f := UInt64.toNat) hnow
    exact ⟨hshows.ge_start _ hread, hshows.le_stop _ hread⟩
  -- the stamp stays, or is a reading of this step
  have hstamp : (px.serverQueue.length = w.state.state.server.serverQueue.length ∧
      px.lastHeartbeatTime = w.state.state.server.lastHeartbeatTime) ∨
      (w.state.state.server.serverQueue.length < px.serverQueue.length ∧
        w.state.time ≤ px.lastHeartbeatTime.toNat ∧
        px.lastHeartbeatTime.toNat ≤ w'.state.time) := by
    rcases hstamps.stamp with hsame | ⟨hlength, j, hj, hlt, htime⟩
    · apply Or.inl hsame
    · right
      use hlength
      apply hshown
      rw [htime]
      apply WebsocketProxy.mem_readingsUntil hj hlt
  have hstamp_le : px.lastHeartbeatTime.toNat ≤ w'.state.time := by
    rcases hstamp with ⟨-, hsame⟩ | ⟨-, -, hpast⟩
    · rw [hsame]
      apply Nat.le_trans h.stamp_le hle
    · exact hpast
  constructor
  · rw [hserver, hstamps.clock, h.sameClock]
  · rw [hserver]
    rcases hstamps.stamp with ⟨-, hsame⟩ | ⟨-, j, -, hlt, htime⟩
    · rw [hsame]
      apply h.stamped.imp_right
      rintro ⟨j, hlt, hj⟩
      exact ⟨j, Nat.lt_of_lt_of_le hlt hstamps.readings, hj⟩
    · rw [h.sameClock] at htime
      exact Or.inr ⟨j, hlt, htime⟩
  · rw [hserver]
    exact hstamp_le
  · rw [hnotes, tickAfter]
    split
    case isTrue htick =>
      split
      case isTrue hoccupied =>
        cases ev with
        | startHeartbeat =>
            apply (hshown _ _).2
            apply WebsocketProxy.checkReading_mem hpx hoccupied
        | _ => cases htick
      case isFalse => apply Nat.le_refl _
    case isFalse => apply Nat.le_trans h.ticked_le hle
  · rw [hserver, hclients]
    apply h.listens.later hle
    · rcases hstamp with ⟨hlength, hsame⟩ | ⟨hlength, hnew, -⟩
      · exact Or.inl ⟨hlength, congrArg UInt64.toNat hsame⟩
      · right
        constructor
        · apply Nat.lt_of_le_of_lt (reachable_index_le hreachable p) hlength
        · apply Nat.le_trans h.stamp_le hnew
    · rw [hnotes, tickAfter]
      split
      case isTrue htick =>
        right
        intro hengaged
        have hoccupied := hattends.occupied hengaged htick
        rw [if_pos hoccupied]
        cases ev with
        | startHeartbeat =>
            apply (WebsocketProxy.tick_recent _ _ hoccupied hpx).2
            · rw [h.sameClock]
              exact hclock
            · rw [h.sameClock]
              exact h.stamped
        | _ => cases htick
      case isFalse => exact Or.inl rfl

theorem run_heard {pid : UInt64} {names : UInt64 → Bytes} {es : List (Event × ℕ)}
    (hclock : ∀ i j, i ≤ j → clock i ≤ clock j) (hsum : 500 + d + r ≤ 15000)
    (h : noted.RunUnder (Attends d r p) ⟨{ state := start pid clock names }, 0⟩ es w) :
  Heard clock d r p w
  := by
  induction h with
  | nil =>
      constructor
      · rfl
      · exact Or.inl rfl
      · exact Nat.le_refl 0
      · exact Nat.le_refl 0
      · constructor
        · exact Nat.le_refl 0
        · rintro now ⟨⟩
        · exact fun _ => rfl
        · rintro (hserver | hround)
          · exact absurd rfl hserver
          · exact absurd rfl hround
        · rintro (hserver | hround)
          · exact absurd rfl hserver
          · exact absurd rfl hround
        · rintro now ⟨⟩
        · rintro ⟨⟩
        · exact List.not_mem_nil
  | @snoc es w e w' hrun hattends hstep ih =>
      have hreachable : system.Reachable w.state.state := by
        have hnoted : noted.ReachableUnder (Attends d r p) w :=
          ⟨_, _, ⟨⟨pid, clock, names, rfl⟩, rfl⟩, hrun⟩
        apply hnoted.observed.clocked
      rcases e with ⟨ev | ⟨q, ev⟩, stop⟩
      · apply ih.server hclock hreachable hattends hstep
      · apply ih.client hsum hattends hstep

/-- The clock is not put back. In every run in which the ticks of the server are at most `d` apart
and find a client, while the client `p` has a server or its worker is in a round that began when it
had one, and in which the worker reads the queue at most `r` after it took its time, the worker
does not give the server up. -/
theorem live_server_kept {pid : UInt64} {names : UInt64 → Bytes} {es : List (Event × ℕ)}
    (hclock : ∀ i j, i ≤ j → clock i ≤ clock j) (hsum : 500 + d + r ≤ 15000)
    (h : noted.RunUnder (Attends d r p) ⟨{ state := start pid clock names }, 0⟩ es w) :
  (w.state.state.clients p).worker ≠ .disconnecting ∧
    .callback .onWebsocketProxyServerDisconnected ∉ (w.state.state.clients p).trace
  := by
  have hheard := run_heard hclock hsum h
  exact ⟨hheard.listens.kept, hheard.listens.silent⟩

/-- The readings of the clock of the server in `heardForLong`. -/
def clockOfTicks (j : ℕ) : UInt64 := UInt64.ofNat (100000 + 6000 * min (j - 2) 3)

theorem clockOfTicks_mono {i j : ℕ} (h : i ≤ j) :
  clockOfTicks i ≤ clockOfTicks j
  := by
  rw [clockOfTicks, clockOfTicks, UInt64.le_iff_toNat_le, UInt64.toNat_ofNat_of_lt',
    UInt64.toNat_ofNat_of_lt']
  · omega
  · rw [UInt64.size]
    omega
  · rw [UInt64.size]
    omega

/-- The server makes a tick at the time `now`, and the worker of the client 1 reads the heartbeat
that it publishes. -/
def tickRound (now : UInt64) : List (Event × ℕ) :=
  (.server .startHeartbeat :: Event.round 1 now (some { pid := 7, data := .heartbeat })).map
    (·, now.toNat)

/-- A client opens a connection, and hears of the server every six seconds. -/
def heardForLong : List (Event × ℕ) :=
  (.server .startHeartbeat :: Event.openWebSocketAsync 1 [104] 0 1 100000).map (·, 100000) ++
  tickRound 106000 ++ tickRound 112000 ++ (Event.round 1 117900 none).map (·, 117900) ++
  tickRound 118000

theorem live_server_kept_heardForLong :
  ∃ w, noted.RunUnder (Attends 7000 100 1)
      ⟨{ state := start 7 clockOfTicks (fun _ => []) }, 0⟩ heardForLong w ∧
    w.state.time = 118000 ∧ (w.state.state.clients 1).serverPid = 7 ∧
    .callback .onWebsocketProxyServerDisconnected ∉ (w.state.state.clients 1).trace
  := by
  obtain ⟨w, hrun, htime, hserver⟩ : ∃ w, noted.RunUnder (Attends 7000 100 1)
      ⟨{ state := start 7 clockOfTicks (fun _ => []) }, 0⟩ heardForLong w ∧
      w.state.time = 118000 ∧ (w.state.state.clients 1).serverPid = 7 :=
    TransitionSystem.exists_runUnder (by decide +kernel)
  use w, hrun, htime, hserver
  apply (live_server_kept (fun i j h => clockOfTicks_mono h) (by decide) hrun).2

end Session
