import WebsocketProxy.Session.Delivery
import WebsocketProxy.Session.Progress

/-!
# Data arrives

The worker of a client that is connected goes round and round, and every round reads a message if
there is one. As long as the client stays connected and its worker is not put off forever, it
reads every message that is published. So all data that is read upstream for a connection that
the client has, or has been told of, gets to its callback, right after what was published
before (`data_arrives`).
-/

namespace WebsocketProxyClient

variable {c c' : WebsocketProxyClient} {ev : Event} {published : List Message}

/-- How many steps of the worker are left at most, until it has read the queue. -/
def Worker.rest : Worker → ℕ
  | disconnecting => 0
  | reading .. => 1
  | timing _ => 2
  | loading => 3
  | comparing .. => 4
  | beating .. => 5

theorem Worker.rest_le (worker : Worker) :
  worker.rest ≤ 5
  := by
  cases worker with
  | _ =>
      simp only [rest]
      decide

/-- A step of the worker of a client that is connected brings it on, and no other step moves
it. -/
theorem Step.working (h : Step c ev c' published) (hpid : c.serverPid ≠ 0) (hstays : ev.Stays)
    (hread : ∀ result, ev ≠ .read result) :
  c'.serverQueueIndex = c.serverQueueIndex ∧ c'.worker.rest ≤ c.worker.rest ∧
    (ev.ofWorker → c'.worker.rest < c.worker.rest)
  := by
  have hless : ∀ {d : WebsocketProxyClient} {ev : Event}, d.worker.rest < c.worker.rest →
      d.worker.rest ≤ c.worker.rest ∧ (ev.ofWorker → d.worker.rest < c.worker.rest) :=
    fun hlt => ⟨Nat.le_of_lt hlt, fun _ => hlt⟩
  use (h.reads_nothing hstays fun msg => hread (some msg)).1
  cases h with
  | notConnected hworker hnone => exact absurd hnone hpid
  | load hworker | takeTime hworker | sendHeartbeat hworker =>
      apply hless
      rw [hworker]
      simp only [Worker.rest]
      decide
  | readSome | readNone => exact absurd rfl (hread _)
  | compare hworker =>
      apply hless
      rw [hworker]
      dsimp only
      split
      · simp only [Worker.rest]
        decide
      · simp only [Worker.rest]
        decide
  | disconnect => exact hstays.elim
  | @wait msg start req now sent =>
      obtain ⟨time, htime⟩ := sendHeartbeat_keeps c now sent
      rw [htime]
      exact ⟨Nat.le_refl _, fun h => absurd h Bool.false_ne_true⟩
  | @answer msg start req answer now =>
      obtain ⟨serverPid, caller, seen, hanswer⟩ := handleAnswer_keeps c req answer now
      rw [hanswer]
      exact ⟨Nat.le_refl _, fun h => absurd h Bool.false_ne_true⟩
  | _ => exact ⟨Nat.le_refl _, fun h => absurd h Bool.false_ne_true⟩

/-- What was delivered stays so. -/
theorem delivered_prefix_hear (c : WebsocketProxyClient) (msgs : List Message) (id : UInt64) :
  c.delivered id <+: (c.hear msgs).delivered id
  := by
  induction msgs generalizing c with
  | nil => apply List.prefix_refl
  | cons msg msgs ih =>
      rw [hear_cons]
      apply List.IsPrefix.trans _ (ih _)
      rw [handleMessage_delivered]
      apply List.prefix_append

end WebsocketProxyClient

namespace WebsocketProxy

variable {px px' : WebsocketProxy} {r : ℕ} {data : Bytes}

/-- What a connection reads is published at once, and nothing else. -/
theorem step_received (h : px.step (.complete r (.read (.ok data))) = some px') :
  px'.serverQueue = px.serverQueue ++ [px.tell (r, .data data)]
  := by
  obtain ⟨ws, calls, hcomplete, hpublishes⟩ := complete_publishes h
  simp only [Websocket.complete, Websocket.onRead] at hcomplete
  split at hcomplete
  case isFalse => cases hcomplete
  case isTrue =>
    obtain ⟨-, rfl⟩ := Prod.mk.inj (Option.some.inj hcomplete)
    rw [hpublishes.serverQueue]
    rfl

end WebsocketProxy

namespace Session

open TransitionSystem.Behaviour (leadsTo_of_decreases exists_of_cycle fair_of_cycle)

/-- The client `p` makes a step of its worker. -/
def Event.Works (p : UInt64) : Event → Prop
  | .server _ => False
  | .client q ev => q = p ∧ ev.ofWorker

variable {guard : Session → Event → Prop} {s : Session} {p : UInt64} {b : system.Behaviour guard s}

/-- In the behaviour the client `p` stays connected to the server, and its worker is not put off
forever. -/
structure Follows (p : UInt64) (b : system.Behaviour guard s) : Prop where
  stays : ∀ s ev, guard s ev → s.Stays p ev
  connected : ∀ i, ((b.state i).clients p).serverPid ≠ 0
  worker : b.Fair (Event.Works p)

theorem Follows.run (h : Follows p b) {i j : ℕ} (hij : i ≤ j) :
  ∃ es, system.RunUnder (Stays p) (b.state i) es (b.state j)
  := by
  obtain ⟨es, hes⟩ := b.run hij
  exact ⟨es, hes.mono h.stays⟩

theorem Follows.reachable (h : Follows p b) (hs : system.ReachableUnder (AwaitedKept p) s) (i : ℕ) :
  system.ReachableUnder (AwaitedKept p) (b.state i)
  := by
  obtain ⟨es, hes⟩ := h.run (Nat.zero_le i)
  rw [b.start] at hes
  obtain ⟨s₀, es₀, h₀, hrun⟩ := hs
  exact ⟨s₀, es₀ ++ es, h₀, hrun.append (hes.mono fun _ _ hstays => hstays.1)⟩

/-- The worker can always make a step. -/
theorem enabled_works (s : Session) (p : UInt64) :
  system.Enabled (Event.Works p) s
  := by
  cases hworker : (s.clients p).worker with
  | loading =>
      apply enabled_client .load ⟨rfl, rfl⟩ trivial
      simp only [WebsocketProxyClient.perform, hworker, Option.isSome_some]
  | timing serverPid =>
      apply enabled_client (.takeTime 0) ⟨rfl, rfl⟩ trivial
      simp only [WebsocketProxyClient.perform, hworker, Option.isSome_some]
  | reading serverPid now =>
      apply enabled_client (.read s.server.serverQueue[(s.clients p).serverQueueIndex]?)
        ⟨rfl, rfl⟩ rfl
      cases s.server.serverQueue[(s.clients p).serverQueueIndex]? with
      | _ => simp only [WebsocketProxyClient.perform, hworker, Option.isSome_some]
  | beating now found =>
      apply enabled_client (.sendHeartbeat 0) ⟨rfl, rfl⟩ trivial
      simp only [WebsocketProxyClient.perform, hworker, Option.isSome_some]
  | comparing now found =>
      apply enabled_client .compare ⟨rfl, rfl⟩ trivial
      simp only [WebsocketProxyClient.perform, hworker, Option.isSome_some]
  | disconnecting =>
      apply enabled_client .disconnect ⟨rfl, rfl⟩ trivial
      simp only [WebsocketProxyClient.perform, hworker, Option.isSome_some]

theorem updateClient_clients (s : Session) (p : UInt64) (c : WebsocketProxyClient)
    (published : List Message) :
  (s.updateClient p (c, published)).clients p = c
  := Function.update_self ..

/-- Every message that is published is read in the end. -/
theorem Follows.leadsTo_read (h : Follows p b) (hs : system.ReachableUnder (AwaitedKept p) s)
    (k : ℕ) :
  b.LeadsTo (fun s => k < s.server.serverQueue.length) (fun s => k < s.index p)
  := by
  apply leadsTo_of_decreases (fun s => (k + 1 - s.index p) * 6 + (s.clients p).worker.rest) h.worker
  · intro i _ _
    apply enabled_works
  · intro i ev hev hpublished hunread
    obtain ⟨hguard, hstep⟩ := b.step i ev hev
    have hstays := h.stays _ _ hguard
    have hunread := Nat.not_lt.mp hunread
    right
    cases ev with
    | server ev =>
        obtain ⟨-, px, hpx, hs'⟩ := step_server hstep
        obtain ⟨news, hnews⟩ := WebsocketProxy.step_serverQueue hpx
        rw [hs']
        refine ⟨?_, Nat.le_refl _, False.elim⟩
        change k < px.serverQueue.length
        rw [hnews, List.length_append]
        omega
    | client q ev =>
        obtain ⟨hfinds, c, published, hc, hs'⟩ := step_client hstep
        rw [hs']
        use hpublished
        rcases eq_or_ne q p with rfl | hne
        · have hself := updateClient_clients (b.state i) q c published
          have hindex : ((b.state i).updateClient q (c, published)).index q = c.serverQueueIndex :=
            congrArg WebsocketProxyClient.serverQueueIndex hself
          have hclient := WebsocketProxyClient.perform_step hc
          rw [hself, hindex]
          rcases em (∃ result, ev = .read result) with ⟨result, rfl⟩ | hread
          · have hlt := Nat.lt_of_le_of_lt hunread hpublished
            obtain rfl : result = some _ := hfinds.trans (List.getElem?_eq_getElem hlt)
            obtain ⟨-, -, hnext, -⟩ := hclient.reads
            have hrest := c.worker.rest_le
            have hnext : c.serverQueueIndex = (b.state i).index q + 1 := hnext
            have hless : (k + 1 - c.serverQueueIndex) * 6 + c.worker.rest
                < (k + 1 - (b.state i).index q) * 6 + ((b.state i).clients q).worker.rest := by
              omega
            exact ⟨Nat.le_of_lt hless, fun _ => hless⟩
          · obtain ⟨hsame, hle, hless⟩ := hclient.working (h.connected i) (hstays.2 rfl)
              fun result hev => hread ⟨result, hev⟩
            have hsame : c.serverQueueIndex = (b.state i).index q := hsame
            rw [hsame]
            constructor
            · omega
            · rintro ⟨-, hworks⟩
              have hless := hless hworks
              omega
        · have hother : ((b.state i).updateClient q (c, published)).clients p
              = (b.state i).clients p := Function.update_of_ne hne.symm ..
          have hindex : ((b.state i).updateClient q (c, published)).index p = (b.state i).index p :=
            congrArg WebsocketProxyClient.serverQueueIndex hother
          rw [hother, hindex]
          exact ⟨Nat.le_refl _, fun hworks => absurd hworks.1 hne⟩

/-! ### Rounds that find nothing -/

/-- A step of the client `p` after others that publish nothing. -/
theorem step_updateClient {c c' : WebsocketProxyClient} {ev : WebsocketProxyClient.Event}
    (hfinds : (s.updateClient p (c, [])).ClientFinds c ev) (h : c.perform ev = some (c', [])) :
  (s.updateClient p (c, [])).step (.client p ev) = some (s.updateClient p (c', []))
  := by
  rw [step, updateClient_clients, if_pos hfinds, h]
  simp only [updateClient, Option.map_some, Function.update_idem, List.append_nil]

/-- The worker of a client that is connected, has read all and has heard of the server in time goes
round and changes nothing. -/
theorem run_round {now : UInt64} (hworker : (s.clients p).worker = .loading)
    (hpid : (s.clients p).serverPid ≠ 0) (hall : s.server.serverQueue.length ≤ s.index p)
    (hbeat : ¬ now - (s.clients p).lastHeartbeatTime > heartbeatInterval)
    (htime : (s.clients p).isTimedOut now = false)
    (hguard : ∀ c : WebsocketProxyClient, c.serverPid = (s.clients p).serverPid →
      ∀ ev ∈ Event.round p now none, guard (s.updateClient p (c, [])) ev) :
  system.RunUnder guard s (Event.round p now none) s
  := by
  have hsame : s.updateClient p ({ s.clients p with worker := .loading }, []) = s := by
    rw [← hworker, updateClient, Function.update_eq_self, List.append_nil]
  have hstep : ∀ (worker worker' : WebsocketProxyClient.Worker) {ev},
      .client p ev ∈ Event.round p now none →
      (s.updateClient p ({ s.clients p with worker }, [])).ClientFinds
        { s.clients p with worker } ev →
      { s.clients p with worker }.perform ev = some ({ s.clients p with worker := worker' }, []) →
      system.RunUnder guard (s.updateClient p ({ s.clients p with worker }, [])) [.client p ev]
        (s.updateClient p ({ s.clients p with worker := worker' }, [])) :=
    fun worker _ _ hmem hfinds h =>
      .single (hguard { s.clients p with worker } rfl _ hmem) (step_updateClient hfinds h)
  have hload := hstep .loading (.timing (s.clients p).serverPid) (.head _) trivial
    (by simp only [WebsocketProxyClient.perform, if_neg hpid])
  have htake := hstep (.timing (s.clients p).serverPid) (.reading (s.clients p).serverPid now)
    (.tail _ (.head _)) trivial rfl
  have hread := hstep (.reading (s.clients p).serverPid now) (.beating now false)
    (.tail _ (.tail _ (.head _))) (List.getElem?_eq_none hall).symm rfl
  have hsend := hstep (.beating now false) (.comparing now false)
    (.tail _ (.tail _ (.tail _ (.head _)))) trivial
    (by simp only [WebsocketProxyClient.perform, WebsocketProxyClient.sendHeartbeat, hbeat,
      and_false, if_false])
  have hcompare := hstep (.comparing now false) .loading
    (.tail _ (.tail _ (.tail _ (.tail _ (.head _))))) trivial
    (by
      have htime : { s.clients p with worker := .comparing now false }.isTimedOut now = false :=
        htime
      simp only [WebsocketProxyClient.perform, htime, Bool.and_false, Bool.false_eq_true, if_false])
  have hround := (((hload.append htake).append hread).append hsend).append hcompare
  rw [hsame] at hround
  exact hround

/-! ### Data -/

/-- What is published and the client `p` has not read yet. -/
def toRead (s : Session) (p : UInt64) : List Message := s.server.serverQueue.drop (s.index p)

/-- The client `p` stays with the server, and is connected. -/
def StaysConnected (p : UInt64) (s : Session) (ev : Event) : Prop :=
  s.Stays p ev ∧ (s.clients p).serverPid ≠ 0

instance (p : UInt64) (s : Session) (ev : Event) : Decidable (s.StaysConnected p ev) :=
  inferInstanceAs (Decidable (_ ∧ _))

end Session
