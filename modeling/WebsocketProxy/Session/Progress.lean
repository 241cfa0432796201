import WebsocketProxy.Server.Progress
import WebsocketProxy.Server.Stopping
import WebsocketProxy.Session.Answered

/-!
# Progress

In a behaviour in which the server goes on to run, and the handler of messages and the coroutines
that open connections are not put off forever, every request is answered in the end
(`requests_answered`).
-/

namespace Session

open TransitionSystem.Behaviour (leadsTo_of_decreases fair_of_loop exists_of_runs)

/-- The server runs the handler of messages. -/
def Event.Takes : Event → Prop
  | .server (.processClientMessage _) => True
  | _ => False

/-- The server resumes the coroutine that opens the connection at `r`. -/
def Event.Resumes (r : ℕ) : Event → Prop
  | .server ev => ev.Resumes r
  | .client _ _ => False

variable {guard : Session → Event → Prop} {s₀ s s' : Session} {n : ℕ} {m : Message}

/-- What was published stays in the client queue. -/
theorem step_getElem? {ev : Event} (hstep : s.step ev = some s')
    (hm : s.clientQueue[n]? = some m) :
  s'.clientQueue[n]? = some m
  := by
  cases ev with
  | server ev =>
      obtain ⟨-, px, -, rfl⟩ := step_server hstep
      exact hm
  | client q ev =>
      obtain ⟨-, c, published, -, rfl⟩ := step_client hstep
      exact (List.getElem?_append_left (List.getElem?_eq_some_iff.mp hm).1).trans hm

/-- Where no constructor throws, the handlers of the loop stay posted, and the messages taken are
settled. -/
theorem reachable_loop (h : system.ReachableUnder (OnServer WebsocketProxy.PortsParse) s) :
  s.server.Scheduled ∧ Accounts s.server.ledger (s.clientQueue.take s.server.taken)
  := by
  apply h.invariant (I := fun s =>
    s.server.Scheduled ∧ Accounts s.server.ledger (s.clientQueue.take s.server.taken))
  · rintro _ ⟨pid, clock, names, rfl⟩
    constructor
    · exact ⟨fun _ => rfl, fun _ _ => rfl⟩
    · apply WebsocketProxy.start_accounts
  · rintro s ev s' hs ⟨hscheduled, haccounts⟩ hports hstep
    obtain ⟨hserver, hle⟩ := reachable_taken hs.reachable
    cases ev with
    | server ev =>
        obtain ⟨hfinds, px, hpx, rfl⟩ := step_server hstep
        have hwf := WebsocketProxy.reachable_wellFormed hserver
        obtain ⟨hscheduled', haccounts'⟩ :=
          WebsocketProxy.step_loop hwf hports hpx hscheduled haccounts
        use hscheduled'
        dsimp only
        rw [(takes_next hle hfinds hpx).2]
        exact haccounts'
    | client q ev =>
        obtain ⟨-, c, published, -, rfl⟩ := step_client hstep
        use hscheduled
        change Accounts _ ((s.clientQueue ++ published).take s.server.taken)
        rw [List.take_append_of_le_length hle]
        exact haccounts

/-- The message `n` has been answered. -/
def Answers (n : ℕ) (s : Session) : Prop :=
  ∃ status, status ≠ .pending ∧ s.server.stores n = [status]

/-- The server of a behaviour goes on to run, without an exception. The handler of messages and
the coroutines that open connections are not put off forever. -/
structure Serves (b : system.Behaviour guard s₀) : Prop where
  ports : ∀ s ev, guard s ev → s.OnServer WebsocketProxy.PortsParse ev
  runs : ∀ i, (b.state i).server.run = true
  undecided : ∀ i, (b.state i).server.autoShutdown = false
  messages : b.Fair Event.Takes
  openings : ∀ r, b.Fair (Event.Resumes r)

variable {b : system.Behaviour guard s₀}

/-- The server is not stopped, and its handler of messages is posted. -/
theorem Serves.posted (h : Serves b) (hs : system.initial s₀) (i : ℕ) :
  (b.state i).server.stopped = false ∧ (b.state i).server.messageHandlers = 1
  := by
  have hreachable := b.reachable hs i
  constructor
  · apply eq_false_of_ne_true
    intro hstopped
    have hserver := (reachable_taken hreachable.reachable).1
    have hoff := (WebsocketProxy.reachable_halting hserver).stopped hstopped
    rw [h.runs i] at hoff
    cases hoff
  · apply (reachable_loop (hreachable.mono h.ports)).1.message (h.runs i)
    apply ne_true_of_eq_false (h.undecided i)

/-- An event of the server that finds what is there is an event of the session. -/
theorem enabled_server {A : Event → Prop} {ev : WebsocketProxy.Event} {px : WebsocketProxy}
    (hA : A (.server ev)) (hfinds : s.ServerFinds ev) (hpx : s.server.step ev = some px) :
  system.Enabled A s
  := by
  use .server ev, { s with server := px }, hA
  change s.step (.server ev) = _
  rw [step, if_pos hfinds, hpx]
  rfl

/-- A step of a client that finds what is there is an event of the session. -/
theorem enabled_client {A : Event → Prop} {p : UInt64} (ev : WebsocketProxyClient.Event) (hA : A (.client p ev))
    (hfinds : s.ClientFinds (s.clients p) ev) (hc : ((s.clients p).perform ev).isSome) :
  system.Enabled A s
  := by
  obtain ⟨result, hresult⟩ := Option.isSome_iff_exists.mp hc
  use .client p ev, s.updateClient p result, hA
  change s.step (.client p ev) = _
  rw [step, if_pos hfinds, hresult]
  rfl

/-- The handler of messages can always be run. -/
theorem Serves.enabled_takes (h : Serves b) (hs : system.initial s₀) (i : ℕ) :
  system.Enabled Event.Takes (b.state i)
  := by
  obtain ⟨hgoes, hposted⟩ := h.posted hs i
  have hstep : ∃ px, (b.state i).server.step
      (.processClientMessage (b.state i).clientQueue[(b.state i).server.taken]?) = some px := by
    rw [WebsocketProxy.step, if_neg (ne_true_of_eq_false hgoes)]
    simp only [WebsocketProxy.runHandler, hposted, Nat.one_pos, if_true]
    exact ⟨_, rfl⟩
  obtain ⟨px, hpx⟩ := hstep
  apply enabled_server _ _ hpx
  · trivial
  · rfl

/-- Every message that is published is taken in the end. -/
theorem Serves.leadsTo_taken (h : Serves b) (hs : system.initial s₀) (n : ℕ) (m : Message) :
  b.LeadsTo (fun s => s.clientQueue[n]? = some m)
    (fun s => s.clientQueue[n]? = some m ∧ n < s.server.taken)
  := by
  apply leadsTo_of_decreases (fun s => n + 1 - s.server.taken) h.messages
  · intro i _ _
    apply h.enabled_takes hs
  · intro i ev hev hm huntaken
    have hstep := (b.step i ev hev).2
    have hm' := step_getElem? hstep hm
    rw [not_and, Nat.not_lt] at huntaken
    have hle := huntaken hm
    right
    use hm'
    cases ev with
    | server ev =>
        obtain ⟨hfinds, px, hpx, hs'⟩ := step_server hstep
        have htaken : (b.state (i + 1)).server.taken
            = (b.state i).server.taken + ev.taken.toList.length := by
          rw [hs']
          exact WebsocketProxy.step_taken hpx
        constructor
        · rw [htaken]
          omega
        · intro htakes
          cases ev with
          | processClientMessage msg =>
              have hlt := Nat.lt_of_le_of_lt hle (List.getElem?_eq_some_iff.mp hm).1
              obtain rfl : msg = some _ := hfinds.trans (List.getElem?_eq_getElem hlt)
              rw [htaken]
              simp only [WebsocketProxy.Event.taken, Option.toList_some, List.length_singleton]
              omega
          | _ => exact htakes.elim
    | client q ev =>
        obtain ⟨-, c, published, -, hs'⟩ := step_client hstep
        have hsame : (b.state (i + 1)).server = (b.state i).server := by
          rw [hs']
          rfl
        rw [hsame]
        exact ⟨Nat.le_refl _, False.elim⟩

/-- An opening comes to its end, and answers its request. -/
theorem Serves.leadsTo_opened (h : Serves b) (hs : system.initial s₀) (n r : ℕ) :
  b.LeadsTo (fun s => ∃ stage, (s.server.sockets r).opening = some (stage, n)) (Answers n)
  := by
  apply leadsTo_of_decreases
    (fun s => ((s.server.sockets r).opening.map fun opening => opening.1.rest).getD 0) (h.openings r)
  · rintro i ⟨stage, hopening⟩ -
    obtain ⟨ev, px, hresumes, hpx⟩ := WebsocketProxy.enabled_resumes
      (ne_true_of_eq_false (h.posted hs i).1) hopening
    cases ev with
    | complete r' c => exact enabled_server hresumes trivial hpx
    | _ => exact hresumes.elim
  · rintro i ev hev ⟨stage, hopening⟩ -
    have hstep := (b.step i ev hev).2
    have hserver := (reachable_taken (b.reachable hs i).reachable).1
    cases ev with
    | server ev =>
        obtain ⟨hfinds, px, hpx, hs'⟩ := step_server hstep
        rw [hs']
        rcases em (ev.Resumes r) with hresumes | hother
        · rcases WebsocketProxy.step_resumes hpx hresumes hopening with
            ⟨stage', hopening', hlt⟩ | ⟨status, hstatus, hfinish⟩
          · right
            simp only [hopening, hopening', Option.map_some, Option.getD_some]
            exact ⟨⟨stage', rfl⟩, Nat.le_of_lt hlt, fun _ => hlt⟩
          · left
            use status, hstatus
            have hanswers : px.stores n = _ := congrFun (congrArg Ledger.answers hfinish) n
            have hpending : (b.state i).server.ledger.pending r = some n :=
              congrArg (Option.map Prod.snd) hopening
            simp only [Ledger.finish, Function.update_self,
              (WebsocketProxy.reachable_valid hserver).unanswered hpending] at hanswers
            exact hanswers
        · right
          have hopening' := WebsocketProxy.step_opening_stays
            (WebsocketProxy.reachable_wellFormed hserver) hpx hopening hother
          simp only [hopening, hopening']
          exact ⟨⟨stage, rfl⟩, Nat.le_refl _, fun hresumes => absurd hresumes hother⟩
    | client q ev =>
        obtain ⟨-, c, published, -, hs'⟩ := step_client hstep
        right
        have hsame : (b.state (i + 1)).server = (b.state i).server := by
          rw [hs']
          rfl
        rw [hsame]
        exact ⟨⟨stage, hopening⟩, Nat.le_refl _, False.elim⟩

/-- A message that is answered once is not answered again. -/
theorem answers_stay (hs : system.initial s₀) {status : Message.Status} {j k : ℕ} (hjk : j ≤ k)
    (h : (b.state j).server.stores n = [status]) :
  (b.state k).server.stores n = [status]
  := by
  have hstays : b.Unless (fun s => s.server.stores n = [status]) (fun _ => False) := by
    intro i ev hev hstores
    left
    have hstep := (b.step i ev hev).2
    have hserver := (reachable_taken (b.reachable hs i).reachable).1
    have hserver' := (reachable_taken (b.reachable hs (i + 1)).reachable).1
    cases ev with
    | server ev =>
        obtain ⟨hfinds, px, hpx, hs'⟩ := step_server hstep
        have hle := WebsocketProxy.reachable_answers_le hserver' n
        rw [hs'] at hle ⊢
        obtain ⟨news, hnews⟩ := WebsocketProxy.step_stores_append
          (WebsocketProxy.reachable_wellFormed hserver) hpx n
        rw [hstores] at hnews
        have hle : (px.stores n).length ≤ 1 := hle
        rw [hnews, List.length_append, List.length_singleton] at hle
        obtain rfl : news = [] := List.eq_nil_of_length_eq_zero (by omega)
        exact hnews
    | client q ev =>
        obtain ⟨-, c, published, -, hs'⟩ := step_client hstep
        rw [hs']
        exact hstores
  rcases hstays.stays hjk h with hk | ⟨-, -, hfalse⟩
  · exact hk
  · exact hfalse.elim

/-- Every request that is published is answered in the end. -/
theorem Serves.leadsTo_answered (h : Serves b) (hs : system.initial s₀)
    (hanswered : m.data.Answered) :
  b.LeadsTo (fun s => s.clientQueue[n]? = some m) (Answers n)
  := by
  apply (h.leadsTo_taken hs n m).trans
  rintro i ⟨hm, hn⟩
  have haccounts := (reachable_loop ((b.reachable hs i).mono h.ports)).2
  rcases haccounts.settled (List.getElem?_take_of_lt hn ▸ hm) hanswered with
    hstatus | ⟨-, r, hpending⟩
  · exact ⟨i, Nat.le_refl i, hstatus⟩
  · obtain ⟨⟨stage, n'⟩, hopening, rfl⟩ := Option.map_eq_some_iff.mp hpending
    exact h.leadsTo_opened hs n' r i ⟨stage, hopening⟩

/-! ### Behaviours in which the server waits for messages -/

/-- The server finds no message. -/
def idling : Event := .server (.processClientMessage none)

/-- The server has nothing to do. -/
structure Rests (s : Session) : Prop where
  run : s.server.run = true
  autoShutdown : s.server.autoShutdown = false
  stopped : s.server.stopped = false
  posted : 0 < s.server.messageHandlers
  shutdownTime : s.server.shutdownTime = 0
  drained : s.server.closedSockets.reserved ≤ s.server.closedSocketsIndex
  taken : s.server.taken = s.clientQueue.length
  opened : ∀ r < s.server.opens, (s.server.sockets r).opening = none

instance (s : Session) : Decidable s.Rests :=
  decidable_of_iff
    (s.server.run = true ∧ s.server.autoShutdown = false ∧ s.server.stopped = false ∧
      0 < s.server.messageHandlers ∧ s.server.shutdownTime = 0 ∧
      s.server.closedSockets.reserved ≤ s.server.closedSocketsIndex ∧
      s.server.taken = s.clientQueue.length ∧
      ∀ r < s.server.opens, (s.server.sockets r).opening = none)
    ⟨fun ⟨h₁, h₂, h₃, h₄, h₅, h₆, h₇, h₈⟩ => ⟨h₁, h₂, h₃, h₄, h₅, h₆, h₇, h₈⟩,
      fun h => ⟨h.run, h.autoShutdown, h.stopped, h.posted, h.shutdownTime, h.drained, h.taken,
        h.opened⟩⟩

theorem Rests.step (h : s.Rests) :
  s.step idling = some s
  := by
  have hfinds : s.ServerFinds (.processClientMessage none) := by
    rw [ServerFinds, h.taken, List.getElem?_eq_none (Nat.le_refl _)]
  rw [idling, Session.step, if_pos hfinds,
    WebsocketProxy.step_noMessage h.stopped h.run h.posted h.shutdownTime h.drained]
  rfl

/-- The server does not come back to run, nor from the decision to shut down. -/
theorem run_serving {es : List Event} (h : system.RunUnder guard s es s')
    (hrun : s'.server.run = true) (hauto : s'.server.autoShutdown = false) :
  s.server.run = true ∧ s.server.autoShutdown = false
  := by
  by_contra hnot
  apply h.preserves (I := fun s => ¬ (s.server.run = true ∧ s.server.autoShutdown = false)) _
    hnot ⟨hrun, hauto⟩
  rintro s ev s' hnot - hstep ⟨hrun, hauto⟩
  apply hnot
  cases ev with
  | server ev =>
      obtain ⟨-, px, hpx, rfl⟩ := step_server hstep
      exact (WebsocketProxy.step_process hpx).2.serving hrun hauto
  | client q ev =>
      obtain ⟨-, c, published, -, rfl⟩ := step_client hstep
      exact ⟨hrun, hauto⟩

/-- The server serves in a behaviour that comes to a state in which it has nothing to do, and goes
round there. -/
theorem Rests.serves (h : s.Rests) (hs : system.Reachable s)
    (hports : ∀ s ev, guard s ev → s.OnServer WebsocketProxy.PortsParse ev) {n : ℕ}
    (hround : ∀ i, b.state (n + i) = s ∧ b.event (n + i) = some idling) :
  Serves b
  := by
  have hserving : ∀ i, (b.state i).server.run = true ∧ (b.state i).server.autoShutdown = false := by
    intro i
    obtain ⟨es, hes⟩ := b.run (Nat.le_add_left i n)
    rw [(hround i).1] at hes
    apply run_serving hes h.run h.autoShutdown
  constructor
  · exact hports
  · exact fun i => (hserving i).1
  · exact fun i => (hserving i).2
  · apply fair_of_loop hround
    exact fun _ => ⟨idling, rfl, trivial⟩
  · intro r
    apply fair_of_loop hround
    rintro ⟨ev, s', hresumes, hstep⟩
    have hopening : (s.server.sockets r).opening = none := by
      rcases Nat.lt_or_ge r s.server.opens with hlt | hge
      · apply h.opened r hlt
      · rw [(WebsocketProxy.reachable_wellFormed (reachable_taken hs).1).blank r hge]
        rfl
    cases ev with
    | server ev =>
        obtain ⟨-, px, hpx, -⟩ := step_server hstep
        obtain ⟨stage, n, hsome⟩ := WebsocketProxy.opening_of_resumes hpx hresumes
        rw [hopening] at hsome
        cases hsome
    | client q ev => exact hresumes.elim

/-- After two runs, the server of a session can go on to run. -/
theorem exists_serves {t u : Session} {es fs : List Event} (hs : system.initial s₀)
    (hports : ∀ s ev, guard s ev → s.OnServer WebsocketProxy.PortsParse ev)
    (h : system.RunUnder guard s₀ es t) (h' : system.RunUnder guard t fs u) (hrests : u.Rests)
    (hguard : guard u idling) :
  ∃ b : system.Behaviour guard s₀, Serves b ∧ b.state es.length = t ∧
    ∀ i, b.state (es.length + fs.length + i) = u ∧
      b.event (es.length + fs.length + i) = some idling
  := by
  obtain ⟨b, -, hstate, hround⟩ := exists_of_runs h h' (some idling) fun e he => by
    obtain rfl := Option.some.inj he
    exact ⟨hguard, hrests.step⟩
  have hreachable : system.ReachableUnder guard u := ⟨s₀, _, hs, h.append h'⟩
  exact ⟨b, hrests.serves hreachable.reachable hports hround, hstate, hround⟩

/-! ### Requests -/

/-- A client asks for a connection. -/
def askedToOpen : List Event := connectOne ++ [.client 1 (.sendOpenMessage 1 100000 100000)]

/-- The server opens the connection. -/
def opensOne : List Event :=
  Event.take { pid := 1, data := .openWs { url := [104], apiKey := [] } } :: Event.opened 0

end Session
