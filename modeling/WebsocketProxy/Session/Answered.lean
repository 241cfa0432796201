import WebsocketProxy.Server.SlotContents
import WebsocketProxy.Session.Agreement
import WebsocketProxy.Session.Subscribing

/-!
# The answers that callers take

A caller waits at the slot of its own request, in the queue that all clients share, and takes
what it finds there. As long as no client reuses the slot, that is its request with the fields of
the answer filled in, and with the one status that the server stored for it
(`answer_of_request`). So every client that takes itself for connected is so with the server of
the session (`reachable_served`).
-/

namespace WebsocketProxyClient

variable {c c' : WebsocketProxyClient} {ev : Event} {published : List Message}

/-- The caller waits for the answer of a message with this data. -/
def Request.Of : Request → Message.Data → Prop
  | .register _, .register _ | .openWs, .openWs _ => True
  | .closeWs _, .closeWs _ | .subscribe _, .subscribe _ => True
  | _, _ => False

theorem Request.Of.answered {req : Request} {data : Message.Data} (h : req.Of data) :
  data.Answered
  := by
  cases data with
  | register | openWs | closeWs | subscribe => trivial
  | _ =>
      cases req with
      | _ => exact h.elim

/-- The server writes its process id into the answer of a `Register`. -/
theorem Request.Of.registered {o : Opening} {data : Message.Data} {answer : Message} {pid : UInt64}
    (h : (Request.register o).Of data) (hfilled : data.Filled pid answer.data) :
  answer.registerMessage.serverPid = pid
  := by
  rw [Message.registerMessage]
  generalize answer.data = data' at hfilled
  cases hfilled with
  | register => rfl
  | openWs | closeWs | subscribe | existing => exact h.elim

/-- A caller that starts waiting has published the message it waits for the answer of. -/
theorem Step.publishes_request (h : Step c ev c' published) {n : ℕ} {start : UInt64}
    {req : Request} (hafter : c'.caller = .waiting n start req) :
  c.caller = .waiting n start req ∨
    ev.Asks n ∧ ∃ data, published = [{ pid := c.pid, data }] ∧ req.Of data
  := by
  rcases h.starts_waiting hafter with hbefore | ⟨hasks, -⟩
  · apply Or.inl hbefore
  · right
    use hasks
    cases h with
    | register | openSync | closeWebSocket | subscribe =>
        obtain ⟨-, -, rfl⟩ := Caller.waiting.inj hafter
        exact ⟨_, rfl, trivial⟩
    | openAsync => cases hafter
    | _ => exact hasks.elim

/-- An answer ends the wait for it. -/
theorem Step.takes_answer {answer : Message} {now : UInt64}
    (h : Step c (.answer answer now) c' published) :
  ∃ n start req, c.caller = .waiting n start req ∧ answer.status ≠ .pending ∧
    c' = c.handleAnswer req answer now
  := by
  cases h with
  | answer hcaller hanswer => exact ⟨_, _, _, hcaller, hanswer, rfl⟩

/-- What the worker has loaded of `server_pid_`. -/
def Worker.loaded : Worker → Option UInt64
  | .timing serverPid | .reading serverPid _ => some serverPid
  | .loading | .beating .. | .comparing .. | .disconnecting => none

/-- The worker loads `server_pid_`. -/
theorem Step.loaded (h : Step c ev c' published) {serverPid : UInt64}
    (hloaded : c'.worker.loaded = some serverPid) :
  c.worker.loaded = some serverPid ∨ c.serverPid ≠ 0 ∧ serverPid = c.serverPid
  := by
  cases h with
  | load hworker hpid => exact Or.inr ⟨hpid, (Option.some.inj hloaded).symm⟩
  | takeTime hworker =>
      left
      rw [hworker]
      exact hloaded
  | @readSome serverPid' now msg hworker =>
      simp only [handleResult] at hloaded
      split at hloaded
      · cases hloaded
      · cases hloaded
  | @compare now found =>
      dsimp only at hloaded
      split at hloaded
      · cases hloaded
      · cases hloaded
  | @wait msg start req now sent =>
      obtain ⟨time, htime⟩ := sendHeartbeat_keeps c now sent
      rw [htime] at hloaded
      apply Or.inl hloaded
  | @answer msg start req answer now =>
      have hworker : (c.handleAnswer req answer now).worker = c.worker := by
        cases req with
        | register | openWs =>
            simp only [handleAnswer]
            split
            · rfl
            · rfl
        | closeWs | subscribe => rfl
      rw [hworker] at hloaded
      apply Or.inl hloaded
  | readNone | sendHeartbeat | disconnect => cases hloaded
  | _ => exact Or.inl hloaded

end WebsocketProxyClient

namespace Session

open WebsocketProxyClient (Step)

/-- No client reuses the slot that the caller of the client `p` waits at. -/
def AwaitedKept (p : UInt64) (s : Session) : Event → Prop
  | .server (.slotReused n _) => awaited (s.clients p) ≠ some n
  | _ => True

instance (p : UInt64) (s : Session) (ev : Event) : Decidable (s.AwaitedKept p ev) := by
  unfold AwaitedKept
  split <;> infer_instance

/-! ### Openings -/

/-- Every opening is for an `OpenWs` message of the client queue. -/
def Opens (s : Session) : Prop :=
  ∀ r stage n, (s.server.sockets r).opening = some (stage, n) →
    ∃ m req, s.clientQueue[n]? = some m ∧ m.data = .openWs req

theorem reachable_opensWs {s : Session} (h : system.Reachable s) :
  s.Opens
  := by
  apply h.invariant
  · rintro _ ⟨pid, clock, names, rfl⟩ r stage n ⟨⟩
  · intro s ev s' hreachable hopens _ hstep r stage n hopening
    cases ev with
    | server ev =>
        obtain ⟨hfinds, px, hpx, rfl⟩ := step_server hstep
        have hwf := WebsocketProxy.reachable_wellFormed (reachable_taken hreachable).1
        rcases WebsocketProxy.step_opening_cases hwf hpx hopening with
          ⟨⟨stage', hbefore⟩, -⟩ | ⟨rfl, -, req, hreq, -⟩
        · apply hopens r stage' n hbefore
        · obtain ⟨⟨m, rfl⟩, -⟩ := WebsocketProxy.opensNew_eq_some hreq
          exact ⟨m, req, hfinds.symm, (WebsocketProxy.opensNew_message.mp hreq).1⟩
    | client q ev =>
        obtain ⟨-, c, published, -, rfl⟩ := step_client hstep
        obtain ⟨m, req, hm, hreq⟩ := hopens r stage n hopening
        refine ⟨m, req, ?_, hreq⟩
        exact (List.getElem?_append_left (List.getElem?_eq_some_iff.mp hm).1).trans hm

/-! ### Waiting -/

/-- Message `n` is the request of the client `p` that its caller waits for the answer of. When
the server has taken it, its slot holds it. -/
structure Awaits (s : Session) (p : UInt64) (n : ℕ) (req : WebsocketProxyClient.Request)
    (m : Message) : Prop where
  published : s.clientQueue[n]? = some m
  pid : m.pid = p
  status : m.status = .pending
  of : req.Of m.data
  holds : n < s.server.taken → s.server.Holds n m

/-- The client `p` is served by the server of the session. -/
structure Served (s : Session) (p : UInt64) : Prop where
  awaits : ∀ {n start req}, (s.clients p).caller = .waiting n start req → ∃ m, s.Awaits p n req m
  serverPid : (s.clients p).serverPid ≠ 0 → (s.clients p).serverPid = s.server.pid
  loaded : ∀ {serverPid}, (s.clients p).worker.loaded = some serverPid → serverPid = s.server.pid

variable {s s' : Session} {p : UInt64} {n : ℕ} {req : WebsocketProxyClient.Request} {m : Message}

theorem Awaits.client (h : s.Awaits p n req m) (q : UInt64)
    (result : WebsocketProxyClient × List Message) :
  (s.updateClient q result).Awaits p n req m
  := by
  constructor
  · exact (List.getElem?_append_left (List.getElem?_eq_some_iff.mp h.published).1).trans
      h.published
  · exact h.pid
  · exact h.status
  · exact h.of
  · exact h.holds

/-- A handler of the server keeps what is waited for in its slot. -/
theorem Awaits.server (h : s.Awaits p n req m) (hs : system.Reachable s)
    {ev : WebsocketProxy.Event} (hreused : ∀ contents, ev ≠ .slotReused n contents)
    (hstep : s.step (.server ev) = some s') :
  s'.Awaits p n req m
  := by
  have hopens := reachable_opensWs hs
  have hserver := (reachable_taken hs).1
  obtain ⟨hfinds, px, hpx, rfl⟩ := step_server hstep
  refine ⟨h.published, h.pid, h.status, h.of, ?_⟩
  intro hn
  have hn : n < px.taken := hn
  rcases Nat.lt_or_ge n s.server.taken with hlt | hge
  · apply (h.holds hlt).step (WebsocketProxy.reachable_wellFormed hserver) hpx hlt hreused
    intro r stage hopening
    obtain ⟨m', open', hm', hdata⟩ := hopens r stage n hopening
    obtain rfl := Option.some.inj (h.published.symm.trans hm')
    use open'
  · -- the message that is taken is the request
    rw [WebsocketProxy.step_taken hpx] at hn
    cases ev with
    | processClientMessage msg =>
        cases msg with
        | none => exact absurd hn (Nat.not_lt.mpr hge)
        | some m' =>
            obtain rfl : n = s.server.taken := Nat.le_antisymm (Nat.le_of_lt_succ hn) hge
            obtain rfl := Option.some.inj (hfinds.trans h.published)
            apply WebsocketProxy.message_holds hpx h.of.answered
            exact (WebsocketProxy.reachable_valid hserver).fresh (Nat.le_refl _)
    | _ => exact absurd hn (Nat.not_lt.mpr hge)

/-- The answer of a request is found when the server has taken the request. -/
theorem Awaits.taken (h : s.Awaits p n req m) (hanswer : (s.slot n).status ≠ .pending) :
  n < s.server.taken
  := by
  by_contra hlt
  rw [slot, if_neg hlt, List.getD_eq_getElem?_getD, h.published] at hanswer
  apply hanswer h.status

/-- What a caller finds at the slot of its request. -/
theorem Awaits.answer (h : s.Awaits p n req m) (hs : system.Reachable s) {answer : Message}
    (hslot : s.slot n = answer) (hanswer : answer.status ≠ .pending) :
  s.server.stores n = [answer.status] ∧ answer.pid = p ∧
    m.data.Filled s.server.pid answer.data ∧
    ∀ open', m.data = .openWs open' → answer.status = .success →
      s.server.Told p answer.wsOpen.id
  := by
  have hn := h.taken (hslot ▸ hanswer)
  have hslot : s.server.slots n = answer := by
    rw [← hslot, slot, if_pos hn]
  obtain ⟨hpid, hdata, hstatus, htold⟩ := h.holds hn
  rw [hslot] at hpid hdata hstatus htold
  have hstores : s.server.stores n = [answer.status] := by
    have hle := WebsocketProxy.reachable_answers_le (reachable_taken hs).1 n
    cases hcase : s.server.stores n with
    | nil =>
        rw [hcase] at hstatus
        exact absurd (hstatus.trans h.status) hanswer
    | cons status rest =>
        rw [hcase, List.length_cons] at hle
        obtain rfl := List.eq_nil_of_length_eq_zero (Nat.le_zero.mp (Nat.le_of_succ_le_succ hle))
        rw [hcase] at hstatus
        rw [hstatus]
        rfl
  refine ⟨hstores, hpid.trans h.pid, hdata, ?_⟩
  intro open' hopen hsuccess
  rw [← h.pid]
  apply htold open' hopen
  rw [hstores, hsuccess]
  apply List.mem_singleton_self

/-- A step of the client keeps it served. -/
theorem Served.self {ev : WebsocketProxyClient.Event} (h : s.Served p) (hs : system.Reachable s)
    (hstep : s.step (.client p ev) = some s') :
  s'.Served p
  := by
  obtain ⟨hfinds, c, published, hc, rfl⟩ := step_client hstep
  have hclient := WebsocketProxyClient.perform_step hc
  have hself : (s.updateClient p (c, published)).clients p = c := Function.update_self ..
  constructor
  · intro n start req hcaller
    rw [hself] at hcaller
    rcases hclient.publishes_request hcaller with hbefore | ⟨hasks, data, rfl, hof⟩
    · obtain ⟨m, hm⟩ := h.awaits hbefore
      use m
      apply hm.client
    · have hn : n = s.clientQueue.length := by
        cases ev with
        | register | sendOpenMessage | closeWebSocket | subscribe => exact hasks.symm.trans hfinds
        | _ => exact hasks.elim
      use { pid := p, data }
      refine ⟨?_, rfl, rfl, hof, ?_⟩
      · rw [hn, (reachable_client hs p).2]
        exact List.getElem?_concat_length
      · intro hlt
        have hle := (reachable_taken hs).2
        exact absurd (hn ▸ hlt) (Nat.not_lt.mpr hle)
  · rw [hself]
    intro hpid
    rcases hclient.connected hpid with hsame | ⟨n, start, o, answer, now, hcaller, rfl, hanswer⟩
    · rw [hsame] at hpid ⊢
      apply h.serverPid hpid
    · obtain ⟨m, hm⟩ := h.awaits hcaller
      have hfinds : (awaited (s.clients p)).map s.slot = some answer := hfinds
      rw [awaited, hcaller] at hfinds
      obtain ⟨-, -, hfilled, -⟩ := hm.answer hs (Option.some.inj hfinds) hanswer
      obtain ⟨n', start', req', hcaller', -, rfl⟩ := hclient.takes_answer
      obtain ⟨-, -, rfl⟩ :=
        WebsocketProxyClient.Caller.waiting.inj (hcaller.symm.trans hcaller')
      simp only [WebsocketProxyClient.handleAnswer] at hpid ⊢
      split at hpid
      case isTrue hfailed =>
        rw [if_pos hfailed]
        apply h.serverPid hpid
      case isFalse hregistered =>
        rw [if_neg hregistered]
        apply hm.of.registered hfilled
  · rw [hself]
    intro serverPid hloaded
    rcases hclient.loaded hloaded with hbefore | ⟨hpid, rfl⟩
    · apply h.loaded hbefore
    · apply h.serverPid hpid

/-- In every run in which no client reuses the slots the client waits at, it is served by the
server of the session. -/
theorem reachable_served (h : system.ReachableUnder (AwaitedKept p) s) :
  s.Served p
  := by
  apply h.invariant (I := fun s => s.Served p)
  · rintro _ ⟨pid, clock, names, rfl⟩
    constructor
    · rintro n start req ⟨⟩
    · intro hpid
      apply absurd rfl hpid
    · rintro serverPid ⟨⟩
  · intro s ev s' hreachable hs hkept hstep
    have hreachable := hreachable.reachable
    cases ev with
    | server ev =>
        obtain ⟨-, px, hpx, rfl⟩ := step_server hstep
        have hpid : px.pid = s.server.pid := WebsocketProxy.step_pid hpx
        constructor
        · intro n start req hcaller
          have hcaller : (s.clients p).caller = .waiting n start req := hcaller
          obtain ⟨m, hm⟩ := hs.awaits hcaller
          use m
          apply hm.server hreachable _ hstep
          rintro contents rfl
          apply hkept
          rw [awaited, hcaller]
        · intro hne
          exact (hs.serverPid hne).trans hpid.symm
        · intro serverPid hloaded
          exact (hs.loaded hloaded).trans hpid.symm
    | client q ev =>
        rcases eq_or_ne p q with rfl | hne
        · apply hs.self hreachable hstep
        · obtain ⟨-, c, published, -, rfl⟩ := step_client hstep
          have hsame : (s.updateClient q (c, published)).clients p = s.clients p :=
            Function.update_of_ne hne ..
          constructor
          · intro n start req hcaller
            rw [hsame] at hcaller
            obtain ⟨m, hm⟩ := hs.awaits hcaller
            use m
            apply hm.client
          · rw [hsame]
            exact hs.serverPid
          · rw [hsame]
            exact hs.loaded

/-- The answer a caller takes is that of its own request: the slot of the request, with the fields
of the answer filled in, and with the one status that the server stored for it. A call of
`openWebSocket` that succeeds takes the id of a connection of which the client was told. -/
theorem answer_of_request (h : system.ReachableUnder (AwaitedKept p) s) {start now : UInt64}
    {answer : Message} (hcaller : (s.clients p).caller = .waiting n start req)
    (hstep : s.step (.client p (.answer answer now)) = some s') :
  ∃ m, s.clientQueue[n]? = some m ∧ m.pid = p ∧ req.Of m.data ∧
    s.server.stores n = [answer.status] ∧ answer.pid = p ∧
    m.data.Filled s.server.pid answer.data ∧
    ∀ open', m.data = .openWs open' → answer.status = .success →
      s.server.Told p answer.wsOpen.id
  := by
  obtain ⟨hfinds, c, published, hc, rfl⟩ := step_client hstep
  obtain ⟨m, hm⟩ := (reachable_served h).awaits hcaller
  have hfinds : (awaited (s.clients p)).map s.slot = some answer := hfinds
  rw [awaited, hcaller] at hfinds
  obtain ⟨-, -, -, -, hanswer, -⟩ := (WebsocketProxyClient.perform_step hc).takes_answer
  use m, hm.published, hm.pid, hm.of
  apply hm.answer h.reachable (Option.some.inj hfinds) hanswer

/-- A client asks for a connection, which is opened. -/
def openAnswered : List Event :=
  connectOne ++ [.client 1 (.sendOpenMessage 1 100000 100000),
    Event.take { pid := 1, data := .openWs { url := [104], apiKey := [] } }] ++ Event.opened 0

/-- What the client finds then. -/
def openedAnswer : Message where
  pid := 1
  data := .openWs { url := [104], apiKey := [], id := 70001, clientPid := 1, newConnection := true }
  status := .success

theorem answer_of_request_openAnswered :
  ∃ s, system.RunUnder (AwaitedKept 1) (start 7 (fun _ => 100000) (fun _ => [])) openAnswered s ∧
    (∃ m, s.clientQueue[1]? = some m ∧ m.data.Filled s.server.pid openedAnswer.data) ∧
    s.server.stores 1 = [.success] ∧ s.server.Told 1 70001
  := by
  obtain ⟨s, hrun, hcaller, s', hstep⟩ : ∃ s, system.RunUnder (AwaitedKept 1)
        (start 7 (fun _ => 100000) (fun _ => [])) openAnswered s ∧
      (s.clients 1).caller = .waiting 1 100000 .openWs ∧
      ∃ s', s.step (.client 1 (.answer openedAnswer 100000)) = some s' := by
    have hexec : ∃ s ∈ system.execUnder (AwaitedKept 1)
        (start 7 (fun _ => 100000) (fun _ => [])) openAnswered,
        (s.clients 1).caller = .waiting 1 100000 .openWs ∧
        (s.step (.client 1 (.answer openedAnswer 100000))).isSome := by
      decide +kernel
    obtain ⟨s, hrun, hcaller, hstep⟩ := TransitionSystem.exists_runUnder hexec
    exact ⟨s, hrun, hcaller, Option.isSome_iff_exists.mp hstep⟩
  obtain ⟨m, hm, -, hof, hstores, -, hfilled, htold⟩ :=
    answer_of_request ⟨_, _, ⟨7, _, _, rfl⟩, hrun⟩ hcaller hstep
  refine ⟨s, hrun, ⟨m, hm, hfilled⟩, hstores, ?_⟩
  cases hdata : m.data with
  | openWs req => exact htold req hdata rfl
  | _ =>
      rw [hdata] at hof
      cases hof

end Session
