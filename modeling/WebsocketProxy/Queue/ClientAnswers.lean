import WebsocketProxy.Queue.ClientQueue

/-!
# Answers in the client queue

The server answers a message in the bytes that its client reserved, and the client waits there
until the status changes. If no client and no handler of the server is a round late, the sender of
a message finds the answer of the server in these bytes as long as they are not given out again,
and once there is an answer, nothing is written into them any more (`finds_answer`).
-/

namespace Message

theorem Status.ofByte_toByte (status : Status) :
  Status.ofByte status.toByte = status
  := by
  cases status with
  | pending | success | failed => rfl

/-- An answer ends behind the header. -/
theorem Data.dataOffset_le_answerEnd (data : Data) :
  dataOffset ≤ data.answerEnd
  := by
  cases data with
  | register | subscribe => apply Nat.le_add_right
  | openWs =>
      change 10 ≤ 1307
      omega
  | _ => apply Nat.le_refl

end Message

namespace WebsocketProxy

/-- The sender of the message `m`, the `k`-th that the server has taken, finds its answer in the
bytes at `a`: the status that was stored; the process id of the server, if it registers; the id of
a connection that it is told of, if it asked for one and the answer is `SUCCESS`. -/
structure AnswersAt (px : WebsocketProxy) (mem : Memory) (a k : ℕ) (m : Message) : Prop where
  pid : mem.readU64 a = m.pid
  status : Message.Status.ofByte (mem (a + Message.statusOffset))
    = (px.stores k).getLastD .pending
  serverPid : ∀ reg, m.data = .register reg →
    mem.readU64 (a + Message.dataOffset + 32) = px.pid
  told : ∀ req, m.data = .openWs req → .success ∈ px.stores k →
    px.Told m.pid (mem.readU64 (a + WsOpen.idOffset))

variable {px px' : WebsocketProxy} {mem mem' : Memory} {a k : ℕ} {m : Message}

/-- An answer that was given is found as long as its bytes are kept. -/
theorem AnswersAt.congr (h : px.AnswersAt mem a k m) (hpid : px'.pid = px.pid)
    (hstores : px'.stores k = px.stores k) (hqueue : px.serverQueue ⊆ px'.serverQueue)
    (hmem : mem.Agree mem' a m.data.answerEnd) :
  px'.AnswersAt mem' a k m
  := by
  have hend := m.data.dataOffset_le_answerEnd
  have hoffset : Message.dataOffset = 10 := rfl
  have hread : ∀ {i}, i + 8 ≤ m.data.answerEnd → mem'.readU64 (a + i) = mem.readU64 (a + i) := by
    intro i hi
    apply Memory.readU64_congr
    intro x hle hlt
    symm
    apply hmem x
    · omega
    · omega
  constructor
  · have hpid := hread (i := 0) (by omega)
    exact hpid.trans h.pid
  · have hstatus : Message.statusOffset = 9 := rfl
    rw [← hmem _ (Nat.le_add_right _ _) (by omega), hstores]
    exact h.status
  · intro reg hreg
    have hlt : Message.dataOffset + 32 + 8 ≤ m.data.answerEnd := by
      rw [hreg]
      apply Nat.le_refl
    rw [Nat.add_assoc, hread hlt, ← Nat.add_assoc, hpid]
    apply h.serverPid reg hreg
  · intro req hreq hsuccess
    rw [hstores] at hsuccess
    have hlt : WsOpen.idOffset + 8 ≤ m.data.answerEnd := by
      rw [hreq]
      change 1050 ≤ 1307
      omega
    rw [hread hlt]
    exact (h.told req hreq hsuccess).mono hqueue

/-- The answer to a message that is taken is written into its bytes. -/
theorem Holds.answersAt (h : px.Holds k m) (hread : Message.read mem a = m)
    (hpending : m.status = .pending) :
  px.AnswersAt (Message.writeAnswer mem a m (px.slots k) (px.stores k ≠ [])) a k m
  := by
  have hstatusOffset : Message.statusOffset = 9 := rfl
  have hdataOffset : Message.dataOffset = 10 := rfl
  have hheader : ∀ x < a + Message.dataOffset,
      Message.Data.writeAnswer mem a m.data (px.slots k).data x = mem x :=
    fun x hx => h.data.writeAnswer_outside (Or.inl hx)
  have hdata : ∀ x ≠ a + Message.statusOffset,
      Message.writeAnswer mem a m (px.slots k) (px.stores k ≠ []) x
        = Message.Data.writeAnswer mem a m.data (px.slots k).data x := by
    intro x hx
    rw [Message.writeAnswer]
    split
    · exact Memory.fill_outside _ (by omega)
    · rfl
  have hread64 : ∀ {i}, Message.dataOffset ≤ i →
      (Message.writeAnswer mem a m (px.slots k) (px.stores k ≠ [])).readU64 (a + i)
        = (Message.Data.writeAnswer mem a m.data (px.slots k).data).readU64 (a + i) := by
    intro i hi
    apply Memory.readU64_congr
    intro x hle _
    apply hdata x
    omega
  constructor
  · refine Eq.trans ?_ (congrArg Message.pid hread)
    apply Memory.readU64_congr
    intro x _ hlt
    rw [hdata x (by omega), hheader x (by omega)]
  · rw [← hpending, ← h.status, Message.writeAnswer]
    rcases em (px.stores k = []) with hnone | hsome
    · have hstatus := congrArg Message.status hread
      simp only [hnone, ne_eq, not_true_eq_false, decide_false, Bool.false_eq_true, if_false]
      rw [hheader _ (by omega), h.status, hnone]
      exact hstatus
    · simp only [hsome, ne_eq, not_false_eq_true, decide_true, if_true]
      rw [Memory.writeByte, Memory.fill_inside _ (Nat.le_refl _) (Nat.lt_succ_self _)]
      apply Message.Status.ofByte_toByte
  · intro reg hreg
    rw [Nat.add_assoc, hread64 (Nat.le_add_right _ _), hreg, ← Nat.add_assoc]
    have hfilled := h.data
    rw [hreg] at hfilled
    generalize (px.slots k).data = answer at hfilled
    cases hfilled with
    | register => apply Memory.readU64_writeU64
  · intro req hreq hsuccess
    rw [hread64 (by decide), hreq]
    have htold := h.told req hreq hsuccess
    rw [Message.wsOpen] at htold
    have hfilled := h.data
    rw [hreq] at hfilled
    generalize (px.slots k).data = answer at hfilled htold
    cases hfilled with
    | openWs =>
        rw [Message.Data.readU64_writeAnswer_openWs]
        exact htold

end WebsocketProxy

namespace QueuedProxy

variable {q q' : QueuedProxy} {ev : WebsocketProxy.Event} {n : ℕ} {req : Request}

/-- The process id stays, and so does what is published. -/
theorem view_step_keeps {m : Memory} {px : WebsocketProxy} (h : (q.view m).step ev = some px) :
  px.pid = q.server.pid ∧ q.server.serverQueue ⊆ px.serverQueue
  := by
  have hpid : px.pid = (q.view m).pid := WebsocketProxy.step_pid h
  obtain ⟨news, hnews⟩ := WebsocketProxy.step_serverQueue h
  use hpid
  rw [hnews]
  apply List.subset_append_left

/-- Only the end of its opening answers a request that was taken. -/
theorem view_step_stores {m : Memory} {px : WebsocketProxy} (hq : system.Reachable q)
    (h : (q.view m).step ev = some px) (hn : n < q.requests.length)
    (hanswering : q.answering ev ≠ some n) :
  px.stores n = q.server.stores n
  := by
  have hwf : q.server.WellFormed := WebsocketProxy.reachable_wellFormed (reachable_server hq)
  have hwf : (q.view m).WellFormed := hwf
  have hn : n < (q.view m).taken := hn.trans_eq (reachable_recorded hq).taken.symm
  apply WebsocketProxy.step_stores_of_lt hwf h hn
  rintro r c rfl
  exact hanswering

/-- The end of an opening that does not answer writes nothing. -/
theorem memory_of_unanswered (hstep : q.step (.server ev) = some q')
    (hanswering : q.answering ev = some n)
    (hstores : q'.server.stores n = q.server.stores n) :
  q'.queue.memory = q.queue.memory
  := by
  obtain ⟨-, hview, -, hqueue⟩ := step_server hstep
  have hentering : q.server.entering ev = none := by
    by_contra hentering
    obtain ⟨⟨r, n'⟩, hentering⟩ := Option.ne_none_iff_exists'.mp hentering
    obtain rfl := Option.some.inj (hanswering.symm.trans (answering_of_entering hentering))
    have henters := WebsocketProxy.step_enters hview hentering
    have hnew : q'.server.stores n = q.server.stores n ++ [.success] := by
      rw [henters.stores, Function.update_self]
      rfl
    rw [hstores] at hnew
    exact List.cons_ne_nil _ _ (List.self_eq_append_right.mp hnew)
  have hopened : q.opened ev = q.queue.memory := by
    simp only [opened, hentering]
  rw [hqueue, hopened]
  simp only [answered, hanswering]
  split
  · rw [if_pos hstores]
  · rfl

/-- The status of an answer is in the slot that the opening answers. -/
theorem status_of_answered (hq : system.Reachable q) (hstep : q.step (.server ev) = some q')
    (hanswering : q.answering ev = some n) (hreq : q.requests[n]? = some req)
    (hstores : q'.server.stores n ≠ q.server.stores n) :
  Message.Status.ofByte (q'.queue.memory (req.address + Message.statusOffset))
    = (q'.server.stores n).getLastD .pending
  := by
  obtain ⟨-, hview, -, hqueue⟩ := step_server hstep
  have hserver := reachable_server hq
  have hvalid := WebsocketProxy.reachable_valid hserver
  obtain ⟨⟨r, c, rfl⟩, hnone, -⟩ := open_of_answering hq hanswering
  have hslot : (q.view (q.opened (.complete r c))).slots n
      = Message.readOpen (q.opened (.complete r c)) req.address := by
    simp only [view, hreq]
  have hholds : (q.view (q.opened (.complete r c))).Holds n
      (Message.readOpen (q.opened (.complete r c)) req.address) := by
    constructor
    · rw [hslot]
    · rw [hslot]
      exact .openWs rfl (Or.inl rfl)
    · change _ = (q.server.stores n).getLastD _
      rw [hslot, hnone]
      rfl
    · intro _ _ hsuccess
      change _ ∈ q.server.stores n at hsuccess
      rw [hnone] at hsuccess
      cases hsuccess
  have hwf : q.server.WellFormed := WebsocketProxy.reachable_wellFormed hserver
  have hafter := hholds.step hwf hview (hvalid.lt_taken hanswering) (fun _ => by rintro ⟨⟩)
    fun _ _ _ => ⟨_, rfl⟩
  have hstatus : q'.queue.memory (req.address + Message.statusOffset)
      = (q'.server.slots n).status.toByte := by
    rw [hqueue]
    simp only [answered, hanswering, hreq, if_neg hstores]
    apply Memory.fill_inside _ (Nat.le_refl _) (Nat.lt_succ_self _)
  rw [hstatus, Message.Status.ofByte_toByte, hafter.status]
  rw [hnone] at hstores
  obtain ⟨status, statuses, hnew⟩ := List.exists_cons_of_ne_nil hstores
  rw [hnew, List.getLastD_cons, List.getLastD_cons]

/-- The end of an opening writes its answer into the request. -/
theorem answering_answersAt (hq : system.Reachable q) (hstep : q.step (.server ev) = some q')
    (hanswering : q.answering ev = some n) (hreq : q.requests[n]? = some req)
    (h : q.server.AnswersAt q.queue.memory req.address n req.message) :
  q'.server.AnswersAt q'.queue.memory req.address n req.message
  := by
  obtain ⟨hmessage, hview, -, hqueue⟩ := step_server hstep
  rcases em (q'.server.stores n = q.server.stores n) with hsame | hstores
  · obtain ⟨hpid, hserverQueue⟩ := view_step_keeps hview
    rw [memory_of_unanswered hstep hanswering hsame]
    exact h.congr hpid hsame hserverQueue fun x _ _ => rfl
  · obtain ⟨-, hnone, req', data, hreq', hdata⟩ := open_of_answering hq hanswering
    obtain rfl := Option.some.inj (hreq.symm.trans hreq')
    constructor
    · refine Eq.trans ?_ h.pid
      apply Memory.readU64_congr
      intro x _ hlt
      rcases q.answered_cases ev q'.server with hmem | ⟨n', req', hn, hreq', hmem⟩
      · rw [hqueue, hmem]
      · obtain rfl := Option.some.inj (hanswering.symm.trans hn)
        obtain rfl := Option.some.inj (hreq.symm.trans hreq')
        rw [hqueue]
        apply hmem x
        rw [Message.OpenAnswer]
        have hoffset : Message.statusOffset = 9 := rfl
        obtain ⟨-, -, hclientPid, -, -⟩ := WsOpen.offsets
        omega
    · exact status_of_answered hq hstep hanswering hreq hstores
    · intro reg hreg
      rw [hdata] at hreg
      cases hreg
    · intro _ _ hsuccess
      have hanswer : .success ∈ (q.view (q.opened ev)).answersIn q'.server n := by
        change _ ∈ (q'.server.stores n).drop (q.server.stores n).length
        rw [hnone]
        exact hsuccess
      rcases WebsocketProxy.success_cases hview hanswer with ⟨msg, hev, -⟩ | ⟨r, hentering⟩
      · exact absurd hev (hmessage msg)
      · obtain ⟨henters, hslot, hopened, hmemory⟩ := step_entering hentering hreq hstep
        obtain ⟨-, hid, -⟩ := memory_of_entering q.queue.memory req.address
          (q.server.sockets r).id (q.queue.memory.readU64 req.address)
        rw [← hopened, ← hmemory] at hid
        have hsender : ((q.view (q.opened ev)).slots n).pid = req.message.pid := by
          rw [hslot, hopened, ← h.pid]
          apply readU64_writeOpened
        rw [hid, ← hsender, WebsocketProxy.Told, henters.serverQueue]
        exact ⟨_, List.mem_append_right _ (List.mem_singleton_self _), rfl⟩

end QueuedProxy

namespace ClientQueue

variable {s s' : ClientQueue} {ev : Event} {k : ℕ} {req : Request}

/-- The answer to a request and its bytes are kept in a step. -/
structure Keeps (s s' : ClientQueue) (k : ℕ) (req : Request) : Prop where
  request : s'.proxy.requests[k]? = some req
  memory : s.proxy.queue.memory.Agree s'.proxy.queue.memory req.address req.range.length
  stores : s'.proxy.server.stores k = s.proxy.server.stores k
  pid : s'.proxy.server.pid = s.proxy.server.pid
  serverQueue : s.proxy.server.serverQueue ⊆ s'.proxy.server.serverQueue

/-- What is written into the bytes of another message leaves a request as it is. -/
theorem InOrder.agree_of_outside (h : s.InOrder) (hreq : s.proxy.requests[k]? = some req)
    (hlapped : ¬ s.proxy.queue.Lapped k) {j : ℕ} {r : ByteRange} {m : Memory}
    (hr : s.proxy.queue.ranges[j]? = some r) (hj : ¬ s.proxy.queue.Lapped j) (hne : k ≠ j)
    (hm : ∀ x, ¬ r.Covers queueSize x → m x = s.proxy.queue.memory x) :
  s.proxy.queue.memory.Agree m req.address req.range.length
  := by
  intro x hle hlt
  symm
  apply hm x
  apply ByteRing.not_covers_of_not_lapped (h.range_of_request hreq) hr hne hlapped hj
  exact ⟨hle, hlt⟩

/-- A message that is not lapped after a step was not before. Requests are added as messages are
taken. -/
theorem step_queue (hstep : s.step ev = some s') :
  (k < s.proxy.queue.ranges.length → ¬ s'.proxy.queue.Lapped k → ¬ s.proxy.queue.Lapped k) ∧
    ∃ news, s'.proxy.requests = s.proxy.requests ++ news ∧ (ev ≠ .take → news = [])
  := by
  have hmemory : ∀ (proxy : QueuedProxy) (m : Memory),
      proxy.queue = { s.proxy.queue with memory := m } →
      ¬ proxy.queue.Lapped k → ¬ s.proxy.queue.Lapped k := by
    intro proxy m hqueue hlapped
    rw [hqueue] at hlapped
    exact hlapped
  cases ev with
  | reserve c msg =>
      obtain ⟨stores, -, hstep⟩ := Option.bind_eq_some_iff.mp hstep
      obtain ⟨proxy, hproxy, rfl⟩ := Option.map_eq_some_iff.mp hstep
      simp only [QueuedProxy.step] at hproxy
      split at hproxy
      case isTrue hsize =>
        obtain rfl := Option.some.inj hproxy
        refine ⟨fun hk hlapped => ByteRing.not_lapped_of_reserve hsize hlapped hk, ?_⟩
        exact ⟨[], (List.append_nil _).symm, fun _ => rfl⟩
      case isFalse => cases hproxy
  | store j =>
      simp only [step] at hstep
      split at hstep
      case h_1 =>
        obtain rfl := Option.some.inj hstep
        exact ⟨fun _ hlapped => hlapped, [], (List.append_nil _).symm, fun _ => rfl⟩
      case h_2 => cases hstep
  | publish j =>
      simp only [step] at hstep
      split at hstep
      case isTrue =>
        obtain rfl := Option.some.inj hstep
        exact ⟨fun _ hlapped => hlapped, [], (List.append_nil _).symm, fun _ => rfl⟩
      case isFalse => cases hstep
  | take =>
      simp only [step] at hstep
      split at hstep
      case isTrue =>
        obtain ⟨proxy, hproxy, rfl⟩ := Option.map_eq_some_iff.mp hstep
        obtain ⟨_, req, -, -, -, -, hrequests, hqueue⟩ := QueuedProxy.step_take hproxy
        exact ⟨fun _ => hmemory proxy _ hqueue, [req], hrequests, fun hne => absurd rfl hne⟩
      case isFalse => cases hstep
  | server ev =>
      obtain ⟨proxy, hproxy, rfl⟩ := Option.map_eq_some_iff.mp hstep
      obtain ⟨-, -, hrequests, hqueue⟩ := QueuedProxy.step_server hproxy
      refine ⟨fun _ => hmemory proxy _ hqueue, [], ?_, fun _ => rfl⟩
      rw [List.append_nil]
      exact hrequests

/-- In a step in time, a request that is not lapped is kept, unless its own opening ends. -/
theorem InOrder.keeps (h : s.InOrder) (hintime : s.InTime ev) (hstep : s.step ev = some s')
    (hreq : s.proxy.requests[k]? = some req) (hlapped : ¬ s.proxy.queue.Lapped k)
    (hanswering : ∀ ev', ev = .server ev' → s.proxy.answering ev' ≠ some k) :
  s.Keeps s' k req
  := by
  have hk : k < s.taken := (List.getElem?_eq_some_iff.mp hreq).1
  have hsame : ∀ s' : ClientQueue, s'.proxy.requests = s.proxy.requests →
      s'.proxy.server = s.proxy.server →
      s.proxy.queue.memory.Agree s'.proxy.queue.memory req.address req.range.length →
      s.Keeps s' k req := by
    intro s' hrequests hserver hmemory
    constructor
    · rw [hrequests, hreq]
    · exact hmemory
    · rw [hserver]
    · rw [hserver]
    · rw [hserver]
      exact List.Subset.refl _
  cases ev with
  | reserve c msg =>
      obtain ⟨stores, -, hstep⟩ := Option.bind_eq_some_iff.mp hstep
      obtain ⟨proxy, hproxy, rfl⟩ := Option.map_eq_some_iff.mp hstep
      simp only [QueuedProxy.step] at hproxy
      split at hproxy
      case isTrue =>
        obtain rfl := Option.some.inj hproxy
        exact hsame _ rfl rfl fun x _ _ => rfl
      case isFalse => cases hproxy
  | store j =>
      simp only [step] at hstep
      split at hstep
      case h_1 st stores hleft =>
        obtain rfl := Option.some.inj hstep
        obtain ⟨made, hsound, hwrites⟩ := h.writes
        -- the stores of a message that was taken are made
        have hne : k ≠ j := by
          rintro rfl
          obtain ⟨c, msg, hsends⟩ := hwrites k _ (h.range_of_request hreq)
          rw [hsends.done (h.published k hk)] at hleft
          cases hleft
        have hr := List.getElem?_eq_getElem (hsound.lt_of_left hleft)
        have hst : st ∈ s.left j := by
          rw [hleft]
          apply List.mem_cons_self
        have hmemory : s.proxy.queue.memory.Agree (s.proxy.queue.memory.store st) req.address
            req.range.length := by
          apply h.agree_of_outside hreq hlapped hr hintime hne
          intro x hx
          apply Memory.store_outside
          exact fun hcovers => hx (hsound.within j _ hr st hst x hcovers)
        exact hsame _ rfl rfl hmemory
      case h_2 => cases hstep
  | publish j =>
      simp only [step] at hstep
      split at hstep
      case isTrue =>
        obtain rfl := Option.some.inj hstep
        exact hsame _ rfl rfl fun x _ _ => rfl
      case isFalse => cases hstep
  | take =>
      obtain ⟨-, proxy, rfl, -, r, req', htakes⟩ := h.takes hstep hintime
      obtain ⟨hpid, hqueue⟩ := QueuedProxy.view_step_keeps htakes.server
      constructor
      · change proxy.requests[k]? = some req
        rw [htakes.requests, List.getElem?_append_left hk, hreq]
      · exact h.agree_of_outside hreq hlapped htakes.range hintime hk.ne htakes.outside
      · apply QueuedProxy.view_step_stores h.proxy htakes.server hk
        rintro ⟨⟩
      · exact hpid
      · exact hqueue
  | server ev =>
      obtain ⟨proxy, hproxy, rfl⟩ := Option.map_eq_some_iff.mp hstep
      obtain ⟨-, hview, hrequests, hqueue⟩ := QueuedProxy.step_server hproxy
      obtain ⟨hpid, hserverQueue⟩ := QueuedProxy.view_step_keeps hview
      constructor
      · change proxy.requests[k]? = some req
        rw [hrequests, hreq]
      · change s.proxy.queue.memory.Agree proxy.queue.memory req.address req.range.length
        rw [hqueue]
        rcases s.proxy.answered_cases ev proxy.server with hm | ⟨n, req', hn, hreq', hm⟩
        · exact fun x _ _ => congrFun hm.symm x
        · have hne : k ≠ n := by
            rintro rfl
            exact hanswering ev rfl hn
          apply h.agree_of_outside hreq hlapped (h.range_of_request hreq') (hintime n hn) hne
          intro x hx
          apply hm x
          intro hanswer
          apply hx
          exact QueuedProxy.covers_answer (h.length_of_answering hn hreq') hanswer
      · exact QueuedProxy.view_step_stores h.proxy hview hk (hanswering ev rfl)
      · exact hpid
      · exact hserverQueue

/-- The sender of a request finds its answer. -/
def Finds (s : ClientQueue) (k : ℕ) (req : Request) : Prop :=
  s.proxy.server.AnswersAt s.proxy.queue.memory req.address k req.message

/-- A step keeps that the senders of requests find their answers. -/
theorem InOrder.finds (h : s.InOrder) (hintime : s.InTime ev) (hstep : s.step ev = some s')
    (hfinds : ∀ k req, s.proxy.requests[k]? = some req → ¬ s.proxy.queue.Lapped k →
      req.message.data.Answered → s.Finds k req)
    (hreq : s'.proxy.requests[k]? = some req) (hlapped : ¬ s'.proxy.queue.Lapped k)
    (hanswered : req.message.data.Answered) :
  s'.Finds k req
  := by
  obtain ⟨hlappedBefore, news, hrequests, hnews⟩ := step_queue (k := k) hstep
  rcases Nat.lt_or_ge k s.taken with hk | hk
  · obtain ⟨req', hreq'⟩ : ∃ req', s.proxy.requests[k]? = some req' :=
      ⟨_, List.getElem?_eq_getElem hk⟩
    have hbefore := hlappedBefore (hk.trans_le h.taken_le) hlapped
    rcases em (∃ ev', ev = .server ev' ∧ s.proxy.answering ev' = some k) with
      ⟨ev', rfl, hanswering⟩ | hnot
    · obtain ⟨proxy, hproxy, rfl⟩ := Option.map_eq_some_iff.mp hstep
      rw [hrequests, List.getElem?_append_left hk] at hreq
      exact QueuedProxy.answering_answersAt h.proxy hproxy hanswering hreq
        (hfinds k req hreq hbefore hanswered)
    · have hkeeps := h.keeps hintime hstep hreq' hbefore
        fun ev' hev hanswering => hnot ⟨ev', hev, hanswering⟩
      obtain rfl := Option.some.inj (hreq.symm.trans hkeeps.request)
      obtain ⟨c, msg, -, hmessage, hlength⟩ := h.message_of_request hreq'
      have hend : req.message.data.answerEnd ≤ req.range.length := by
        rw [hmessage, hlength]
        exact msg.answerEnd_le c
      apply (hfinds k req hreq' hbefore hanswered).congr hkeeps.pid hkeeps.stores hkeeps.serverQueue
      exact fun x hle hlt => hkeeps.memory x hle (by omega)
  · -- the request that is taken
    rcases eq_or_ne ev .take with rfl | hne
    · have hafter := h.take hstep hintime
      obtain ⟨c, msg, -, hmessage, -⟩ := hafter.message_of_request hreq
      have hpending : req.message.status = .pending := by
        rw [hmessage]
        rfl
      have hrange := hafter.range_of_request hreq
      obtain ⟨-, proxy, rfl, -, r, req', htakes⟩ := h.takes hstep hintime
      change proxy.requests[k]? = some req at hreq
      change proxy.queue.ranges[k]? = some req.range at hrange
      have hk : k = s.taken := by
        obtain ⟨hlt, -⟩ := List.getElem?_eq_some_iff.mp hreq
        rw [htakes.requests, List.length_append, List.length_singleton] at hlt
        exact (Nat.le_of_lt_succ hlt).antisymm hk
      subst hk
      rw [htakes.requests, taken, List.getElem?_concat_length] at hreq
      obtain rfl := Option.some.inj hreq
      rw [htakes.queue] at hrange
      obtain rfl := Option.some.inj (htakes.range.symm.trans hrange)
      have hholds := QueuedProxy.take_filled h.proxy htakes.server hanswered
      rw [(QueuedProxy.reachable_recorded h.proxy).taken] at hholds
      have hanswers := hholds.answersAt htakes.read hpending
      change proxy.server.AnswersAt proxy.queue.memory _ _ _
      rw [htakes.queue]
      exact hanswers
    · obtain ⟨hlt, -⟩ := List.getElem?_eq_some_iff.mp hreq
      rw [hrequests, hnews hne, List.append_nil] at hlt
      exact absurd hlt (Nat.not_lt_of_le hk)

/-- The senders of requests find their answers in every run in which nobody is late. -/
theorem reachable_finds (h : system.ReachableUnder InTime s)
    (hreq : s.proxy.requests[k]? = some req) (hlapped : ¬ s.proxy.queue.Lapped k)
    (hanswered : req.message.data.Answered) :
  s.Finds k req
  := by
  have hfinds : ∀ k req, s.proxy.requests[k]? = some req → ¬ s.proxy.queue.Lapped k →
      req.message.data.Answered → s.Finds k req := by
    apply h.invariant (I := fun s => ∀ k req, s.proxy.requests[k]? = some req →
      ¬ s.proxy.queue.Lapped k → req.message.data.Answered → s.Finds k req)
    · rintro _ ⟨pid, clock, rfl⟩ k req ⟨⟩
    · intro s ev s' hreachable hfinds hintime hstep k req hreq hlapped hanswered
      exact (reachable_inOrder hreachable).finds hintime hstep hfinds hreq hlapped hanswered
  exact hfinds k req hreq hlapped hanswered

theorem Keeps.trans {t : ClientQueue} (h : s.Keeps s' k req) (h' : s'.Keeps t k req) :
  s.Keeps t k req
  := by
  constructor
  · exact h'.request
  · exact fun x hle hlt => (h.memory x hle hlt).trans (h'.memory x hle hlt)
  · exact h'.stores.trans h.stores
  · exact h'.pid.trans h.pid
  · exact List.Subset.trans h.serverQueue h'.serverQueue

/-- A request that is answered is kept until it is lapped. -/
theorem answer_kept (h : system.ReachableUnder InTime s) {es : List Event} {t : ClientQueue}
    (hrun : system.RunUnder InTime s es t) (hreq : s.proxy.requests[k]? = some req)
    (hstores : s.proxy.server.stores k ≠ []) :
  t.proxy.requests[k]? = some req ∧ (¬ t.proxy.queue.Lapped k → s.Keeps t k req)
  := by
  obtain ⟨s₀, es₀, h₀, hrun₀⟩ := h
  induction hrun with
  | nil => exact ⟨hreq, fun _ => ⟨hreq, fun _ _ _ => rfl, rfl, rfl, List.Subset.refl _⟩⟩
  | @snoc es t ev u hrun hintime hstep ih =>
      obtain ⟨hreq, hkeeps⟩ := ih
      have horder := reachable_inOrder ⟨s₀, _, h₀, hrun₀.append hrun⟩
      obtain ⟨hlappedBefore, news, hrequests, -⟩ := step_queue (k := k) hstep
      have hk := (List.getElem?_eq_some_iff.mp hreq).1
      constructor
      · rw [hrequests, List.getElem?_append_left hk, hreq]
      · intro hlapped
        have hlapped := hlappedBefore (hk.trans_le horder.taken_le) hlapped
        have hkeeps := hkeeps hlapped
        apply hkeeps.trans
        apply horder.keeps hintime hstep hreq hlapped
        rintro ev' rfl hanswering
        obtain ⟨-, hnone, -⟩ := QueuedProxy.open_of_answering horder.proxy hanswering
        exact hstores (hkeeps.stores.symm.trans hnone)

/-- In every run of the clients and the server over the client queue in which nobody is a round
late: as long as its bytes are not lapped, the sender of a message that was taken finds there the
status that the server has stored, and what it was answered; and once a status is stored, the
bytes of the message stay as they are. -/
theorem finds_answer (h : system.ReachableUnder InTime s) (hk : k < s.taken) {r : ByteRange}
    {m : Message} (hr : s.proxy.queue.ranges[k]? = some r) (hm : s.sent[k]? = some m)
    (hanswered : m.data.Answered) (hlapped : ¬ s.proxy.queue.Lapped k) :
  s.proxy.server.AnswersAt s.proxy.queue.memory (r.address queueSize) k m ∧
  (s.proxy.server.stores k ≠ [] → ∀ es t, system.RunUnder InTime s es t →
    ¬ t.proxy.queue.Lapped k →
    s.proxy.queue.memory.Agree t.proxy.queue.memory (r.address queueSize) r.length)
  := by
  have horder := reachable_inOrder h
  have hreq : s.proxy.requests[k]? = some s.proxy.requests[k] := List.getElem?_eq_getElem hk
  obtain ⟨c, msg, hsent, hmessage, -⟩ := horder.message_of_request hreq
  obtain rfl := Option.some.inj (hm.symm.trans (hsent.trans (congrArg some hmessage.symm)))
  obtain rfl := Option.some.inj (hr.symm.trans (horder.range_of_request hreq))
  constructor
  · exact reachable_finds h hreq hlapped hanswered
  · intro hstores es t hrun hlapped
    exact ((answer_kept h hrun hreq hstores).2 hlapped).memory

/-- The connection that the first client asked for is opened while the second writes. -/
def openTogether : List Event :=
  writeTogether ++ List.replicate 4 (.server (QueuedProxy.resumed 0))

/-- The first client finds the answer to its third message. -/
theorem finds_answer_openTogether :
  ∃ (s : ClientQueue) (r : ByteRange) (m : Message), system.ReachableUnder InTime s ∧
    s.proxy.queue.ranges[2]? = some r ∧ s.sent[2]? = some m ∧
    s.proxy.server.stores 2 = [.success] ∧
    s.proxy.server.AnswersAt s.proxy.queue.memory (r.address queueSize) 2 m ∧
    ∀ es t, system.RunUnder InTime s es t → ¬ t.proxy.queue.Lapped 2 →
      s.proxy.queue.memory.Agree t.proxy.queue.memory (r.address queueSize) r.length
  := by
  have hexec : ∃ s ∈ system.execUnder InTime (start 7 fun _ => 1) openTogether,
      2 < s.taken ∧ s.proxy.server.stores 2 = [.success] ∧ ¬ s.proxy.queue.Lapped 2 ∧
      s.proxy.queue.ranges[2]? = some ⟨612, 1307⟩ ∧ s.sent[2]? = some
        { pid := 1, data := .openWs { url := [104], apiKey := [] } } := by
    decide +kernel
  obtain ⟨s, hrun, htaken, hstores, hlapped, hr, hm⟩ := TransitionSystem.exists_runUnder hexec
  have hs : system.ReachableUnder InTime s := ⟨_, _, ⟨7, _, rfl⟩, hrun⟩
  obtain ⟨hanswers, hkept⟩ := finds_answer hs htaken hr hm trivial hlapped
  refine ⟨s, _, _, hs, hr, hm, hstores, hanswers, ?_⟩
  apply hkept
  rw [hstores]
  apply List.cons_ne_nil

end ClientQueue
