import WebsocketProxy.Library.StoreRing
import WebsocketProxy.Queue.ClientMessages

/-!
# Clients that share the client queue

`ClientQueue` is the server over the bytes of its client queue, with the clients that write into
it. A client reserves bytes, makes its stores one after the other, and publishes the message;
other clients do the same at the same time, and the server answers in the bytes of messages it
has taken. The server takes the messages in the order in which their bytes were reserved, each as
soon as it is published.

If no client and no handler of the server is a round late, the server handles exactly the messages
that the clients send (`handles_sent`).
-/

/-! ### The messages of the server -/

namespace WebsocketProxy

/-- A run takes as many messages as it counts. -/
theorem run_taken {px px' : WebsocketProxy} {es : List Event} (h : system.Run px es px') :
  px'.taken = px.taken + (messages es).length
  := by
  induction h with
  | nil => rfl
  | snoc _ _ hstep ih =>
      rw [step_taken hstep, ih, messages_snoc, List.length_append, Nat.add_assoc]

end WebsocketProxy

namespace QueuedProxy

variable {q q' : QueuedProxy}

/-- The server over its queue is the server that handles the messages as they were taken. -/
theorem reachable_messages (h : system.Reachable q) :
  ∃ px es, WebsocketProxy.system.initial px ∧ WebsocketProxy.system.Run px es q.server ∧
    WebsocketProxy.messages es = q.requests.map Request.message
  := by
  apply h.invariant (I := fun q => ∃ px es, WebsocketProxy.system.initial px ∧
    WebsocketProxy.system.Run px es q.server ∧
    WebsocketProxy.messages es = q.requests.map Request.message)
  · rintro _ ⟨pid, clock, rfl⟩
    exact ⟨_, [], ⟨pid, clock, rfl⟩, .nil, rfl⟩
  · rintro q e q' _ ⟨px, es, hinitial, hrun, hmessages⟩ _ hstep
    have hview : ∀ {m ev}, (q.view m).step ev = some q'.server →
        ∃ es', WebsocketProxy.system.Run px es' q'.server ∧
          WebsocketProxy.messages es' = q.requests.map Request.message ++ ev.taken.toList := by
      intro m ev hev
      have hrunning : (q.view m).stopped = false := WebsocketProxy.not_stopped_of_step hev
      obtain ⟨reused, hreused⟩ := q.view_run m hrunning
      have hnone : WebsocketProxy.messages reused = [] := by
        apply List.eq_nil_of_length_eq_zero
        have htaken := WebsocketProxy.run_taken hreused
        change q.server.taken = _ at htaken
        omega
      refine ⟨es ++ reused ++ [ev], (hrun.append hreused).snoc trivial hev, ?_⟩
      rw [WebsocketProxy.messages_snoc, WebsocketProxy.messages, List.filterMap_append]
      change WebsocketProxy.messages es ++ WebsocketProxy.messages reused ++ _ = _
      rw [hnone, hmessages, List.append_nil]
    rcases step_cases hstep with ⟨hserver, hrequests⟩ | ⟨req, htake, hrequests⟩ |
      ⟨ev, m, hmessage, hev, hrequests⟩
    · rw [hserver, hrequests]
      exact ⟨px, es, hinitial, hrun, hmessages⟩
    · obtain ⟨es', hrun', hmessages'⟩ := hview htake
      refine ⟨px, es', hinitial, hrun', ?_⟩
      rw [hmessages', hrequests, List.map_append]
      rfl
    · obtain ⟨es', hrun', hmessages'⟩ := hview hev
      refine ⟨px, es', hinitial, hrun', ?_⟩
      rw [hmessages', hrequests, WebsocketProxy.taken_eq_none hmessage]
      apply List.append_nil

/-- A store into the bytes of a message writes them. -/
theorem reachable_store (h : system.Reachable q) {k : ℕ} {r : ByteRange} {s : Store}
    (hr : q.queue.ranges[k]? = some r) (hs : s.Within (r.address queueSize) r.length) :
  system.Reachable { q with queue := { q.queue with memory := q.queue.memory.store s } }
  := by
  have hstep : q.step (.write k fun i => q.queue.memory.store s (r.address queueSize + i))
      = some { q with queue := { q.queue with memory := q.queue.memory.store s } } := by
    simp only [step, hr, Option.map_some, ByteRing.write_store q.queue hs]
  exact h.step (e := Event.write k _) trivial hstep

/-- What taking a message does. -/
theorem step_take {k : ℕ} (h : q.step (.take k) = some q') :
  ∃ r req, q.queue.ranges[k]? = some r ∧ req.slot = k ∧
    req.message = Message.read q.queue.memory (r.address queueSize) ∧
    (q.view q.queue.memory).step (.processClientMessage (some req.message)) = some q'.server ∧
    q'.requests = q.requests ++ [req] ∧
    q'.queue = { q.queue with
      memory := Message.writeAnswer q.queue.memory (r.address queueSize) req.message
        (q'.server.slots q.server.taken)
        (q'.server.stores q.server.taken ≠ q.server.stores q.server.taken) }
  := by
  simp only [step] at h
  split at h
  case isTrue hslot =>
    obtain ⟨px, hpx, rfl⟩ := Option.map_eq_some_iff.mp h
    let r := q.queue.ranges[k]
    refine ⟨r, ⟨k, r, Message.read q.queue.memory (r.address queueSize)⟩,
      List.getElem?_eq_getElem hslot, rfl, rfl, hpx, rfl, ?_⟩
    simp only [ne_eq]
    rfl
  case isFalse => cases h

/-- The request that is taken is answered by the fields of an answer. -/
theorem take_filled (hq : system.Reachable q) {m : Memory} {msg : Message} {px : WebsocketProxy}
    (h : (q.view m).step (.processClientMessage (some msg)) = some px)
    (hanswered : msg.data.Answered) :
  px.Holds q.server.taken msg
  := by
  have hvalid := WebsocketProxy.reachable_valid (reachable_server hq)
  have hfresh : (q.view m).stores (q.view m).taken = [] := hvalid.fresh (Nat.le_refl _)
  have hholds : px.Holds (q.view m).taken msg :=
    WebsocketProxy.message_holds h hanswered hfresh
  exact hholds

/-- What another handler of the server does. -/
theorem step_server {ev : WebsocketProxy.Event} (h : q.step (.server ev) = some q') :
  (∀ msg, ev ≠ .processClientMessage (some msg)) ∧
    (q.view (q.opened ev)).step ev = some q'.server ∧ q'.requests = q.requests ∧
    q'.queue = { q.queue with memory := q.answered ev (q.opened ev) q'.server }
  := by
  simp only [step, runServer] at h
  split at h
  case h_1 => cases h
  case h_2 => cases h
  case h_3 hmessage _ =>
    obtain ⟨px, hpx, rfl⟩ := Option.map_eq_some_iff.mp h
    exact ⟨hmessage, hpx, rfl, rfl⟩

/-- The message that an opening enters its connection for is the one it answers. -/
theorem answering_of_entering {ev : WebsocketProxy.Event} {r n : ℕ}
    (h : q.server.entering ev = some (r, n)) :
  q.answering ev = some n
  := by
  obtain ⟨⟨port, rfl⟩, hopening⟩ := WebsocketProxy.entering_eq_some h
  simp only [answering, hopening, Option.map_some]

/-- An opening answers a request for a connection that has no answer yet. -/
theorem open_of_answering (hq : system.Reachable q) {ev : WebsocketProxy.Event} {n : ℕ}
    (hanswering : q.answering ev = some n) :
  (∃ r c, ev = .complete r c) ∧ q.server.stores n = [] ∧
    ∃ req data, q.requests[n]? = some req ∧ req.message.data = .openWs data
  := by
  obtain ⟨r, c, rfl⟩ : ∃ r c, ev = .complete r c := by
    cases ev with
    | complete r c => exact ⟨r, c, rfl⟩
    | _ => cases hanswering
  have hvalid := WebsocketProxy.reachable_valid (reachable_server hq)
  obtain ⟨⟨stage, _⟩, hopening, hn⟩ := Option.map_eq_some_iff.mp hanswering
  obtain ⟨req, data, hreq, hdata, -⟩ := (reachable_recorded hq).opening hopening
  refine ⟨⟨r, c, rfl⟩, hvalid.unanswered hanswering, req, data, ?_, hdata⟩
  rw [← hn, hreq]

/-- An opening writes the fields of the answer of its request. -/
theorem opened_cases (q : QueuedProxy) (ev : WebsocketProxy.Event) :
  q.opened ev = q.queue.memory ∨ ∃ n req, q.answering ev = some n ∧
    q.requests[n]? = some req ∧
    ∀ x, ¬ Message.OpenAnswer req.address x → q.opened ev x = q.queue.memory x
  := by
  cases hsome : q.server.entering ev with
  | none =>
      left
      simp only [opened, hsome]
  | some entry =>
      obtain ⟨r, n⟩ := entry
      cases hreq : q.requests[n]? with
      | none =>
          left
          simp only [opened, hsome, hreq]
      | some req =>
          refine Or.inr ⟨n, req, answering_of_entering hsome, hreq, ?_⟩
          intro x hx
          rw [Message.OpenAnswer] at hx
          simp only [opened, hsome, hreq]
          exact Message.writeOpened_outside _ _ (by omega)

/-- What the server writes in a handler other than one that takes a message is the answer to an
opening. -/
theorem answered_cases (q : QueuedProxy) (ev : WebsocketProxy.Event) (px : WebsocketProxy) :
  q.answered ev (q.opened ev) px = q.queue.memory ∨ ∃ n req, q.answering ev = some n ∧
    q.requests[n]? = some req ∧ ∀ x, ¬ Message.OpenAnswer req.address x →
      q.answered ev (q.opened ev) px x = q.queue.memory x
  := by
  have hopened := q.opened_cases ev
  cases hanswering : q.answering ev with
  | none =>
      simp only [answered, hanswering]
      rw [hanswering] at hopened
      exact hopened
  | some n =>
      rw [hanswering] at hopened
      cases hreq : q.requests[n]? with
      | none =>
          simp only [answered, hanswering, hreq]
          exact hopened
      | some req =>
          refine Or.inr ⟨n, req, rfl, hreq, ?_⟩
          intro x hx
          have hbefore : q.opened ev x = q.queue.memory x := by
            rcases hopened with hsame | ⟨n', req', hn, hreq', hsame⟩
            · rw [hsame]
            · obtain rfl := Option.some.inj hn
              obtain rfl := Option.some.inj (hreq.symm.trans hreq')
              exact hsame x hx
          rw [Message.OpenAnswer] at hx
          simp only [answered, hanswering, hreq]
          split
          · exact hbefore
          · exact (Memory.fill_outside _ (by omega)).trans hbefore

end QueuedProxy

/-! ### The clients and the server -/

/-- The server over its client queue, and the clients that write into the queue. -/
structure ClientQueue where
  proxy : QueuedProxy
  /-- The stores that are still to be made into a message. -/
  left : ℕ → List Store := fun _ => []
  /-- Whether a message is published. -/
  published : ℕ → Bool := fun _ => false
  /-- The messages that bytes were reserved for, in their order. -/
  sent : List Message := []

namespace ClientQueue

/-- What happens to the queue. -/
inductive Event where
  /-- A client reserves bytes for a message. -/
  | reserve (c : WebsocketProxyClient) (msg : ClientMessage)
  /-- The next of the stores into a message is made. -/
  | store (k : ℕ)
  /-- A message is published. -/
  | publish (k : ℕ)
  /-- The server takes the next message and handles it. -/
  | take
  /-- Another handler of the server runs. -/
  | server (ev : WebsocketProxy.Event)

/-- The number of messages that the server has taken. -/
def taken (s : ClientQueue) : ℕ := s.proxy.requests.length

/-- The queue after an event. -/
def step (s : ClientQueue) : Event → Option ClientQueue
  | .reserve c msg =>
      let n := msg.size.toNat
      (msg.stores c ((s.proxy.queue.next n).address queueSize)).bind fun stores =>
        (s.proxy.step (.reserve n)).map fun proxy => { s with
          proxy
          left := Function.update s.left s.proxy.queue.ranges.length stores
          sent := s.sent ++ [msg.message c] }
  | .store k =>
      match s.left k with
      | st :: stores => some { s with
          proxy := { s.proxy with
            queue := { s.proxy.queue with memory := s.proxy.queue.memory.store st } }
          left := Function.update s.left k stores }
      | [] => none
  | .publish k =>
      if k < s.proxy.queue.ranges.length ∧ s.left k = [] then
        some { s with published := Function.update s.published k true }
      else none
  | .take =>
      if s.published s.taken then
        (s.proxy.step (.take s.taken)).map fun proxy => { s with proxy }
      else none
  | .server ev => (s.proxy.step (.server ev)).map fun proxy => { s with proxy }

/-- The server when it enters its loop, with a new queue. -/
def start (pid : UInt64) (clock : ℕ → UInt64) : ClientQueue where
  proxy := QueuedProxy.start pid clock

/-- The queue as a transition system. -/
def system : TransitionSystem ClientQueue Event where
  initial s := ∃ pid clock, s = start pid clock
  step := step

/-- The arguments of clients fit in their messages, and nobody is a round late: no bytes are
written or read as those of a message that may have been given out again. -/
def InTime (s : ClientQueue) : Event → Prop
  | .reserve _ msg => msg.Fits ∧ msg.extent < 2 ^ 32
  | .store k => ¬ s.proxy.queue.Lapped k
  | .publish _ => True
  | .take => ¬ s.proxy.queue.Lapped s.taken
  | .server ev => ∀ n ∈ s.proxy.answering ev, ¬ s.proxy.queue.Lapped n

instance (s : ClientQueue) (ev : Event) : Decidable (s.InTime ev) :=
  match ev with
  | .reserve _ _ => inferInstanceAs (Decidable (_ ∧ _))
  | .store _ | .take => inferInstanceAs (Decidable (¬ _))
  | .publish _ => inferInstanceAs (Decidable True)
  | .server _ => Option.decidableForallMem _

/-- What is read as the `k`-th message. -/
def read (s : ClientQueue) (k : ℕ) : Option Message :=
  s.proxy.queue.ranges[k]?.map fun r => Message.read s.proxy.queue.memory (r.address queueSize)

/-! ### The stores of the clients -/

/-- The ring of the queue, with the stores made into its messages. -/
def ring (s : ClientQueue) (made : ℕ → List Store) : StoreRing queueSize :=
  { s.proxy.queue with made, left := s.left }

/-- The message at `r` is the `k`-th that was sent, and until the server takes it, its stores are
those that are made and those that are left. -/
structure Sends (s : ClientQueue) (made : ℕ → List Store) (k : ℕ) (r : ByteRange)
    (c : WebsocketProxyClient) (msg : ClientMessage) : Prop where
  sent : s.sent[k]? = some (msg.message c)
  length : r.length = msg.size.toNat
  fits : msg.Fits
  whole : msg.extent < 2 ^ 32
  stores : s.taken ≤ k → msg.stores c (r.address queueSize) = some (made k ++ s.left k)
  done : s.published k → s.left k = []

/-- The clients write their messages. -/
def Writes (s : ClientQueue) : Prop :=
  ∃ made, (s.ring made).Sound ∧
    ∀ k, ∀ r ∈ s.proxy.queue.ranges[k]?, ∃ c msg, s.Sends made k r c msg

/-- Clients write their messages, and the server takes those that are published in their order. -/
structure InOrder (s : ClientQueue) : Prop where
  proxy : QueuedProxy.system.Reachable s.proxy
  slots : ∀ {n : ℕ} {req : Request}, s.proxy.requests[n]? = some req → req.slot = n
  received : s.proxy.requests.map Request.message = s.sent.take s.taken
  taken_le : s.taken ≤ s.proxy.queue.ranges.length
  sent_length : s.sent.length = s.proxy.queue.ranges.length
  published : ∀ k < s.taken, s.published k
  published_lt : ∀ {k}, s.published k → k < s.proxy.queue.ranges.length
  writes : s.Writes

variable {s s' : ClientQueue}

theorem start_inOrder (pid : UInt64) (clock : ℕ → UInt64) :
  (start pid clock).InOrder
  := by
  constructor
  · exact .initial ⟨pid, clock, rfl⟩
  · rintro n req ⟨⟩
  · rfl
  · apply Nat.le_refl
  · rfl
  · intro k hk
    exact absurd hk (Nat.not_lt_zero k)
  · rintro k ⟨⟩
  · refine ⟨fun _ => [], .of_ranges rfl (fun _ => rfl) fun _ => rfl, ?_⟩
    rintro k r ⟨⟩

/-- Bytes are reserved for a message. -/
theorem InOrder.reserve {c : WebsocketProxyClient} {msg : ClientMessage} (h : s.InOrder)
    (hstep : s.step (.reserve c msg) = some s') (hfits : msg.Fits) (hwhole : msg.extent < 2 ^ 32) :
  s'.InOrder
  := by
  obtain ⟨stores, hstores, hstep⟩ := Option.bind_eq_some_iff.mp hstep
  obtain ⟨proxy, hproxy, rfl⟩ := Option.map_eq_some_iff.mp hstep
  have hreachable := h.proxy.step (e := QueuedProxy.Event.reserve _) trivial hproxy
  simp only [QueuedProxy.step] at hproxy
  split at hproxy
  case isFalse => cases hproxy
  case isTrue hsize =>
    obtain rfl := Option.some.inj hproxy
    have hlength : (s.proxy.queue.ranges ++ [s.proxy.queue.next msg.size.toNat]).length
        = s.proxy.queue.ranges.length + 1 := List.length_append
    obtain ⟨made, hsound, hwrites⟩ := h.writes
    constructor
    · exact hreachable
    · exact h.slots
    · apply h.received.trans
      have hle : s.taken ≤ s.sent.length := h.sent_length ▸ h.taken_le
      exact (List.take_append_of_le_length hle).symm
    · exact hlength ▸ h.taken_le.trans (Nat.le_succ _)
    · change (s.sent ++ [_]).length = (s.proxy.queue.ranges ++ [_]).length
      rw [hlength, List.length_append, h.sent_length]
      rfl
    · exact h.published
    · exact fun hk => hlength ▸ (h.published_lt hk).trans (Nat.lt_succ_self _)
    · refine ⟨made, ?_, ?_⟩
      · apply hsound.reserve hsize
        exact (ClientMessage.stores_lay hstores hfits hwhole).all_within
      · intro k r hr
        change (s.proxy.queue.ranges ++ [s.proxy.queue.next msg.size.toNat])[k]? = some r at hr
        rcases Nat.lt_trichotomy k s.proxy.queue.ranges.length with hlt | rfl | hgt
        · rw [List.getElem?_append_left hlt] at hr
          obtain ⟨c', msg', hsends⟩ := hwrites k r hr
          have hleft : Function.update s.left s.proxy.queue.ranges.length stores k = s.left k :=
            Function.update_of_ne hlt.ne ..
          refine ⟨c', msg', ?_, hsends.length, hsends.fits, hsends.whole, ?_, ?_⟩
          · exact (List.getElem?_append_left (h.sent_length ▸ hlt)).trans hsends.sent
          · intro hk
            exact (hsends.stores hk).trans (congrArg _ (congrArg _ hleft.symm))
          · exact fun hk => hleft.trans (hsends.done hk)
        · rw [List.getElem?_concat_length] at hr
          obtain rfl := Option.some.inj hr
          refine ⟨c, msg, ?_, rfl, hfits, hwhole, ?_, ?_⟩
          · rw [← h.sent_length]
            exact List.getElem?_concat_length
          · intro _
            have hmade : made s.proxy.queue.ranges.length = [] := hsound.unmade _ (Nat.le_refl _)
            rw [hmade, List.nil_append]
            have hleft : Function.update s.left s.proxy.queue.ranges.length stores
                s.proxy.queue.ranges.length = stores := Function.update_self ..
            exact hstores.trans (congrArg some hleft.symm)
          · exact fun hk => absurd (h.published_lt hk) (Nat.lt_irrefl _)
        · rw [List.getElem?_eq_none (hlength.symm ▸ hgt)] at hr
          cases hr

/-- The next store into a message is made. -/
theorem InOrder.store {k : ℕ} (h : s.InOrder) (hstep : s.step (.store k) = some s')
    (hlapped : ¬ s.proxy.queue.Lapped k) :
  s'.InOrder
  := by
  simp only [step] at hstep
  split at hstep
  case h_2 => cases hstep
  case h_1 st stores hleft =>
    obtain rfl := Option.some.inj hstep
    obtain ⟨made, hsound, hwrites⟩ := h.writes
    have hk : k < s.proxy.queue.ranges.length := hsound.lt_of_left hleft
    have hr := List.getElem?_eq_getElem hk
    constructor
    · apply QueuedProxy.reachable_store h.proxy hr
      apply hsound.within k _ hr
      change st ∈ s.left k
      rw [hleft]
      apply List.mem_cons_self
    · exact h.slots
    · exact h.received
    · exact h.taken_le
    · exact h.sent_length
    · exact h.published
    · exact h.published_lt
    · have hstored : (s.ring made).store k = some _ :=
        StoreRing.store_eq_some.mpr ⟨st, stores, hleft, rfl⟩
      refine ⟨_, hsound.store hlapped hstored, ?_⟩
      intro j r hr
      obtain ⟨c, msg, hsends⟩ := hwrites j r hr
      refine ⟨c, msg, hsends.sent, hsends.length, hsends.fits, hsends.whole, ?_, ?_⟩
      · intro hj
        rw [hsends.stores hj]
        rcases eq_or_ne j k with rfl | hne
        · simp only [StoreRing.write, Function.update_self, hleft, List.append_assoc]
          rfl
        · simp only [StoreRing.write, Function.update_of_ne hne]
          rfl
      · intro hj
        have hdone := hsends.done hj
        rcases eq_or_ne j k with rfl | hne
        · rw [hleft] at hdone
          cases hdone
        · exact (Function.update_of_ne hne ..).trans hdone

/-- A message is published. -/
theorem InOrder.publish {k : ℕ} (h : s.InOrder) (hstep : s.step (.publish k) = some s') :
  s'.InOrder
  := by
  simp only [step] at hstep
  split at hstep
  case isFalse => cases hstep
  case isTrue hready =>
    obtain rfl := Option.some.inj hstep
    obtain ⟨hk, hleft⟩ := hready
    have hpublished : ∀ {j}, Function.update s.published k true j = true →
        j = k ∨ s.published j = true := by
      intro j hj
      rcases eq_or_ne j k with rfl | hne
      · exact Or.inl rfl
      · rw [Function.update_of_ne hne] at hj
        exact Or.inr hj
    constructor
    · exact h.proxy
    · exact h.slots
    · exact h.received
    · exact h.taken_le
    · exact h.sent_length
    · intro j hj
      rcases eq_or_ne j k with rfl | hne
      · apply Function.update_self
      · exact (Function.update_of_ne hne ..).trans (h.published j hj)
    · intro j hj
      rcases hpublished hj with rfl | hj
      · exact hk
      · exact h.published_lt hj
    · obtain ⟨made, hsound, hwrites⟩ := h.writes
      refine ⟨made, hsound, ?_⟩
      intro j r hr
      obtain ⟨c, msg, hsends⟩ := hwrites j r hr
      refine ⟨c, msg, hsends.sent, hsends.length, hsends.fits, hsends.whole, hsends.stores, ?_⟩
      intro hj
      rcases hpublished hj with rfl | hj
      · exact hleft
      · exact hsends.done hj

/-- What the server writes into a message that it has taken, or takes, leaves the messages behind
it as the clients write them. -/
theorem Writes.fill {proxy : QueuedProxy} {k : ℕ} {r : ByteRange} {m : Memory} (h : s.Writes)
    (hr : s.proxy.queue.ranges[k]? = some r) (hlapped : ¬ s.proxy.queue.Lapped k)
    (hm : ∀ x, ¬ r.Covers queueSize x → m x = s.proxy.queue.memory x)
    (hqueue : proxy.queue = { s.proxy.queue with memory := m })
    (htaken : ∀ j, proxy.requests.length ≤ j → s.taken ≤ j ∧ j ≠ k) :
  Writes { s with proxy }
  := by
  obtain ⟨made, hsound, hwrites⟩ := h
  obtain ⟨made', hsound', hmade'⟩ := hsound.fill hr hlapped hm
  refine ⟨made', ?_, ?_⟩
  · rw [ring, hqueue]
    exact hsound'
  · intro j r hr
    rw [hqueue] at hr
    obtain ⟨c, msg, hsends⟩ := hwrites j r hr
    refine ⟨c, msg, hsends.sent, hsends.length, hsends.fits, hsends.whole, ?_, hsends.done⟩
    intro hj
    obtain ⟨hj, hne⟩ := htaken j hj
    rw [hmade' j hne]
    exact hsends.stores hj

/-- The message that the server is about to take is the next that was sent. -/
theorem InOrder.read_sent (h : s.InOrder) {k : ℕ} (hk : s.taken ≤ k) (hpublished : s.published k)
    (hlapped : ¬ s.proxy.queue.Lapped k) {r : ByteRange} (hr : s.proxy.queue.ranges[k]? = some r) :
  ∃ (c : WebsocketProxyClient) (msg : ClientMessage), s.sent[k]? = some (msg.message c) ∧
    r.length = msg.extent ∧
    Message.read s.proxy.queue.memory (r.address queueSize) = msg.message c
  := by
  obtain ⟨made, hsound, hwrites⟩ := h.writes
  obtain ⟨c, msg, hsends⟩ := hwrites k r hr
  have hlength := hsends.length.trans (ClientMessage.toNat_size hsends.whole)
  refine ⟨c, msg, hsends.sent, hlength, ?_⟩
  have hstores := hsends.stores hk
  rw [hsends.done hpublished, List.append_nil] at hstores
  obtain ⟨old, hagree⟩ := hsound.agree hr hlapped
  apply ClientMessage.reads_message hstores hsends.fits hsends.whole
  · rw [← hsends.length]
    exact s.proxy.queue.within r (List.mem_of_getElem? hr)
  · rw [← hsends.length]
    exact hagree

/-- The server takes the next message, which is `req` and has the bytes of `r`. -/
structure Takes (s : ClientQueue) (proxy : QueuedProxy) (r : ByteRange) (req : Request) : Prop where
  range : s.proxy.queue.ranges[s.taken]? = some r
  slot : req.slot = s.taken
  sent : s.sent[s.taken]? = some req.message
  read : Message.read s.proxy.queue.memory (r.address queueSize) = req.message
  server : (s.proxy.view s.proxy.queue.memory).step (.processClientMessage (some req.message))
    = some proxy.server
  requests : proxy.requests = s.proxy.requests ++ [req]
  queue : proxy.queue = { s.proxy.queue with
    memory := Message.writeAnswer s.proxy.queue.memory (r.address queueSize) req.message
      (proxy.server.slots s.taken) (proxy.server.stores s.taken ≠ []) }
  outside : ∀ x, ¬ r.Covers queueSize x → proxy.queue.memory x = s.proxy.queue.memory x

theorem InOrder.takes (h : s.InOrder) (hstep : s.step .take = some s')
    (hlapped : ¬ s.proxy.queue.Lapped s.taken) :
  s.published s.taken ∧ ∃ proxy, s' = { s with proxy } ∧
    s.proxy.step (.take s.taken) = some proxy ∧ ∃ r req, s.Takes proxy r req
  := by
  simp only [step] at hstep
  split at hstep
  case isFalse => cases hstep
  case isTrue hpublished =>
    obtain ⟨proxy, hproxy, rfl⟩ := Option.map_eq_some_iff.mp hstep
    refine ⟨hpublished, proxy, rfl, hproxy, ?_⟩
    obtain ⟨r, req, hr, hslot, hmessage, hserver, hrequests, hqueue⟩ :=
      QueuedProxy.step_take hproxy
    obtain ⟨c, msg, hsent, hlength, hread⟩ :=
      h.read_sent (Nat.le_refl _) hpublished hlapped hr
    rw [hread] at hmessage
    have htaken : s.proxy.server.taken = s.taken := (QueuedProxy.reachable_recorded h.proxy).taken
    have hfresh : s.proxy.server.stores s.taken = [] :=
      (WebsocketProxy.reachable_valid (QueuedProxy.reachable_server h.proxy)).fresh htaken.le
    rw [htaken, hfresh] at hqueue
    use r, req
    constructor
    · exact hr
    · exact hslot
    · rw [hmessage, hsent]
    · rw [hmessage, hread]
    · exact hserver
    · exact hrequests
    · exact hqueue
    · intro x hx
      rw [hqueue, hmessage]
      apply ClientMessage.writeAnswer_outside
      · intro hanswered
        rw [hmessage] at hserver
        rw [← htaken]
        exact (QueuedProxy.take_filled h.proxy hserver hanswered).data
      · rw [ByteRange.Covers, hlength] at hx
        omega

/-- The server takes the next message. -/
theorem InOrder.take (h : s.InOrder) (hstep : s.step .take = some s')
    (hlapped : ¬ s.proxy.queue.Lapped s.taken) :
  s'.InOrder
  := by
  obtain ⟨hpublished, proxy, rfl, hproxy, r, req, htakes⟩ := h.takes hstep hlapped
  have hreachable := h.proxy.step (e := QueuedProxy.Event.take _) trivial hproxy
  have hranges : proxy.queue.ranges = s.proxy.queue.ranges := by rw [htakes.queue]
  have htaken : proxy.requests.length = s.taken + 1 := by
    rw [htakes.requests, List.length_append]
    rfl
  have hk : s.taken < s.proxy.queue.ranges.length := (List.getElem?_eq_some_iff.mp htakes.range).1
  constructor
  · exact hreachable
  · intro n req' hn
    change proxy.requests[n]? = some req' at hn
    rw [htakes.requests] at hn
    rcases Nat.lt_trichotomy n s.taken with hlt | rfl | hgt
    · rw [List.getElem?_append_left hlt] at hn
      exact h.slots hn
    · rw [taken, List.getElem?_concat_length] at hn
      obtain rfl := Option.some.inj hn
      exact htakes.slot
    · rw [← htakes.requests, List.getElem?_eq_none (htaken ▸ hgt)] at hn
      cases hn
  · change proxy.requests.map Request.message = s.sent.take proxy.requests.length
    rw [htaken, List.take_add_one, htakes.sent, htakes.requests, List.map_append, h.received]
    rfl
  · change proxy.requests.length ≤ proxy.queue.ranges.length
    rw [htaken, hranges]
    exact hk
  · exact h.sent_length.trans (congrArg List.length hranges.symm)
  · intro k hlt
    change k < proxy.requests.length at hlt
    rw [htaken] at hlt
    rcases (Nat.le_of_lt_succ hlt).eq_or_lt with rfl | hlt
    · exact hpublished
    · exact h.published k hlt
  · intro k hk
    exact hranges.symm ▸ h.published_lt hk
  · apply h.writes.fill htakes.range hlapped htakes.outside
    · rw [htakes.queue]
    · intro j hj
      rw [htaken] at hj
      omega

/-- The bytes of a request are those that were reserved for its message. -/
theorem InOrder.range_of_request (h : s.InOrder) {n : ℕ} {req : Request}
    (hreq : s.proxy.requests[n]? = some req) :
  s.proxy.queue.ranges[n]? = some req.range
  := by
  rw [← h.slots hreq]
  exact s.proxy.placed req (List.mem_of_getElem? hreq)

/-- A request is the message of a client, and has its bytes. -/
theorem InOrder.message_of_request (h : s.InOrder) {n : ℕ} {req : Request}
    (hreq : s.proxy.requests[n]? = some req) :
  ∃ (c : WebsocketProxyClient) (msg : ClientMessage), s.sent[n]? = some (msg.message c) ∧
    req.message = msg.message c ∧ req.range.length = msg.extent
  := by
  have hn : n < s.taken := (List.getElem?_eq_some_iff.mp hreq).1
  obtain ⟨made, -, hwrites⟩ := h.writes
  obtain ⟨c, msg, hsends⟩ := hwrites n _ (h.range_of_request hreq)
  refine ⟨c, msg, hsends.sent, ?_, hsends.length.trans (ClientMessage.toNat_size hsends.whole)⟩
  have hreceived := congrArg (·[n]?) h.received
  simp only [List.getElem?_map, hreq, Option.map_some, List.getElem?_take_of_lt hn,
    hsends.sent] at hreceived
  exact Option.some.inj hreceived

/-- The request of an opening has the bytes of one. -/
theorem InOrder.length_of_answering (h : s.InOrder) {ev : WebsocketProxy.Event} {n : ℕ}
    {req : Request} (hanswering : s.proxy.answering ev = some n)
    (hreq : s.proxy.requests[n]? = some req) :
  req.range.length = WsOpen.messageSize
  := by
  obtain ⟨c, msg, -, hmessage, hlength⟩ := h.message_of_request hreq
  obtain ⟨-, -, req', data, hreq', hdata⟩ :=
    QueuedProxy.open_of_answering h.proxy hanswering
  obtain rfl := Option.some.inj (hreq.symm.trans hreq')
  rw [hmessage] at hdata
  rw [hlength]
  apply ClientMessage.extent_of_openWs hdata

/-- Another handler of the server runs. -/
theorem InOrder.server {ev : WebsocketProxy.Event} (h : s.InOrder)
    (hstep : s.step (.server ev) = some s')
    (hlapped : ∀ n ∈ s.proxy.answering ev, ¬ s.proxy.queue.Lapped n) :
  s'.InOrder
  := by
  obtain ⟨proxy, hproxy, rfl⟩ := Option.map_eq_some_iff.mp hstep
  have hreachable := h.proxy.step (e := QueuedProxy.Event.server ev) trivial hproxy
  obtain ⟨-, -, hrequests, hqueue⟩ := QueuedProxy.step_server hproxy
  have hranges : proxy.queue.ranges = s.proxy.queue.ranges := by rw [hqueue]
  have htaken : proxy.requests.length = s.taken := congrArg List.length hrequests
  have hwrites : Writes { s with proxy } := by
    rcases s.proxy.answered_cases ev proxy.server with hm | ⟨n, req, hanswering, hreq, hm⟩
    · obtain ⟨made, hsound, hwrites⟩ := h.writes
      rw [hm] at hqueue
      refine ⟨made, ?_, ?_⟩
      · rw [ring, hqueue]
        exact hsound
      · intro k r hr
        rw [hqueue] at hr
        obtain ⟨c, msg, hsends⟩ := hwrites k r hr
        refine ⟨c, msg, hsends.sent, hsends.length, hsends.fits, hsends.whole, ?_, hsends.done⟩
        exact fun hk => hsends.stores (htaken ▸ hk)
    · have hn : n < s.taken := (List.getElem?_eq_some_iff.mp hreq).1
      apply h.writes.fill (h.range_of_request hreq) (hlapped n hanswering) _ hqueue
      · intro j hj
        rw [htaken] at hj
        exact ⟨hj, (hn.trans_le hj).ne'⟩
      · intro x hx
        apply hm x
        intro hanswer
        apply hx
        exact QueuedProxy.covers_answer (h.length_of_answering hanswering hreq) hanswer
  constructor
  · exact hreachable
  · exact fun hn => h.slots (hrequests ▸ hn)
  · change proxy.requests.map Request.message = s.sent.take proxy.requests.length
    rw [hrequests]
    exact h.received
  · change proxy.requests.length ≤ proxy.queue.ranges.length
    rw [htaken, hranges]
    exact h.taken_le
  · exact h.sent_length.trans (congrArg List.length hranges.symm)
  · intro k hk
    change k < proxy.requests.length at hk
    exact h.published k (htaken ▸ hk)
  · intro k hk
    exact hranges.symm ▸ h.published_lt hk
  · exact hwrites

/-- In every run in which nobody is late, the server takes the messages in their order. -/
theorem reachable_inOrder (h : system.ReachableUnder InTime s) :
  s.InOrder
  := by
  apply h.invariant (I := InOrder)
  · rintro _ ⟨pid, clock, rfl⟩
    apply start_inOrder
  · intro s ev s' _ hs hintime hstep
    cases ev with
    | reserve c msg => exact hs.reserve hstep hintime.1 hintime.2
    | store k => exact hs.store hstep hintime
    | publish k => exact hs.publish hstep
    | take => exact hs.take hstep hintime
    | server ev => exact hs.server hstep hintime

/-- In every run of the clients over their queue, however their stores and the answers of the
server interleave: if nobody is a round late, the server is one that handles the messages of the
clients, each once and as it was sent, in the order in which bytes were reserved for them; and
what is published and not taken is in the queue as it was sent. -/
theorem handles_sent (h : system.ReachableUnder InTime s) :
  (∃ px es, WebsocketProxy.system.initial px ∧ WebsocketProxy.system.Run px es s.proxy.server ∧
    WebsocketProxy.messages es = s.sent.take s.taken) ∧
  ∀ k, s.taken ≤ k → s.published k → ¬ s.proxy.queue.Lapped k →
    ∃ msg, s.sent[k]? = some msg ∧ s.read k = some msg
  := by
  have horder := reachable_inOrder h
  constructor
  · obtain ⟨px, es, hinitial, hrun, hmessages⟩ := QueuedProxy.reachable_messages horder.proxy
    exact ⟨px, es, hinitial, hrun, hmessages.trans horder.received⟩
  · intro k hk hpublished hlapped
    have hr := List.getElem?_eq_getElem (horder.published_lt hpublished)
    obtain ⟨c, msg, hsent, -, hread⟩ := horder.read_sent hk hpublished hlapped hr
    use msg.message c, hsent
    rw [read, hr, Option.map_some, hread]

/-- Two clients write at the same time, and the first asks for a connection, which begins to be
opened while the second writes a heartbeat. -/
def writeTogether : List Event :=
  let c := WebsocketProxyClient.start 1 [65]
  let d := WebsocketProxyClient.start 2 []
  let stores k n := List.replicate n (Event.store k)
  [.reserve c .register, .reserve d .register] ++ stores 1 6 ++ stores 0 3 ++ [.publish 1] ++
    stores 0 3 ++ [.publish 0, .take, .reserve c (.request (.openWebSocket [104] []))] ++
    stores 2 6 ++ [.take, .publish 2, .take, .reserve d .heartbeat] ++ stores 3 2 ++
    [.server (QueuedProxy.resumed 0)] ++ stores 3 2 ++ [.publish 3]

/-- The server has handled the first three messages, and the fourth can be taken. -/
theorem handles_sent_writeTogether :
  ∃ s : ClientQueue, system.ReachableUnder InTime s ∧ s.taken = 3 ∧ s.sent.length = 4 ∧
    (∃ px es, WebsocketProxy.system.initial px ∧ WebsocketProxy.system.Run px es s.proxy.server ∧
      WebsocketProxy.messages es = s.sent.take s.taken) ∧
    ∃ msg, s.sent[3]? = some msg ∧ s.read 3 = some msg
  := by
  have hexec : ∃ s ∈ system.execUnder InTime (start 7 fun _ => 1) writeTogether,
      s.taken = 3 ∧ s.sent.length = 4 ∧ s.published 3 ∧ ¬ s.proxy.queue.Lapped 3 := by
    decide +kernel
  obtain ⟨s, hrun, htaken, hlength, hpublished, hlapped⟩ := TransitionSystem.exists_runUnder hexec
  obtain ⟨hhandles, hreads⟩ := handles_sent ⟨_, _, ⟨7, _, rfl⟩, hrun⟩
  exact ⟨s, ⟨_, _, ⟨7, _, rfl⟩, hrun⟩, htaken, hlength, hhandles,
    hreads 3 htaken.le hpublished hlapped⟩

end ClientQueue
