import WebsocketProxy.Queue.Layout
import WebsocketProxy.Server.Projection

/-!
# The server over its client queue

`QueuedProxy` is the proxy server together with the bytes of its client queue. Clients
reserve bytes and write them; the server takes messages, and keeps references into the
queue. Where it uses a reference later, it reads what the bytes are by then; and what it
writes by a reference, it writes in whatever the bytes are by then.

Which of the messages the server takes next is left open: here it takes any message bytes
were given out for. `QueuedProxy.reachable_server` says that the server in this system is
the one of `WebsocketProxy.system`, where the reuse of a slot is an event of its own.
-/

/-- A message the server has taken: its place among the messages, the bytes it was given,
and what it was read as then. -/
structure Request where
  slot : ℕ
  range : ByteRange
  message : Message

namespace Request

/-- The address of the message. -/
def address (req : Request) : ℕ := req.range.address queueSize

end Request

/-- The proxy server and its client queue. -/
structure QueuedProxy where
  server : WebsocketProxy
  queue : ByteRing queueSize := .empty
  /-- The messages taken, in their order. -/
  requests : List Request := []
  placed : ∀ req ∈ requests, queue.ranges[req.slot]? = some req.range

namespace QueuedProxy

/-- What happens to the server and its queue. -/
inductive Event where
  /-- Bytes are given out to a client. -/
  | reserve (length : ℕ)
  /-- A client writes the bytes of a message. -/
  | write (slot : ℕ) (contents : ℕ → UInt8)
  /-- The server takes a message and handles it. -/
  | take (slot : ℕ)
  /-- Another handler of the server runs. -/
  | server (ev : WebsocketProxy.Event)

/-- The server as it finds the memory: its references are read as requests of an opening. -/
def view (q : QueuedProxy) (m : Memory) : WebsocketProxy :=
  { q.server with
    slots := fun n => match q.requests[n]? with
      | some req => Message.readOpen m req.address
      | none => q.server.slots n }

/-- The memory when the callback of an opening that succeeds reads the key: it has written
the fields `id` and `client_pid` by then. -/
def opened (q : QueuedProxy) (ev : WebsocketProxy.Event) : Memory :=
  match q.server.entering ev with
  | some (r, n) =>
      match q.requests[n]? with
      | some req => Message.writeOpened q.queue.memory req.address (q.server.sockets r).id
          (q.queue.memory.readU64 req.address)
      | none => q.queue.memory
  | none => q.queue.memory

/-- The message that the opening which is resumed has to answer. -/
def answering (q : QueuedProxy) : WebsocketProxy.Event → Option ℕ
  | .complete r _ => (q.server.sockets r).opening.map Prod.snd
  | _ => none

/-- The memory after a handler: the status is written that it stored. -/
def answered (q : QueuedProxy) (ev : WebsocketProxy.Event) (m : Memory) (px : WebsocketProxy) :
    Memory :=
  match q.answering ev with
  | some n =>
      match q.requests[n]? with
      | some req =>
          if px.stores n = q.server.stores n then m
          else m.writeByte (req.address + Message.statusOffset) (px.slots n).status.toByte
      | none => m
  | none => m

/-- The server takes a message. -/
def take (q : QueuedProxy) (slot : ℕ) (h : slot < q.queue.ranges.length) : Option QueuedProxy :=
  let req : Request :=
    { slot
      range := q.queue.ranges[slot]
      message := Message.read q.queue.memory (q.queue.ranges[slot].address queueSize) }
  ((q.view q.queue.memory).step (.processClientMessage (some req.message))).map fun px =>
    { server := px
      queue := { q.queue with
        memory := Message.writeAnswer q.queue.memory req.address req.message
          (px.slots q.server.taken) (px.stores q.server.taken ≠ q.server.stores q.server.taken) }
      requests := q.requests ++ [req]
      placed := by
        intro req' hreq'
        rcases List.mem_append.mp hreq' with hreq' | hreq'
        · apply q.placed req' hreq'
        · obtain rfl := List.mem_singleton.mp hreq'
          exact List.getElem?_eq_getElem h }

/-- The run of a handler other than one that takes a message. The slots of requests are
reused by clients that write into the queue, not in an event of the server. -/
def runServer (q : QueuedProxy) (ev : WebsocketProxy.Event) : Option QueuedProxy :=
  match ev with
  | .processClientMessage (some _) => none
  | .slotReused _ _ => none
  | ev =>
      ((q.view (q.opened ev)).step ev).map fun px =>
        { q with
          server := px
          queue := { q.queue with memory := q.answered ev (q.opened ev) px } }

/-- The server and its queue after an event. -/
def step (q : QueuedProxy) : Event → Option QueuedProxy
  | .reserve length =>
      if h : length ≤ queueSize then
        some { q with
          queue := q.queue.reserve length h
          placed := by
            intro req hreq
            have hplaced := q.placed req hreq
            obtain ⟨hlt, -⟩ := List.getElem?_eq_some_iff.mp hplaced
            exact (List.getElem?_append_left hlt).trans hplaced }
      else none
  | .write slot contents =>
      q.queue.ranges[slot]?.map fun r => { q with queue := q.queue.write r contents }
  | .take slot => if h : slot < q.queue.ranges.length then q.take slot h else none
  | .server ev => q.runServer ev

/-- The server when it enters its loop, with a new queue. -/
def start (pid : UInt64) (clock : ℕ → UInt64) : QueuedProxy where
  server := WebsocketProxy.start pid clock
  placed := by simp

/-- The server and its queue as a transition system. -/
def system : TransitionSystem QueuedProxy Event where
  initial q := ∃ pid clock, q = start pid clock
  step := step

end QueuedProxy

namespace WebsocketProxy

/-- Any of the slots can be reused, one after the other. -/
theorem run_slotReused {px : WebsocketProxy} (hrunning : px.stopped = false) (f : ℕ → Message)
    (k : ℕ) :
  system.Run px ((List.range k).map fun n => .slotReused n (f n))
    { px with slots := fun n => if n < k then f n else px.slots n }
  := by
  induction k with
  | zero =>
      simp only [Nat.not_lt_zero, if_false]
      exact .nil
  | succ k ih =>
      rw [List.range_succ, List.map_append]
      apply ih.snoc trivial
      have hslots : Function.update (fun n => if n < k then f n else px.slots n) k (f k)
          = fun n => if n < k + 1 then f n else px.slots n := by
        funext n
        rcases eq_or_ne n k with rfl | hne
        · rw [Function.update_self, if_pos (Nat.lt_succ_self n)]
        · rw [Function.update_of_ne hne]
          rcases Nat.lt_or_ge n k with hn | hn
          · rw [if_pos hn, if_pos (Nat.lt_succ_of_lt hn)]
          · rw [if_neg (by omega), if_neg (by omega)]
      simp only [system, step, hrunning, runHandler, hslots]
      rfl

theorem not_stopped_of_step {px px' : WebsocketProxy} {ev : Event} (h : px.step ev = some px') :
  px.stopped = false
  := by
  rw [step] at h
  split at h
  case isTrue => cases h
  case isFalse hrunning => exact Bool.eq_false_of_not_eq_true hrunning

end WebsocketProxy

namespace QueuedProxy

variable {q q' : QueuedProxy}

/-- The server comes to find the memory as it is by the reuse of slots. -/
theorem view_run (q : QueuedProxy) (m : Memory) (hrunning : q.server.stopped = false) :
  ∃ es, WebsocketProxy.system.Run q.server es (q.view m)
  := by
  have hview : q.view m = { q.server with
      slots := fun n => if n < q.requests.length then (q.view m).slots n else q.server.slots n } := by
    rw [view]
    congr 1
    funext n
    rcases Nat.lt_or_ge n q.requests.length with hn | hn
    · rw [if_pos hn]
    · rw [if_neg (by omega), List.getElem?_eq_none hn]
  rw [hview]
  exact ⟨_, WebsocketProxy.run_slotReused hrunning _ _⟩

/-- What an event does to the server and to the messages it has taken. -/
theorem step_cases {e : Event} (h : q.step e = some q') :
  (q'.server = q.server ∧ q'.requests = q.requests) ∨
  (∃ req, (q.view q.queue.memory).step (.processClientMessage (some req.message)) = some q'.server ∧
    q'.requests = q.requests ++ [req]) ∨
  (∃ ev m, (∀ msg, ev ≠ .processClientMessage (some msg)) ∧
    (q.view m).step ev = some q'.server ∧ q'.requests = q.requests)
  := by
  cases e with
  | reserve length =>
      simp only [step] at h
      split at h
      case isTrue =>
        obtain rfl := Option.some.inj h
        exact Or.inl ⟨rfl, rfl⟩
      case isFalse => cases h
  | write slot contents =>
      obtain ⟨r, -, rfl⟩ := Option.map_eq_some_iff.mp h
      exact Or.inl ⟨rfl, rfl⟩
  | take slot =>
      simp only [step] at h
      split at h
      case isTrue hslot =>
        obtain ⟨px, hpx, rfl⟩ := Option.map_eq_some_iff.mp h
        exact Or.inr (Or.inl ⟨_, hpx, rfl⟩)
      case isFalse => cases h
  | server ev =>
      right; right
      simp only [step, runServer] at h
      split at h
      case h_1 => cases h
      case h_2 => cases h
      case h_3 hmessage _ =>
        obtain ⟨px, hpx, rfl⟩ := Option.map_eq_some_iff.mp h
        exact ⟨ev, _, hmessage, hpx, rfl⟩

/-- The server in reachable states is one that the system of messages reaches. -/
theorem reachable_server (h : system.Reachable q) :
  WebsocketProxy.system.Reachable q.server
  := by
  apply h.invariant
  · rintro q ⟨pid, clock, rfl⟩
    exact .initial ⟨pid, clock, rfl⟩
  · intro q e q' _ ih _ hstep
    have hview : ∀ {m ev}, (q.view m).step ev = some q'.server →
        WebsocketProxy.system.Reachable q'.server := by
      intro m ev h
      have hrunning := WebsocketProxy.not_stopped_of_step h
      obtain ⟨es, hrun⟩ := q.view_run m hrunning
      exact (ih.run hrun).step trivial h
    rcases step_cases hstep with ⟨hserver, -⟩ | ⟨req, htake, -⟩ | ⟨ev, m, -, hserver, -⟩
    · rw [hserver]
      apply ih
    · apply hview htake
    · apply hview hserver

end QueuedProxy
