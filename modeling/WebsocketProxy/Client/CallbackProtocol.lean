import WebsocketProxy.Client.Steps
import WebsocketProxy.Library.Since

/-!
# The protocol of the callbacks

Data, errors and the close of a connection are only reported between `onWebsocketOpened` and
`onWebsocketClosed`, the data reported there are exactly those the connected server sent, and
a server that is given up takes all open connections with it (`callbacks_obey`). The client is
any, the messages it reads are any, and so are the answers its caller gets.
-/

namespace WebsocketProxyClient

/-- `onWebsocketOpened(id)` was called, and `onWebsocketClosed(id)` was not called since. -/
def IsOpen (id : UInt64) (trace : List Observation) : Prop :=
  Since (· = .callback (.onWebsocketOpened id)) (· = .callback (.onWebsocketClosed id)) trace

namespace Observation

/-- A callback that is about an open connection: data, an error, or the close. -/
def OfOpen (id : UInt64) : Observation → Prop
  | callback (.onWebsocketData id' _ _ _) => id' = id
  | callback (.onWebsocketError id' _ _) => id' = id
  | callback (.onWebsocketClosed id') => id' = id
  | _ => False

/-- The payload that is reported for a connection. -/
def delivered (id : UInt64) : Observation → Option (Bytes × UInt32 × UInt32)
  | callback (.onWebsocketData id' data len remaining) =>
      if id' = id then some (data, len, remaining) else none
  | _ => none

/-- The payload that the connected server sent for a connection. -/
def payload (id : UInt64) : Observation → Option (Bytes × UInt32 × UInt32)
  | read serverPid { pid, data := .wsData m, .. } =>
      if pid = serverPid ∧ m.id = id then some (m.data, m.len, m.remaining) else none
  | _ => none

end Observation

/-- What the connected server sent in a part of what was seen is what was delivered in it. -/
def Delivers (id : UInt64) (span : List Observation) : Prop :=
  span.filterMap (Observation.delivered id) = span.filterMap (Observation.payload id)

/-- Nothing more was seen, or the close of a connection was. -/
def EndsAt (id : UInt64) (post : List Observation) : Prop :=
  ∀ o ∈ post.head?, o = .callback (.onWebsocketClosed id)

/-- The protocol that what is seen of a client obeys. -/
structure Obeys (trace : List Observation) : Prop where
  ofOpen : ∀ {id pre o post}, trace = pre ++ o :: post → o.OfOpen id → IsOpen id pre
  delivers : ∀ {id pre span post},
    trace = pre ++ .callback (.onWebsocketOpened id) :: (span ++ post) →
    .callback (.onWebsocketClosed id) ∉ span → EndsAt id post → Delivers id span
  disconnects : ∀ {pre post},
    trace = pre ++ .callback .onWebsocketProxyServerDisconnected :: post →
    ∃ (ids : List UInt64) (rest : List Observation),
      post = closes ids ++ rest ∧
      ids.Nodup ∧ ∀ id, id ∈ ids ↔ IsOpen id pre

/-! ### What a step adds -/

variable {trace seen : List Observation} {id : UInt64}

/-- A part of what was seen with no data for the connection. -/
theorem delivers_of_silent {span : List Observation}
    (h : ∀ o ∈ span, o.delivered id = none ∧ o.payload id = none) :
  Delivers id span
  := by
  rw [Delivers, List.filterMap_eq_nil_iff.mpr (fun o ho => (h o ho).1),
    List.filterMap_eq_nil_iff.mpr (fun o ho => (h o ho).2)]

/-- What is added obeys the protocol after what was seen before. -/
theorem Obeys.append (h : Obeys trace)
    (hopen : ∀ {id pre o post}, seen = pre ++ o :: post → o.OfOpen id → IsOpen id (trace ++ pre))
    (hspan : ∀ {id span post}, IsOpen id trace → seen = span ++ post →
      .callback (.onWebsocketClosed id) ∉ span → EndsAt id post → Delivers id span)
    (hopened : ∀ {id pre post}, seen = pre ++ .callback (.onWebsocketOpened id) :: post → post = [])
    (hdisconnected : ∀ {pre post},
      seen = pre ++ .callback .onWebsocketProxyServerDisconnected :: post → ∃ ids : List UInt64,
        post = closes ids ∧
          ids.Nodup ∧ ∀ id, id ∈ ids ↔ IsOpen id (trace ++ pre)) :
  Obeys (trace ++ seen)
  := by
  constructor
  case ofOpen =>
    intro id pre o post heq ho
    rcases List.append_eq_append_cons_iff.mp heq with ⟨post', rfl, -⟩ | ⟨pre', rfl, rfl⟩
    · apply h.ofOpen rfl ho
    · apply hopen rfl ho
  case delivers =>
    intro id pre span post heq hclosed hends
    rcases List.append_eq_append_cons_iff.mp heq with ⟨post', rfl, hpost⟩ | ⟨pre', rfl, rfl⟩
    · rcases List.append_eq_append_iff.mp hpost with ⟨post₀, rfl, hpost₀⟩ | ⟨span', rfl, hspan'⟩
      · -- the span ends in what was seen before
        apply h.delivers rfl hclosed
        intro o ho
        apply hends o
        rw [hpost₀, List.head?_append, Option.mem_def.mp ho]
        rfl
      · -- the span ends in what is added
        have hbefore : .callback (.onWebsocketClosed id) ∉ post' :=
          fun hmem => hclosed (List.mem_append_left _ hmem)
        have hisOpen : IsOpen id (pre ++ .callback (.onWebsocketOpened id) :: post') := by
          refine Since.of_append_cons ?_ ?_
          · rfl
          · rintro _ hb rfl
            apply hbefore hb
        have hfirst : Delivers id post' := by
          refine @Obeys.delivers _ h id pre post' [] ?_ hbefore ?_
          · rw [List.append_nil]
          · rintro o ⟨⟩
        have hsecond : Delivers id span' := by
          apply hspan hisOpen hspan' _ hends
          exact fun hmem => hclosed (List.mem_append_right _ hmem)
        rw [Delivers, List.filterMap_append, List.filterMap_append, hfirst, hsecond]
    · -- the connection is opened in what is added
      have hnil := hopened rfl
      rw [(List.append_eq_nil_iff.mp hnil).1]
      rfl
  case disconnects =>
    intro pre post heq
    rcases List.append_eq_append_cons_iff.mp heq with ⟨post', rfl, rfl⟩ | ⟨pre', rfl, rfl⟩
    · obtain ⟨ids, rest, rfl, hnodup, hids⟩ := h.disconnects rfl
      use ids, rest ++ seen
      exact ⟨List.append_assoc _ _ _, hnodup, hids⟩
    · obtain ⟨ids, rfl, hnodup, hids⟩ := hdisconnected rfl
      use ids, []
      exact ⟨(List.append_nil _).symm, hnodup, hids⟩

/-- The protocol is obeyed, and the ids in `websockets_` are those of the open connections. -/
structure InOrder (c : WebsocketProxyClient) : Prop where
  obeys : Obeys c.trace
  isOpen : ∀ id, id ∈ c.websockets ↔ IsOpen id c.trace

/-- One observation is added, with no data for an open connection. -/
theorem Obeys.concat {o : Observation} (h : Obeys trace)
    (hdisconnected : o ≠ .callback .onWebsocketProxyServerDisconnected)
    (hopen : ∀ {id}, o.OfOpen id → IsOpen id trace)
    (hsilent : ∀ {id}, IsOpen id trace → o.delivered id = none ∧ o.payload id = none) :
  Obeys (trace ++ [o])
  := by
  have hsingle : ∀ {pre post : List Observation} {o'}, [o] = pre ++ o' :: post →
      pre = [] ∧ o' = o ∧ post = [] := by
    intro pre post o' heq
    rcases List.singleton_eq_append_iff.mp heq with ⟨hpre, hcons⟩ | ⟨-, hcons⟩
    · obtain ⟨ho, hpost⟩ := List.cons.inj hcons
      exact ⟨hpre, ho, hpost⟩
    · cases hcons
  apply h.append
  · intro id pre o' post heq ho
    obtain ⟨rfl, rfl, rfl⟩ := hsingle heq
    rw [List.append_nil]
    apply hopen ho
  · intro id span post hisOpen heq _ _
    apply delivers_of_silent
    intro o' ho'
    have hmem : o' ∈ [o] := by
      rw [heq]
      apply List.mem_append_left _ ho'
    rw [List.mem_singleton.mp hmem]
    apply hsilent hisOpen
  · intro id pre post heq
    exact (hsingle heq).2.2
  · intro pre post heq
    exact absurd (hsingle heq).2.1.symm hdisconnected

/-- A connection is opened. -/
theorem Obeys.opened (h : Obeys trace) (id : UInt64) :
  Obeys (trace ++ [.callback (.onWebsocketOpened id)])
  := by
  apply h.concat
  · exact fun h => nomatch h
  · intro id' ho
    cases ho
  · intro id' _
    exact ⟨rfl, rfl⟩

/-- An open connection is closed. -/
theorem Obeys.closed (h : Obeys trace) (hopen : IsOpen id trace) :
  Obeys (trace ++ [.callback (.onWebsocketClosed id)])
  := by
  apply h.concat
  · exact fun h => nomatch h
  · rintro id' rfl
    exact hopen
  · intro id' _
    exact ⟨rfl, rfl⟩

/-- An error of an open connection is reported. -/
theorem Obeys.error (h : Obeys trace) (hopen : IsOpen id trace) (err : Bytes) (len : UInt32) :
  Obeys (trace ++ [.callback (.onWebsocketError id err len)])
  := by
  apply h.concat
  · exact fun h => nomatch h
  · rintro id' rfl
    exact hopen
  · intro id' _
    exact ⟨rfl, rfl⟩

/-- A data message of the connected server is read, and its payload delivered. -/
theorem Obeys.data {msg : Message} {m : WsData} (h : Obeys trace) (hmsg : msg.data = .wsData m)
    (hopen : IsOpen m.id trace) :
  Obeys (trace ++
    [.read msg.pid msg, .callback (.onWebsocketData m.id m.data m.len m.remaining)])
  := by
  obtain ⟨pid, data, status⟩ := msg
  obtain rfl : data = .wsData m := hmsg
  have htwo : ∀ {a b o : Observation} {pre post}, [a, b] = pre ++ o :: post →
      (pre = [] ∧ o = a ∧ post = [b]) ∨ (pre = [a] ∧ o = b ∧ post = []) := by
    intro a b o pre post heq
    rcases pre with - | ⟨a', - | ⟨b', pre⟩⟩
    · obtain ⟨rfl, rfl⟩ := List.cons.inj heq
      exact Or.inl ⟨rfl, rfl, rfl⟩
    · obtain ⟨rfl, htail⟩ := List.cons.inj heq
      obtain ⟨rfl, rfl⟩ := List.cons.inj htail
      exact Or.inr ⟨rfl, rfl, rfl⟩
    · simp at heq
  apply h.append
  · intro id pre o post heq ho
    rcases htwo heq with ⟨-, rfl, -⟩ | ⟨rfl, rfl, -⟩
    · cases ho
    · obtain rfl : m.id = id := ho
      apply Since.concat_iff.mpr
      right
      use hopen
      exact fun h => Observation.noConfusion h
  · intro id span post hisOpen heq _ hends
    rcases span with - | ⟨o₁, - | ⟨o₂, span⟩⟩
    · rfl
    · obtain ⟨-, rfl⟩ := List.cons.inj heq
      cases hends _ rfl
    · obtain ⟨rfl, htail⟩ := List.cons.inj heq
      obtain ⟨rfl, hnil⟩ := List.cons.inj htail
      obtain ⟨rfl, -⟩ := List.append_eq_nil_iff.mp hnil.symm
      rcases eq_or_ne m.id id with hid | hid
      · simp [Delivers, List.filterMap_cons, Observation.delivered, Observation.payload, hid]
      · simp [Delivers, List.filterMap_cons, Observation.delivered, Observation.payload, hid]
  · intro id pre post heq
    rcases htwo heq with ⟨-, ho, -⟩ | ⟨-, ho, -⟩
    · cases ho
    · cases ho
  · intro pre post heq
    rcases htwo heq with ⟨-, ho, -⟩ | ⟨-, ho, -⟩
    · cases ho
    · cases ho

/-- The open connections after the closes of some. -/
theorem isOpen_disconnected {ids : List UInt64} :
  IsOpen id (trace ++ .callback .onWebsocketProxyServerDisconnected :: closes ids)
    ↔ IsOpen id trace ∧ id ∉ ids
  := by
  have hclosed : ∀ o ∈ .callback .onWebsocketProxyServerDisconnected :: closes ids,
      o = .callback .onWebsocketProxyServerDisconnected ∨
        ∃ id ∈ ids, o = .callback (.onWebsocketClosed id) := by
    intro o ho
    rcases List.mem_cons.mp ho with rfl | ho
    · apply Or.inl rfl
    · obtain ⟨id, hid, rfl⟩ := List.mem_map.mp ho
      exact Or.inr ⟨id, hid, rfl⟩
  rw [IsOpen, Since.append_iff]
  · apply and_congr_right
    intro _
    constructor
    · intro h hid
      apply h _ _ rfl
      apply List.mem_cons_of_mem _ (List.mem_map_of_mem hid)
    · rintro hid o ho rfl
      rcases hclosed _ ho with h | ⟨id', hid', h⟩
      · cases h
      · cases h
        apply hid hid'
  · rintro o ho rfl
    rcases hclosed _ ho with h | ⟨id', hid', h⟩
    · cases h
    · cases h

/-- A server is given up, with all open connections. -/
theorem Obeys.disconnected {ids : List UInt64} (h : Obeys trace) (hnodup : ids.Nodup)
    (hids : ∀ id, id ∈ ids ↔ IsOpen id trace) :
  Obeys (trace ++ .callback .onWebsocketProxyServerDisconnected :: closes ids)
  := by
  have hcases : ∀ {o pre post},
      .callback .onWebsocketProxyServerDisconnected :: closes ids = pre ++ o :: post →
      (pre = [] ∧ o = .callback .onWebsocketProxyServerDisconnected ∧
        post = closes ids) ∨
      ∃ before id after, ids = before ++ id :: after ∧ o = .callback (.onWebsocketClosed id) ∧
        pre = .callback .onWebsocketProxyServerDisconnected :: closes before := by
    intro o pre post heq
    cases pre with
    | nil =>
        obtain ⟨rfl, rfl⟩ := List.cons.inj heq
        exact Or.inl ⟨rfl, rfl, rfl⟩
    | cons o' pre =>
        obtain ⟨rfl, htail⟩ := List.cons.inj heq
        obtain ⟨before, rest, rfl, rfl, hrest⟩ := List.map_eq_append_iff.mp htail
        obtain ⟨id, after, rfl, ho, -⟩ := List.map_eq_cons_iff.mp hrest
        exact Or.inr ⟨before, id, after, rfl, ho.symm, rfl⟩
  apply h.append
  · intro id pre o post heq ho
    rcases hcases heq with ⟨-, rfl, -⟩ | ⟨before, id', after, rfl, rfl, rfl⟩
    · cases ho
    · obtain rfl : id' = id := ho
      apply isOpen_disconnected.mpr
      constructor
      · apply (hids id').mp
        apply List.mem_append_right _ List.mem_cons_self
      · intro hmem
        apply (List.nodup_append.mp hnodup).2.2 _ hmem id' List.mem_cons_self rfl
  · intro id span post _ heq _ _
    apply delivers_of_silent
    intro o ho
    obtain ⟨pre', post', rfl⟩ := List.append_of_mem ho
    rw [List.append_assoc, List.cons_append] at heq
    rcases hcases heq with ⟨-, rfl, -⟩ | ⟨_, _, _, _, rfl, _⟩
    · exact ⟨rfl, rfl⟩
    · exact ⟨rfl, rfl⟩
  · intro id pre post heq
    rcases hcases heq with ⟨-, ho, -⟩ | ⟨_, _, _, _, ho, _⟩
    · cases ho
    · cases ho
  · intro pre post heq
    rcases hcases heq with ⟨rfl, -, rfl⟩ | ⟨_, _, _, _, ho, _⟩
    · use ids, rfl, hnodup
      rw [List.append_nil]
      exact hids
    · cases ho

/-! ### Runs -/

/-- The open connections after an observation that is no opening and no close. -/
theorem isOpen_concat {o : Observation} (hopened : ∀ id, o ≠ .callback (.onWebsocketOpened id))
    (hclosed : ∀ id, o ≠ .callback (.onWebsocketClosed id)) :
  IsOpen id (trace ++ [o]) ↔ IsOpen id trace
  := by
  rw [IsOpen, Since.concat_iff]
  constructor
  · rintro (hid | ⟨hopen, -⟩)
    · exact absurd hid (hopened id)
    · exact hopen
  · intro hopen
    exact Or.inr ⟨hopen, hclosed id⟩

/-- A message is read that has no payload for an open connection. -/
theorem Obeys.read {serverPid : UInt64} {msg : Message} (h : Obeys trace)
    (hpayload : ∀ id, IsOpen id trace → (Observation.read serverPid msg).payload id = none) :
  Obeys (trace ++ [.read serverPid msg])
  := by
  apply h.concat
  · exact fun h => Observation.noConfusion h
  · intro id ho
    cases ho
  · intro id hid
    exact ⟨rfl, hpayload id hid⟩

theorem isOpen_read {serverPid : UInt64} {msg : Message} :
  IsOpen id (trace ++ [.read serverPid msg]) ↔ IsOpen id trace
  := by
  apply isOpen_concat
  · exact fun _ h => Observation.noConfusion h
  · exact fun _ h => Observation.noConfusion h

theorem isOpen_opened {id' : UInt64} :
  IsOpen id' (trace ++ [.callback (.onWebsocketOpened id)]) ↔ id' = id ∨ IsOpen id' trace
  := by
  rw [IsOpen, Since.concat_iff]
  constructor
  · rintro (h | ⟨hopen, -⟩)
    · cases h
      apply Or.inl rfl
    · apply Or.inr hopen
  · rintro (rfl | hopen)
    · apply Or.inl rfl
    · exact Or.inr ⟨hopen, fun h => nomatch h⟩

theorem isOpen_closed {id' : UInt64} :
  IsOpen id' (trace ++ [.callback (.onWebsocketClosed id)]) ↔ id' ≠ id ∧ IsOpen id' trace
  := by
  rw [IsOpen, Since.concat_iff]
  constructor
  · rintro (h | ⟨hopen, hne⟩)
    · cases h
    · constructor
      · rintro rfl
        apply hne rfl
      · exact hopen
  · rintro ⟨hne, hopen⟩
    right
    use hopen
    intro h
    cases h
    apply hne rfl

/-- A message is read that is not a data message. -/
theorem Obeys.read_other {trace : List Observation} {serverPid : UInt64} {msg : Message}
    (h : Obeys trace) (hmsg : ∀ m, msg.data ≠ .wsData m) :
  Obeys (trace ++ [.read serverPid msg])
  := by
  apply h.read
  intro id _
  obtain ⟨pid, data, status⟩ := msg
  cases data with
  | wsData m => exact absurd rfl (hmsg m)
  | _ => rfl

/-- What is added in a step obeys the protocol. -/
theorem InOrder.sees {c c' : WebsocketProxyClient} {ev : Event} (h : c.InOrder)
    (htrace : c'.trace = c.trace ++ seen) (hsees : Sees c ev c' seen) :
  c'.InOrder
  := by
  cases hsees with
  | nothing hids =>
      rw [List.append_nil] at htrace
      constructor
      · rw [htrace]
        apply h.obeys
      · intro id
        rw [htrace, hids]
        apply h.isOpen id
  | returned _ hids =>
      constructor
      · rw [htrace]
        apply h.obeys.concat
        · exact fun h => Observation.noConfusion h
        · intro id ho
          cases ho
        · intro id _
          exact ⟨rfl, rfl⟩
      · intro id
        rw [htrace, hids, h.isOpen]
        symm
        apply isOpen_concat
        · exact fun _ h => Observation.noConfusion h
        · exact fun _ h => Observation.noConfusion h
  | @ignored serverPid msg _ hdata hids =>
      constructor
      · rw [htrace]
        apply h.obeys.read
        intro id hopen
        obtain ⟨pid, data, status⟩ := msg
        cases data with
        | wsData m =>
            apply if_neg
            rintro ⟨rfl, rfl⟩
            apply hdata m rfl rfl ((h.isOpen m.id).mpr hopen)
        | _ => rfl
      · intro id
        rw [htrace, hids, h.isOpen, isOpen_read]
  | @opened msg m _ hmsg _ hids =>
      rw [List.append_cons] at htrace
      constructor
      · rw [htrace]
        apply Obeys.opened
        apply h.obeys.read_other
        simp [hmsg]
      · intro id
        rw [htrace, hids, h.isOpen, isOpen_opened, isOpen_read]
  | @closed msg m _ hmsg hid hids =>
      rw [List.append_cons] at htrace
      constructor
      · rw [htrace]
        apply Obeys.closed
        · apply h.obeys.read_other
          simp [hmsg]
        · rw [isOpen_read, ← h.isOpen]
          exact hid
      · intro id
        rw [htrace, hids, h.isOpen, isOpen_closed, isOpen_read]
  | @error msg m _ hmsg hid hids =>
      rw [List.append_cons] at htrace
      constructor
      · rw [htrace]
        apply Obeys.error
        · apply h.obeys.read_other
          simp [hmsg]
        · rw [isOpen_read, ← h.isOpen]
          exact hid
      · intro id
        rw [htrace, hids, h.isOpen, isOpen_concat, isOpen_read]
        · exact fun _ h => nomatch h
        · exact fun _ h => nomatch h
  | @data msg m _ hmsg hid hids =>
      constructor
      · rw [htrace]
        apply h.obeys.data hmsg ((h.isOpen m.id).mp hid)
      · intro id
        rw [List.append_cons] at htrace
        rw [htrace, hids, h.isOpen, isOpen_concat, isOpen_read]
        · exact fun _ h => nomatch h
        · exact fun _ h => nomatch h
  | @disconnected ids _ hnodup hopen hids =>
      have hopen : ∀ id, id ∈ ids ↔ IsOpen id c.trace := fun id => (hopen id).trans (h.isOpen id)
      constructor
      · rw [htrace]
        apply h.obeys.disconnected hnodup hopen
      · intro id
        rw [htrace, isOpen_disconnected, hopen]
        constructor
        · intro hid
          exact absurd hid (hids id)
        · rintro ⟨hisOpen, hclosed⟩
          exact absurd hisOpen hclosed

theorem start_inOrder (pid : UInt64) (name : Bytes) :
  (start pid name).InOrder
  := by
  constructor
  · constructor
    · intro id pre o post heq
      cases pre <;> cases heq
    · intro id pre span post heq
      cases pre <;> cases heq
    · intro pre post heq
      cases pre <;> cases heq
  · intro id
    constructor
    · intro hid
      exact absurd hid (AList.notMem_empty id)
    · intro hopen
      exact absurd hopen Since.not_nil

theorem reachable_inOrder {c : WebsocketProxyClient} (h : system.Reachable c) :
  c.InOrder
  := by
  apply h.invariant
  · rintro _ ⟨pid, name, rfl⟩
    apply start_inOrder pid name
  · intro c ev c' _ hc _ hstep
    obtain ⟨published, hstep⟩ := system_step hstep
    obtain ⟨seen, htrace, hsees⟩ := hstep.sees
    apply hc.sees htrace hsees

/-- When the worker finds that nothing was heard of the server for too long, it goes on to
report that the server is gone, and then the close of every open connection. -/
theorem InOrder.timedOut {c : WebsocketProxyClient} (h : c.InOrder) {now : UInt64}
    (hworker : c.worker = .comparing now false) (htime : c.isTimedOut now) :
  ∃ c' ids, system.Run c [.compare, .disconnect] c' ∧
    c'.trace = c.trace ++ .callback .onWebsocketProxyServerDisconnected :: closes ids ∧
    ids.Nodup ∧ ∀ id, id ∈ ids ↔ IsOpen id c.trace
  := by
  have hcompare : system.step c .compare = some { c with worker := .disconnecting } := by
    simp [system, perform, hworker, htime]
  use { ({ c with worker := .disconnecting }).giveUp with worker := .loading }, c.websockets.keys
  refine ⟨?_, ?_, AList.keys_nodup _, ?_⟩
  · exact (TransitionSystem.RunUnder.single trivial hcompare).snoc trivial rfl
  · rw [giveUp, foldl_callback_trace]
    simp [callback]
  · intro id
    rw [← AList.mem_keys]
    apply h.isOpen id

/-- What is seen of a client in any run obeys the protocol, and a server that is silent for too
long is given up with all open connections. -/
theorem callbacks_obey {c : WebsocketProxyClient} (h : system.Reachable c) :
  Obeys c.trace ∧ ∀ now, c.worker = .comparing now false → c.isTimedOut now →
    ∃ c' ids, system.Run c [.compare, .disconnect] c' ∧
      c'.trace = c.trace ++ .callback .onWebsocketProxyServerDisconnected :: closes ids ∧
      ids.Nodup ∧ ∀ id, id ∈ ids ↔ IsOpen id c.trace
  := ⟨(reachable_inOrder h).obeys, fun _ => (reachable_inOrder h).timedOut⟩

/-- A client is told of a connection, gets data of it, and reads data of another server. -/
def openAndRead : List Event :=
  Event.connect 7 0 1 1000 ++
  Event.round 1000 (some { pid := 7, data := .openWs { id := 70001, clientPid := 1 } }) ++
  Event.round 1000 (some { pid := 7, data := .wsData ⟨70001, 1, 0, [5]⟩ }) ++
  [.load, .takeTime 1000, .read (some { pid := 8, data := .wsData ⟨70001, 1, 0, [6]⟩ })] ++
  [.load, .takeTime 17000, .read none, .sendHeartbeat 17000]

theorem callbacks_obey_openAndRead :
  ∃ c, system.Run (start 1 []) openAndRead c ∧
    .callback (.onWebsocketData 70001 [5] 1 0) ∈ c.trace ∧ Obeys c.trace ∧
    ∃ c' ids, system.Run c [.compare, .disconnect] c' ∧
      c'.trace = c.trace ++ .callback .onWebsocketProxyServerDisconnected :: closes ids ∧
      ids.Nodup ∧ ∀ id, id ∈ ids ↔ IsOpen id c.trace
  := by
  obtain ⟨c, hrun, hdata, hworker, htime⟩ : ∃ c, system.Run (start 1 []) openAndRead c ∧
      .callback (.onWebsocketData 70001 [5] 1 0) ∈ c.trace ∧
      c.worker = .comparing 17000 false ∧ c.isTimedOut 17000 :=
    TransitionSystem.exists_runUnder (by decide +kernel)
  obtain ⟨hobeys, htimedOut⟩ := callbacks_obey ⟨_, _, ⟨1, [], rfl⟩, hrun⟩
  use c, hrun, hdata, hobeys
  apply htimedOut 17000 hworker htime

end WebsocketProxyClient
