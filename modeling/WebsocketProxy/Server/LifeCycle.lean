import WebsocketProxy.Websocket.Moves
import WebsocketProxy.Server.Published

/-!
# The life of a connection

In every run in which the counter of ids does not wrap, the status of a connection moves
forward only, its close is started at most once, and what is published for its id is in
order: data only after the clients were told that it was opened, and after they were told
that it was closed neither another opening nor another closing, nor an error that a handler
of the connection reports.
-/

namespace WebsocketProxy

/-! ### The status -/

/-- The move of the status of the connection at `r` in a step. -/
def statusMoves (r : ℕ) (px : WebsocketProxy) (_ : Event) (px' : WebsocketProxy) :
    List Websocket.Status :=
  (px.sockets r).statusMove (px'.sockets r)

/-- What a step does to a connection keeps the moves of its status. -/
theorem SocketChange.lived {px : WebsocketProxy} {ev : Event} {r : ℕ} {ws : Websocket}
    {moves : List Websocket.Status} (h : SocketChange px ev r ws) (hwf : px.WellFormed)
    (hphases : (px.sockets r).Phases) (hlived : (px.sockets r).Lived moves) :
  ws.Lived (moves ++ (px.sockets r).statusMove ws)
  := by
  cases h with
  | same => exact hlived.unmoved ⟨rfl, rfl, rfl, rfl⟩
  | leave hr =>
      have hsame : (px.sockets r).SameLife { px.sockets r with
          clients := (px.sockets r).clients \ px.leaving ev r } := ⟨rfl, rfl, rfl, rfl⟩
      unfold Websocket.leave
      split
      · exact (hlived.same hsame).close (hwf.opened r hr)
      · apply hlived.unmoved hsame
  | attach => exact hlived.unmoved ⟨rfl, rfl, rfl, rfl⟩
  | create hr _ hnew =>
      have hfresh := Websocket.new_fresh hnew
      rw [hr, hwf.blank px.opens (Nat.le_refl _)] at hlived ⊢
      have hmoves : moves = [] := by
        cases hlived with
        | unopened => rfl
        | connecting hstatus => cases hstatus
        | connected hstatus => cases hstatus
        | disconnecting _ hstatus => cases hstatus
        | disconnected _ _ _ hstarted => cases hstarted
      rw [hmoves, Websocket.statusMove_of_same hfresh.status]
      apply hfresh.lived
  | request =>
      rw [foldl_send_frame]
      exact hlived.unmoved ⟨rfl, rfl, rfl, rfl⟩
  | complete _ hcomplete => exact hlived.complete hphases hcomplete
  | enter _ hcomplete =>
      apply (hlived.complete hphases hcomplete).same
      exact ⟨rfl, rfl, rfl, rfl⟩
  | close _ hr => exact hlived.close (hwf.opened r hr)

/-- The status of a connection came about by the moves in the run. -/
theorem run_lived {guard : WebsocketProxy → Event → Prop} {pid : UInt64} {clock : ℕ → UInt64}
    {es : List Event} {px : WebsocketProxy} (h : system.RunUnder guard (start pid clock) es px)
    (r : ℕ) :
  (px.sockets r).Lived (system.outputs (statusMoves r) (start pid clock) es)
  := by
  induction h with
  | nil => exact Websocket.lived_blank
  | @snoc es px ev px' hrun hg hstep ih =>
      have hreachable : system.ReachableUnder guard px := ⟨_, _, ⟨pid, clock, rfl⟩, hrun⟩
      have hwf := reachable_wellFormed hreachable
      obtain ⟨t, gone, hchange, hdrains⟩ := step_change hwf hstep
      rw [hrun.outputs_snoc hstep, statusMoves, hdrains.sockets]
      exact (hchange.socket r).lived hwf (reachable_phases hreachable r) ih

/-! ### What is published -/

/-- Whether a step runs a handler of the connection at `r`. -/
def Event.completes (r : ℕ) : Event → Bool
  | .complete r' _ => r' = r
  | _ => false

/-- The data of the messages a step publishes, each with whether a handler of the connection
at `r` publishes it. -/
def publishedBy (r : ℕ) (px : WebsocketProxy) (ev : Event) (px' : WebsocketProxy) :
    List (Bool × Message.Data) :=
  (px'.serverQueue.drop px.serverQueue.length).map fun msg => (ev.completes r, msg.data)

theorem publishedBy_of_publishes {px px' : WebsocketProxy} {datas : List Message.Data}
    (h : px.Publishes datas px') (r : ℕ) (ev : Event) :
  px.publishedBy r ev px' = datas.map fun data => (ev.completes r, data)
  := by
  rw [publishedBy, h.serverQueue, List.drop_left, List.map_map]
  rfl

end WebsocketProxy

namespace Message.Data

/-- The message tells that the connection with the id was opened. -/
def Opens (id : UInt64) (data : Message.Data) : Prop := ∃ req, data = .openWs req ∧ req.id = id

/-- The message tells that the connection with the id was closed. -/
def Closes (id : UInt64) (data : Message.Data) : Prop := data = .closeWs { id }

/-- The message has data of the connection with the id. -/
def Carries (id : UInt64) (data : Message.Data) : Prop := ∃ m, data = .wsData m ∧ m.id = id

/-- The message tells about an error of the connection with the id. -/
def Reports (id : UInt64) (data : Message.Data) : Prop := ∃ m, data = .wsError m ∧ m.id = id

end Message.Data

namespace WebsocketProxy

/-- What may follow the closing of the connection with an id: no opening and no closing of
it, and no error from a handler of the connection. -/
def Late (id : UInt64) (entry : Bool × Message.Data) : Prop :=
  ¬ entry.2.Opens id ∧ ¬ entry.2.Closes id ∧ ¬ (entry.1 = true ∧ entry.2.Reports id)

/-- What is published for an id is in order: data comes after an opening, and only what may
follow the closing comes after it. -/
structure InOrder (id : UInt64) (log : List (Bool × Message.Data)) : Prop where
  opened : ∀ before entry after, log = before ++ entry :: after → entry.2.Carries id →
    ∃ e ∈ before, e.2.Opens id
  closed : log.Pairwise fun entry later => entry.2.Closes id → Late id later

/-- More is published in order. -/
theorem InOrder.append {id : UInt64} {log new : List (Bool × Message.Data)} (h : InOrder id log)
    (hdata : ∀ e ∈ new, e.2.Carries id → ∃ e' ∈ log, e'.2.Opens id)
    (hlate : (∃ e ∈ log, e.2.Closes id) → ∀ e ∈ new, Late id e)
    (hnew : new.Pairwise fun entry later => entry.2.Closes id → Late id later) :
  InOrder id (log ++ new)
  := by
  constructor
  · intro before entry after hsplit hcarries
    rcases List.append_eq_append_iff.mp hsplit with ⟨middle, rfl, hnew'⟩ | ⟨middle, rfl, hafter⟩
    · obtain ⟨e, he, hopens⟩ := hdata entry (hnew' ▸ List.mem_append_right _ (List.mem_cons_self ..))
        hcarries
      use e, List.mem_append_left _ he
    · cases middle with
      | nil =>
          rw [List.append_nil] at hdata
          apply hdata entry _ hcarries
          rw [← List.nil_append new, ← hafter]
          exact List.mem_cons_self ..
      | cons entry' middle =>
          obtain ⟨rfl, -⟩ := List.cons.inj hafter
          apply h.opened before entry middle rfl hcarries
  · rw [List.pairwise_append]
    use h.closed, hnew
    intro entry hentry later hlater hcloses
    exact hlate ⟨entry, hentry, hcloses⟩ later hlater

/-! ### What is published in a step -/

/-- What a call is about has the id of its connection. -/
theorem id_of_callData {px : WebsocketProxy} {r : ℕ} {call : Websocket.Callback}
    {data : Message.Data} (h : px.callData r call = some data) {id : UInt64}
    (hid : data.Opens id ∨ data.Closes id ∨ data.Carries id) :
  (px.sockets r).id = id
  := by
  cases call with
  | onWsError err =>
      obtain rfl := Option.some.inj h
      simp [Message.Data.Opens, Message.Data.Closes, Message.Data.Carries, errorData] at hid
  | onWsData data =>
      obtain rfl := Option.some.inj h
      simpa [Message.Data.Opens, Message.Data.Closes, Message.Data.Carries] using hid
  | onWsClosed =>
      obtain rfl := Option.some.inj h
      simpa [Message.Data.Opens, Message.Data.Closes, Message.Data.Carries] using hid
  | opened msg success =>
      cases success with
      | true =>
          obtain rfl := Option.some.inj h
          simpa [Message.Data.Opens, Message.Data.Closes, Message.Data.Carries] using hid
      | false => cases h

/-- Data comes of the call for data, and a closing of the call for it. -/
theorem callData_carries {px : WebsocketProxy} {r : ℕ} {call : Websocket.Callback}
    {data : Message.Data} (h : px.callData r call = some data) {id : UInt64}
    (hid : data.Carries id) :
  ∃ bytes, call = .onWsData bytes
  := by
  cases call with
  | onWsError | onWsClosed =>
      obtain rfl := Option.some.inj h
      obtain ⟨_, ⟨⟩, _⟩ := hid
  | onWsData bytes => use bytes
  | opened msg success =>
      cases success with
      | true =>
          obtain rfl := Option.some.inj h
          obtain ⟨_, ⟨⟩, _⟩ := hid
      | false => cases h

theorem callData_closes {px : WebsocketProxy} {r : ℕ} {call : Websocket.Callback}
    {data : Message.Data} (h : px.callData r call = some data) {id : UInt64}
    (hid : data.Closes id) :
  call = .onWsClosed
  := by
  cases call with
  | onWsError | onWsData =>
      obtain rfl := Option.some.inj h
      cases hid
  | onWsClosed => rfl
  | opened msg success =>
      cases success with
      | true =>
          obtain rfl := Option.some.inj h
          cases hid
      | false => cases h

/-- The state of the connection at `r`, and what was published for its id so far. -/
structure Orderly (px : WebsocketProxy) (r : ℕ) (id : UInt64) (log : List (Bool × Message.Data)) :
    Prop where
  order : InOrder id log
  read : 0 < (px.sockets r).reads → ∃ e ∈ log, e.2.Opens id
  done : (∃ e ∈ log, e.2.Closes id) → 0 < (px.sockets r).closesDone

/-- The completion of an operation keeps what is published in order. -/
theorem Orderly.complete {px px' : WebsocketProxy} {r r' : ℕ} {id : UInt64}
    {log : List (Bool × Message.Data)} {c : Websocket.Completion} (hpx : px.Orderly r id log)
    {moves : List Websocket.Status} (hlived : (px.sockets r).Lived moves)
    (hid : ∀ r', px.Constructed r' → (px.sockets r').id = id → r' = r)
    (h : px.step (.complete r' c) = some px') :
  InOrder id (log ++ px.publishedBy r (.complete r' c) px')
  := by
  obtain ⟨ws, calls, hcomplete, hpublishes⟩ := complete_publishes h
  have hconstructed := constructed_of_complete hcomplete
  have hcall : ∀ e ∈ (calls.filterMap (px.callData r')).map
      (fun data => (Event.completes r (.complete r' c), data)), ∃ call ∈ calls,
        px.callData r' call = some e.2 ∧ e.1 = decide (r' = r) := by
    intro e he
    obtain ⟨data, hdata, rfl⟩ := List.mem_map.mp he
    obtain ⟨call, hcall, hdata⟩ := List.mem_filterMap.mp hdata
    exact ⟨call, hcall, hdata, rfl⟩
  rw [publishedBy_of_publishes hpublishes]
  rcases eq_or_ne r' r with rfl | hne
  · apply hpx.order.append
    · intro e he hcarries
      obtain ⟨call, hcall, hdata, -⟩ := hcall e he
      obtain ⟨bytes, rfl⟩ := callData_carries hdata hcarries
      apply hpx.read (Websocket.complete_data hcomplete hcall)
    · intro hclosed e he
      obtain ⟨call, hcall, hdata, -⟩ := hcall e he
      obtain ⟨bytes, rfl⟩ := hlived.silent (hpx.done hclosed) hcomplete call hcall
      rw [Late, ← Option.some.inj hdata]
      refine ⟨?_, ?_, ?_⟩
      · rintro ⟨_, ⟨⟩, _⟩
      · rintro ⟨⟩
      · rintro ⟨-, _, ⟨⟩, _⟩
    · rw [List.pairwise_map, List.pairwise_filterMap]
      apply (Websocket.complete_closed_last hcomplete).imp
      intro call call' hcall data hdata _ _ hcloses
      exact absurd (callData_closes hdata hcloses) hcall
  · -- what another connection publishes has another id
    have hother : ∀ e ∈ (calls.filterMap (px.callData r')).map
        (fun data => (Event.completes r (.complete r' c), data)),
        ¬ e.2.Carries id ∧ Late id e := by
      intro e he
      obtain ⟨call, -, hdata, hown⟩ := hcall e he
      have hnot : ¬ (e.2.Opens id ∨ e.2.Closes id ∨ e.2.Carries id) :=
        fun h => hne (hid r' hconstructed (id_of_callData hdata h))
      rw [not_or, not_or] at hnot
      refine ⟨hnot.2.2, hnot.1, hnot.2.1, ?_⟩
      rintro ⟨htrue, -⟩
      rw [hown] at htrue
      apply hne (of_decide_eq_true htrue)
    apply hpx.order.append
    · intro e he hcarries
      exact absurd hcarries (hother e he).1
    · exact fun _ e he => (hother e he).2
    · apply List.pairwise_of_forall_mem_list
      intro e he e' he' hcloses
      exact absurd hcloses (hother e he).2.2.1

/-- Steps that are not completions publish no data and no closing. -/
theorem Announces.quiet {px : WebsocketProxy} {ev : Event} {data : Message.Data}
    (h : px.Announces ev data) (id : UInt64) :
  ¬ data.Carries id ∧ ¬ data.Closes id
  := by
  cases h with
  | heartbeat | failed | attached =>
      constructor
      · rintro ⟨_, ⟨⟩, _⟩
      · rintro ⟨⟩

/-- Other steps keep what is published in order. -/
theorem Orderly.other {px px' : WebsocketProxy} {r : ℕ} {id : UInt64}
    {log : List (Bool × Message.Data)} {ev : Event} (hpx : px.Orderly r id log)
    {moves : List Websocket.Status} (hlived : (px.sockets r).Lived moves)
    (hid : ∀ r', px.Constructed r' → (px.sockets r').id = id → r' = r)
    (h : px.step ev = some px') (hev : ∀ r c, ev ≠ .complete r c) :
  InOrder id (log ++ px.publishedBy r ev px')
  := by
  obtain ⟨datas, hpublishes, hannounces⟩ := step_publishes h hev
  have hother : ev.completes r = false := by
    cases ev with
    | complete r' c => exact absurd rfl (hev r' c)
    | _ => rfl
  have hopens : ∀ data, px.Announces ev data → 0 < (px.sockets r).closesDone →
      ¬ data.Opens id := by
    rintro data hdata hdone ⟨req, rfl, hsame⟩
    cases hdata with
    | @attached m req' r' hev hreq hpid hkey hlive =>
        have hconstructed : px.Constructed r' := by
          intro hblank
          rw [hblank] at hlive
          apply hlive (Or.inr rfl)
        obtain rfl := hid r' hconstructed hsame
        apply hlive (Or.inr (hlived.closed hdone).1)
  rw [publishedBy_of_publishes hpublishes, hother]
  apply hpx.order.append
  · intro e he hcarries
    obtain ⟨data, hdata, rfl⟩ := List.mem_map.mp he
    exact absurd hcarries ((hannounces data hdata).quiet id).1
  · intro hclosed e he
    obtain ⟨data, hdata, rfl⟩ := List.mem_map.mp he
    refine ⟨hopens data (hannounces data hdata) (hpx.done hclosed),
      ((hannounces data hdata).quiet id).2, ?_⟩
    rintro ⟨⟨⟩, -⟩
  · apply List.pairwise_of_forall_mem_list
    intro e he e' he' hcloses
    obtain ⟨data, hdata, rfl⟩ := List.mem_map.mp he
    exact absurd hcloses ((hannounces data hdata).quiet id).2

/-! ### Runs -/

/-- The connection of a completion is left as the completion leaves it, up to its clients. -/
theorem complete_socket {px px' : WebsocketProxy} {r : ℕ} {c : Websocket.Completion}
    (h : px.step (.complete r c) = some px') {ws : Websocket} {calls : List Websocket.Callback}
    (hcomplete : (px.sockets r).complete c = some (ws, calls)) :
  ∃ clients, px'.sockets r = { ws with clients }
  := by
  obtain ⟨⟨ws', calls'⟩, hcomplete', rfl⟩ := Option.map_eq_some_iff.mp (runHandler_of_step h)
  rw [hcomplete] at hcomplete'
  obtain ⟨rfl, rfl⟩ := Prod.mk.inj (Option.some.inj hcomplete')
  obtain ⟨clients, hsockets⟩ := foldl_callback_sockets r r calls
    { px with toTables := px.modifySocket r (fun _ => ws) }
  use clients
  rw [perform, hsockets]
  dsimp only
  rw [Tables.modifySocket_self]

/-- Reads of a connection start when it is completed only. -/
theorem SocketChange.reads {px : WebsocketProxy} {ev : Event} {r : ℕ} {ws : Websocket}
    (h : SocketChange px ev r ws) (hev : ∀ c, ev ≠ .complete r c) (hreads : 0 < ws.reads) :
  0 < (px.sockets r).reads
  := by
  cases h with
  | same | attach => exact hreads
  | leave =>
      unfold Websocket.leave at hreads
      split at hreads
      · rw [Websocket.close_frame] at hreads
        exact hreads
      · exact hreads
  | create _ _ hnew =>
      rw [(Websocket.new_fresh hnew).reads] at hreads
      exact absurd hreads (Nat.lt_irrefl 0)
  | request =>
      rw [foldl_send_frame] at hreads
      exact hreads
  | complete hev' => exact absurd hev' (hev _)
  | enter hev' => exact absurd hev' (hev _)
  | close =>
      rw [Websocket.close_frame] at hreads
      exact hreads

/-- Steps keep what is published for an id in order. -/
theorem Orderly.step {px px' : WebsocketProxy} {r : ℕ} {id : UInt64}
    {log : List (Bool × Message.Data)} {ev : Event} (hpx : px.Orderly r id log)
    (hwf : px.WellFormed) {moves : List Websocket.Status} (hlived : (px.sockets r).Lived moves)
    (hid : ∀ r', px.Constructed r' → ((px.sockets r').id = id ↔ r' = r))
    (h : px.step ev = some px') :
  px'.Orderly r id (log ++ px.publishedBy r ev px')
  := by
  have hid' : ∀ r', px.Constructed r' → (px.sockets r').id = id → r' = r :=
    fun r' hr' => (hid r' hr').mp
  constructor
  · rcases em (∃ r' c, ev = .complete r' c) with ⟨r', c, rfl⟩ | hother
    · apply hpx.complete hlived hid' h
    · exact hpx.other hlived hid' h (fun r' c hev => hother ⟨r', c, hev⟩)
  · intro hreads
    have hbefore : 0 < (px.sockets r).reads →
        ∃ e ∈ log ++ px.publishedBy r ev px', e.2.Opens id := by
      intro hbefore
      obtain ⟨e, he, hopens⟩ := hpx.read hbefore
      use e, List.mem_append_left _ he
    rcases em (∃ c, ev = .complete r c) with ⟨c, rfl⟩ | hother
    · obtain ⟨ws, calls, hcomplete, hpublishes⟩ := complete_publishes h
      obtain ⟨clients, hsocket⟩ := complete_socket h hcomplete
      rw [hsocket] at hreads
      rcases Websocket.complete_reads hcomplete hreads with hreads | ⟨port, msg, rfl, hopening⟩
      · apply hbefore hreads
      · obtain ⟨-, rfl⟩ := Websocket.complete_handshake hopening hcomplete
        rw [publishedBy_of_publishes hpublishes]
        refine ⟨_, List.mem_append_right _ (List.mem_singleton_self _), _, rfl, ?_⟩
        exact (hid r (constructed_of_complete hcomplete)).mpr rfl
    · apply hbefore
      obtain ⟨t, gone, hchange, hdrains⟩ := step_change hwf h
      rw [hdrains.sockets] at hreads
      exact (hchange.socket r).reads (fun c hev => hother ⟨c, hev⟩) hreads
  · rintro ⟨e, he, hcloses⟩
    rcases List.mem_append.mp he with he | he
    · have hdone := hpx.done ⟨e, he, hcloses⟩
      have hlt := lt_opens_of_constructed hwf (constructed_of_closesDone hdone)
      apply Nat.lt_of_lt_of_le hdone (step_frame hwf h hlt).closesDone_le
    · rcases em (∃ r' c, ev = .complete r' c) with ⟨r', c, rfl⟩ | hother
      · obtain ⟨ws, calls, hcomplete, hpublishes⟩ := complete_publishes h
        rw [publishedBy_of_publishes hpublishes] at he
        obtain ⟨data, hdata, rfl⟩ := List.mem_map.mp he
        obtain ⟨call, hcall, hdata⟩ := List.mem_filterMap.mp hdata
        obtain rfl := callData_closes hdata hcloses
        have hconstructed := constructed_of_complete hcomplete
        obtain rfl := hid' r' hconstructed (id_of_callData hdata (Or.inr (Or.inl hcloses)))
        obtain ⟨clients, hsocket⟩ := complete_socket h hcomplete
        rw [hsocket]
        rcases (Websocket.complete_spec hcomplete).calls with ⟨_, _, -, -, rfl, -⟩ |
          ⟨_, _, -, -, -, -, hdone, -⟩ | ⟨hsilent, -⟩
        · cases List.mem_singleton.mp hcall
        · change 0 < ws.closesDone
          rw [hdone]
          apply Nat.succ_pos _
        · cases hsilent _ hcall
      · obtain ⟨datas, hpublishes, hannounces⟩ :=
          step_publishes h (fun r' c hev => hother ⟨r', c, hev⟩)
        rw [publishedBy_of_publishes hpublishes] at he
        obtain ⟨data, hdata, rfl⟩ := List.mem_map.mp he
        exact absurd hcloses ((hannounces data hdata).quiet id).2

/-- What a run publishes is all that is in the queue of the server. -/
theorem run_publishedBy {guard : WebsocketProxy → Event → Prop} {pid : UInt64} {clock : ℕ → UInt64}
    {es : List Event} {px : WebsocketProxy} (h : system.RunUnder guard (start pid clock) es px)
    (r : ℕ) :
  (system.outputs (publishedBy r) (start pid clock) es).map Prod.snd
    = px.serverQueue.map Message.data
  := by
  induction h with
  | nil => rfl
  | @snoc es px ev px' hrun hg hstep ih =>
      have hqueue : ∃ datas, px.Publishes datas px' := by
        rcases em (∃ r' c, ev = .complete r' c) with ⟨r', c, rfl⟩ | hother
        · obtain ⟨ws, calls, -, hpublishes⟩ := complete_publishes hstep
          exact ⟨_, hpublishes⟩
        · obtain ⟨datas, hpublishes, -⟩ := step_publishes hstep (fun r' c hev => hother ⟨r', c, hev⟩)
          exact ⟨_, hpublishes⟩
      obtain ⟨datas, hpublishes⟩ := hqueue
      rw [hrun.outputs_snoc hstep, List.map_append, ih, publishedBy_of_publishes hpublishes,
        hpublishes.serverQueue, List.map_append, List.map_map, List.map_map]
      rfl

theorem start_orderly (pid : UInt64) (clock : ℕ → UInt64) (r : ℕ) (id : UInt64) :
  (start pid clock).Orderly r id []
  := by
  constructor
  · constructor
    · intro before entry after hsplit
      simp at hsplit
    · exact .nil
  · rintro ⟨⟩
  · rintro ⟨e, ⟨⟩, _⟩

theorem run_pid {guard : WebsocketProxy → Event → Prop} {pid : UInt64} {clock : ℕ → UInt64}
    {es : List Event} {px : WebsocketProxy} (h : system.RunUnder guard (start pid clock) es px) :
  px.pid = pid
  := by
  apply h.preserves (I := fun px => px.pid = pid)
  · intro px ev px' hpid _ hstep
    rw [step_pid hstep, hpid]
  · rfl

/-- In runs in which the counter of ids does not wrap, what is published for an id it gives
out is in order. -/
theorem run_orderly {pid : UInt64} {clock : ℕ → UInt64} {es : List Event} {px : WebsocketProxy}
    (h : system.RunUnder CountsOn (start pid clock) es px) {r : ℕ} (hr : r + 1 < 2 ^ 32) :
  px.Orderly r (pid * 10000 + UInt64.ofNat (r + 1))
    (system.outputs (publishedBy r) (start pid clock) es)
  := by
  induction h with
  | nil => apply start_orderly
  | @snoc es px ev px' hrun hcount hstep ih =>
      have hreachable : system.ReachableUnder CountsOn px := ⟨_, _, ⟨pid, clock, rfl⟩, hrun⟩
      have hwf := reachable_wellFormed hreachable
      have hnumbered := reachable_numbered (fun _ _ hcount => hcount) hreachable
      rw [hrun.outputs_snoc hstep]
      apply ih.step hwf (run_lived hrun r) _ hstep
      intro r' hr'
      rw [hnumbered.id r' hr', run_pid hrun]
      constructor
      · have hlt := lt_opens_of_constructed hwf hr'
        have hopens := hnumbered.opens_lt
        exact number_inj (by omega) hr
      · rintro rfl
        rfl

/-- In runs in which the counter of ids does not wrap, the status of a connection moves
forward only, at most one close of it is started, and what is published for its id is in
order. -/
theorem life_cycle {pid : UInt64} {clock : ℕ → UInt64} {es : List Event} {px : WebsocketProxy}
    (h : system.RunUnder CountsOn (start pid clock) es px) {r : ℕ} (hr : px.Constructed r) :
  (system.outputs (statusMoves r) (start pid clock) es
      <+: [.connecting, .connected, .disconnecting, .disconnected] ∨
    system.outputs (statusMoves r) (start pid clock) es
      <+: [.connecting, .disconnecting, .disconnected]) ∧
  (px.sockets r).closesStarted ≤ 1 ∧
  (system.outputs (publishedBy r) (start pid clock) es).map Prod.snd
    = px.serverQueue.map Message.data ∧
  InOrder (px.sockets r).id (system.outputs (publishedBy r) (start pid clock) es)
  := by
  have hlived := run_lived h r
  have hreachable : system.ReachableUnder CountsOn px := ⟨_, _, ⟨pid, clock, rfl⟩, h⟩
  have hnumbered := reachable_numbered (fun _ _ hcount => hcount) hreachable
  have hlt := lt_opens_of_constructed (reachable_wellFormed hreachable) hr
  have hopens := hnumbered.opens_lt
  refine ⟨hlived.moves, hlived.closesStarted_le, run_publishedBy h r, ?_⟩
  rw [hnumbered.id r hr, run_pid h]
  exact (run_orderly h (by omega)).order

/-- A connection is opened, and closed by its only client. -/
def openAndClose : List Event := openOne ++ [.closeWs 1 70001, .complete 0 (.close none)]

/-- The connection of this run goes through its whole life. -/
theorem life_cycle_openAndClose :
  ∃ px, system.RunUnder CountsOn (start 7 fun _ => 1) openAndClose px ∧
    (px.sockets 0).id = 70001 ∧ (px.sockets 0).status = .disconnected ∧
    (px.sockets 0).closesStarted ≤ 1 ∧
    InOrder (px.sockets 0).id
      (system.outputs (publishedBy 0) (start 7 fun _ => 1) openAndClose)
  := by
  have hexec : ∃ px ∈ system.execUnder CountsOn (start 7 fun _ => 1) openAndClose,
      (px.sockets 0).id = 70001 ∧ (px.sockets 0).status = .disconnected ∧
      0 < (px.sockets 0).closesDone := by
    decide +kernel
  obtain ⟨px, hrun, hid, hstatus, hdone⟩ := TransitionSystem.exists_runUnder hexec
  obtain ⟨-, hstarted, -, horder⟩ := life_cycle hrun (constructed_of_closesDone hdone)
  exact ⟨px, hrun, hid, hstatus, hstarted, horder⟩

end WebsocketProxy
