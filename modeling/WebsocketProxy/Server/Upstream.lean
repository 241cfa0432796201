import WebsocketProxy.Server.Grants
import WebsocketProxy.Server.LifeCycle

/-!
# What arrives from upstream

A connection reads messages of its remote server, and it is closed at last. The proxy publishes
each message that is read and each close, in the order in which they arrive over all connections,
and publishes no other data and no other close (`publishes_arrivals`).
-/

namespace WebsocketProxy

/-- What arrives at a connection: a message of the remote server, or the end of the close. -/
inductive Arrival where
  | data (bytes : Bytes)
  | closed
deriving DecidableEq

/-- What arrives in a step, with the reference of its connection. -/
def Event.arrival : Event → Option (ℕ × Arrival)
  | .complete r (.read (.ok bytes)) => some (r, .data bytes)
  | .complete r (.close _) => some (r, .closed)
  | _ => none

/-- What arrives in a run. -/
def arrivals (evs : List Event) : List (ℕ × Arrival) := evs.filterMap Event.arrival

/-- What the clients are told of an arrival. -/
def arrivalData (px : WebsocketProxy) : ℕ × Arrival → Message.Data
  | (r, .data bytes) => .wsData
      { id := (px.sockets r).id, len := UInt32.ofNat bytes.length, remaining := 0
        data := bytes.take (UInt32.ofNat bytes.length).toNat }
  | (r, .closed) => .closeWs { id := (px.sockets r).id }

/-- The message that the clients are told of an arrival with. -/
def tell (px : WebsocketProxy) (a : ℕ × Arrival) : Message := px.reserveMessage (px.arrivalData a)

theorem arrivals_snoc (evs : List Event) (ev : Event) :
  arrivals (evs ++ [ev]) = arrivals evs ++ ev.arrival.toList
  := by
  rw [arrivals, List.filterMap_append]
  cases h : ev.arrival with
  | none => rw [List.filterMap_cons_none h]; rfl
  | some a => rw [List.filterMap_cons_some h]; rfl

end WebsocketProxy

/-- The id of the connection, if the message tells of something that arrived from upstream. -/
def Message.Data.arrivalId : Message.Data → Option UInt64
  | .wsData m => some m.id
  | .closeWs m => some m.id
  | _ => none

/-- The message tells of something that arrived from upstream. -/
def Message.Data.isArrival (data : Message.Data) : Bool := data.arrivalId.isSome

namespace WebsocketProxy

/-! ### Steps -/

/-- A connection that fails tells of nothing that arrived. -/
theorem fail_arrivals {px : WebsocketProxy} {r : ℕ} {ws ws' : Websocket} {ec : ErrorCode}
    {callback : Option ℕ} {close : Bool} {calls : List Websocket.Callback}
    (h : ws.fail ec callback close = (ws', calls)) :
  (calls.filterMap (px.callData r)).filter Message.Data.isArrival = []
  := by
  obtain ⟨-, rfl⟩ := Prod.mk.inj h
  cases callback with
  | none => rfl
  | some msg => rfl

/-- A completion tells of what arrives in it. -/
theorem complete_arrivals {px : WebsocketProxy} {r : ℕ} {c : Websocket.Completion}
    {ws : Websocket} {calls : List Websocket.Callback}
    (h : (px.sockets r).complete c = some (ws, calls)) :
  (calls.filterMap (px.callData r)).filter Message.Data.isArrival
    = (Event.complete r c).arrival.toList.map px.arrivalData
  := by
  cases c with
  | resumed result =>
      obtain ⟨⟨stage, msg⟩, -, h⟩ := Option.bind_eq_some_iff.mp h
      cases stage with
      | spawned =>
          cases result with
          | success =>
              obtain ⟨-, rfl⟩ := Prod.mk.inj (Option.some.inj h)
              rfl
          | failure | hostNameNotSet => cases h
      | connect =>
          cases result with
          | success | failure | hostNameNotSet =>
              obtain ⟨-, rfl⟩ := Prod.mk.inj (Option.some.inj h)
              rfl
      | resolve | sslHandshake | handshake =>
          cases result with
          | success | failure =>
              obtain ⟨-, rfl⟩ := Prod.mk.inj (Option.some.inj h)
              rfl
          | hostNameNotSet => cases h
  | read result =>
      simp only [Websocket.complete] at h
      split at h
      case isTrue =>
        cases result with
        | error ec =>
            simp only [Websocket.onRead] at h
            split at h
            · exact fail_arrivals (Option.some.inj h)
            · obtain ⟨-, rfl⟩ := Prod.mk.inj (Option.some.inj h)
              rfl
        | ok bytes =>
            obtain ⟨-, rfl⟩ := Prod.mk.inj (Option.some.inj h)
            rfl
      case isFalse => cases h
  | write i ec =>
      obtain ⟨n, -, h⟩ := Option.map_eq_some_iff.mp h
      cases ec with
      | none =>
          obtain ⟨-, rfl⟩ := Prod.mk.inj h
          rfl
      | some ec =>
          simp only [Websocket.onWrite] at h
          split at h
          · exact fail_arrivals h
          · obtain ⟨-, rfl⟩ := Prod.mk.inj h
            rfl
  | close ec =>
      simp only [Websocket.complete] at h
      split at h
      case isTrue =>
        cases ec with
        | none =>
            obtain ⟨-, rfl⟩ := Prod.mk.inj (Option.some.inj h)
            rfl
        | some ec =>
            simp only [Websocket.onClose] at h
            split at h
            · obtain ⟨-, rfl⟩ := Prod.mk.inj (Option.some.inj h)
              rfl
            · obtain ⟨-, rfl⟩ := Prod.mk.inj (Option.some.inj h)
              rfl
      case isFalse => cases h

/-- What is not a completion announces nothing that arrived. -/
theorem Announces.not_arrival {px : WebsocketProxy} {ev : Event} {data : Message.Data}
    (h : px.Announces ev data) :
  data.isArrival = false
  := by
  cases h with
  | heartbeat | failed | attached => rfl

/-- A step publishes what arrives in it, and nothing else of this kind. -/
theorem step_arrivals {px px' : WebsocketProxy} {ev : Event} (h : px.step ev = some px') :
  ∃ datas, px.Publishes datas px' ∧
    datas.filter Message.Data.isArrival = ev.arrival.toList.map px.arrivalData
  := by
  rcases em (∃ r c, ev = .complete r c) with ⟨r, c, rfl⟩ | hother
  · obtain ⟨ws, calls, hcomplete, hpublishes⟩ := complete_publishes h
    exact ⟨_, hpublishes, complete_arrivals hcomplete⟩
  · obtain ⟨datas, hpublishes, hannounces⟩ := step_publishes h (fun r c hev => hother ⟨r, c, hev⟩)
    use datas, hpublishes
    have hnone : ev.arrival = none := by
      cases ev with
      | complete r c => exact absurd ⟨r, c, rfl⟩ hother
      | _ => rfl
    rw [hnone]
    apply List.filter_eq_nil_iff.mpr
    intro data hdata
    rw [(hannounces data hdata).not_arrival]
    exact Bool.false_ne_true

/-! ### Runs -/

/-- What arrived at connections that keep their ids is told in the same messages. -/
theorem map_tell_congr {px px' : WebsocketProxy} {as : List (ℕ × Arrival)}
    (hpid : px'.pid = px.pid) (h : ∀ a ∈ as, (px'.sockets a.1).id = (px.sockets a.1).id) :
  as.map px'.tell = as.map px.tell
  := by
  apply List.map_congr_left
  rintro ⟨r, arrival⟩ ha
  cases arrival with
  | data | closed => simp only [tell, reserveMessage, arrivalData, hpid, h _ ha]

/-- What arrives arrives at connections that were constructed. -/
theorem constructed_of_arrival {px px' : WebsocketProxy} {ev : Event} {a : ℕ × Arrival}
    (h : px.step ev = some px') (ha : ev.arrival = some a) :
  px.Constructed a.1
  := by
  cases ev with
  | complete r c =>
      obtain ⟨ws, calls, hcomplete, -⟩ := complete_publishes h
      have hr : a.1 = r := by
        cases c with
        | read result =>
            cases result with
            | ok => obtain rfl := Option.some.inj ha; rfl
            | error => cases ha
        | close => obtain rfl := Option.some.inj ha; rfl
        | resumed | write => cases ha
      rw [hr]
      apply constructed_of_complete hcomplete
  | _ => cases ha

/-- What arrived so far did so at connections that were constructed, and is told in that order
under the ids of the connections, which these keep. -/
theorem run_arrivals {guard : WebsocketProxy → Event → Prop} {pid : UInt64}
    {clock : ℕ → UInt64} {evs : List Event} {px : WebsocketProxy}
    (h : system.RunUnder guard (start pid clock) evs px) :
  (∀ a ∈ arrivals evs, px.Constructed a.1) ∧
    (px.serverQueue.filter fun m => m.data.isArrival) = (arrivals evs).map px.tell
  := by
  induction h with
  | nil =>
      constructor
      · rintro a ⟨⟩
      · rfl
  | @snoc evs px ev px' hrun hg hstep ih =>
      obtain ⟨hconstructed, hqueue⟩ := ih
      have hreachable : system.Reachable px :=
        TransitionSystem.ReachableUnder.reachable ⟨_, _, ⟨pid, clock, rfl⟩, hrun⟩
      have hwf := reachable_wellFormed hreachable
      obtain ⟨datas, hpublishes, hdatas⟩ := step_arrivals hstep
      rw [arrivals_snoc]
      have hnew : ∀ a ∈ arrivals evs ++ ev.arrival.toList, px.Constructed a.1 := by
        intro a ha
        rcases List.mem_append.mp ha with ha | ha
        · apply hconstructed a ha
        · apply constructed_of_arrival hstep (Option.mem_toList.mp ha)
      constructor
      · intro a ha
        apply step_constructed hreachable hstep (hnew a ha)
      · have hnews : (datas.map px.reserveMessage).filter (fun m => m.data.isArrival)
            = ev.arrival.toList.map px.tell := by
          rw [List.filter_map]
          change (datas.filter Message.Data.isArrival).map px.reserveMessage = _
          rw [hdatas, List.map_map]
          rfl
        have hids : ∀ a ∈ arrivals evs ++ ev.arrival.toList,
            (px'.sockets a.1).id = (px.sockets a.1).id := by
          intro a ha
          exact (step_frame hwf hstep (lt_opens_of_constructed hwf (hnew a ha))).id
        rw [map_tell_congr hpublishes.pid hids, hpublishes.serverQueue, List.filter_append, hqueue,
          hnews, List.map_append]

/-- As long as the counter of ids does not wrap, what is told under the id of a connection is what
arrived at it. -/
theorem run_arrivals_at {pid : UInt64} {clock : ℕ → UInt64} {evs : List Event}
    {px : WebsocketProxy} (h : system.RunUnder CountsOn (start pid clock) evs px) {r : ℕ}
    (hr : px.Constructed r) :
  (px.serverQueue.filter fun m => m.data.arrivalId = some (px.sockets r).id)
    = ((arrivals evs).filter fun a => a.1 = r).map px.tell
  := by
  obtain ⟨hconstructed, hqueue⟩ := run_arrivals h
  have hreachable : system.ReachableUnder CountsOn px := ⟨_, _, ⟨pid, clock, rfl⟩, h⟩
  have hwf := reachable_wellFormed hreachable
  have hnumbered := reachable_numbered (fun _ _ hcount => hcount) hreachable
  have hid : ∀ a : ℕ × Arrival, (px.tell a).data.arrivalId = some (px.sockets a.1).id := by
    rintro ⟨r', arrival⟩
    cases arrival with
    | data | closed => rfl
  have hown : ∀ m ∈ px.serverQueue, decide (m.data.arrivalId = some (px.sockets r).id)
      = (decide (m.data.arrivalId = some (px.sockets r).id) && m.data.isArrival) := by
    intro m _
    rcases em (m.data.arrivalId = some (px.sockets r).id) with htells | hnot
    · rw [Message.Data.isArrival, htells, Option.isSome_some, Bool.and_true]
    · rw [decide_eq_false hnot, Bool.false_and]
  rw [List.filter_congr hown, ← List.filter_filter, hqueue, List.filter_map]
  congr 1
  apply List.filter_congr
  intro a ha
  apply decide_eq_decide.mpr
  rw [hid, Option.some_inj]
  constructor
  · apply hnumbered.id_inj hwf (hconstructed a ha) hr
  · rintro rfl
    rfl

/-- In every run, the messages that tell of data or of a close are those of what arrived, each
once and in that order; and as long as the counter of ids does not wrap, those under the id of a
connection are those of what arrived at this connection. -/
theorem publishes_arrivals {pid : UInt64} {clock : ℕ → UInt64} {evs : List Event}
    {px : WebsocketProxy} (h : system.RunUnder CountsOn (start pid clock) evs px) :
  (px.serverQueue.filter fun m => m.data.isArrival) = (arrivals evs).map px.tell ∧
    ∀ r, px.Constructed r →
      (px.serverQueue.filter fun m => m.data.arrivalId = some (px.sockets r).id)
        = ((arrivals evs).filter fun a => a.1 = r).map px.tell
  := by
  use (run_arrivals h).2
  exact fun r hr => run_arrivals_at h hr

/-- A connection is opened, reads two messages, fails, and is closed. -/
def openAndRead : List Event :=
  openOne ++ [.complete 0 (.read (.ok [1])), .complete 0 (.read (.ok [2, 3])),
    .complete 0 (.read (.error ⟨.other, []⟩)), .complete 0 (.close none)]

theorem publishes_arrivals_openAndRead :
  ∃ px, system.RunUnder CountsOn (start 7 fun _ => 1) openAndRead px ∧
    (px.serverQueue.filter fun m => m.data.arrivalId = some 70001).map Message.data
      = [.wsData { id := 70001, len := 1, remaining := 0, data := [1] },
        .wsData { id := 70001, len := 2, remaining := 0, data := [2, 3] },
        .closeWs { id := 70001 }]
  := by
  have hexec : ∃ px ∈ system.execUnder CountsOn (start 7 fun _ => 1) openAndRead,
      px.pid = 7 ∧ (px.sockets 0).id = 70001 ∧ 0 < (px.sockets 0).closesDone := by
    decide +kernel
  obtain ⟨px, hrun, hpid, hid, hdone⟩ := TransitionSystem.exists_runUnder hexec
  obtain ⟨-, hown⟩ := publishes_arrivals hrun
  use px, hrun
  rw [← hid, hown 0 (constructed_of_closesDone hdone)]
  rfl

end WebsocketProxy
