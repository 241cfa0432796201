import WebsocketProxy.Server.Upstream
import WebsocketProxy.Session.Reading

/-!
# From upstream to the client

A message that a connection reads is published once for all clients, and a client is called back
with it if it has the connection. The data that a client is called back with for a connection is
a part without gaps of what the connection has read, from where the client was told of the
connection on: each message once, and in order. For the client that the connection was opened for
it begins with the first message, and it is all of them, once the client has read all that was
published and as long as the connection is not closed (`delivered_from_upstream`).
-/

/-- What is delivered of a message that is read: its data, its length and what remains. -/
abbrev Chunk := Bytes × UInt32 × UInt32

/-- The data that a message has of a connection. -/
def Message.payload (id : UInt64) (msg : Message) : Option Chunk :=
  match msg.data with
  | .wsData m => if m.id = id then some (m.data, m.len, m.remaining) else none
  | _ => none

/-- The message tells the client `p` of a connection. -/
def Message.Data.TellsOf (p id : UInt64) (data : Message.Data) : Prop :=
  ∃ req, data = .openWs req ∧ req.clientPid = p ∧ req.id = id

/-- The data that a callback reports of a connection. -/
def WebsocketProxyCallback.payload (id : UInt64) : WebsocketProxyCallback → Option Chunk
  | onWebsocketData id' data len remaining => if id' = id then some (data, len, remaining) else none
  | _ => none

namespace WebsocketProxy

/-- The data of what arrives. -/
def Arrival.payload : Arrival → Option Chunk
  | data bytes =>
      some (bytes.take (UInt32.ofNat bytes.length).toNat, UInt32.ofNat bytes.length, 0)
  | closed => none

/-- The data that a connection has read. -/
def dataRead (evs : List Event) (r : ℕ) : List Chunk :=
  ((arrivals evs).filter fun a => a.1 = r).filterMap fun a => a.2.payload

/-- The data that is published for a connection is what it has read. -/
theorem run_dataRead {pid : UInt64} {clock : ℕ → UInt64} {evs : List Event} {px : WebsocketProxy}
    (h : system.RunUnder CountsOn (start pid clock) evs px) {r : ℕ} (hr : px.Constructed r) :
  px.serverQueue.filterMap (Message.payload (px.sockets r).id) = dataRead evs r
  := by
  have hfilter : px.serverQueue.filterMap (Message.payload (px.sockets r).id)
      = (px.serverQueue.filter fun m => m.data.arrivalId = some (px.sockets r).id).filterMap
        (Message.payload (px.sockets r).id) := by
    rw [List.filterMap_filter]
    apply List.filterMap_congr
    intro m _
    cases hdata : m.data with
    | wsData m' =>
        simp only [Message.payload, hdata, Message.Data.arrivalId, Option.some_inj,
          decide_eq_true_eq]
        split
        · rfl
        · rfl
    | _ =>
        simp only [Message.payload, hdata]
        split
        · rfl
        · rfl
  rw [hfilter, run_arrivals_at h hr, List.filterMap_map, dataRead]
  apply List.filterMap_congr
  rintro ⟨r', arrival⟩ ha
  obtain rfl : r' = r := of_decide_eq_true (List.mem_filter.mp ha).2
  cases arrival with
  | data => exact if_pos rfl
  | closed => rfl

/-- What is published for the id of a connection is in order: data comes after an opening, and
nothing is opened after the close. -/
theorem run_ordered {pid : UInt64} {clock : ℕ → UInt64} {evs : List Event} {px : WebsocketProxy}
    (h : system.RunUnder CountsOn (start pid clock) evs px) {r : ℕ} (hr : px.Constructed r) :
  (∀ before m after, px.serverQueue = before ++ m :: after → m.data.Carries (px.sockets r).id →
    ∃ m' ∈ before, m'.data.Opens (px.sockets r).id) ∧
  px.serverQueue.Pairwise fun m m' =>
    m.data.Closes (px.sockets r).id → ¬ m'.data.Opens (px.sockets r).id
  := by
  have hreachable : system.ReachableUnder CountsOn px := ⟨_, _, ⟨pid, clock, rfl⟩, h⟩
  have hnumbered := reachable_numbered (fun _ _ hcount => hcount) hreachable
  have hlt := lt_opens_of_constructed (reachable_wellFormed hreachable) hr
  have hopens := hnumbered.opens_lt
  have horder : InOrder (px.sockets r).id
      (system.outputs (publishedBy r) (start pid clock) evs) := by
    rw [hnumbered.id r hr, run_pid h]
    exact (run_orderly h (by omega)).order
  have hlog := run_publishedBy h r
  generalize system.outputs (publishedBy r) (start pid clock) evs = log at horder hlog
  constructor
  · intro before m after hqueue hcarries
    rw [hqueue, List.map_append, List.map_cons] at hlog
    obtain ⟨before', rest, rfl, hbefore, hrest⟩ := List.map_eq_append_iff.mp hlog
    obtain ⟨e, after', rfl, he, -⟩ := List.map_eq_cons_iff.mp hrest
    rw [← he] at hcarries
    obtain ⟨e', he', hopens⟩ := horder.opened before' e after' rfl hcarries
    have hmem : e'.2 ∈ before.map Message.data := hbefore ▸ List.mem_map_of_mem he'
    obtain ⟨m', hm', hdata⟩ := List.mem_map.mp hmem
    use m', hm'
    rw [hdata]
    exact hopens
  · have hpairs : (log.map Prod.snd).Pairwise fun data data' =>
        data.Closes (px.sockets r).id → ¬ data'.Opens (px.sockets r).id := by
      apply List.pairwise_map.mpr
      apply horder.closed.imp
      exact fun hlate hcloses => (hlate hcloses).1
    rw [hlog] at hpairs
    exact List.pairwise_map.mp hpairs

end WebsocketProxy

namespace WebsocketProxyClient

variable {c : WebsocketProxyClient} {id : UInt64} {msgs : List Message}

/-- The data that the client was called back with for a connection. -/
def delivered (c : WebsocketProxyClient) (id : UInt64) : List Chunk :=
  c.called.filterMap (WebsocketProxyCallback.payload id)

theorem handleMessage_delivered (c : WebsocketProxyClient) (msg : Message) (id : UInt64) :
  (c.handleMessage msg).delivered id
    = c.delivered id ++ if id ∈ c.websockets then (msg.payload id).toList else []
  := by
  rw [delivered, handleMessage_called, List.filterMap_append]
  congr 1
  cases hdata : msg.data with
  | wsData m =>
      simp only [calls, Message.payload, hdata]
      rcases eq_or_ne m.id id with rfl | hne
      · rw [if_pos rfl]
        split
        · simp only [List.filterMap_cons, WebsocketProxyCallback.payload, if_true,
            List.filterMap_nil, Option.toList_some]
        · rfl
      · rw [if_neg hne, Option.toList_none, ite_self]
        split
        · simp only [List.filterMap_cons, WebsocketProxyCallback.payload, if_neg hne,
            List.filterMap_nil]
        · rfl
  | openWs | closeWs | wsError =>
      simp only [calls, Message.payload, hdata, Option.toList_none, ite_self]
      split
      · rfl
      · rfl
  | _ => simp only [calls, Message.payload, hdata, Option.toList_none, ite_self, List.filterMap_nil]

/-- A client that gives the server up gets no data. -/
theorem giveUp_delivered (c : WebsocketProxyClient) (id : UInt64) :
  c.giveUp.delivered id = c.delivered id
  := by
  have hnone : ((Observation.callback .onWebsocketProxyServerDisconnected ::
      closes c.websockets.keys).filterMap Observation.call).filterMap
        (WebsocketProxyCallback.payload id) = [] := by
    rw [List.filterMap_filterMap]
    apply List.filterMap_eq_nil_iff.mpr
    intro o ho
    rcases List.mem_cons.mp ho with rfl | ho
    · rfl
    · obtain ⟨id', -, rfl⟩ := List.mem_map.mp ho
      rfl
  rw [delivered, called, giveUp_keeps, List.filterMap_append, List.filterMap_append, hnone,
    List.append_nil]
  rfl

theorem hear_cons (c : WebsocketProxyClient) (msg : Message) (msgs : List Message) :
  c.hear (msg :: msgs) = (c.handleMessage msg).hear msgs
  := rfl

theorem hear_append (c : WebsocketProxyClient) (msgs msgs' : List Message) :
  c.hear (msgs ++ msgs') = (c.hear msgs).hear msgs'
  := List.foldl_append ..

theorem handleMessage_pid (c : WebsocketProxyClient) (msg : Message) :
  (c.handleMessage msg).pid = c.pid
  := by
  obtain ⟨websockets, trace, hc⟩ := handleMessage_keeps c msg
  rw [hc]

/-- A client that is not told of a connection gets no data of it. -/
theorem hear_untold (hid : id ∉ c.websockets)
    (huntold : ∀ m ∈ msgs, ¬ m.data.TellsOf c.pid id) :
  id ∉ (c.hear msgs).websockets ∧ (c.hear msgs).pid = c.pid ∧
    (c.hear msgs).delivered id = c.delivered id
  := by
  induction msgs generalizing c with
  | nil => exact ⟨hid, rfl, rfl⟩
  | cons m msgs ih =>
      have hpid := handleMessage_pid c m
      have hnot : id ∉ (c.handleMessage m).websockets := by
        rw [mem_handleMessage]
        cases hdata : m.data with
        | openWs req =>
            rintro (⟨hpid, hreq⟩ | hmem)
            · exact huntold m List.mem_cons_self ⟨req, hdata, hpid, hreq.symm⟩
            · exact hid hmem
        | closeWs req => exact fun h => hid h.2
        | _ => exact hid
      obtain ⟨hids, hpid', hdelivered⟩ := ih hnot (by
        rw [hpid]
        exact fun m' hm' => huntold m' (List.mem_cons_of_mem m hm'))
      rw [hear_cons]
      refine ⟨hids, hpid'.trans hpid, hdelivered.trans ?_⟩
      rw [handleMessage_delivered, if_neg hid, List.append_nil]

/-- A client that has a connection gets the data of it up to the close. -/
theorem hear_open (hid : id ∈ c.websockets)
    (hclosed : msgs.Pairwise fun m m' => m.data.Closes id → ¬ m'.data.Opens id) :
  ∃ got rest, msgs.filterMap (Message.payload id) = got ++ rest ∧
    (c.hear msgs).delivered id = c.delivered id ++ got ∧
    ((∀ m ∈ msgs, ¬ m.data.Closes id) → rest = [])
  := by
  induction msgs generalizing c with
  | nil => exact ⟨[], [], rfl, (List.append_nil _).symm, fun _ => rfl⟩
  | cons m msgs ih =>
      obtain ⟨hlate, hclosed⟩ := List.pairwise_cons.mp hclosed
      have hpid := handleMessage_pid c m
      rcases em (m.data.Closes id) with hcloses | hnot
      · have hgone : id ∉ (c.handleMessage m).websockets := by
          rw [mem_handleMessage, hcloses]
          exact fun h => h.1 rfl
        have huntold : ∀ m' ∈ msgs, ¬ m'.data.TellsOf (c.handleMessage m).pid id := by
          rintro m' hm' ⟨req, hreq, -, hid'⟩
          apply hlate m' hm' hcloses ⟨req, hreq, hid'⟩
        obtain ⟨-, -, hdelivered⟩ := hear_untold hgone huntold
        have hpayload : m.payload id = none := by
          rw [Message.payload, hcloses]
        refine ⟨[], (m :: msgs).filterMap (Message.payload id), rfl, ?_, ?_⟩
        · rw [hear_cons, hdelivered, handleMessage_delivered, hpayload, Option.toList_none,
            ite_self]
        · exact fun hnone => absurd hcloses (hnone m List.mem_cons_self)
      · have hstays : id ∈ (c.handleMessage m).websockets := by
          rw [mem_handleMessage]
          cases hdata : m.data with
          | openWs req => exact Or.inr hid
          | closeWs req =>
              refine ⟨?_, hid⟩
              rintro rfl
              exact hnot hdata
          | _ => exact hid
        obtain ⟨got, rest, hpayloads, hdelivered, hrest⟩ := ih hstays hclosed
        refine ⟨(m.payload id).toList ++ got, rest, ?_, ?_, ?_⟩
        · rw [List.append_assoc, ← hpayloads]
          cases hpayload : m.payload id with
          | none => rw [List.filterMap_cons_none hpayload]; rfl
          | some payload => rw [List.filterMap_cons_some hpayload]; rfl
        · rw [hear_cons, hdelivered, handleMessage_delivered, if_pos hid, List.append_assoc]
        · exact fun hnone => hrest fun m' hm' => hnone m' (List.mem_cons_of_mem m hm')

/-- A client that is told of a connection gets the data of it from then on, up to the close. -/
theorem hear_told {before after : List Message} {m : Message} (hid : id ∉ c.websockets)
    (hbefore : ∀ m' ∈ before, ¬ m'.data.TellsOf c.pid id) (hm : m.data.TellsOf c.pid id)
    (hclosed : after.Pairwise fun m m' => m.data.Closes id → ¬ m'.data.Opens id) :
  ∃ got rest, after.filterMap (Message.payload id) = got ++ rest ∧
    (c.hear (before ++ m :: after)).delivered id = c.delivered id ++ got ∧
    ((∀ m ∈ after, ¬ m.data.Closes id) → rest = [])
  := by
  obtain ⟨hnot, hpid, hdelivered⟩ := hear_untold hid hbefore
  obtain ⟨req, hreq, hclient, hreqId⟩ := hm
  have htold : id ∈ ((c.hear before).handleMessage m).websockets := by
    rw [mem_handleMessage, hreq]
    exact Or.inl ⟨hclient.trans hpid.symm, hreqId.symm⟩
  obtain ⟨got, rest, hpayloads, hgot, hrest⟩ := hear_open htold hclosed
  refine ⟨got, rest, hpayloads, ?_, hrest⟩
  rw [hear_append, hear_cons, hgot, handleMessage_delivered, if_neg hnot, List.append_nil,
    hdelivered]

end WebsocketProxyClient

namespace Session

open WebsocketProxyClient (HearsAlike)

/-- The handlers of the server in a run. -/
def Event.handler : Event → Option WebsocketProxy.Event
  | server ev => some ev
  | client .. => none

/-- The server of a session runs by itself, with its handlers. -/
theorem run_handlers {guard : Session → Event → Prop}
    {guard' : WebsocketProxy → WebsocketProxy.Event → Prop}
    (hguard : ∀ s ev, guard s (.server ev) → guard' s.server ev) {s s' : Session}
    {es : List Event} (h : system.RunUnder guard s es s') :
  WebsocketProxy.system.RunUnder guard' s.server (es.filterMap Event.handler) s'.server
  := by
  induction h with
  | nil => exact .nil
  | @snoc es t ev u hrun hg hstep ih =>
      rw [List.filterMap_append]
      cases ev with
      | server ev =>
          obtain ⟨-, px, hpx, rfl⟩ := step_server hstep
          exact ih.snoc (hguard t ev hg) hpx
      | client q ev =>
          obtain ⟨-, c, published, -, rfl⟩ := step_client hstep
          rw [List.filterMap_cons_none rfl, List.filterMap_nil, List.append_nil]
          exact ih

variable {s s' : Session} {p id : UInt64}

/-- What the client `p` has read does not tell it of a connection. -/
def Untold (s : Session) (p id : UInt64) : Prop :=
  ∀ m ∈ s.server.serverQueue.take (s.index p), ¬ m.data.TellsOf p id

/-- A client that was not told of a connection does not have it, and got no data of it. -/
def Unheard (c : WebsocketProxyClient) (id : UInt64) : Prop :=
  id ∉ c.websockets ∧ c.delivered id = []

theorem Unheard.alike {c d : WebsocketProxyClient} (h : Unheard c id) (halike : HearsAlike d c) :
  Unheard d id
  := by
  constructor
  · exact fun hid => h.1 ((halike.ids id).mp hid)
  · rw [WebsocketProxyClient.delivered, halike.called]
    exact h.2

theorem reachable_unheard (h : system.ReachableUnder (AwaitedKept p) s) (huntold : s.Untold p id) :
  Unheard (s.clients p) id
  := by
  revert huntold
  apply h.invariant (I := fun s => s.Untold p id → Unheard (s.clients p) id)
  · rintro _ ⟨pid, clock, names, rfl⟩ -
    exact ⟨AList.notMem_empty id, rfl⟩
  · intro s ev s' hs ih _ hstep huntold
    cases ev with
    | server ev =>
        obtain ⟨-, px, hpx, rfl⟩ := step_server hstep
        obtain ⟨news, hnews⟩ := WebsocketProxy.step_serverQueue hpx
        apply ih
        intro m hm
        apply huntold m
        change m ∈ px.serverQueue.take (s.index p)
        rw [hnews, List.take_append_of_le_length (reachable_index_le hs.reachable p)]
        exact hm
    | client q ev =>
        obtain ⟨hfinds, c, published, hc, rfl⟩ := step_client hstep
        rcases eq_or_ne p q with rfl | hne
        · have hself : (s.updateClient p (c, published)).clients p = c := Function.update_self ..
          have hindex : (s.updateClient p (c, published)).index p = c.serverQueueIndex :=
            congrArg WebsocketProxyClient.serverQueueIndex hself
          replace huntold : ∀ m ∈ s.server.serverQueue.take c.serverQueueIndex,
              ¬ m.data.TellsOf p id := by
            rw [← hindex]
            exact huntold
          have hstep := WebsocketProxyClient.perform_step hc
          rw [hself]
          rcases em ev.Stays with hstays | hnot
          · rcases em (∃ msg, ev = .read (some msg)) with ⟨msg, rfl⟩ | hread
            · have hmsg : s.server.serverQueue[s.index p]? = some msg := hfinds.symm
              obtain ⟨serverPid, hloaded, hnext, hreads⟩ := hstep.reads
              have hpid : serverPid = msg.pid := by
                rw [(reachable_served hs).loaded hloaded]
                symm
                apply WebsocketProxy.reachable_published_pid (reachable_taken hs.reachable).1
                apply List.mem_of_getElem? hmsg
              have htake : s.server.serverQueue.take c.serverQueueIndex
                  = s.server.serverQueue.take (s.index p) ++ [msg] := by
                rw [hnext, List.take_add_one]
                change _ ++ s.server.serverQueue[s.index p]?.toList = _
                rw [hmsg, Option.toList_some]
                rfl
              rw [htake] at huntold
              obtain ⟨hids, hdelivered⟩ :=
                ih fun m hm => huntold m (List.mem_append_left _ hm)
              have hlast : ∀ m ∈ [msg], ¬ m.data.TellsOf (s.clients p).pid id := by
                rw [(reachable_client hs.reachable p).2]
                exact fun m hm => huntold m (List.mem_append_right _ hm)
              obtain ⟨hids', -, hdelivered'⟩ := WebsocketProxyClient.hear_untold hids hlast
              exact Unheard.alike ⟨hids', hdelivered'.trans hdelivered⟩ (hreads hpid).1
            · obtain ⟨hsame, halike, -⟩ :=
                hstep.reads_nothing hstays fun msg hev => hread ⟨msg, hev⟩
              rw [hsame] at huntold
              exact Unheard.alike (ih huntold) halike
          · cases hstep with
            | @spawned o index =>
                obtain rfl : index = s.server.serverQueue.length := hfinds
                rw [List.take_length] at huntold
                apply ih
                exact fun m hm => huntold m (List.mem_of_mem_take hm)
            | ready hcaller hzero =>
                apply ih
                intro m hm
                have hm : m ∈ s.server.serverQueue.take (s.clients p).serverQueueIndex := hm
                rw [hzero] at hm
                cases hm
            | disconnect =>
                rw [WebsocketProxyClient.giveUp_keeps] at huntold
                obtain ⟨-, hdelivered⟩ := ih huntold
                rw [← WebsocketProxyClient.giveUp_delivered] at hdelivered
                refine ⟨?_, hdelivered⟩
                rw [WebsocketProxyClient.giveUp_keeps]
                apply AList.notMem_empty
            | _ => exact absurd trivial hnot
        · have hother : (s.updateClient q (c, published)).clients p = s.clients p :=
            Function.update_of_ne hne ..
          rw [hother]
          apply ih
          intro m hm
          apply huntold m
          rw [index, hother]
          exact hm

/-- What was published stays. -/
theorem serverQueue_extends {guard : Session → Event → Prop} {es : List Event}
    (h : system.RunUnder guard s es s') :
  s.server.serverQueue <+: s'.server.serverQueue
  := by
  induction h with
  | nil => apply List.prefix_refl
  | @snoc es t ev u _ _ hstep ih =>
      apply ih.trans
      cases ev with
      | server ev =>
          obtain ⟨-, px, hpx, rfl⟩ := step_server hstep
          obtain ⟨news, hnews⟩ := WebsocketProxy.step_serverQueue hpx
          exact ⟨news, hnews.symm⟩
      | client q ev =>
          obtain ⟨-, c, published, -, rfl⟩ := step_client hstep
          apply List.prefix_refl

/-- What a client was called back with for a connection is a part without gaps of what is
published for it, from where the client is told of the connection on. -/
theorem delivered_of_queue {fs : List Event} (hs : system.ReachableUnder (AwaitedKept p) s)
    (hrun : system.RunUnder (Stays p) s fs s') {before after : List Message} {m : Message}
    (hqueue : s'.server.serverQueue = before ++ m :: after)
    (hbefore : ∀ m' ∈ before, ¬ m'.data.TellsOf p id) (hm : m.data.TellsOf p id)
    (hi : s.index p ≤ before.length)
    (hclosed : after.Pairwise fun m m' => m.data.Closes id → ¬ m'.data.Opens id) :
  ∃ pending, after.filterMap (Message.payload id) = (s'.clients p).delivered id ++ pending ∧
    (s'.index p = s'.server.serverQueue.length → (∀ m' ∈ after, ¬ m'.data.Closes id) →
      pending = [])
  := by
  have hpid := (reachable_client hs.reachable p).2
  have hlength : (before ++ m :: after).length = before.length + (after.length + 1) := by
    rw [List.length_append, List.length_cons]
  obtain ⟨hids, hnone⟩ : Unheard (s.clients p) id := by
    apply reachable_unheard hs
    intro m' hm'
    apply hbefore
    have hprefix : s.server.serverQueue.take (s.index p) <+: before := by
      apply List.prefix_of_prefix_length_le _ (List.prefix_append before (m :: after))
      · apply (List.length_take_le _ _).trans hi
      · rw [← hqueue]
        apply (List.take_prefix _ _).trans (serverQueue_extends hrun)
    apply hprefix.subset hm'
  have hhears := run_hears hs hrun
  have hdelivered : (s'.clients p).delivered id
      = ((s.clients p).hear (s'.readFrom p (s.index p))).delivered id := by
    rw [WebsocketProxyClient.delivered, hhears.alike.called]
    rfl
  rw [hdelivered, readFrom, hqueue]
  rw [← hpid] at hbefore hm
  rcases Nat.lt_or_ge before.length (s'.index p) with hlt | hge
  · -- the client has read that it is told of the connection
    obtain ⟨k, hk⟩ := Nat.exists_eq_add_of_lt hlt
    have hread : ((before ++ m :: after).take (s'.index p)).drop (s.index p)
        = before.drop (s.index p) ++ m :: after.take k := by
      rw [hk, Nat.add_assoc, List.take_length_add_append, List.take_succ_cons,
        List.drop_append_of_le_length hi]
    have hlate : (after.take k).Pairwise fun m m' => m.data.Closes id → ¬ m'.data.Opens id :=
      hclosed.sublist (List.take_sublist k after)
    obtain ⟨got, rest, hpayloads, hgot, hrest⟩ := WebsocketProxyClient.hear_told hids
      (fun m' hm' => hbefore m' (List.mem_of_mem_drop hm')) hm hlate
    use rest ++ (after.drop k).filterMap (Message.payload id)
    constructor
    · rw [hread, hgot, hnone, List.nil_append, ← List.append_assoc, ← hpayloads,
        ← List.filterMap_append, List.take_append_drop]
    · intro hall hopen
      have hlast : after.drop k = [] := by
        apply List.drop_eq_nil_of_le
        omega
      rw [hrest fun m' hm' => hopen m' (List.mem_of_mem_take hm'), hlast]
      rfl
  · have huntold : ∀ m' ∈ ((before ++ m :: after).take (s'.index p)).drop (s.index p),
        ¬ m'.data.TellsOf (s.clients p).pid id := by
      intro m' hm'
      apply hbefore
      have hmem := List.mem_of_mem_drop hm'
      rw [List.take_append_of_le_length hge] at hmem
      apply List.mem_of_mem_take hmem
    obtain ⟨-, -, hquiet⟩ := WebsocketProxyClient.hear_untold hids huntold
    use after.filterMap (Message.payload id)
    rw [hquiet, hnone]
    use rfl
    intro hall
    omega

end Session
