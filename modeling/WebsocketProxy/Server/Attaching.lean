import WebsocketProxy.Server.OpenAnswers
import WebsocketProxy.Server.Published

/-!
# Which request attaches a client

An `OpenWs` message attaches its sender when it is handled, and the client that is read in its
slot when the opening for it succeeds. Either way the message is answered with `SUCCESS` in the
same step. No other step that is about the message attaches a client to a connection, or tells
a client of one.
-/

/-- The message tells the client `p` that a connection was opened for it. -/
def Message.Tells (p : UInt64) (m : Message) : Prop :=
  match m.data with
  | .openWs req => req.clientPid = p
  | _ => False

instance (p : UInt64) (m : Message) : Decidable (m.Tells p) := by
  unfold Message.Tells
  split <;> infer_instance

namespace WebsocketProxy

/-- A step is about message `n`: it takes the message, or completes an operation of a connection
that is being opened for it. -/
def Concerns (px : WebsocketProxy) (n : ℕ) : Event → Prop
  | .processClientMessage (some _) => px.taken = n
  | .complete r _ => (px.sockets r).opening.map Prod.snd = some n
  | _ => False

/-- The client `p` is attached to a connection between two states. -/
def Joins (p : UInt64) (px px' : WebsocketProxy) : Prop :=
  ∃ r < px'.opens, p ∈ (px'.sockets r).clients ∧ p ∉ (px.sockets r).clients

/-- The numbers of the messages published between two states that tell the client `p` of a
connection. -/
def announcements (p : UInt64) (px px' : WebsocketProxy) : List ℕ :=
  (List.range px'.serverQueue.length).filter fun k =>
    px.serverQueue.length ≤ k ∧ ∃ m ∈ px'.serverQueue[k]?, m.Tells p

/-- The sender of the message is registered, and a connection that is not closing is found by
the url and key it asks for. -/
def Finds (px : WebsocketProxy) (m : Message) : Prop :=
  match m.data with
  | .openWs req => m.pid ∈ px.clients ∧
      ∃ r ∈ px.websocketsByUrlApiKey.lookup req.key, ¬ (px.sockets r).Closing
  | _ => False

/-- A step is the handling of message `n` of the client `p` in which a connection is found, or
the end of an opening for it, with the process id `p` in the slot. -/
def AttachesFor (px : WebsocketProxy) (n : ℕ) (p : UInt64) : Event → Prop
  | .processClientMessage (some m) => px.taken = n ∧ m.pid = p ∧ px.Finds m
  | .complete r c => px.entering (.complete r c) = some (r, n) ∧ (px.slots n).pid = p
  | _ => False

instance (px : WebsocketProxy) (n : ℕ) (ev : Event) : Decidable (px.Concerns n ev) :=
  match ev with
  | .processClientMessage (some _) => inferInstanceAs (Decidable (px.taken = n))
  | .complete r _ => inferInstanceAs (Decidable ((px.sockets r).opening.map Prod.snd = some n))
  | .processClientMessage none | .startHeartbeat | .signal | .shutdownClosure | .stopClosure
  | .timerHandler | .slotReused .. | .rehash .. => inferInstanceAs (Decidable False)

instance (p : UInt64) (px px' : WebsocketProxy) : Decidable (Joins p px px') :=
  inferInstanceAs (Decidable (∃ r < px'.opens, _))

instance (px : WebsocketProxy) (m : Message) : Decidable (px.Finds m) := by
  unfold Finds
  split <;> infer_instance

instance (px : WebsocketProxy) (n : ℕ) (p : UInt64) (ev : Event) :
    Decidable (px.AttachesFor n p ev) :=
  match ev with
  | .processClientMessage (some _) => inferInstanceAs (Decidable (_ ∧ _ ∧ _))
  | .complete _ _ => inferInstanceAs (Decidable (_ ∧ _))
  | .processClientMessage none | .startHeartbeat | .signal | .shutdownClosure | .stopClosure
  | .timerHandler | .slotReused .. | .rehash .. => inferInstanceAs (Decidable False)

theorem mem_announcements {p : UInt64} {px px' : WebsocketProxy} {datas : List Message.Data}
    (h : px.Publishes datas px') {k : ℕ} (hk : k ∈ announcements p px px') :
  ∃ req, .openWs req ∈ datas ∧ req.clientPid = p
  := by
  obtain ⟨-, hk⟩ := List.mem_filter.mp hk
  obtain ⟨hle, m, hm, htells⟩ := of_decide_eq_true hk
  have hm : px'.serverQueue[k]? = some m := hm
  rw [h.serverQueue, List.getElem?_append_right hle] at hm
  obtain ⟨data, hdata, rfl⟩ := List.mem_map.mp (List.mem_of_getElem? hm)
  cases data with
  | openWs req => exact ⟨req, hdata, htells⟩
  | _ => exact htells.elim

/-! ### The handling of a message -/

theorem openNewWs_quiet (px : WebsocketProxy) (msg : ℕ) (req : WsOpen) {r : ℕ} {p : UInt64}
    (hp : p ∈ ((px.openNewWs msg req).1.sockets r).clients) :
  p ∈ (px.sockets r).clients
  := by
  simp only [openNewWs] at hp
  split at hp
  case h_1 => exact hp
  case h_2 ws hnew =>
    change p ∈ (Function.update px.sockets px.opens ws r).clients at hp
    rcases eq_or_ne r px.opens with rfl | hne
    · rw [Function.update_self] at hp
      simp only [Websocket.new, Option.map_eq_some_iff] at hnew
      obtain ⟨⟨host, port⟩, -, rfl⟩ := hnew
      exact absurd hp (Finset.notMem_empty p)
    · rw [Function.update_of_ne hne] at hp
      exact hp

/-- An `OpenWs` message that finds no connection attaches no client. -/
theorem openWs_quiet {px : WebsocketProxy} {m : Message} {req : WsOpen}
    (hreq : m.data = .openWs req) (hfinds : ¬ px.Finds m) {r : ℕ} {p : UInt64}
    (hp : p ∈ (((px.taking m).openWs px.taken req).1.sockets r).clients) :
  p ∈ (px.sockets r).clients
  := by
  rw [Finds, hreq] at hfinds
  rcases getClient_taking_cases px m with ⟨hpid, clients, -, hget⟩ | ⟨-, hget⟩
  · simp only [openWs, slots_taking, hget, if_true] at hp
    split at hp
    case h_1 r' hkey =>
      split at hp
      case isTrue hstate =>
        have hkey : px.websocketsByUrlApiKey.lookup req.key = some r' := hkey
        have hlive : ¬ (px.sockets r').Closing := not_or.mpr hstate
        exact absurd ⟨hpid, r', hkey, hlive⟩ hfinds
      case isFalse => exact openNewWs_quiet ((px.taking m).refreshed clients) px.taken req hp
    case h_2 => exact openNewWs_quiet ((px.taking m).refreshed clients) px.taken req hp
  · simp only [openWs, slots_taking, hget] at hp
    exact hp

/-- What the handling of an `OpenWs` message attaches or announces, it does for a sender that
finds a connection, and answers. -/
theorem message_attaches {px px' : WebsocketProxy} {m : Message} {req : WsOpen}
    (h : px.step (.processClientMessage (some m)) = some px') (hreq : m.data = .openWs req)
    {p : UInt64} (hjoins : Joins p px px' ∨ announcements p px px' ≠ []) :
  px.Finds m ∧ .success ∈ px'.stores px.taken
  := by
  obtain ⟨-, hstores, hsockets⟩ := message_handled h
  have hopen : (px.taking m).handleClientMessage px.taken
      = (px.taking m).openWs px.taken req := by
    rw [handleClientMessage, slots_taking, hreq]
  rw [hopen] at hstores hsockets
  have hfinds : px.Finds m := by
    by_contra hfinds
    rcases hjoins with ⟨r, -, hp, hnot⟩ | hannounces
    · rw [hsockets] at hp
      apply hnot (openWs_quiet hreq hfinds hp)
    · obtain ⟨datas, hpublishes, hdatas⟩ := step_publishes h (fun r c => by rintro ⟨⟩)
      obtain ⟨k, hk⟩ := List.exists_mem_of_ne_nil _ hannounces
      obtain ⟨open', hopen', -⟩ := mem_announcements hpublishes hk
      cases hdatas _ hopen' with
      | @attached m' req' r hev hreq' hpid hkey hlive =>
          obtain rfl := Option.some.inj (Event.processClientMessage.inj hev)
          apply hfinds
          rw [Finds, hreq']
          exact ⟨hpid, r, hkey, hlive⟩
  use hfinds
  rw [Finds, hreq] at hfinds
  obtain ⟨hpid, r, hkey, hlive⟩ := hfinds
  rw [hstores, (openWs_attaches hpid hkey hlive).stores, Function.update_self]
  apply List.mem_append_right _ (List.mem_singleton_self _)

/-! ### Completions -/

/-- A completion that ends no opening with success changes the connection. -/
theorem complete_sockets {px : WebsocketProxy} {r : ℕ} {c : Websocket.Completion} {ws : Websocket}
    {calls : List Websocket.Callback} (hcomplete : (px.sockets r).complete c = some (ws, calls))
    (hentering : px.entering (.complete r c) = none) :
  (px.perform r (ws, calls)).sockets = (px.modifySocket r (fun _ => ws)).sockets ∧
    ∀ msg, .opened msg true ∉ calls
  := by
  rcases (Websocket.complete_spec hcomplete).calls with ⟨port, msg, rfl, hopening, -, -⟩ |
    ⟨ec, errors, -, hsilent, rfl, -⟩ | ⟨hsilent, -⟩
  · simp only [entering, hopening] at hentering
    cases hentering
  · constructor
    · have hclosed : ∀ px₁ : WebsocketProxy, (callback r px₁ .onWsClosed).sockets = px₁.sockets :=
        fun _ => rfl
      rw [perform, List.foldl_append, List.foldl_cons, List.foldl_nil, hclosed]
      exact congrArg Tables.sockets (foldl_callback_of_silent hsilent r
        { px with toTables := px.modifySocket r (fun _ => ws) })
    · intro msg hcall
      rcases List.mem_append.mp hcall with hcall | hcall
      · apply hsilent _ hcall
      · cases List.mem_singleton.mp hcall
  · constructor
    · exact congrArg Tables.sockets (foldl_callback_of_silent hsilent r
        { px with toTables := px.modifySocket r (fun _ => ws) })
    · exact fun msg hcall => hsilent _ hcall

/-- What a completion attaches or announces, it does for the client that is read in the slot of
the message, which it answers. -/
theorem complete_attaches {px px' : WebsocketProxy} {r n : ℕ} {c : Websocket.Completion}
    (h : px.step (.complete r c) = some px')
    (hopening : (px.sockets r).opening.map Prod.snd = some n) {p : UInt64}
    (hjoins : Joins p px px' ∨ announcements p px px' ≠ []) :
  px.AttachesFor n p (.complete r c) ∧ .success ∈ px'.stores n
  := by
  cases hentering : px.entering (.complete r c) with
  | none =>
      exfalso
      obtain ⟨ws, calls, hcomplete, hpublishes⟩ := complete_publishes h
      obtain ⟨hsockets, hcalls⟩ := complete_sockets hcomplete hentering
      rcases hjoins with ⟨r', -, hp, hnot⟩ | hannounces
      · have hpx' : px' = px.perform r (ws, calls) := by
          have h := runHandler_of_step h
          rw [runHandler, hcomplete] at h
          exact (Option.some.inj h).symm
        apply hnot
        rw [hpx', hsockets] at hp
        rcases eq_or_ne r' r with rfl | hne
        · rw [Tables.modifySocket_self, (Websocket.complete_spec hcomplete).clients] at hp
          exact hp
        · rw [Tables.modifySocket_of_ne hne] at hp
          exact hp
      · obtain ⟨k, hk⟩ := List.exists_mem_of_ne_nil _ hannounces
        obtain ⟨req, hreq, -⟩ := mem_announcements hpublishes hk
        obtain ⟨call, hcall, hdata⟩ := List.mem_filterMap.mp hreq
        cases call with
        | onWsError | onWsData | onWsClosed => cases hdata
        | opened msg success =>
            cases success with
            | true => exact hcalls msg hcall
            | false => cases hdata
  | some rn =>
      obtain ⟨r', n'⟩ := rn
      obtain ⟨⟨port, hev⟩, hopening'⟩ := entering_eq_some hentering
      obtain ⟨rfl, rfl⟩ := Event.complete.inj hev
      rw [hopening'] at hopening
      obtain rfl : n' = n := Option.some.inj hopening
      have henters := step_enters h hentering
      constructor
      · use hentering
        rcases hjoins with ⟨r', -, hp, hnot⟩ | hannounces
        · rcases eq_or_ne r' r with rfl | hne
          · rw [henters.socket] at hp
            exact ((Finset.mem_insert.mp hp).resolve_right hnot).symm
          · rw [henters.others r' hne] at hp
            exact absurd hp hnot
        · obtain ⟨k, hk⟩ := List.exists_mem_of_ne_nil _ hannounces
          have hpublishes : px.Publishes [.openWs
              { id := (px.sockets r).id, clientPid := (px.slots n').pid, newConnection := true }]
              px' := ⟨step_pid h, henters.serverQueue⟩
          obtain ⟨req, hreq, rfl⟩ := mem_announcements hpublishes hk
          obtain rfl := Message.Data.openWs.inj (List.mem_singleton.mp hreq)
          rfl
      · rw [henters.stores, Function.update_self]
        apply List.mem_append_right _ (List.mem_singleton_self _)

/-- What a step about an `OpenWs` message attaches or announces for the sender, it answers with
`SUCCESS`. -/
theorem step_attaches {px px' : WebsocketProxy} {ev : Event} (h : px.step ev = some px') {n : ℕ}
    (hconcerns : px.Concerns n ev) {p : UInt64}
    (hm : ∀ m, ev = .processClientMessage (some m) → m.pid = p ∧ ∃ req, m.data = .openWs req)
    (hjoins : Joins p px px' ∨ announcements p px px' ≠ []) :
  px.AttachesFor n p ev ∧ .success ∈ px'.stores n
  := by
  cases ev with
  | processClientMessage msg =>
      cases msg with
      | none => exact hconcerns.elim
      | some m =>
          obtain ⟨hpid, req, hreq⟩ := hm m rfl
          obtain rfl : px.taken = n := hconcerns
          obtain ⟨hfinds, hanswer⟩ := message_attaches h hreq hjoins
          exact ⟨⟨rfl, hpid, hfinds⟩, hanswer⟩
  | complete r c => exact complete_attaches h hconcerns hjoins
  | _ => exact hconcerns.elim

/-- A step attaches for a message that is not answered. -/
theorem AttachesFor.unanswered {px : WebsocketProxy} {n : ℕ} {p : UInt64} {ev : Event}
    (h : px.AttachesFor n p ev) (hvalid : px.ledger.Valid) :
  px.stores n = []
  := by
  cases ev with
  | processClientMessage msg =>
      cases msg with
      | none => exact h.elim
      | some m =>
          obtain ⟨rfl, -⟩ := h
          apply hvalid.fresh (Nat.le_refl _)
  | complete r c =>
      obtain ⟨-, hopening⟩ := entering_eq_some h.1
      apply hvalid.unanswered (congrArg (Option.map Prod.snd) hopening)
  | _ => exact h.elim

end WebsocketProxy
