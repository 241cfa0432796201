import WebsocketProxy.Server.Bookkeeping
import WebsocketProxy.Server.OpenAnswers

/-!
# What the slot of a request holds

A request is answered in its own slot. As long as no client reuses the slot, it holds the request
with the fields of its answer filled in, and the last status that was stored in it
(`Holds.step`); a request that was answered with a connection holds the id that its sender was
told of. No request is answered twice (`reachable_answers_le`).
-/

/-- A request becomes another by the fields of an answer, which the server with the process id
`pid` writes. A text that is written ends in its array. -/
inductive Message.Data.Filled (pid : UInt64) : Message.Data → Message.Data → Prop
  | register {reg : RegisterMessage} :
      Filled pid (.register reg) (.register { reg with serverPid := pid })
  | openWs {req answer : WsOpen} (hkey : answer.key = req.key)
      (herr : answer.err = req.err ∨ answer.err.length < 256) :
      Filled pid (.openWs req) (.openWs answer)
  | closeWs {req : WsClose} : Filled pid (.closeWs req) (.closeWs req)
  | subscribe {req : WsSubscription} : Filled pid (.subscribe req) (.subscribe req)
  | existing {req : WsSubscription} :
      Filled pid (.subscribe req) (.subscribe { req with existing := true })

namespace WebsocketProxy

/-- That a connection with the id was opened for the client `p` is published. -/
def Told (px : WebsocketProxy) (p id : UInt64) : Prop :=
  ∃ told ∈ px.serverQueue, told.data = .openWs { id, clientPid := p, newConnection := true }

theorem Told.mono {px px' : WebsocketProxy} {p id : UInt64} (h : px.Told p id)
    (hqueue : px.serverQueue ⊆ px'.serverQueue) :
  px'.Told p id
  := by
  obtain ⟨told, htold, hdata⟩ := h
  use told, hqueue htold

/-- The slot `n` holds the request `m`, as far as it was answered. -/
structure Holds (px : WebsocketProxy) (n : ℕ) (m : Message) : Prop where
  pid : (px.slots n).pid = m.pid
  data : m.data.Filled px.pid (px.slots n).data
  status : (px.slots n).status = (px.stores n).getLastD m.status
  told : ∀ req, m.data = .openWs req → .success ∈ px.stores n →
    px.Told m.pid (px.slots n).wsOpen.id

theorem Holds.congr {px px' : WebsocketProxy} {n : ℕ} {m : Message} (h : px.Holds n m)
    (hpid : px'.pid = px.pid) (hslot : px'.slots n = px.slots n)
    (hstores : px'.stores n = px.stores n) (hqueue : px.serverQueue ⊆ px'.serverQueue) :
  px'.Holds n m
  := by
  constructor
  · rw [hslot, h.pid]
  · rw [hpid, hslot]
    exact h.data
  · rw [hslot, hstores, h.status]
  · intro req hreq hsuccess
    rw [hstores] at hsuccess
    rw [hslot]
    apply (h.told req hreq hsuccess).mono hqueue

/-- A status is stored in the slot of a request. -/
theorem holds_storeStatus {px : WebsocketProxy} {n : ℕ} {m : Message}
    (hpid : (px.slots n).pid = m.pid) (hdata : m.data.Filled px.pid (px.slots n).data)
    (status : Message.Status)
    (htold : ∀ req, m.data = .openWs req → .success ∈ px.stores n ++ [status] →
      px.Told m.pid (px.slots n).wsOpen.id) :
  (px.storeStatus n status).Holds n m
  := by
  have hstores : (px.storeStatus n status).stores n = px.stores n ++ [status] :=
    Function.update_self ..
  constructor
  · rw [storeStatus_slots_self]
    exact hpid
  · rw [storeStatus_slots_self]
    exact hdata
  · rw [storeStatus_slots_self, hstores, List.getLastD_concat]
  · rw [storeStatus_slots_self, hstores]
    exact htold

/-- A status is stored in the slot of a request that the answer changes no more of. -/
theorem holds_storeStatus_self {px : WebsocketProxy} {n : ℕ} {m : Message}
    (hslot : px.slots n = m)
    (hdata : m.data.Filled px.pid m.data) (hopen : ∀ req, m.data ≠ .openWs req)
    {status : Message.Status} :
  (px.storeStatus n status).Holds n m
  := by
  apply holds_storeStatus
  · rw [hslot]
  · rw [hslot]
    exact hdata
  · exact fun req hreq => absurd hreq (hopen req)

/-! ### Taking a request -/

variable {px px' : WebsocketProxy} {m : Message}

/-- `openWs` answers the request, or leaves it to the opening of a new connection. -/
theorem openWs_holds {req : WsOpen} (hreq : m.data = .openWs req)
    (hfresh : px.stores px.taken = []) :
  ((px.taking m).openWs px.taken req).1.Holds px.taken m
  := by
  have hnew : ∀ clients,
      (((px.taking m).refreshed clients).openNewWs px.taken req).1.Holds px.taken m := by
    intro clients
    have hslot : (((px.taking m).refreshed clients).openNewWs px.taken req).1.slots px.taken
        = { m with data := .openWs { req with newConnection := true } } := by
      have hstored := storeData_slots_self ((px.taking m).refreshed clients) px.taken
        (.openWs { req with newConnection := true })
      rw [refreshed, slots_taking] at hstored
      simp only [openNewWs]
      split
      · exact hstored
      · exact hstored
    obtain ⟨hhandles, -⟩ := openNewWs_handles ((px.taking m).refreshed clients) px.taken req
    have hstores : (((px.taking m).refreshed clients).openNewWs px.taken req).1.stores px.taken
        = [] := by
      rw [hhandles.stores, Function.update_self, List.append_nil]
      exact hfresh
    constructor
    · rw [hslot]
    · rw [hslot, hreq]
      exact .openWs rfl (Or.inl rfl)
    · rw [hslot, hstores]
      rfl
    · rw [hstores]
      rintro _ _ ⟨⟩
  rcases getClient_taking_cases px m with ⟨hpid, clients, -, hget⟩ | ⟨hpid, hget⟩
  · rcases em (∃ r, px.websocketsByUrlApiKey.lookup req.key = some r ∧ ¬ (px.sockets r).Closing)
      with ⟨r, hkey, hlive⟩ | hnone
    · have hattaches := openWs_attaches hpid hkey hlive
      have hstores : ((px.taking m).openWs px.taken req).1.stores px.taken = [.success] := by
        rw [hattaches.stores, Function.update_self, hfresh, List.nil_append]
      constructor
      · rw [hattaches.slot]
      · rw [hattaches.slot, hreq]
        exact .openWs rfl (Or.inl rfl)
      · rw [hattaches.slot, hstores]
        rfl
      · intro _ _ _
        rw [hattaches.slot, Told, hattaches.serverQueue]
        exact ⟨_, List.mem_append_right _ (List.mem_singleton_self _), rfl⟩
    · have hopen : (px.taking m).openWs px.taken req
          = ((px.taking m).refreshed clients).openNewWs px.taken req := by
        simp only [openWs, slots_taking, hget, if_true]
        split
        case h_1 r hkey =>
          split
          case isTrue hstate => exact absurd ⟨r, hkey, not_or.mpr hstate⟩ hnone
          case isFalse => rfl
        case h_2 => rfl
      rw [hopen]
      apply hnew
  · simp only [openWs, slots_taking, hget, Bool.false_eq_true, if_false]
    apply holds_storeStatus
    · rw [storeData_slots_self, slots_taking]
    · rw [storeData_slots_self, hreq]
      exact .openWs rfl (Or.inr (Nat.lt_succ_of_le (List.length_take_le _ _)))
    · intro _ _ hsuccess
      have hstores : ∀ data, ((px.taking m).storeData px.taken data).stores px.taken = [] :=
        fun _ => hfresh
      rw [hstores] at hsuccess
      cases List.mem_singleton.mp hsuccess

/-- `closeWs` answers the request in its slot. -/
theorem closeWs_holds {req : WsClose} (hreq : m.data = .closeWs req) :
  ((px.taking m).closeWs px.taken req).Holds px.taken m
  := by
  have hopen : ∀ req, m.data ≠ .openWs req := by
    rw [hreq]
    rintro _ ⟨⟩
  rcases getClient_taking_cases px m with ⟨-, clients, -, hget⟩ | ⟨-, hget⟩
  · simp only [closeWs, slots_taking, hget, if_true]
    refine holds_storeStatus_self ?_ (hreq ▸ .closeWs) hopen
    apply slots_taking
  · simp only [closeWs, slots_taking, hget, Bool.false_eq_true, if_false]
    refine holds_storeStatus_self ?_ (hreq ▸ .closeWs) hopen
    apply slots_taking

/-- `handleSubscribe` answers the request in its slot. -/
theorem handleSubscribe_holds {req : WsSubscription} (hreq : m.data = .subscribe req) :
  ((px.taking m).handleSubscribe px.taken req).Holds px.taken m
  := by
  have hopen : ∀ req, m.data ≠ .openWs req := by
    rw [hreq]
    rintro _ ⟨⟩
  rcases getClient_taking_cases px m with ⟨-, clients, -, hget⟩ | ⟨-, hget⟩
  · simp only [handleSubscribe, slots_taking, hget, if_true]
    split
    · split
      · refine holds_storeStatus_self ?_ (hreq ▸ .subscribe) hopen
        apply slots_taking
      · apply holds_storeStatus
        · rw [storeData_slots_self]
          apply congrArg Message.pid (slots_taking px m)
        · rw [storeData_slots_self, hreq]
          exact .existing
        · exact fun req' hreq' => absurd hreq' (hopen req')
    · refine holds_storeStatus_self ?_ (hreq ▸ .subscribe) hopen
      apply slots_taking
  · simp only [handleSubscribe, slots_taking, hget, Bool.false_eq_true, if_false]
    refine holds_storeStatus_self ?_ (hreq ▸ .subscribe) hopen
    apply slots_taking

/-- A request that is taken is in its slot. -/
theorem message_holds (h : px.step (.processClientMessage (some m)) = some px')
    (hm : m.data.Answered) (hfresh : px.stores px.taken = []) :
  px'.Holds px.taken m
  := by
  have hpid := step_pid h
  have hslots := congrFun (message_slots h) px.taken
  have hstores := congrFun (message_handled h).2.1 px.taken
  have hqueue := message_serverQueue h
  have hholds : ((px.taking m).handleClientMessage px.taken).1.Holds px.taken m := by
    rw [handleClientMessage, slots_taking]
    cases hdata : m.data with
    | register reg =>
        apply holds_storeStatus
        · change (((px.taking m).storeData px.taken _).slots px.taken).pid = m.pid
          rw [storeData_slots_self, slots_taking]
        · change m.data.Filled px.pid (((px.taking m).storeData px.taken _).slots px.taken).data
          rw [storeData_slots_self, hdata]
          exact .register
        · intro req hreq
          rw [hdata] at hreq
          cases hreq
    | openWs req => exact openWs_holds hdata hfresh
    | closeWs req => exact closeWs_holds hdata
    | subscribe req => exact handleSubscribe_holds hdata
    | _ =>
        rw [hdata] at hm
        cases hm
  obtain ⟨datas, hpublishes, -⟩ := handleClientMessage_publishes px m
  apply hholds.congr
  · rw [hpid, hpublishes.pid]
  · exact hslots
  · exact hstores
  · rw [hqueue]
    exact List.Subset.refl _

/-! ### Afterwards -/

/-- A call of a connection keeps what the slot of a request holds. An opening that ends was for a
request to open a connection. -/
theorem callback_holds {n : ℕ} (r : ℕ) (h : px.Holds n m) {call : Websocket.Callback}
    (hopen : ∀ success, call = .opened n success → ∃ req, m.data = .openWs req) :
  (callback r px call).Holds n m
  := by
  have hpid : (callback r px call).pid = px.pid := congrArg Process.pid (callback_process r px call)
  have hqueue : px.serverQueue ⊆ (callback r px call).serverQueue := by
    rw [(callback_publishes r px call).serverQueue]
    apply List.subset_append_left
  rcases em (∃ success, call = .opened n success) with ⟨success, rfl⟩ | hnot
  · obtain ⟨req, hreq⟩ := hopen success rfl
    have hdata := h.data
    rw [hreq] at hdata
    cases success with
    | false =>
        apply holds_storeStatus h.pid h.data
        intro req' hreq' hsuccess
        rcases List.mem_append.mp hsuccess with hsuccess | hsuccess
        · apply h.told req' hreq' hsuccess
        · cases List.mem_singleton.mp hsuccess
    | true =>
        refine holds_storeStatus ?_ ?_ .success ?_
        · change ((storeData _ n _).slots n).pid = m.pid
          rw [storeData_slots_self]
          exact h.pid
        · change m.data.Filled px.pid ((storeData _ n _).slots n).data
          rw [storeData_slots_self, hreq]
          have hslot : (px.slots n).wsOpen.key = req.key ∧
              ((px.slots n).wsOpen.err = req.err ∨ (px.slots n).wsOpen.err.length < 256) := by
            rw [Message.wsOpen]
            generalize (px.slots n).data = data at hdata
            cases hdata with
            | openWs hkey herr => exact ⟨hkey, herr⟩
          exact .openWs hslot.1 hslot.2
        · intro _ _ _
          change Told _ m.pid ((storeData _ n _).slots n).wsOpen.id
          rw [storeData_slots_self, ← h.pid]
          exact ⟨_, List.mem_append_right _ (List.mem_singleton_self _), rfl⟩
  · have hnot : ∀ success, call ≠ .opened n success :=
      fun success hcall => hnot ⟨success, hcall⟩
    have hstatus : call.status n = none := by
      cases call with
      | onWsError | onWsData | onWsClosed => rfl
      | opened msg success =>
          apply if_neg
          rintro rfl
          exact hnot success rfl
    apply h.congr hpid (callback_slots r px hnot) _ hqueue
    rw [callback_stores, hstatus]
    apply List.append_nil

/-- Only the end of its opening answers a request that was taken before. -/
theorem step_stores_of_lt {ev : Event} {n : ℕ} (hwf : px.WellFormed)
    (hstep : px.step ev = some px') (hn : n < px.taken)
    (hopening : ∀ r c, ev = .complete r c → px.ledger.pending r ≠ some n) :
  px'.stores n = px.stores n
  := by
  have hne : n ≠ px.taken := Nat.ne_of_lt hn
  change px'.ledger.answers n = px.ledger.answers n
  rcases em (∃ m, ev = .processClientMessage (some m)) with ⟨m, rfl⟩ | hmessage
  · rcases message_ledger hwf hstep with ⟨answers, hledger, -⟩ | ⟨hledger, -⟩
    · rw [hledger]
      exact Function.update_of_ne hne ..
    · rw [hledger]
      rfl
  · rcases em (∃ r c, ev = .complete r c) with ⟨r, c, rfl⟩ | hcomplete
    · rcases complete_ledger (runHandler_of_step hstep) with
        hledger | ⟨m, status, -, hpending, hledger⟩
      · rw [hledger]
      · have hne : n ≠ m := by
          rintro rfl
          exact hopening r c rfl hpending
        rw [hledger]
        exact Function.update_of_ne hne ..
    · rw [step_ledger hwf hstep (fun m hm => hmessage ⟨m, hm⟩)
        (fun r c hev => hcomplete ⟨r, c, hev⟩)]

/-- A step keeps what the slot of a request holds, unless a client reuses the slot. -/
theorem Holds.step {ev : Event} {n : ℕ} (h : px.Holds n m) (hwf : px.WellFormed)
    (hstep : px.step ev = some px') (hn : n < px.taken)
    (hreused : ∀ contents, ev ≠ .slotReused n contents)
    (hopening : ∀ r stage, (px.sockets r).opening = some (stage, n) →
      ∃ req, m.data = .openWs req) :
  px'.Holds n m
  := by
  rcases em (∃ r c, ev = .complete r c) with ⟨r, c, rfl⟩ | hcomplete
  · obtain ⟨⟨ws, calls⟩, hws, rfl⟩ := Option.map_eq_some_iff.mp (runHandler_of_step hstep)
    have hopen : ∀ call ∈ calls, ∀ success, call = .opened n success →
        ∃ req, m.data = .openWs req := by
      rintro call hcall success rfl
      have hmem : (if success then .success else .failed)
          ∈ calls.filterMap (Websocket.Callback.status n) :=
        List.mem_filterMap.mpr ⟨_, hcall, if_pos rfl⟩
      rcases Websocket.complete_answers hws with ⟨-, hanswers⟩ |
        ⟨stage, msg, status, -, hbefore, -, hanswers⟩
      · rw [hanswers] at hmem
        cases hmem
      · rw [hanswers] at hmem
        split at hmem
        case isTrue heq => exact hopening r stage (heq ▸ hbefore)
        case isFalse => cases hmem
    apply List.foldlRecOn (motive := fun px' : WebsocketProxy => px'.Holds n m)
    · exact h.congr rfl rfl rfl (List.Subset.refl _)
    · intro px' hpx' call hcall
      apply callback_holds r hpx' (hopen call hcall)
  · have hcomplete : ∀ r c, ev ≠ .complete r c := fun r c hev => hcomplete ⟨r, c, hev⟩
    obtain ⟨datas, hpublishes, -⟩ := step_publishes hstep hcomplete
    have hne : n ≠ px.taken := Nat.ne_of_lt hn
    apply h.congr (step_pid hstep)
    · apply step_slots hstep
      · exact fun _ _ => hne
      · exact fun r c hev => absurd hev (hcomplete r c)
      · exact hreused
    · exact step_stores_of_lt hwf hstep hn fun r c hev => absurd hev (hcomplete r c)
    · rw [hpublishes.serverQueue]
      apply List.subset_append_left

/-! ### One answer -/

/-- A message gets at most one answer as it is handled. -/
theorem handleClientMessage_answers_le (px : WebsocketProxy) (m : Message) :
  ∃ answers,
    (px.taking m).Handles px.taken answers ((px.taking m).handleClientMessage px.taken).1 ∧
    answers.length ≤ 1
  := by
  rw [handleClientMessage, slots_taking]
  split
  case h_1 reg _ => exact ⟨_, handleClientRegistration_handles _ _ reg, Nat.le_refl 1⟩
  case h_2 => exact ⟨_, unregisterClient_handles _ _ _, Nat.zero_le 1⟩
  case h_3 => exact ⟨_, handleClientHeartbeat_handles _ _, Nat.zero_le 1⟩
  case h_4 req hm =>
    rcases openWs_handles px hm with ⟨-, -, status, -, hhandles⟩ | ⟨-, clients, hopen⟩
    · exact ⟨_, hhandles, Nat.le_refl 1⟩
    · obtain ⟨hhandles, -⟩ := openNewWs_handles ((px.taking m).refreshed clients) px.taken req
      rw [hopen]
      exact ⟨_, ⟨hhandles.process, hhandles.stores⟩, Nat.zero_le 1⟩
  case h_5 req _ => exact ⟨_, closeWs_handles _ _ req, Nat.le_refl 1⟩
  case h_6 req _ =>
    obtain ⟨status, hhandles⟩ := sendWsRequest_handles (px.taking m) px.taken req
    exact ⟨_, hhandles, Nat.le_refl 1⟩
  case h_7 req _ =>
    obtain ⟨status, -, hhandles⟩ := handleSubscribe_handles (px.taking m) px.taken req
    exact ⟨_, hhandles, Nat.le_refl 1⟩
  case h_8 req _ => exact ⟨_, handleUnsubscribe_handles _ _ req, Nat.le_refl 1⟩
  all_goals
    refine ⟨[], ?_, Nat.zero_le 1⟩
    apply Handles.nothing
    all_goals rfl

/-- No request is answered twice. -/
theorem reachable_answers_le {guard : WebsocketProxy → Event → Prop}
    (h : system.ReachableUnder guard px) (n : ℕ) :
  (px.stores n).length ≤ 1
  := by
  apply h.invariant (I := fun px => ∀ n, (px.stores n).length ≤ 1)
  · rintro _ ⟨pid, clock, rfl⟩ n
    exact Nat.zero_le 1
  · intro px ev px' hreachable hle _ hstep n
    have hvalid := reachable_valid hreachable
    rcases em (∃ m, ev = .processClientMessage (some m)) with ⟨m, rfl⟩ | hmessage
    · obtain ⟨answers, hhandles, hanswers⟩ := handleClientMessage_answers_le px m
      rw [(message_handled hstep).2.1, hhandles.stores]
      rcases eq_or_ne n px.taken with rfl | hne
      · rw [Function.update_self]
        change (px.ledger.answers px.ledger.taken ++ answers).length ≤ 1
        rw [hvalid.fresh (Nat.le_refl _), List.nil_append]
        exact hanswers
      · rw [Function.update_of_ne hne]
        apply hle n
    · change (px'.ledger.answers n).length ≤ 1
      rcases em (∃ r c, ev = .complete r c) with ⟨r, c, rfl⟩ | hcomplete
      · rcases complete_ledger (runHandler_of_step hstep) with
          hledger | ⟨m, status, -, hpending, hledger⟩
        · rw [hledger]
          apply hle n
        · rw [hledger]
          rcases eq_or_ne n m with rfl | hne
          · change (Function.update px.ledger.answers n _ n).length ≤ 1
            rw [Function.update_self, hvalid.unanswered hpending]
            exact Nat.le_refl 1
          · change (Function.update px.ledger.answers m _ n).length ≤ 1
            rw [Function.update_of_ne hne]
            apply hle n
      · rw [step_ledger (reachable_wellFormed hreachable) hstep
          (fun m hm => hmessage ⟨m, hm⟩) (fun r c hc => hcomplete ⟨r, c, hc⟩)]
        apply hle n

end WebsocketProxy
