import WebsocketProxy.Server.Projection

/-!
# What a client does to connections it has not opened

A message for a connection is looked up by the id it carries, and only the connection with that
id can change. `CloseWs` only takes its sender from the connection. The handlers of requests and
of subscriptions do not ask whether the sender is a client of the connection, so they leave the
connections of others alone exactly when the sender does not address one of them, or addresses
it in vain (`leavesOthers_iff`).
-/

namespace Message

/-- The connection a message is for, if it is of a kind that is for a connection. -/
def Data.target : Data → Option UInt64
  | .closeWs req => some req.id
  | .wsRequest req => some req.id
  | .subscribe req => some req.id
  | .unsubscribe req => some req.id
  | _ => none

end Message

namespace WebsocketProxy

/-- Going from `px` to `px'`, the connection at `r` stays as it is, and stays stored. -/
def Leaves (px px' : WebsocketProxy) (r : ℕ) : Prop :=
  px'.sockets r = px.sockets r ∧
    ∀ id, px.websocketsById.lookup id = some r → px'.websocketsById.lookup id = some r

/-- The connections a client is not attached to stay as they are. -/
def LeavesOthers (px px' : WebsocketProxy) (pid : UInt64) : Prop :=
  ∀ r, pid ∉ (px.sockets r).clients → px.Leaves px' r

/-- All connections stay as they are, except the one that a message is for. -/
def LeavesAllBut (px px' : WebsocketProxy) (m : Message) : Prop :=
  ∀ r, (∀ id, m.data.target = some id → px.websocketsById.lookup id ≠ some r) → px.Leaves px' r

/-- A message has no effect on the connection at `r`, because the subscription that it asks
for is there already, or the one it gives up is not the sender's. -/
def InVain (px : WebsocketProxy) (m : Message) (r : ℕ) : Prop :=
  match m.data with
  | .subscribe req => ∃ sub, (px.sockets r).subscriptions.lookup (Message.symbolView req) = some sub ∧
      m.pid ∈ sub.clients ∧ sub.type &&& req.type ≠ 0
  | .unsubscribe req => ∀ sub, (px.sockets r).subscriptions.lookup (Message.symbolView req) = some sub →
      m.pid ∉ sub.clients ∧ sub.clients.Nonempty
  | _ => False

/-- A message of a registered client is a `CloseWs`, or is for a connection the client is
attached to, or for none, or is in vain. -/
def ForOwn (px : WebsocketProxy) (m : Message) : Prop :=
  m.pid ∈ px.clients → ∀ id r, m.data.target = some id → px.websocketsById.lookup id = some r →
    (∃ req, m.data = .closeWs req) ∨ m.pid ∈ (px.sockets r).clients ∨ px.InVain m r

/-! ### Changes of one connection -/

theorem leaves_of_same {px px' : WebsocketProxy} (hsockets : px'.sockets = px.sockets)
    (hbyId : px'.websocketsById = px.websocketsById) (r : ℕ) :
  px.Leaves px' r
  := by
  rw [Leaves, hsockets, hbyId]
  use rfl
  exact fun _ h => h

/-- A handler that changes no connection, on a message that finds none it may not change. -/
theorem leaves_of_forOwn {px px' : WebsocketProxy} {m : Message} (hown : px.ForOwn m)
    (hsockets : px'.sockets = px.sockets) (hbyId : px'.websocketsById = px.websocketsById) :
  (px.LeavesOthers px' m.pid ↔ px.ForOwn m) ∧ px.LeavesAllBut px' m
  := by
  constructor
  · apply iff_of_true _ hown
    exact fun r _ => leaves_of_same hsockets hbyId r
  · exact fun r _ => leaves_of_same hsockets hbyId r

theorem leaves_of_ne {px px' : WebsocketProxy} {r r' : ℕ} {ws : Websocket}
    (hsockets : px'.sockets = Function.update px.sockets r ws)
    (hbyId : px'.websocketsById = px.websocketsById) (hne : r' ≠ r) :
  px.Leaves px' r'
  := by
  rw [Leaves, hsockets, hbyId, Function.update_of_ne hne]
  use rfl
  exact fun _ h => h

/-- Others are left alone by a handler that puts `ws` at `r`, if the connection there is the
client's or stays the same. -/
theorem update_leavesOthers {px px' : WebsocketProxy} {r : ℕ} {ws : Websocket} (pid : UInt64)
    (hsockets : px'.sockets = Function.update px.sockets r ws)
    (hbyId : px'.websocketsById = px.websocketsById) :
  px.LeavesOthers px' pid ↔ pid ∈ (px.sockets r).clients ∨ ws = px.sockets r
  := by
  have hself : px'.sockets r = ws := by rw [hsockets, Function.update_self]
  constructor
  · intro h
    rcases em (pid ∈ (px.sockets r).clients) with hpid | hpid
    · apply Or.inl hpid
    · apply Or.inr (hself.symm.trans (h r hpid).1)
  · intro h r' hpid
    rcases eq_or_ne r' r with rfl | hne
    · use hself.trans (h.resolve_left hpid)
      rw [hbyId]
      exact fun _ h => h
    · apply leaves_of_ne hsockets hbyId hne

/-- Sending changes a connection. -/
theorem send_ne {ws ws' : Websocket} (hwrites : ws'.writes = ws.writes) (buffer : Bytes) :
  ws'.send buffer ≠ ws
  := by
  intro h
  have hlength := congrArg (fun ws : Websocket => ws.writes.length) h
  simp only [Websocket.send, List.length_append, List.length_singleton, hwrites] at hlength
  omega

/-! ### The handlers -/

/-- `closeWs` changes a connection only if it has the id in the message and is its sender's. -/
theorem closeWs_leaves {px : WebsocketProxy} (hwf : px.WellFormed) (m : Message) (req : WsClose)
    {r : ℕ} (hr : px.websocketsById.lookup req.id = some r → m.pid ∉ (px.sockets r).clients) :
  px.Leaves ((px.taking m).closeWs px.taken req) r
  := by
  rcases getClient_taking_cases px m with ⟨-, clients, -, hget⟩ | ⟨-, hget⟩
  · simp only [closeWs, slots_taking, hget, if_true]
    have hdeparts := Tables.closeWs_departs (hwf.withClients clients) req.id m.pid
    have hdep : Disjoint (px.sockets r).clients
        (if px.websocketsById.lookup req.id = some r then {m.pid} else ∅) := by
      split
      case isTrue hid => apply Finset.disjoint_singleton_right.mpr (hr hid)
      case isFalse => apply Finset.disjoint_empty_right
    have hstay : px.Stored r → ¬ (px.sockets r).clients ⊆
        (if px.websocketsById.lookup req.id = some r then {m.pid} else ∅) := by
      intro hr hsub
      have hempty := hdep.mono_right hsub
      rw [disjoint_self] at hempty
      exact (hwf.nonempty r hr).ne_empty hempty
    constructor
    · rcases em (px.Stored r) with hr | hr
      · apply (hdeparts.stored r hr).trans
        have hleave := Websocket.leave_of_not_subset (hstay hr)
        rw [Finset.sdiff_eq_self_of_disjoint hdep] at hleave
        apply hleave
      · apply hdeparts.unstored r hr
    · intro id hid
      apply (hdeparts.byId id r).mpr ⟨hid, hstay ⟨id, hid⟩⟩
  · simp only [closeWs, slots_taking, hget]
    apply leaves_of_same
    all_goals rfl

/-- `closeWs` changes the connections of its sender only, and only the one with the id. -/
theorem closeWs_leavesOthers {px : WebsocketProxy} (hwf : px.WellFormed) {m : Message}
    {req : WsClose} (hm : m.data = .closeWs req) :
  (px.LeavesOthers ((px.taking m).closeWs px.taken req) m.pid ↔ px.ForOwn m) ∧
    px.LeavesAllBut ((px.taking m).closeWs px.taken req) m
  := by
  constructor
  · apply iff_of_true
    · exact fun r hpid => closeWs_leaves hwf m req (fun _ => hpid)
    · exact fun _ _ _ _ _ => Or.inl ⟨req, hm⟩
  · intro r hr
    apply closeWs_leaves hwf m req
    intro hid
    exact absurd hid (hr req.id (by rw [hm]; rfl))

/-- A message for no connection of a registered sender is for the own connections. -/
theorem forOwn_of_none {px : WebsocketProxy} {m : Message} {id : UInt64}
    (htarget : m.data.target = some id)
    (h : m.pid ∉ px.clients ∨ px.websocketsById.lookup id = none) :
  px.ForOwn m
  := by
  intro hpid id' r htarget' hid
  rw [htarget] at htarget'
  obtain rfl := Option.some.inj htarget'
  rcases h with h | h
  · exact absurd hpid h
  · rw [h] at hid
    cases hid

/-- What it means for a message that finds a connection. -/
theorem forOwn_iff {px : WebsocketProxy} {m : Message} {id : UInt64} {r : ℕ}
    (htarget : m.data.target = some id) (hclose : ∀ req, m.data ≠ .closeWs req)
    (hpid : m.pid ∈ px.clients) (hid : px.websocketsById.lookup id = some r) :
  px.ForOwn m ↔ m.pid ∈ (px.sockets r).clients ∨ px.InVain m r
  := by
  constructor
  · intro h
    apply (h hpid id r htarget hid).resolve_left
    rintro ⟨req, hreq⟩
    apply hclose req hreq
  · intro h _ id' r' htarget' hid'
    rw [htarget] at htarget'
    obtain rfl := Option.some.inj htarget'
    rw [hid] at hid'
    obtain rfl := Option.some.inj hid'
    apply Or.inr h

/-- A handler that puts `ws` at the connection the message is for leaves all others. It leaves
those of other clients when the message is for an own connection, if it changes nothing exactly
when the message is in vain. -/
theorem leaves_of_update {px px' : WebsocketProxy} {m : Message} {id : UInt64} {r : ℕ}
    {ws : Websocket} (htarget : m.data.target = some id) (hclose : ∀ req, m.data ≠ .closeWs req)
    (hpid : m.pid ∈ px.clients) (hid : px.websocketsById.lookup id = some r)
    (hsockets : px'.sockets = Function.update px.sockets r ws)
    (hbyId : px'.websocketsById = px.websocketsById) (hvain : ws = px.sockets r ↔ px.InVain m r) :
  (px.LeavesOthers px' m.pid ↔ px.ForOwn m) ∧ px.LeavesAllBut px' m
  := by
  constructor
  · rw [update_leavesOthers m.pid hsockets hbyId, forOwn_iff htarget hclose hpid hid, hvain]
  · intro r' hr'
    apply leaves_of_ne hsockets hbyId
    rintro rfl
    apply hr' id htarget hid

theorem sendWsRequest_leavesOthers {px : WebsocketProxy} {m : Message} {req : WsRequest}
    (hm : m.data = .wsRequest req) :
  (px.LeavesOthers ((px.taking m).sendWsRequest px.taken req) m.pid ↔ px.ForOwn m) ∧
    px.LeavesAllBut ((px.taking m).sendWsRequest px.taken req) m
  := by
  have htarget : m.data.target = some req.id := by rw [hm]; rfl
  have hclose : ∀ req, m.data ≠ .closeWs req := by simp [hm]
  rcases getClient_taking_cases px m with ⟨hpid, clients, -, hget⟩ | ⟨hpid, hget⟩
  · simp only [sendWsRequest, slots_taking, hget, if_true]
    split
    case h_1 r hid =>
      have hid : px.websocketsById.lookup req.id = some r := hid
      refine leaves_of_update htarget hclose hpid hid (by rfl) (by rfl) ?_
      rw [InVain, hm]
      apply iff_false_intro
      apply send_ne
      rfl
    case h_2 hid =>
      have hid : px.websocketsById.lookup req.id = none := hid
      apply leaves_of_forOwn (forOwn_of_none htarget (Or.inr hid))
      all_goals rfl
  · simp only [sendWsRequest, slots_taking, hget]
    apply leaves_of_forOwn (forOwn_of_none htarget (Or.inl hpid))
    all_goals rfl

theorem handleSubscribe_leavesOthers {px : WebsocketProxy} {m : Message} {req : WsSubscription}
    (hm : m.data = .subscribe req) :
  (px.LeavesOthers ((px.taking m).handleSubscribe px.taken req) m.pid ↔ px.ForOwn m) ∧
    px.LeavesAllBut ((px.taking m).handleSubscribe px.taken req) m
  := by
  have htarget : m.data.target = some req.id := by rw [hm]; rfl
  have hclose : ∀ req, m.data ≠ .closeWs req := by simp [hm]
  rcases getClient_taking_cases px m with ⟨hpid, clients, -, hget⟩ | ⟨hpid, hget⟩
  · simp only [handleSubscribe, slots_taking, hget, if_true]
    split
    case h_1 r hid =>
      have hid : px.websocketsById.lookup req.id = some r := hid
      split
      case h_1 hnone =>
        have hnone : (px.sockets r).subscriptions.lookup (Message.symbolView req) = none := hnone
        refine leaves_of_update htarget hclose hpid hid (by rfl) (by rfl) ?_
        rw [InVain, hm]
        apply iff_of_false
        · apply send_ne
          rfl
        · rintro ⟨sub, hsub, -⟩
          rw [hnone] at hsub
          cases hsub
      case h_2 old hold =>
        have hold : (px.sockets r).subscriptions.lookup (Message.symbolView req) = some old := hold
        refine leaves_of_update htarget hclose hpid hid (by rfl) (by rfl) ?_
        rw [InVain, hm]
        rcases em (old.type &&& req.type = 0) with hnew | hnew
        · simp only [hnew, if_true]
          apply iff_of_false
          · apply send_ne
            rfl
          · rintro ⟨sub, hsub, -, hbits⟩
            rw [hold] at hsub
            obtain rfl := Option.some.inj hsub
            apply hbits hnew
        · simp only [hnew, if_false]
          constructor
          · intro hsame
            have hsub := congrArg (fun ws : Websocket => ws.subscriptions.lookup
              (Message.symbolView req)) hsame
            have hsub := (UnorderedMap.lookup_replace hold _).symm.trans (hsub.trans hold)
            use old, hold
            constructor
            · rw [← Option.some.inj hsub]
              apply Finset.mem_insert_self
            · exact hnew
          · rintro ⟨sub, hsub, hmem, -⟩
            rw [hold] at hsub
            obtain rfl := Option.some.inj hsub
            rw [Finset.insert_eq_self.mpr hmem]
            congr 1
            apply UnorderedMap.replace_self hold
    case h_2 hid =>
      have hid : px.websocketsById.lookup req.id = none := hid
      apply leaves_of_forOwn (forOwn_of_none htarget (Or.inr hid))
      all_goals rfl
  · simp only [handleSubscribe, slots_taking, hget]
    apply leaves_of_forOwn (forOwn_of_none htarget (Or.inl hpid))
    all_goals rfl

theorem handleUnsubscribe_leavesOthers {px : WebsocketProxy} {m : Message} {req : WsSubscription}
    (hm : m.data = .unsubscribe req) :
  (px.LeavesOthers ((px.taking m).handleUnsubscribe px.taken req) m.pid ↔ px.ForOwn m) ∧
    px.LeavesAllBut ((px.taking m).handleUnsubscribe px.taken req) m
  := by
  have htarget : m.data.target = some req.id := by rw [hm]; rfl
  have hclose : ∀ req, m.data ≠ .closeWs req := by simp [hm]
  rcases getClient_taking_cases px m with ⟨hpid, clients, -, hget⟩ | ⟨hpid, hget⟩
  · simp only [handleUnsubscribe, slots_taking, hget, if_true]
    split
    case h_1 r hid =>
      have hid : px.websocketsById.lookup req.id = some r := hid
      split
      case h_1 old hold =>
        have hold : (px.sockets r).subscriptions.lookup (Message.symbolView req) = some old := hold
        refine leaves_of_update htarget hclose hpid hid (by rfl) (by rfl) ?_
        rw [InVain, hm]
        have hvain : (∀ sub, (px.sockets r).subscriptions.lookup (Message.symbolView req) = some sub →
            m.pid ∉ sub.clients ∧ sub.clients.Nonempty) ↔
            m.pid ∉ old.clients ∧ old.clients.Nonempty := by
          constructor
          · exact fun h => h old hold
          · intro h sub hsub
            rw [hold] at hsub
            obtain rfl := Option.some.inj hsub
            exact h
        apply Iff.trans _ hvain.symm
        rcases em (old.clients.erase m.pid = ∅) with hlast | hlast
        · simp only [hlast, if_true]
          apply iff_of_false
          · apply send_ne
            rfl
          · rintro ⟨hnot, hnonempty⟩
            rw [Finset.erase_eq_of_notMem hnot] at hlast
            apply hnonempty.ne_empty hlast
        · simp only [hlast, if_false]
          constructor
          · intro hsame
            have hsub := congrArg (fun ws : Websocket => ws.subscriptions.lookup
              (Message.symbolView req)) hsame
            have hsub := (UnorderedMap.lookup_replace hold _).symm.trans (hsub.trans hold)
            have hclients : old.clients.erase m.pid = old.clients :=
              congrArg Subscription.clients (Option.some.inj hsub)
            rw [hclients] at hlast
            use Finset.erase_eq_self.mp hclients
            apply Finset.nonempty_iff_ne_empty.mpr hlast
          · rintro ⟨hnot, -⟩
            rw [Finset.erase_eq_of_notMem hnot]
            congr 1
            apply UnorderedMap.replace_self hold
      case h_2 hnone =>
        have hnone : (px.sockets r).subscriptions.lookup (Message.symbolView req) = none := hnone
        have hvain : px.InVain m r := by
          rw [InVain, hm]
          intro sub hsub
          rw [hnone] at hsub
          cases hsub
        apply leaves_of_forOwn ((forOwn_iff htarget hclose hpid hid).mpr (Or.inr hvain))
        all_goals rfl
    case h_2 hid =>
      have hid : px.websocketsById.lookup req.id = none := hid
      apply leaves_of_forOwn (forOwn_of_none htarget (Or.inr hid))
      all_goals rfl
  · simp only [handleUnsubscribe, slots_taking, hget]
    apply leaves_of_forOwn (forOwn_of_none htarget (Or.inl hpid))
    all_goals rfl

/-- In every reachable state, handling a message for a connection leaves the connections its
sender is not attached to as they are, exactly when it is for an own connection; and it leaves
all but the connection it is for. -/
theorem leavesOthers_iff {px : WebsocketProxy} (h : system.Reachable px) {m : Message}
    (hkind : m.data.target ≠ none) :
  (px.LeavesOthers ((px.taking m).handleClientMessage px.taken).1 m.pid ↔ px.ForOwn m) ∧
    px.LeavesAllBut ((px.taking m).handleClientMessage px.taken).1 m
  := by
  have hwf := reachable_wellFormed h
  rw [handleClientMessage, slots_taking]
  cases hm : m.data with
  | closeWs req => apply closeWs_leavesOthers hwf hm
  | wsRequest req => apply sendWsRequest_leavesOthers hm
  | subscribe req => apply handleSubscribe_leavesOthers hm
  | unsubscribe req => apply handleUnsubscribe_leavesOthers hm
  | _ =>
      rw [hm] at hkind
      exact absurd rfl hkind

/-- The request of a client for the connection it shares is for an own connection. -/
theorem leavesOthers_openShared :
  ∃ px, system.Run (start 7 fun _ => 1) openShared px ∧
    px.LeavesOthers ((px.taking { pid := 2, data := .wsRequest { id := 70001, data := [1] } }
      ).handleClientMessage px.taken).1 2
  := by
  have hexec : ∃ px ∈ system.exec (start 7 fun _ => 1) openShared,
      px.websocketsById.lookup 70001 = some 0 ∧ (px.sockets 0).clients = {1, 2} := by
    decide +kernel
  obtain ⟨px, hrun, hid, hclients⟩ := TransitionSystem.exists_runUnder hexec
  use px, hrun
  apply (leavesOthers_iff ⟨_, _, ⟨7, _, rfl⟩, hrun⟩ (by simp [Message.Data.target])).1.mpr
  intro _ id r htarget hr
  obtain rfl : 70001 = id := Option.some.inj htarget
  obtain rfl : r = 0 := Option.some.inj (hr.symm.trans hid)
  right; left
  rw [hclients]
  decide

/-- A client that has opened nothing sends on the connection of another. -/
theorem not_leavesOthers :
  ∃ px, system.Run (start 7 fun _ => 1) (openOne ++ [.register 2]) px ∧
    ¬ px.LeavesOthers ((px.taking { pid := 2, data := .wsRequest { id := 70001, data := [1] } }
      ).handleClientMessage px.taken).1 2
  := by
  have hexec : ∃ px ∈ system.exec (start 7 fun _ => 1) (openOne ++ [.register 2]),
      2 ∉ (px.sockets 0).clients ∧ (px.sockets 0).transport = [] ∧
      (((px.taking { pid := 2, data := .wsRequest { id := 70001, data := [1] } }
        ).handleClientMessage px.taken).1.sockets 0).transport = [[1]] := by
    decide +kernel
  obtain ⟨px, hrun, hpid, hbefore, hafter⟩ := TransitionSystem.exists_runUnder hexec
  use px, hrun
  intro h
  rw [(h 0 hpid).1, hbefore] at hafter
  cases hafter

end WebsocketProxy
