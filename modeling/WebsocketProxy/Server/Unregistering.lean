import WebsocketProxy.Server.Projection

/-!
# Unregistering a client

`unregisterClient` takes the client from all connections first, and closes those in a second loop
that have no client left. It does what `closeWs` for each connection of the client does, in any
order (`unregister_eq_closing`).
-/

namespace UnorderedMap

/-- Two entries are erased, each under a condition, in either order. -/
theorem erase_if_comm {κ υ : Type*} [DecidableEq κ] (m : UnorderedMap κ υ) (k k' : κ)
    (p q : Prop) [Decidable p] [Decidable q] :
  (if q then AList.erase k' (if p then m.erase k else m) else if p then m.erase k else m)
    = if p then AList.erase k (if q then m.erase k' else m) else if q then m.erase k' else m
  := by
  rcases em p with hp | hp
  · rcases em q with hq | hq
    · simp only [if_pos hp, if_pos hq]
      apply AList.erase_erase
    · simp only [if_pos hp, if_neg hq]
  · simp only [if_neg hp]

end UnorderedMap

namespace Tables

/-- `closeWs` of a connection that is found: its client leaves. -/
theorem closeWs_eq {t : Tables} {id : UInt64} {r : ℕ} (h : t.websocketsById.lookup id = some r)
    (pid : UInt64) :
  t.closeWs id pid = { t with
    sockets := Function.update t.sockets r ((t.sockets r).leave {pid})
    websocketsByUrlApiKey := if (t.sockets r).clients.erase pid = ∅
      then t.websocketsByUrlApiKey.erase (t.sockets r).key else t.websocketsByUrlApiKey
    websocketsById := if (t.sockets r).clients.erase pid = ∅
      then t.websocketsById.erase id else t.websocketsById }
  := by
  rw [Websocket.leave_singleton]
  rcases em ((t.sockets r).clients.erase pid = ∅) with hlast | hstay
  · rw [closeWs_of_last h hlast, if_pos hlast, if_pos hlast, if_pos hlast]
  · rw [closeWs_of_stay h hstay, if_neg hstay, if_neg hstay, if_neg hstay]
    rfl

theorem closeWs_lookup_of_ne {id id' : UInt64} (hne : id' ≠ id) (t : Tables) (pid : UInt64) :
  (t.closeWs id pid).websocketsById.lookup id' = t.websocketsById.lookup id'
  := by
  cases h : t.websocketsById.lookup id with
  | none => rw [closeWs_of_none h]
  | some r =>
      rw [closeWs_eq h]
      dsimp only
      split
      case isTrue => rw [UnorderedMap.lookup_erase_eq, if_neg hne]
      case isFalse => rfl

theorem closeWs_sockets_of_ne {t : Tables} {id : UInt64} {r : ℕ}
    (h : t.websocketsById.lookup id ≠ some r) (pid : UInt64) :
  (t.closeWs id pid).sockets r = t.sockets r
  := by
  cases hid : t.websocketsById.lookup id with
  | none => rw [closeWs_of_none hid]
  | some r' =>
      rw [closeWs_eq hid]
      apply Function.update_of_ne
      rintro rfl
      apply h hid

/-- A client is taken from two connections in either order. -/
theorem closeWs_comm (t : Tables) (id id' pid : UInt64) :
  (t.closeWs id pid).closeWs id' pid = (t.closeWs id' pid).closeWs id pid
  := by
  rcases eq_or_ne id id' with rfl | hne
  · rfl
  have hlookup := closeWs_lookup_of_ne hne t pid
  have hlookup' := closeWs_lookup_of_ne hne.symm t pid
  cases h : t.websocketsById.lookup id with
  | none => rw [closeWs_of_none h, closeWs_of_none (hlookup.trans h)]
  | some r =>
      cases h' : t.websocketsById.lookup id' with
      | none => rw [closeWs_of_none h', closeWs_of_none (hlookup'.trans h')]
      | some r' =>
          rw [closeWs_eq (hlookup'.trans h'), closeWs_eq (hlookup.trans h), closeWs_eq h,
            closeWs_eq h']
          rcases eq_or_ne r r' with rfl | hr
          · simp only [Function.update_self, Websocket.leave_clients, Websocket.leave_key,
              Finset.sdiff_singleton_eq_erase, Finset.erase_idem]
            congr 1
            apply UnorderedMap.erase_if_comm
          · simp only [Function.update_of_ne hr, Function.update_of_ne hr.symm]
            congr 1
            · apply UnorderedMap.erase_if_comm
            · apply UnorderedMap.erase_if_comm
            · exact Function.update_comm hr ..

/-- A client is taken from connections in any order. -/
theorem foldl_closeWs_perm {ids ids' : List UInt64} (h : ids.Perm ids') (pid : UInt64)
    (t : Tables) :
  ids.foldl (fun t id => t.closeWs id pid) t = ids'.foldl (fun t id => t.closeWs id pid) t
  := h.foldl_eq' (fun id _ id' _ t => closeWs_comm t id id' pid) t

/-- Nothing is done to connections that the client is not one of. -/
theorem foldl_closeWs_of_not_mem {t : Tables} (ht : t.WellFormed) {pid : UInt64}
    {ids : List UInt64}
    (hids : ∀ id ∈ ids, ∀ r, t.websocketsById.lookup id = some r → pid ∉ (t.sockets r).clients) :
  ids.foldl (fun t id => t.closeWs id pid) t = t
  := by
  induction ids with
  | nil => rfl
  | cons id ids ih =>
      have hsame : t.closeWs id pid = t := by
        cases h : t.websocketsById.lookup id with
        | none => rw [closeWs_of_none h]
        | some r =>
            have hr := hids id List.mem_cons_self r h
            have herase := Finset.erase_eq_of_notMem hr
            have hnonempty := ht.nonempty r ⟨id, h⟩
            rw [closeWs_of_stay h (by rw [herase]; exact hnonempty.ne_empty), modifySocket, herase]
            exact congrArg (fun sockets => { t with sockets }) (Function.update_eq_self r t.sockets)
      rw [List.foldl_cons, hsame]
      apply ih
      exact fun id' hid' => hids id' (List.mem_cons_of_mem id hid')

/-- The ids of the connections of a client. -/
def idsOf (t : Tables) (pid : UInt64) : List UInt64 :=
  (t.websocketsById.entries.filter fun kvp => pid ∈ (t.sockets kvp.2).clients).map Sigma.fst

/-- The loops of `unregisterClient` do what `closeWs` for each connection of the client does. -/
theorem unregisterSockets_eq_closing {t : Tables} (ht : t.WellFormed) {pid : UInt64}
    {ids : List UInt64} (hids : ids.Perm (t.idsOf pid)) :
  t.unregisterSockets pid = ids.foldl (fun t id => t.closeWs id pid) t
  := by
  let own (kvp : Σ _ : UInt64, ℕ) : Bool := pid ∈ (t.sockets kvp.2).clients
  let others := (t.websocketsById.entries.filter (fun kvp => !own kvp)).map Sigma.fst
  have hperm : (t.websocketsById.entries.map Sigma.fst).Perm (others ++ t.idsOf pid) := by
    rw [idsOf, ← List.map_append]
    apply List.Perm.map
    apply (List.filter_append_perm own _).symm.trans
    apply List.perm_append_comm
  calc t.unregisterSockets pid
      = (t.websocketsById.entries.map Sigma.fst).foldl (fun t id => t.closeWs id pid) t := by
        rw [unregisterSockets_eq ht, List.foldl_map]
    _ = (t.idsOf pid).foldl (fun t id => t.closeWs id pid)
          (others.foldl (fun t id => t.closeWs id pid) t) := by
        rw [foldl_closeWs_perm hperm, List.foldl_append]
    _ = (t.idsOf pid).foldl (fun t id => t.closeWs id pid) t := by
        rw [foldl_closeWs_of_not_mem ht]
        intro id hid r hlookup
        obtain ⟨kvp, hkvp, rfl⟩ := List.mem_map.mp hid
        obtain ⟨hentry, hother⟩ := List.mem_filter.mp hkvp
        have hr : some kvp.2 = some r := (UnorderedMap.mem_entries_iff.mp hentry).symm.trans hlookup
        rw [← Option.some.inj hr]
        simpa [own] using hother
    _ = ids.foldl (fun t id => t.closeWs id pid) t := foldl_closeWs_perm hids.symm pid t

/-! ### Calls of `close` -/

/-- The connections that `closeWs` for each of the ids in turn calls `close` of. -/
def closeCalls (pid : UInt64) : List UInt64 → Tables → List ℕ
  | [], _ => []
  | id :: ids, t =>
      (match t.websocketsById.lookup id with
        | some r => if (t.sockets r).clients.erase pid = ∅ then [r] else []
        | none => []) ++ closeCalls pid ids (t.closeWs id pid)

/-- The connections that the loops of `unregisterClient` call `close` of. -/
def unregisterCloseCalls (t : Tables) (pid : UInt64) : List ℕ :=
  let (t, toClose) := t.websocketsById.entries.foldl (detach pid) (t, [])
  closeCalls pid toClose t

/-- Connections are stored under one id only. -/
def OneId (t : Tables) : Prop :=
  ∀ id id' r, t.websocketsById.lookup id = some r → t.websocketsById.lookup id' = some r → id = id'

theorem WellFormed.oneId {t : Tables} (ht : t.WellFormed) :
  t.OneId
  := by
  intro id id' r h h'
  rw [← ht.byId id r h, ← ht.byId id' r h']

theorem OneId.closeWs {t : Tables} (h : t.OneId) (id pid : UInt64) :
  (t.closeWs id pid).OneId
  := by
  have hlookup : ∀ id' r, (t.closeWs id pid).websocketsById.lookup id' = some r →
      t.websocketsById.lookup id' = some r := by
    intro id' r h'
    rcases eq_or_ne id' id with rfl | hne
    · cases hid : t.websocketsById.lookup id' with
      | none =>
          rw [closeWs_of_none hid, hid] at h'
          cases h'
      | some r' =>
          rw [closeWs_eq hid] at h'
          dsimp only at h'
          split at h'
          case isTrue =>
            rw [UnorderedMap.lookup_erase_eq, if_pos rfl] at h'
            cases h'
          case isFalse => rw [← hid, h']
    · rw [closeWs_lookup_of_ne hne] at h'
      exact h'
  intro id₁ id₂ r h₁ h₂
  apply h id₁ id₂ r (hlookup id₁ r h₁) (hlookup id₂ r h₂)

/-- `closeWs` for distinct ids closes the connections whose last client leaves. -/
theorem mem_closeCalls {pid : UInt64} {ids : List UInt64} {r : ℕ} :
  ∀ t : Tables, t.OneId → ids.Nodup →
    (r ∈ closeCalls pid ids t ↔
      ∃ id ∈ ids, t.websocketsById.lookup id = some r ∧ (t.sockets r).clients.erase pid = ∅)
  := by
  induction ids with
  | nil =>
      intro t _ _
      simp [closeCalls]
  | cons id ids ih =>
      intro t hone hnodup
      obtain ⟨hnew, hnodup⟩ := List.nodup_cons.mp hnodup
      have hne : ∀ id' ∈ ids, id' ≠ id := by
        rintro id' hid' rfl
        apply hnew hid'
      have hrest : ∀ id' ∈ ids, ((t.closeWs id pid).websocketsById.lookup id' = some r ∧
          ((t.closeWs id pid).sockets r).clients.erase pid = ∅ ↔
          t.websocketsById.lookup id' = some r ∧ (t.sockets r).clients.erase pid = ∅) := by
        intro id' hid'
        rw [closeWs_lookup_of_ne (hne id' hid')]
        apply and_congr_right
        intro hlookup
        rw [closeWs_sockets_of_ne]
        intro h
        apply hne id' hid' (hone id' id r hlookup h)
      have hfirst : r ∈ (match t.websocketsById.lookup id with
          | some r => if (t.sockets r).clients.erase pid = ∅ then [r] else []
          | none => []) ↔
          t.websocketsById.lookup id = some r ∧ (t.sockets r).clients.erase pid = ∅ := by
        cases hid : t.websocketsById.lookup id with
        | none => simp
        | some r' =>
            rw [Option.some.injEq]
            dsimp only
            split
            case isTrue hlast =>
              rw [List.mem_singleton]
              constructor
              · rintro rfl
                exact ⟨rfl, hlast⟩
              · exact fun h => h.1.symm
            case isFalse hstay =>
              apply iff_of_false List.not_mem_nil
              rintro ⟨rfl, hlast⟩
              apply hstay hlast
      rw [closeCalls, List.mem_append, hfirst, ih _ (hone.closeWs id pid) hnodup,
        List.exists_mem_cons_iff]
      apply or_congr_right
      apply exists_congr
      intro id'
      apply and_congr_right (hrest id')

/-- The last client of a connection is one of its clients. -/
theorem WellFormed.mem_of_last {t : Tables} (ht : t.WellFormed) {r : ℕ} (hr : t.Stored r)
    {pid : UInt64} (hlast : (t.sockets r).clients.erase pid = ∅) :
  pid ∈ (t.sockets r).clients
  := by
  obtain ⟨q, hq⟩ := ht.nonempty r hr
  have hsub := Websocket.subset_singleton_iff_erase.mpr hlast
  rw [← Finset.mem_singleton.mp (hsub hq)]
  exact hq

/-- The loops of `unregisterClient` close the connections whose last client leaves. -/
theorem mem_unregisterCloseCalls {t : Tables} (ht : t.WellFormed) (pid : UInt64) (r : ℕ) :
  r ∈ t.unregisterCloseCalls pid ↔ t.Stored r ∧ (t.sockets r).clients.erase pid = ∅
  := by
  have hone : (t.detached pid (t.websocketsById.entries.map Sigma.snd)).OneId := ht.oneId
  have hnodup : ((t.emptied pid t.websocketsById.entries).map Sigma.fst).Nodup :=
    t.websocketsById.keys_nodup.sublist ((List.filter_sublist ..).map Sigma.fst)
  have hsocket : ∀ id, t.websocketsById.lookup id = some r →
      ((t.detached pid (t.websocketsById.entries.map Sigma.snd)).sockets r).clients.erase pid
        = (t.sockets r).clients.erase pid := by
    intro id hid
    have hmem : r ∈ t.websocketsById.entries.map Sigma.snd :=
      List.mem_map_of_mem (UnorderedMap.mem_entries_iff.mpr hid)
    simp only [detached, if_pos hmem, Finset.erase_idem]
  rw [unregisterCloseCalls, foldl_detach _ _ _ _ ht.nodup_refs, List.nil_append]
  dsimp only
  rw [mem_closeCalls _ hone hnodup]
  constructor
  · rintro ⟨id, -, hid, hlast⟩
    rw [hsocket id hid] at hlast
    exact ⟨⟨id, hid⟩, hlast⟩
  · rintro ⟨⟨id, hid⟩, hlast⟩
    refine ⟨id, ?_, hid, ?_⟩
    · apply List.mem_map_of_mem (f := Sigma.fst) (a := ⟨id, r⟩)
      apply List.mem_filter.mpr
      use UnorderedMap.mem_entries_iff.mpr hid
      exact decide_eq_true ⟨ht.mem_of_last ⟨id, hid⟩ hlast, hlast⟩
    · rw [hsocket id hid, hlast]

/-- So does `closeWs` for each connection of the client. -/
theorem mem_closeCalls_idsOf {t : Tables} (ht : t.WellFormed) {pid : UInt64} {ids : List UInt64}
    (hids : ids.Perm (t.idsOf pid)) (r : ℕ) :
  r ∈ closeCalls pid ids t ↔ t.Stored r ∧ (t.sockets r).clients.erase pid = ∅
  := by
  have hnodup : (t.idsOf pid).Nodup :=
    t.websocketsById.keys_nodup.sublist ((List.filter_sublist ..).map Sigma.fst)
  rw [mem_closeCalls t ht.oneId (hids.nodup_iff.mpr hnodup)]
  constructor
  · rintro ⟨id, -, hid, hlast⟩
    exact ⟨⟨id, hid⟩, hlast⟩
  · rintro ⟨⟨id, hid⟩, hlast⟩
    refine ⟨id, ?_, hid, hlast⟩
    apply hids.mem_iff.mpr
    apply List.mem_map_of_mem (f := Sigma.fst) (a := ⟨id, r⟩)
    apply List.mem_filter.mpr
    use UnorderedMap.mem_entries_iff.mpr hid
    exact decide_eq_true (ht.mem_of_last ⟨id, hid⟩ hlast)

end Tables

namespace WebsocketProxy

/-- The server when `closeWs` was performed for each of the ids, and the client is dropped from
the table. -/
def closingEach (px : WebsocketProxy) (pid : UInt64) (ids : List UInt64) : WebsocketProxy :=
  let px := { px with toTables := ids.foldl (fun t id => t.closeWs id pid) px.toTables }
  let px := { px with clients := px.clients.erase pid }
  if px.clients.isEmpty then
    let (now, px) := px.getTimestamp
    { px with shutdownTime := now }
  else px

/-- Both forms of `unregisterClient` do what `closeWs` for each connection of the client does, in
any order, and call `close` of the same connections. -/
theorem unregister_eq_closing {px : WebsocketProxy} (h : system.Reachable px) {pid : UInt64}
    (hpid : pid ∈ px.clients) {ids : List UInt64} (hids : ids.Perm (px.idsOf pid)) :
  px.unregisterClient pid = px.closingEach pid ids ∧
    px.unregisterClientAt pid = px.closingEach pid ids ∧
    ∀ r, r ∈ px.unregisterCloseCalls pid ↔ r ∈ Tables.closeCalls pid ids px.toTables
  := by
  have hwf : px.WellFormed := reachable_wellFormed h
  have hat : px.unregisterClientAt pid = px.closingEach pid ids := by
    rw [unregisterClientAt, closingEach, Tables.unregisterSockets_eq_closing hwf hids]
  refine ⟨?_, hat, ?_⟩
  · rw [unregisterClient, if_pos hpid, hat]
  · intro r
    rw [Tables.mem_unregisterCloseCalls hwf, Tables.mem_closeCalls_idsOf hwf hids]

/-- Two clients share a connection, and the first has another one of its own. -/
def openOwn : List Event :=
  openShared ++ [.openWs 1 [105] []] ++ Event.opened 1

theorem unregister_eq_closing_openOwn :
  ∃ px, system.Run (start 7 fun _ => 1) openOwn px ∧
    px.unregisterClient 1 = px.closingEach 1 [70002, 70001] ∧
    px.unregisterClientAt 1 = px.closingEach 1 [70002, 70001]
  := by
  have hexec : ∃ px ∈ system.exec (start 7 fun _ => 1) openOwn,
      1 ∈ px.clients ∧ [70002, 70001].Perm (px.idsOf 1) := by
    decide +kernel
  obtain ⟨px, hrun, hpid, hids⟩ := TransitionSystem.exists_runUnder hexec
  have hreachable : system.Reachable px := ⟨_, _, ⟨7, _, rfl⟩, hrun⟩
  obtain ⟨hunregister, hat, -⟩ := unregister_eq_closing hreachable hpid hids
  exact ⟨px, hrun, hunregister, hat⟩

end WebsocketProxy
