import Mathlib.Data.Finset.Lattice.Lemmas
import WebsocketProxy.Server.Tables

/-!
# The departure paths

`closeWs`, the two loops of `unregisterClient` and the pass of `checkHeartbeats` each do
what `Tables.Departs` says, of one connection, of all connections for one client, and of
all connections for all expired clients.
-/

namespace Websocket

theorem subset_singleton_iff_erase {s : Finset UInt64} {pid : UInt64} :
  s ⊆ {pid} ↔ s.erase pid = ∅
  := by
  rw [Finset.erase_eq, Finset.sdiff_eq_empty_iff_subset]

/-- The departure of one client. -/
theorem leave_singleton (ws : Websocket) (pid : UInt64) :
  ws.leave {pid} = if ws.clients.erase pid = ∅
    then { ws with clients := ws.clients.erase pid }.close
    else { ws with clients := ws.clients.erase pid }
  := by
  unfold leave
  simp only [subset_singleton_iff_erase, Finset.sdiff_singleton_eq_erase]

end Websocket

namespace Tables

/-! ### One connection -/

/-- `closeWs` of an id nothing is stored under. -/
theorem closeWs_of_none {t : Tables} {id : UInt64} (h : t.websocketsById.lookup id = none)
    (pid : UInt64) :
  t.closeWs id pid = t
  := by
  rw [closeWs, h]

/-- `closeWs` when other clients remain. -/
theorem closeWs_of_stay {t : Tables} {id pid : UInt64} {r : ℕ}
    (h : t.websocketsById.lookup id = some r)
    (hstay : (t.sockets r).clients.erase pid ≠ ∅) :
  t.closeWs id pid = t.modifySocket r (fun ws => { ws with clients := ws.clients.erase pid })
  := by
  simp only [closeWs, h, modifySocket_self]
  rw [if_neg hstay]

/-- `closeWs` of the last client. -/
theorem closeWs_of_last {t : Tables} {id pid : UInt64} {r : ℕ}
    (h : t.websocketsById.lookup id = some r)
    (hlast : (t.sockets r).clients.erase pid = ∅) :
  t.closeWs id pid = { t with
    sockets := Function.update t.sockets r
      { t.sockets r with clients := (t.sockets r).clients.erase pid }.close
    websocketsByUrlApiKey := t.websocketsByUrlApiKey.erase (t.sockets r).key
    websocketsById := t.websocketsById.erase id }
  := by
  simp only [closeWs, h, modifySocket_self]
  rw [if_pos hlast, Websocket.close_key]
  simp only [modifySocket, Function.update_idem, Function.update_self]
  rfl

/-- `closeWs` is the departure of a client from the connection with an id. -/
theorem closeWs_departs {t : Tables} (ht : t.WellFormed) (id pid : UInt64) :
  t.Departs (t.closeWs id pid)
    (fun r => if t.websocketsById.lookup id = some r then {pid} else ∅)
  := by
  cases hlookup : t.websocketsById.lookup id with
  | none =>
      rw [closeWs_of_none hlookup]
      apply Departs.refl ht
      intro r _
      rw [if_neg]
      intro h
      cases h
  | some r₀ =>
      have hself : ∀ r, (t.sockets r).clients ⊆ (if some r₀ = some r then {pid} else ∅) →
          t.Stored r → r = r₀ ∧ (t.sockets r).clients.erase pid = ∅ := by
        intro r hsub hr
        split at hsub
        case isTrue h =>
          use (Option.some.inj h).symm
          apply Websocket.subset_singleton_iff_erase.mp hsub
        case isFalse =>
          apply absurd (Finset.subset_empty.mp hsub) (ht.nonempty r hr).ne_empty
      by_cases hlast : (t.sockets r₀).clients.erase pid = ∅
      · rw [closeWs_of_last hlookup hlast]
        have hsub : (t.sockets r₀).clients ⊆ {pid} := Websocket.subset_singleton_iff_erase.mpr hlast
        constructor
        · intro r hr
          by_cases hrr : r = r₀
          · subst hrr
            simp only [Function.update_self, if_true, Websocket.leave_singleton, hlast]
          · rw [if_neg (fun h => hrr (Option.some.inj h).symm),
              Websocket.leave_empty (ht.nonempty r hr)]
            apply Function.update_of_ne hrr
        · intro r hr
          apply Function.update_of_ne
          rintro rfl
          apply hr ⟨id, hlookup⟩
        · intro id' r
          simp only [UnorderedMap.lookup_erase_eq_some]
          constructor
          · rintro ⟨hne, h⟩
            use h
            intro hleft
            obtain ⟨rfl, -⟩ := hself r hleft ⟨id', h⟩
            apply hne
            rw [← ht.byId _ _ h, ← ht.byId _ _ hlookup]
          · rintro ⟨h, hstay⟩
            refine ⟨?_, h⟩
            rintro rfl
            rw [hlookup] at h
            apply hstay
            rw [if_pos h, ← Option.some.inj h]
            apply hsub
        · intro k r
          simp only [UnorderedMap.lookup_erase_eq_some]
          constructor
          · rintro ⟨hne, h⟩
            use h
            intro r' hr' hleft
            obtain ⟨rfl, -⟩ := hself r' hleft hr'
            apply Ne.symm hne
          · rintro ⟨h, hkeys⟩
            refine ⟨?_, h⟩
            intro hk
            apply hkeys r₀ ⟨id, hlookup⟩ _ hk.symm
            rw [if_pos rfl]
            apply hsub
        all_goals rfl
      · rw [closeWs_of_stay hlookup hlast]
        have hnone : ∀ r, t.Stored r →
            ¬ (t.sockets r).clients ⊆ (if some r₀ = some r then {pid} else ∅) := by
          intro r hr hsub
          obtain ⟨rfl, h⟩ := hself r hsub hr
          apply hlast h
        constructor
        · intro r hr
          by_cases hrr : r = r₀
          · subst hrr
            rw [modifySocket_self, if_pos rfl, Websocket.leave_singleton, if_neg hlast]
          · rw [modifySocket_of_ne hrr, if_neg (fun h => hrr (Option.some.inj h).symm),
              Websocket.leave_empty (ht.nonempty r hr)]
        · intro r hr
          rw [modifySocket_of_ne]
          rintro rfl
          apply hr ⟨id, hlookup⟩
        · intro id' r
          constructor
          · intro h
            use h
            apply hnone r ⟨id', h⟩
          · rintro ⟨h, -⟩
            apply h
        · intro k r
          constructor
          · intro h
            use h
            intro r' hr' hleft
            apply absurd hleft (hnone r' hr')
          · rintro ⟨h, -⟩
            apply h
        all_goals rfl

/-! ### All connections -/

/-- The tables with a client taken from the connections at the given references. -/
def detached (t : Tables) (pid : UInt64) (rs : List ℕ) : Tables :=
  { t with sockets := fun r =>
      if r ∈ rs then { t.sockets r with clients := (t.sockets r).clients.erase pid }
      else t.sockets r }

/-- The connections of a list of entries that have the client as their last one. -/
def emptied (t : Tables) (pid : UInt64) (entries : List (Σ _ : UInt64, ℕ)) :
    List (Σ _ : UInt64, ℕ) :=
  entries.filter (fun kvp => pid ∈ (t.sockets kvp.2).clients ∧
    (t.sockets kvp.2).clients.erase pid = ∅)

theorem detach_eq (t : Tables) (pid : UInt64) (toClose : List UInt64) (kvp : Σ _ : UInt64, ℕ) :
  detach pid (t, toClose) kvp
    = (t.modifySocket kvp.2 (fun ws => { ws with clients := ws.clients.erase pid }),
        toClose ++ (t.emptied pid [kvp]).map Sigma.fst)
  := by
  by_cases hmem : pid ∈ (t.sockets kvp.2).clients
  · by_cases hlast : (t.sockets kvp.2).clients.erase pid = ∅
    · simp [detach, emptied, hmem, hlast]
    · simp [detach, emptied, hmem, hlast]
  · have hsame : t.modifySocket kvp.2 (fun ws => { ws with clients := ws.clients.erase pid })
        = t := by
      simp only [modifySocket, Finset.erase_eq_of_notMem hmem]
      rw [Function.update_eq_self]
    simp [detach, emptied, hmem, hsame]

/-- The first loop of `unregisterClient`. -/
theorem foldl_detach (pid : UInt64) (entries : List (Σ _ : UInt64, ℕ)) :
  ∀ (t : Tables) (toClose : List UInt64), (entries.map Sigma.snd).Nodup →
    entries.foldl (detach pid) (t, toClose)
      = (t.detached pid (entries.map Sigma.snd),
          toClose ++ (t.emptied pid entries).map Sigma.fst)
  := by
  induction entries with
  | nil =>
      intro t toClose _
      simp [detached, emptied]
  | cons kvp entries ih =>
      intro t toClose hnodup
      obtain ⟨hnew, hnodup⟩ := List.nodup_cons.mp hnodup
      have hother : ∀ kvp' ∈ entries, kvp'.2 ≠ kvp.2 := by
        intro kvp' hmem heq
        apply hnew
        rw [← heq]
        apply List.mem_map_of_mem hmem
      rw [List.foldl_cons, detach_eq, ih _ _ hnodup]
      congr 1
      · simp only [detached, List.map_cons, List.mem_cons]
        congr 1
        funext r
        by_cases hr : r = kvp.2
        · subst hr
          rw [if_neg hnew, modifySocket_self, if_pos (Or.inl rfl)]
        · simp only [modifySocket_of_ne hr, hr, false_or]
      · have hemptied : (t.modifySocket kvp.2 (fun ws =>
            { ws with clients := ws.clients.erase pid })).emptied pid entries
              = t.emptied pid entries := by
          apply List.filter_congr
          intro kvp' hmem
          rw [modifySocket_of_ne (hother kvp' hmem)]
        rw [hemptied, List.append_assoc, ← List.map_append, emptied, emptied, emptied,
          ← List.filter_append]
        rfl

/-- Taking a client from other connections commutes with `closeWs` of its last client. -/
theorem closeWs_detached {t : Tables} {id pid : UInt64} {r : ℕ} {rs : List ℕ}
    (h : t.websocketsById.lookup id = some r)
    (hlast : (t.sockets r).clients.erase pid = ∅) (hr : r ∉ rs) :
  (t.detached pid (r :: rs)).closeWs id pid = (t.closeWs id pid).detached pid rs
  := by
  have hself : (t.detached pid (r :: rs)).sockets r
      = { t.sockets r with clients := (t.sockets r).clients.erase pid } := by
    simp [detached]
  have hlast' : ((t.detached pid (r :: rs)).sockets r).clients.erase pid = ∅ := by
    rw [hself]
    simp [hlast]
  have h' : (t.detached pid (r :: rs)).websocketsById.lookup id = some r := h
  rw [closeWs_of_last h hlast, closeWs_of_last h' hlast', hself]
  simp only [detached, List.mem_cons]
  congr 1
  funext r'
  by_cases hrr : r' = r
  · subst hrr
    simp [hr]
  · simp [hrr]

/-- The loops of `unregisterClient` do what `closeWs` for each entry in turn does. -/
theorem foldl_closeWs_emptied (pid : UInt64) (entries : List (Σ _ : UInt64, ℕ)) :
  ∀ t : Tables, (entries.map Sigma.fst).Nodup → (entries.map Sigma.snd).Nodup →
    (∀ kvp ∈ entries, t.websocketsById.lookup kvp.1 = some kvp.2 ∧
      (t.sockets kvp.2).clients.Nonempty) →
    ((t.emptied pid entries).map Sigma.fst).foldl (fun t id => t.closeWs id pid)
        (t.detached pid (entries.map Sigma.snd))
      = entries.foldl (fun t kvp => t.closeWs kvp.1 pid) t
  := by
  induction entries with
  | nil =>
      intro t _ _ _
      simp [detached, emptied]
  | cons kvp entries ih =>
      intro t hids hrefs hentries
      obtain ⟨hid, hids⟩ := List.nodup_cons.mp hids
      obtain ⟨href, hrefs⟩ := List.nodup_cons.mp hrefs
      obtain ⟨hlookup, hnonempty⟩ := hentries kvp List.mem_cons_self
      have hotherRef : ∀ kvp' ∈ entries, kvp'.2 ≠ kvp.2 := by
        intro kvp' hmem heq
        apply href
        rw [← heq]
        apply List.mem_map_of_mem hmem
      have hotherId : ∀ kvp' ∈ entries, kvp'.1 ≠ kvp.1 := by
        intro kvp' hmem heq
        apply hid
        rw [← heq]
        apply List.mem_map_of_mem hmem
      have hsockets : ∀ kvp' ∈ entries, (t.closeWs kvp.1 pid).sockets kvp'.2 = t.sockets kvp'.2 := by
        intro kvp' hmem
        by_cases hlast : (t.sockets kvp.2).clients.erase pid = ∅
        · rw [closeWs_of_last hlookup hlast]
          apply Function.update_of_ne (hotherRef kvp' hmem)
        · rw [closeWs_of_stay hlookup hlast, modifySocket_of_ne (hotherRef kvp' hmem)]
      have hemptied : (t.closeWs kvp.1 pid).emptied pid entries = t.emptied pid entries := by
        apply List.filter_congr
        intro kvp' hmem
        rw [hsockets kvp' hmem]
      have hrest : ∀ kvp' ∈ entries,
          (t.closeWs kvp.1 pid).websocketsById.lookup kvp'.1 = some kvp'.2 ∧
            ((t.closeWs kvp.1 pid).sockets kvp'.2).clients.Nonempty := by
        intro kvp' hmem
        obtain ⟨hlookup', hnonempty'⟩ := hentries kvp' (List.mem_cons_of_mem _ hmem)
        constructor
        · by_cases hlast : (t.sockets kvp.2).clients.erase pid = ∅
          · rw [closeWs_of_last hlookup hlast]
            simp only [UnorderedMap.lookup_erase_eq, hotherId kvp' hmem, if_false]
            apply hlookup'
          · rw [closeWs_of_stay hlookup hlast]
            apply hlookup'
        · rw [hsockets kvp' hmem]
          apply hnonempty'
      rw [List.foldl_cons, ← ih _ hids hrefs hrest, hemptied]
      by_cases hlast : (t.sockets kvp.2).clients.erase pid = ∅
      · have hmem : pid ∈ (t.sockets kvp.2).clients := by
          by_contra hmem
          rw [Finset.erase_eq_of_notMem hmem] at hlast
          apply hnonempty.ne_empty hlast
        have hcons : t.emptied pid (kvp :: entries) = kvp :: t.emptied pid entries := by
          rw [emptied, List.filter_cons_of_pos (by simp [hmem, hlast])]
          rfl
        rw [hcons, List.map_cons, List.map_cons, List.foldl_cons,
          closeWs_detached hlookup hlast href]
      · have hcons : t.emptied pid (kvp :: entries) = t.emptied pid entries := by
          rw [emptied, List.filter_cons_of_neg (by simp [hlast])]
          rfl
        have hdetached : t.detached pid ((kvp :: entries).map Sigma.snd)
            = (t.closeWs kvp.1 pid).detached pid (entries.map Sigma.snd) := by
          rw [closeWs_of_stay hlookup hlast]
          simp only [detached, List.map_cons, List.mem_cons]
          congr 1
          funext r
          by_cases hr : r = kvp.2
          · subst hr
            rw [if_pos (Or.inl rfl), if_neg href, modifySocket_self]
          · simp only [modifySocket_of_ne hr, hr, false_or]
        rw [hcons, hdetached]

/-- Distinct entries of well-formed tables have distinct references. -/
theorem WellFormed.nodup_refs {t : Tables} (ht : t.WellFormed) :
  (t.websocketsById.entries.map Sigma.snd).Nodup
  := by
  apply List.Nodup.of_map (fun r => (t.sockets r).id)
  have hkeys := t.websocketsById.keys_nodup
  rw [AList.keys, List.keys] at hkeys
  rw [List.map_map]
  convert hkeys using 1
  apply List.map_congr_left
  intro kvp hmem
  apply ht.byId kvp.1 kvp.2 (UnorderedMap.mem_entries_iff.mp hmem)

/-- `unregisterClient` does to the connections what `closeWs` for each of them does. -/
theorem unregisterSockets_eq {t : Tables} (ht : t.WellFormed) (pid : UInt64) :
  t.unregisterSockets pid
    = t.websocketsById.entries.foldl (fun t kvp => t.closeWs kvp.1 pid) t
  := by
  rw [unregisterSockets, foldl_detach _ _ _ _ ht.nodup_refs, List.nil_append]
  apply foldl_closeWs_emptied
  · apply t.websocketsById.keys_nodup
  · apply ht.nodup_refs
  · intro kvp hmem
    have hlookup := UnorderedMap.mem_entries_iff.mp hmem
    use hlookup
    apply ht.nonempty kvp.2 ⟨kvp.1, hlookup⟩

/-- `closeWs` for each of a list of entries is the departure from those connections. -/
theorem foldl_closeWs_departs (pid : UInt64) (entries : List (Σ _ : UInt64, ℕ)) :
  ∀ t : Tables, t.WellFormed → (entries.map Sigma.fst).Nodup →
    (∀ kvp ∈ entries, t.websocketsById.lookup kvp.1 = some kvp.2) →
    t.Departs (entries.foldl (fun t kvp => t.closeWs kvp.1 pid) t)
      (fun r => if r ∈ entries.map Sigma.snd then {pid} else ∅)
  := by
  induction entries with
  | nil =>
      intro t ht _ _
      apply Departs.refl ht
      intro r _
      simp
  | cons kvp entries ih =>
      intro t ht hnodup hentries
      obtain ⟨hnew, hnodup⟩ := List.nodup_cons.mp hnodup
      have hfirst := closeWs_departs ht kvp.1 pid
      have hlookup := hentries kvp List.mem_cons_self
      have hrest : ∀ kvp' ∈ entries,
          (t.closeWs kvp.1 pid).websocketsById.lookup kvp'.1 = some kvp'.2 := by
        intro kvp' hmem
        have hlookup' := hentries kvp' (List.mem_cons_of_mem _ hmem)
        apply (hfirst.byId _ _).mpr
        use hlookup'
        rw [hlookup, if_neg]
        · rw [Finset.subset_empty]
          apply (ht.nonempty _ ⟨_, hlookup'⟩).ne_empty
        · intro heq
          apply hnew
          have hids : kvp.1 = kvp'.1 := by
            rw [← ht.byId _ _ hlookup, ← ht.byId _ _ hlookup', Option.some.inj heq]
          rw [hids]
          apply List.mem_map_of_mem hmem
      have hthen := ih _ (hfirst.wellFormed ht) hnodup hrest
      apply (hfirst.trans hthen).congr
      intro r _
      rw [hlookup]
      simp only [List.map_cons, List.mem_cons, Option.some.injEq]
      by_cases hr : kvp.2 = r
      · rw [if_pos hr, if_pos (Or.inl hr.symm)]
        split
        · apply Finset.union_self
        · apply Finset.union_empty
      · rw [if_neg hr, Finset.empty_union]
        apply if_congr _ rfl rfl
        exact (or_iff_right (Ne.symm hr)).symm

/-- `unregisterClient` is the departure of a client from all connections. -/
theorem unregisterSockets_departs {t : Tables} (ht : t.WellFormed) (pid : UInt64) :
  t.Departs (t.unregisterSockets pid) (fun _ => {pid})
  := by
  rw [unregisterSockets_eq ht]
  have h := foldl_closeWs_departs pid t.websocketsById.entries t ht t.websocketsById.keys_nodup
    (fun kvp hmem => UnorderedMap.mem_entries_iff.mp hmem)
  apply h.congr
  rintro r ⟨id, hid⟩
  rw [if_pos]
  apply List.mem_map_of_mem (UnorderedMap.mem_entries_iff.mpr hid)

theorem closeWs_clients (t : Tables) (id pid : UInt64) :
  (t.closeWs id pid).clients = t.clients
  := by
  cases hlookup : t.websocketsById.lookup id with
  | none => rw [closeWs_of_none hlookup]
  | some r =>
      by_cases hlast : (t.sockets r).clients.erase pid = ∅
      · rw [closeWs_of_last hlookup hlast]
      · rw [closeWs_of_stay hlookup hlast]
        rfl

theorem detach_clients (pid : UInt64) (acc : Tables × List UInt64) (kvp : Σ _ : UInt64, ℕ) :
  (detach pid acc kvp).1.clients = acc.1.clients
  := by
  simp only [detach]
  split
  · split
    · rfl
    · rfl
  · rfl

theorem unregisterSockets_clients (t : Tables) (pid : UInt64) :
  (t.unregisterSockets pid).clients = t.clients
  := by
  have hdetach : (t.websocketsById.entries.foldl (detach pid) (t, [])).1.clients = t.clients := by
    apply List.foldlRecOn (motive := fun acc : Tables × List UInt64 => acc.1.clients = t.clients)
    · rfl
    · intro acc h kvp _
      rw [detach_clients, h]
  simp only [unregisterSockets]
  apply List.foldlRecOn (motive := fun t' : Tables => t'.clients = t.clients)
  · exact hdetach
  · intro t' h id _
    rw [closeWs_clients, h]

/-! ### Clients that are dropped -/

/-- The connections do not depend on what is noted of clients. -/
theorem Departs.withClients {t t' : Tables} {dep : ℕ → Finset UInt64} (h : t.Departs t' dep)
    (clients : UnorderedMap UInt64 ClientInfo) :
  t.Departs { t' with clients } dep
  := ⟨h.stored, h.unstored, h.byId, h.byKey, h.closedSockets, h.closedSocketsIndex,
    h.websocketId, h.opens⟩

theorem Departs.ofClients {t t' : Tables} {dep : ℕ → Finset UInt64}
    {clients : UnorderedMap UInt64 ClientInfo} (h : Departs { t with clients } t' dep) :
  t.Departs t' dep
  := ⟨h.stored, h.unstored, h.byId, h.byKey, h.closedSockets, h.closedSocketsIndex,
    h.websocketId, h.opens⟩

theorem WellFormed.withClients {t : Tables} (h : t.WellFormed)
    (clients : UnorderedMap UInt64 ClientInfo) :
  WellFormed { t with clients }
  := ⟨h.blank, h.byId, h.lt_opens, h.opened, h.nonempty, h.byKey_lt_opens, h.byKey_opened⟩

/-- `t'` is `t` after the clients `pids` were dropped: they departed from all connections,
and from the table of clients. -/
structure Unregisters (t t' : Tables) (pids : Finset UInt64) : Prop where
  departs : t.Departs t' (fun _ => pids)
  mem_clients : ∀ q, q ∈ t'.clients ↔ q ∈ t.clients ∧ q ∉ pids

theorem Unregisters.refl {t : Tables} (ht : t.WellFormed) :
  t.Unregisters t ∅
  := by
  constructor
  · apply Departs.refl ht
    intro r _
    rfl
  · simp

theorem Unregisters.trans {t t' t'' : Tables} {pids pids' : Finset UInt64}
    (h : t.Unregisters t' pids) (h' : t'.Unregisters t'' pids') :
  t.Unregisters t'' (pids ∪ pids')
  := by
  constructor
  · apply h.departs.trans h'.departs
  · intro q
    rw [h'.mem_clients, h.mem_clients, Finset.mem_union]
    tauto

end Tables

namespace WebsocketProxy

/-- `unregisterClient` drops a client. -/
theorem unregisterClientAt_unregisters (px : WebsocketProxy) (hwf : px.WellFormed)
    (pid : UInt64) :
  px.Unregisters (px.unregisterClientAt pid).toTables {pid}
  := by
  have htables : (px.unregisterClientAt pid).toTables
      = { px.toTables.unregisterSockets pid with clients := px.clients.erase pid } := by
    rw [← Tables.unregisterSockets_clients px.toTables pid]
    simp only [unregisterClientAt, getTimestamp]
    split
    · rfl
    · rfl
  rw [htables]
  constructor
  · apply (Tables.unregisterSockets_departs hwf pid).withClients
  · intro q
    rw [AList.mem_erase, Finset.mem_singleton, and_comm]

/-- The clients among the given entries whose heartbeats stopped. -/
def expiredAmong (now : UInt64) (entries : List (Σ _ : UInt64, ClientInfo)) : Finset UInt64 :=
  ((entries.filter (fun kvp => now - kvp.2.lastHeartbeatTime > 30000)).map Sigma.fst).toFinset

theorem mem_expiredAmong {now : UInt64} {entries : List (Σ _ : UInt64, ClientInfo)}
    {pid : UInt64} :
  pid ∈ expiredAmong now entries ↔
    ∃ client, ⟨pid, client⟩ ∈ entries ∧ now - client.lastHeartbeatTime > 30000
  := by
  rw [expiredAmong, List.mem_toFinset, List.mem_map]
  constructor
  · rintro ⟨⟨pid', client⟩, hkvp, rfl⟩
    obtain ⟨hmem, hexpired⟩ := List.mem_filter.mp hkvp
    exact ⟨client, hmem, of_decide_eq_true hexpired⟩
  · rintro ⟨client, hmem, hexpired⟩
    use ⟨pid, client⟩
    rw [List.mem_filter]
    exact ⟨⟨hmem, decide_eq_true hexpired⟩, rfl⟩

theorem mem_expiredAmong_cons (now : UInt64) (kvp : Σ _ : UInt64, ClientInfo)
    (entries : List (Σ _ : UInt64, ClientInfo)) (pid : UInt64) :
  pid ∈ expiredAmong now (kvp :: entries) ↔
    (kvp.1 = pid ∧ now - kvp.2.lastHeartbeatTime > 30000) ∨ pid ∈ expiredAmong now entries
  := by
  rw [mem_expiredAmong, mem_expiredAmong]
  simp only [List.mem_cons, or_and_right, exists_or]
  apply or_congr_left
  constructor
  · rintro ⟨client, rfl, hexpired⟩
    exact ⟨rfl, hexpired⟩
  · rintro ⟨rfl, hexpired⟩
    exact ⟨kvp.2, rfl, hexpired⟩

/-- The loop of `checkHeartbeats` drops the clients whose heartbeats stopped. -/
theorem foldl_checkClient (now : UInt64) (entries : List (Σ _ : UInt64, ClientInfo)) :
  ∀ px : WebsocketProxy, px.WellFormed →
    px.Unregisters (entries.foldl (checkClient now) px).toTables (expiredAmong now entries)
  := by
  induction entries with
  | nil =>
      intro px hwf
      apply Tables.Unregisters.refl hwf
  | cons kvp entries ih =>
      intro px hwf
      rw [List.foldl_cons]
      by_cases hexpired : now - kvp.2.lastHeartbeatTime > 30000
      · have hfirst := unregisterClientAt_unregisters px hwf kvp.1
        have hcons : expiredAmong now (kvp :: entries) = {kvp.1} ∪ expiredAmong now entries := by
          ext pid
          rw [mem_expiredAmong_cons, Finset.mem_union, Finset.mem_singleton,
            and_iff_left hexpired, eq_comm]
        rw [checkClient, if_pos hexpired, hcons]
        apply hfirst.trans (ih _ (hfirst.departs.wellFormed hwf))
      · have hcons : expiredAmong now (kvp :: entries) = expiredAmong now entries := by
          simp [expiredAmong, hexpired]
        rw [checkClient, if_neg hexpired, hcons]
        apply ih _ hwf

end WebsocketProxy
