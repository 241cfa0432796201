import WebsocketProxy.Server.Departure

/-!
# Connections that are dropped from the tables

Connections are dropped by three operations: a departure drops those it leaves without
clients, `removeClosedSockets` those whose ids it reads, and the closure of `shutdown` all.
Each erases from both tables: from one by id and from the other by url and key, whichever
connection is found there. `Tables.Drops` says this of all three.
-/

namespace Tables

/-- The stored connections `gone` are dropped: nothing is found under their ids, and nothing
under their urls and keys. -/
structure Drops (t t' : Tables) (gone : ℕ → Prop) : Prop where
  byId : ∀ id r, t'.websocketsById.lookup id = some r ↔
    t.websocketsById.lookup id = some r ∧ ¬ gone r
  byKey : ∀ k r, t'.websocketsByUrlApiKey.lookup k = some r ↔
    t.websocketsByUrlApiKey.lookup k = some r ∧
      ∀ r', t.Stored r' → gone r' → (t.sockets r').key ≠ k

theorem Drops.stored_iff {t t' : Tables} {gone : ℕ → Prop} (h : t.Drops t' gone) (r : ℕ) :
  t'.Stored r ↔ t.Stored r ∧ ¬ gone r
  := stored_iff_of_byId h.byId r

theorem Departs.drops {t t' : Tables} {dep : ℕ → Finset UInt64} (h : t.Departs t' dep) :
  t.Drops t' (fun r => (t.sockets r).clients ⊆ dep r)
  := ⟨h.byId, h.byKey⟩

/-! ### Closed connections -/

/-- `t'` is `t` after connections `gone` were dropped whose ids are in `closed_sockets_`. -/
structure Drains (t t' : Tables) (gone : ℕ → Prop) : Prop extends Drops t t' gone where
  holds : ∀ r, t.Stored r → gone r → t.closedSockets.Holds (t.sockets r).id
  sockets : t'.sockets = t.sockets
  clients : t'.clients = t.clients
  closedSockets : t'.closedSockets = t.closedSockets
  websocketId : t'.websocketId = t.websocketId
  opens : t'.opens = t.opens

theorem Drains.refl (t : Tables) :
  t.Drains t (fun _ => False)
  := by
  constructor
  · constructor
    · simp
    · simp
  · intro r _ h
    cases h
  all_goals rfl

/-- Two drains are one. -/
theorem Drains.trans {t t' t'' : Tables} {gone gone' : ℕ → Prop} (h : t.Drains t' gone)
    (h' : t'.Drains t'' gone') :
  t.Drains t'' (fun r => gone r ∨ gone' r)
  := by
  constructor
  · constructor
    · intro id r
      rw [h'.byId, h.byId, and_assoc, not_or]
    · intro k r
      rw [h'.byKey, h.byKey, h.sockets]
      constructor
      · rintro ⟨⟨hk, hfirst⟩, hsecond⟩
        use hk
        intro r' hr' hgone
        obtain hleft | hstay := em (gone r')
        · apply hfirst r' hr' hleft
        · apply hsecond r' ((h.stored_iff r').mpr ⟨hr', hstay⟩) (hgone.resolve_left hstay)
      · rintro ⟨hk, hall⟩
        constructor
        · use hk
          intro r' hr' hleft
          apply hall r' hr' (Or.inl hleft)
        · intro r' hr' hgone
          apply hall r' ((h.stored_iff r').mp hr').1 (Or.inr hgone)
  · rintro r hr (hgone | hgone)
    · apply h.holds r hr hgone
    · obtain hleft | hstay := em (gone r)
      · apply h.holds r hr hleft
      · have := h'.holds r ((h.stored_iff r).mpr ⟨hr, hstay⟩) hgone
        rw [h.closedSockets, h.sockets] at this
        apply this
  · rw [h'.sockets, h.sockets]
  · rw [h'.clients, h.clients]
  · rw [h'.closedSockets, h.closedSockets]
  · rw [h'.websocketId, h.websocketId]
  · rw [h'.opens, h.opens]

/-- Draining keeps tables well formed. -/
theorem Drains.wellFormed {t t' : Tables} {gone : ℕ → Prop} (h : t.Drains t' gone)
    (ht : t.WellFormed) :
  t'.WellFormed
  := by
  have hstored : ∀ r, t'.Stored r → t.Stored r := fun r hr => ((h.stored_iff r).mp hr).1
  constructor
  · rw [h.sockets, h.opens]
    apply ht.blank
  · intro id r hid
    rw [h.sockets]
    apply ht.byId id r ((h.byId id r).mp hid).1
  · intro r hr
    rw [h.opens]
    apply ht.lt_opens r (hstored r hr)
  · intro r hr
    rw [h.sockets]
    apply ht.opened r (hstored r hr)
  · intro r hr
    rw [h.sockets]
    apply ht.nonempty r (hstored r hr)
  · intro k r hk
    rw [h.opens]
    apply ht.byKey_lt_opens k r ((h.byKey k r).mp hk).1
  · intro k r hk
    rw [h.sockets]
    apply ht.byKey_opened k r ((h.byKey k r).mp hk).1

/-- A round of `removeClosedSockets` drops the connection with the id that was read. -/
theorem removeClosed_drains {t : Tables} (ht : t.WellFormed) {id : UInt64}
    (hid : t.closedSockets.Holds id) :
  t.Drains (t.removeClosed id) (fun r => t.websocketsById.lookup id = some r)
  := by
  cases hlookup : t.websocketsById.lookup id with
  | none =>
      have hsame : t.removeClosed id = t := by rw [removeClosed, hlookup]
      have hnone : (fun r => none = some r) = fun _ : ℕ => False := by
        funext r
        simp
      rw [hsame, hnone]
      apply Drains.refl
  | some r₀ =>
      have hdrop : t.removeClosed id = { t with
          websocketsByUrlApiKey := t.websocketsByUrlApiKey.erase (t.sockets r₀).key
          websocketsById := t.websocketsById.erase id } := by
        rw [removeClosed, hlookup]
      rw [hdrop]
      constructor
      · constructor
        · intro id' r
          simp only [UnorderedMap.lookup_erase_eq_some, Option.some.injEq]
          constructor
          · rintro ⟨hne, h⟩
            use h
            rintro rfl
            apply hne
            rw [← ht.byId _ _ h, ← ht.byId _ _ hlookup]
          · rintro ⟨h, hne⟩
            refine ⟨?_, h⟩
            rintro rfl
            apply hne
            apply Option.some.inj
            rw [← hlookup, h]
        · intro k r
          simp only [UnorderedMap.lookup_erase_eq_some, Option.some.injEq]
          constructor
          · rintro ⟨hne, h⟩
            use h
            rintro r' _ rfl
            apply Ne.symm hne
          · rintro ⟨h, hkeys⟩
            refine ⟨?_, h⟩
            intro hk
            apply hkeys r₀ ⟨id, hlookup⟩ rfl hk.symm
      · intro r _ hr
        rw [ht.byId id r (hlookup.trans hr)]
        exact hid
      all_goals rfl

/-- `removeClosedSockets` drops connections whose ids are in `closed_sockets_`. -/
theorem removeClosedLoop_drains (n : ℕ) :
  ∀ t : Tables, t.WellFormed → ∃ gone, t.Drains (t.removeClosedLoop n) gone
  := by
  induction n with
  | zero =>
      intro t _
      exact ⟨_, Drains.refl t⟩
  | succ n ih =>
      intro t ht
      rw [removeClosedLoop]
      split
      case h_1 => exact ⟨_, Drains.refl t⟩
      case h_2 id index hread =>
        have hholds := (RingQueue.read_eq_some hread).1
        have hindex : t.Drains { t with closedSocketsIndex := index } (fun _ => False) :=
          ⟨⟨(Drains.refl t).byId, (Drains.refl t).byKey⟩, (Drains.refl t).holds, rfl, rfl, rfl, rfl, rfl⟩
        have hfirst := removeClosed_drains (hindex.wellFormed ht) hholds
        obtain ⟨gone, hrest⟩ := ih _ (hfirst.wellFormed (hindex.wellFormed ht))
        exact ⟨_, (hindex.trans hfirst).trans hrest⟩

theorem removeClosedSockets_drains {t : Tables} (ht : t.WellFormed) :
  ∃ gone, t.Drains t.removeClosedSockets gone
  := removeClosedLoop_drains _ t ht

theorem removeClosedLoop_keeps (n : ℕ) :
  ∀ t : Tables, (t.removeClosedLoop n).sockets = t.sockets ∧
    (t.removeClosedLoop n).clients = t.clients
  := by
  induction n with
  | zero =>
      intro t
      exact ⟨rfl, rfl⟩
  | succ n ih =>
      intro t
      rw [removeClosedLoop]
      split
      case h_1 => exact ⟨rfl, rfl⟩
      case h_2 id index hread =>
        obtain ⟨hsockets, hclients⟩ :=
          ih ({ t with closedSocketsIndex := index }.removeClosed id)
        rw [hsockets, hclients, removeClosed]
        split
        · exact ⟨rfl, rfl⟩
        · exact ⟨rfl, rfl⟩

theorem removeClosedSockets_sockets (t : Tables) :
  t.removeClosedSockets.sockets = t.sockets
  := (removeClosedLoop_keeps _ t).1

theorem removeClosedSockets_clients (t : Tables) :
  t.removeClosedSockets.clients = t.clients
  := (removeClosedLoop_keeps _ t).2

/-! ### The closure of `shutdown` -/

/-- `t'` is `t` after all stored connections were closed and dropped. -/
structure ClosesAll (t t' : Tables) : Prop extends Drops t t' (fun _ => True) where
  stored : ∀ r, t.Stored r → t'.sockets r = (t.sockets r).close
  unstored : ∀ r, ¬ t.Stored r → t'.sockets r = t.sockets r
  clients : t'.clients = t.clients
  closedSockets : t'.closedSockets = t.closedSockets
  websocketId : t'.websocketId = t.websocketId
  opens : t'.opens = t.opens

/-- A round of the loop of `closeAll`. -/
def closeEntry (t : Tables) (kvp : Σ _ : UInt64, ℕ) : Tables :=
  let t := t.modifySocket kvp.2 Websocket.close
  { t with websocketsByUrlApiKey := t.websocketsByUrlApiKey.erase (t.sockets kvp.2).key }

/-- The loop of `closeAll` closes the connections it meets and erases their keys. -/
theorem foldl_closeEntry (entries : List (Σ _ : UInt64, ℕ)) :
  ∀ t : Tables,
    (∀ r, (entries.foldl closeEntry t).sockets r
      = if r ∈ entries.map Sigma.snd then (t.sockets r).close else t.sockets r) ∧
    (∀ k, (entries.foldl closeEntry t).websocketsByUrlApiKey.lookup k
      = if k ∈ entries.map (fun kvp => (t.sockets kvp.2).key) then none
        else t.websocketsByUrlApiKey.lookup k) ∧
    (entries.foldl closeEntry t).clients = t.clients ∧
    (entries.foldl closeEntry t).closedSockets = t.closedSockets ∧
    (entries.foldl closeEntry t).websocketId = t.websocketId ∧
    (entries.foldl closeEntry t).opens = t.opens
  := by
  induction entries with
  | nil =>
      intro t
      simp
  | cons kvp entries ih =>
      intro t
      rw [List.foldl_cons]
      obtain ⟨hsockets, hbyKey, hframe⟩ := ih (t.closeEntry kvp)
      have hself : (t.closeEntry kvp).sockets kvp.2 = (t.sockets kvp.2).close :=
        modifySocket_self t kvp.2 _
      have hother : ∀ r, r ≠ kvp.2 → (t.closeEntry kvp).sockets r = t.sockets r :=
        fun r hr => modifySocket_of_ne hr t _
      have hkey : ∀ r, ((t.closeEntry kvp).sockets r).key = (t.sockets r).key := by
        intro r
        rcases eq_or_ne r kvp.2 with rfl | hr
        · rw [hself, Websocket.close_key]
        · rw [hother r hr]
      refine ⟨?_, ?_, hframe⟩
      · intro r
        rw [hsockets]
        simp only [List.map_cons, List.mem_cons]
        rcases eq_or_ne r kvp.2 with rfl | hr
        · rw [hself, Websocket.close_of_closing (Websocket.closing_close _), ite_self,
            if_pos (Or.inl rfl)]
        · rw [hother r hr]
          apply if_congr _ rfl rfl
          exact (or_iff_right hr).symm
      · intro k
        have herase : (t.closeEntry kvp).websocketsByUrlApiKey
            = t.websocketsByUrlApiKey.erase ((t.closeEntry kvp).sockets kvp.2).key := rfl
        rw [hbyKey, herase]
        simp only [hkey, UnorderedMap.lookup_erase_eq, List.map_cons, List.mem_cons]
        split
        case isTrue h => rw [if_pos (Or.inr h)]
        case isFalse h =>
          apply if_congr _ rfl rfl
          exact (or_iff_left h).symm

theorem closeAll_closesAll (t : Tables) :
  t.ClosesAll t.closeAll
  := by
  obtain ⟨hsockets, hbyKey, hclients, hring, hwebsocketId, hopens⟩ :=
    foldl_closeEntry t.websocketsById.entries t
  have hmem : ∀ r, r ∈ t.websocketsById.entries.map Sigma.snd ↔ t.Stored r := by
    intro r
    constructor
    · intro hr
      obtain ⟨kvp, hkvp, rfl⟩ := List.mem_map.mp hr
      use kvp.1
      apply UnorderedMap.mem_entries_iff.mp hkvp
    · rintro ⟨id, hid⟩
      apply List.mem_map_of_mem (UnorderedMap.mem_entries_iff.mpr hid)
  constructor
  · constructor
    · intro id r
      constructor
      · intro h
        have hempty : (∅ : UnorderedMap UInt64 ℕ).lookup id = some r := h
        rw [AList.lookup_empty] at hempty
        cases hempty
      · rintro ⟨-, h⟩
        apply absurd trivial h
    · intro k r
      have hlookup : t.closeAll.websocketsByUrlApiKey.lookup k = some r ↔
          k ∉ t.websocketsById.entries.map (fun kvp => (t.sockets kvp.2).key) ∧
            t.websocketsByUrlApiKey.lookup k = some r := by
        have h := hbyKey k
        change t.closeAll.websocketsByUrlApiKey.lookup k = _ at h
        rw [h]
        split
        case isTrue hk => simp [hk]
        case isFalse hk => simp [hk]
      rw [hlookup, and_comm]
      apply and_congr_right
      intro _
      constructor
      · rintro hk r' hr' - rfl
        obtain ⟨kvp, hkvp, rfl⟩ := List.mem_map.mp ((hmem r').mpr hr')
        apply hk
        apply List.mem_map.mpr ⟨kvp, hkvp, rfl⟩
      · intro h hk
        obtain ⟨kvp, hkvp, hkey⟩ := List.mem_map.mp hk
        apply h kvp.2 ((hmem _).mp (List.mem_map_of_mem hkvp)) trivial hkey
  · intro r hr
    exact (hsockets r).trans (if_pos ((hmem r).mpr hr))
  · intro r hr
    exact (hsockets r).trans (if_neg (fun h => hr ((hmem r).mp h)))
  · exact hclients
  · exact hring
  · exact hwebsocketId
  · exact hopens

/-- Closing all connections keeps tables well formed. -/
theorem ClosesAll.wellFormed {t t' : Tables} (h : t.ClosesAll t') (ht : t.WellFormed) :
  t'.WellFormed
  := by
  have hnone : ∀ r, ¬ t'.Stored r := fun r hr => ((h.stored_iff r).mp hr).2 trivial
  constructor
  · apply ht.blank_of_unstored h.opens h.unstored
  · intro id r hid
    apply absurd ⟨id, hid⟩ (hnone r)
  · intro r hr
    apply absurd hr (hnone r)
  · intro r hr
    apply absurd hr (hnone r)
  · intro r hr
    apply absurd hr (hnone r)
  · intro k r hk
    rw [h.opens]
    apply ht.byKey_lt_opens k r ((h.byKey k r).mp hk).1
  · intro k r hk
    have hopened := ht.byKey_opened k r ((h.byKey k r).mp hk).1
    obtain hr | hr := em (t.Stored r)
    · rw [h.stored r hr, Websocket.close_opening]
      exact hopened
    · rw [h.unstored r hr]
      exact hopened

end Tables
