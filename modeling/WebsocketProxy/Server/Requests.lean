import WebsocketProxy.Server.Slots
import WebsocketProxy.Server.Single

/-!
# Openings and their requests

When the slots of messages that openings are for are not reused, every opening still finds
in its slot what its client asked for. Then connections are entered under their own url and
key, and what is found by url and key is stored and has them.
-/

/-- What is found by url and key has them, and is stored. -/
def Tables.KeysStored (t : Tables) : Prop :=
  ∀ k r, t.websocketsByUrlApiKey.lookup k = some r → (t.sockets r).key = k ∧ t.Stored r

/-- Dropping connections keeps what is found by url and key stored: a connection is dropped
together with the entry under its key. -/
theorem Tables.KeysStored.drops {t t' : Tables} {gone : ℕ → Prop} (h : t.KeysStored)
    (hdrops : t.Drops t' gone) (hkeys : ∀ r, t.Stored r → (t'.sockets r).key = (t.sockets r).key) :
  t'.KeysStored
  := by
  intro k r hk
  obtain ⟨hk, hstay⟩ := (hdrops.byKey k r).mp hk
  obtain ⟨hkey, hr⟩ := h k r hk
  constructor
  · rw [hkeys r hr, hkey]
  · apply (hdrops.stored_iff r).mpr
    use hr
    intro hgone
    apply hstay r hr hgone hkey

namespace WebsocketProxy

/-- The slots of messages that openings are for are not reused, and the counter of ids does
not wrap. -/
def SlotsKept (px : WebsocketProxy) (ev : Event) : Prop :=
  (match ev with
  | .slotReused n _ => ∀ r < px.opens, (px.sockets r).opening.map Prod.snd ≠ some n
  | _ => True) ∧ px.CountsOn ev

instance (px : WebsocketProxy) (ev : Event) : Decidable (px.SlotsKept ev) :=
  match ev with
  | .slotReused n _ =>
      haveI : Decidable (∀ r < px.opens, (px.sockets r).opening.map Prod.snd ≠ some n) :=
        Nat.decidableBallLT px.opens fun r _ => (px.sockets r).opening.map Prod.snd ≠ some n
      inferInstanceAs (Decidable (_ ∧ px.CountsOn _))
  | .processClientMessage _ | .startHeartbeat | .complete .. | .signal | .shutdownClosure
  | .stopClosure | .timerHandler | .rehash .. => inferInstanceAs (Decidable (True ∧ px.CountsOn _))

/-- Every opening is for a message of its own, which asked for the url and key of the
connection, and is in its slot as the opening left it when it started. -/
structure Requested (px : WebsocketProxy) (ms : List Message) : Prop where
  taken : px.taken = ms.length
  opening : ∀ {r stage n}, (px.sockets r).opening = some (stage, n) →
    ∃ m req, ms[n]? = some m ∧ m.data = .openWs req ∧ req.key = (px.sockets r).key ∧
      px.slots n = { m with data := .openWs { req with newConnection := true } }
  unique : ∀ {r r' stage stage' n}, (px.sockets r).opening = some (stage, n) →
    (px.sockets r').opening = some (stage', n) → r = r'
  byKey : px.KeysStored

/-- A change keeps what is found by url and key stored, when it enters a connection under its
own key, and under an id that is free. -/
theorem Change.keysStored {px : WebsocketProxy} {ev : Event} {t : Tables} (h : Change px ev t)
    (hwf : px.WellFormed) (hkeys : px.KeysStored)
    (hentering : ∀ r msg, px.entering ev = some (r, msg) →
      px.slotKey msg = (px.sockets r).key ∧ px.websocketsById.lookup (px.sockets r).id = none) :
  t.KeysStored
  := by
  have hframe : ∀ r, r < px.opens → (t.sockets r).key = (px.sockets r).key :=
    fun r hr => ((h.socket r).frame hwf hr).key
  have hstored : ∀ r, px.Stored r → (t.sockets r).key = (px.sockets r).key :=
    fun r hr => hframe r (hwf.lt_opens r hr)
  cases h with
  | quiet _ hbyId hbyKey =>
      intro k r hk
      obtain ⟨hkey, id, hid⟩ := hkeys k r ((hbyKey k).symm.trans hk)
      use hkey, id
      exact (hbyId id).trans hid
  | register | attach | create | throw | request | complete | closed =>
      intro k r hk
      obtain ⟨hkey, hr⟩ := hkeys k r hk
      use (hstored r hr).trans hkey
      exact hr
  | depart h => exact hkeys.drops h.drops hstored
  | @enter r c ws calls msg hev hcomplete hent =>
      obtain ⟨hslot, hfree⟩ := hentering r msg hent
      have hid := (Websocket.complete_spec hcomplete).id
      intro k r' hk
      have hk : (px.websocketsByUrlApiKey.emplace (px.slotKey msg) r).lookup k = some r' := hk
      rw [UnorderedMap.lookup_emplace_eq] at hk
      split at hk
      case isTrue hnew =>
        obtain rfl := Option.some.inj hk
        constructor
        · rw [hframe r (hwf.lt_opens_of_complete hcomplete), hnew.1, hslot]
        · use ws.id
          apply UnorderedMap.lookup_emplace_of_none
          rw [hid]
          exact hfree
      case isFalse =>
        obtain ⟨hkey, id, hid⟩ := hkeys k r' hk
        use (hstored r' ⟨id, hid⟩).trans hkey, id
        apply UnorderedMap.lookup_emplace_of_some hid
  | closeAll _ h => exact hkeys.drops h.toDrops hstored

/-- Nothing is stored under the id of a connection that is being opened. -/
theorem lookup_id_of_opening {px : WebsocketProxy} (hwf : px.WellFormed) (hnumbered : px.Numbered)
    {r : ℕ} (hopening : (px.sockets r).opening ≠ none) :
  px.websocketsById.lookup (px.sockets r).id = none
  := by
  apply Option.eq_none_iff_forall_ne_some.mpr
  intro r' hr'
  have hconstructed : px.Constructed r := by
    intro hblank
    rw [hblank] at hopening
    apply hopening rfl
  have hid := hwf.byId _ r' hr'
  obtain rfl := hnumbered.id_inj hwf (constructed_of_stored hwf ⟨_, hr'⟩) hconstructed hid
  exact hopening (hwf.opened r' ⟨_, hr'⟩)

/-- The message that a connection was opened for is left in its slot with the mark of a new
connection. -/
theorem opensNew_slots {px px' : WebsocketProxy} {m : Message} {req : WsOpen}
    (h : px.step (.processClientMessage (some m)) = some px')
    (hreq : px.opensNew (.processClientMessage (some m)) = some req) :
  px'.slots px.taken = { m with data := .openWs { req with newConnection := true } }
  := by
  have hhandled : ((px.taking m).handleClientMessage px.taken).1.slots px.taken
      = { m with data := .openWs { req with newConnection := true } } := by
    rcases handleClientMessage_handles px m with ⟨hnone, -⟩ | ⟨req', clients, hreq', hopen⟩
    · rw [hreq] at hnone
      cases hnone
    · rw [hreq] at hreq'
      obtain rfl := Option.some.inj hreq'
      have hstored : (((px.taking m).refreshed clients).storeData px.taken
          (.openWs { req with newConnection := true })).slots px.taken
          = { m with data := .openWs { req with newConnection := true } } := by
        apply (Function.update_self ..).trans
        rw [refreshed, slots_taking]
      rw [hopen, openNewWs]
      split
      · exact hstored
      · exact hstored
  rw [message_slots h]
  exact hhandled

theorem start_requested (pid : UInt64) (clock : ℕ → UInt64) :
  (start pid clock).Requested []
  := by
  constructor
  · rfl
  · rintro r stage n ⟨⟩
  · rintro r r' stage stage' n ⟨⟩
  · rintro k r ⟨⟩

/-- Steps keep openings and requests together. -/
theorem Requested.step {px px' : WebsocketProxy} {ms : List Message} {ev : Event}
    (hpx : px.Requested ms) (hwf : px.WellFormed) (hnumbered : px.Numbered)
    (hkept : px.SlotsKept ev) (h : px.step ev = some px') :
  px'.Requested (ms ++ ev.taken.toList)
  := by
  have hlt : ∀ {r stage n}, (px.sockets r).opening = some (stage, n) → n < px.taken := by
    intro r stage n hopening
    obtain ⟨m, -, hm, -⟩ := hpx.opening hopening
    rw [hpx.taken]
    exact (List.getElem?_eq_some_iff.mp hm).1
  constructor
  · rw [step_taken h, hpx.taken, List.length_append]
  · intro r stage n hopening
    rcases step_opening_cases hwf h hopening with ⟨⟨stage', hbefore⟩, -, hkey⟩ |
      ⟨rfl, -, req, hreq, hnew⟩
    · obtain ⟨m, req, hm, hreq, hreqKey, hslot⟩ := hpx.opening hbefore
      have hn := (List.getElem?_eq_some_iff.mp hm).1
      refine ⟨m, req, ?_, hreq, hreqKey.trans hkey.symm, ?_⟩
      · rw [List.getElem?_append_left hn, hm]
      · rw [step_slots h, hslot]
        · exact fun _ _ => Nat.ne_of_lt (hlt hbefore)
        · intro r' c hev stage'' hbefore'
          rw [hpx.unique hbefore' hbefore, hopening]
          apply Option.some_ne_none _
        · rintro contents rfl
          have hr := lt_opens_of_opening hwf (r := r) (by simp [hbefore])
          apply hkept.1 r hr
          rw [hbefore]
          rfl
    · obtain ⟨⟨m, rfl⟩, -⟩ := opensNew_eq_some hreq
      refine ⟨m, req, ?_, (opensNew_message.mp hreq).1, (Websocket.new_fresh hnew).key.symm, ?_⟩
      · rw [hpx.taken]
        exact List.getElem?_concat_length
      · apply opensNew_slots h hreq
  · intro r r' stage stage' n hr hr'
    rcases step_opening_cases hwf h hr with ⟨⟨_, hbefore⟩, -⟩ | ⟨hn, hopens, -⟩
    · rcases step_opening_cases hwf h hr' with ⟨⟨_, hbefore'⟩, -⟩ | ⟨hn', -⟩
      · apply hpx.unique hbefore hbefore'
      · exact absurd hn' (Nat.ne_of_lt (hlt hbefore))
    · rcases step_opening_cases hwf h hr' with ⟨⟨_, hbefore'⟩, -⟩ | ⟨-, hopens', -⟩
      · exact absurd hn (Nat.ne_of_lt (hlt hbefore'))
      · rw [hopens, hopens']
  · obtain ⟨t, gone, hchange, hdrains⟩ := step_change hwf h
    have hkeys : t.KeysStored := by
      apply hchange.keysStored hwf hpx.byKey
      intro r msg hentering
      obtain ⟨-, hopening⟩ := entering_eq_some hentering
      constructor
      · obtain ⟨m, req, -, -, hkey, hslot⟩ := hpx.opening hopening
        rw [slotKey, hslot, ← hkey]
        rfl
      · apply lookup_id_of_opening hwf hnumbered
        simp [hopening]
    apply hkeys.drops hdrains.toDrops
    intro r _
    rw [hdrains.sockets]

/-- In runs in which the slots are kept, every opening finds its request. -/
theorem run_requested {pid : UInt64} {clock : ℕ → UInt64} {es : List Event} {px : WebsocketProxy}
    (h : system.RunUnder SlotsKept (start pid clock) es px) :
  px.Requested (messages es)
  := by
  induction h with
  | nil => apply start_requested
  | @snoc es px ev px' hrun hkept hstep ih =>
      have hreachable : system.ReachableUnder SlotsKept px := ⟨_, _, ⟨pid, clock, rfl⟩, hrun⟩
      have hnumbered := reachable_numbered (fun _ _ hkept => hkept.2) hreachable
      rw [messages_snoc]
      apply ih.step (reachable_wellFormed hreachable) hnumbered hkept hstep

end WebsocketProxy
