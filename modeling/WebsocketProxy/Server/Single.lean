import WebsocketProxy.Server.Indexes
import WebsocketProxy.Server.Numbering

/-!
# One connection for each url and key

Clients that ask for the same url and key share one connection, in runs in which no second
opening for a url and key starts while the first goes on, and connections are entered
freely. The table has no entry for a connection that is being opened, so the server itself
does not prevent the second opening.
-/

namespace Websocket

/-- The connection is being opened, connecting or connected. -/
def Live (ws : Websocket) : Prop :=
  ws.opening ≠ none ∨ ws.status = .connecting ∨ ws.status = .connected

theorem not_connected_of_closing {ws : Websocket} (h : ws.Closing) :
  ws.status ≠ .connected
  := by
  rcases h with h | h
  · simp [h]
  · simp [h]

theorem leave_connected {ws : Websocket} {dep : Finset UInt64}
    (h : (ws.leave dep).status = .connected) :
  ws.status = .connected
  := by
  rcases em (ws.clients ⊆ dep) with hall | hstay
  · exact absurd h (not_connected_of_closing (closing_leave hall))
  · rw [leave_of_not_subset hstay] at h
    exact h

theorem Closing.leave {ws : Websocket} (h : ws.Closing) (dep : Finset UInt64) :
  (ws.leave dep).Closing
  := by
  rcases em (ws.clients ⊆ dep) with hall | hstay
  · apply closing_leave hall
  · rw [leave_of_not_subset hstay]
    exact h

end Websocket

namespace WebsocketProxy

/-! ### What changes do to a connection and its entry -/

/-- A connection that is closing after it was opened stays so. -/
theorem SocketChange.closing {px : WebsocketProxy} {ev : Event} {r : ℕ} {ws : Websocket}
    (h : SocketChange px ev r ws) (hopened : (px.sockets r).opening = none)
    (hclosing : (px.sockets r).Closing) (hr : r < px.opens) :
  ws.Closing
  := by
  cases h with
  | same => exact hclosing
  | leave hr => exact hclosing.leave _
  | attach => exact hclosing
  | create hnew => exact absurd hnew (Nat.ne_of_lt hr)
  | request =>
      rw [foldl_send_frame]
      exact hclosing
  | complete _ hcomplete => exact (Websocket.complete_spec hcomplete).closing hopened hclosing
  | enter _ hcomplete => exact (Websocket.complete_spec hcomplete).closing hopened hclosing
  | close => apply Websocket.closing_close

/-- A connection that is being opened was so before, or was constructed. -/
theorem SocketChange.opened {px : WebsocketProxy} {ev : Event} {r : ℕ} {ws : Websocket}
    (h : SocketChange px ev r ws) (hopening : ws.opening ≠ none) :
  (px.sockets r).opening ≠ none ∨
    r = px.opens ∧ ∃ req, px.opensNew ev = some req ∧ ws.key = req.key
  := by
  have hcomplete : ∀ {c ws calls}, (px.sockets r).complete c = some (ws, calls) →
      ws.opening ≠ none → (px.sockets r).opening ≠ none :=
    fun hc hopening hopened => hopening ((Websocket.complete_spec hc).opened hopened)
  cases h with
  | same | attach => exact Or.inl hopening
  | leave =>
      rw [Websocket.leave_opening] at hopening
      apply Or.inl hopening
  | @create req ws hr hreq hnew => exact Or.inr ⟨hr, req, hreq, (Websocket.new_fresh hnew).key⟩
  | request =>
      rw [foldl_send_frame] at hopening
      apply Or.inl hopening
  | complete _ hc => exact Or.inl (hcomplete hc hopening)
  | enter _ hc => exact Or.inl (hcomplete hc hopening)
  | close =>
      rw [Websocket.close_opening] at hopening
      apply Or.inl hopening

/-- A connection that is connected was so before, or was entered. -/
theorem Change.connected {px : WebsocketProxy} {ev : Event} {t : Tables} (h : Change px ev t)
    (hfree : px.EntersFree ev) {r : ℕ} (hconnected : (t.sockets r).status = .connected) :
  (px.sockets r).status = .connected ∨ t.Stored r
  := by
  have hmodify : ∀ {r' : ℕ} {f : Websocket → Websocket},
      ((f (px.sockets r')).status = .connected → (px.sockets r').status = .connected) →
      ((px.modifySocket r' f).sockets r).status = .connected →
      (px.sockets r).status = .connected := by
    intro r' f hf hconnected
    rcases eq_or_ne r r' with rfl | hne
    · rw [Tables.modifySocket_self] at hconnected
      apply hf hconnected
    · rw [Tables.modifySocket_of_ne hne] at hconnected
      exact hconnected
  cases h with
  | quiet | register | throw => exact Or.inl hconnected
  | depart h =>
      left
      rcases em (px.Stored r) with hr | hr
      · rw [h.stored r hr] at hconnected
        apply Websocket.leave_connected hconnected
      · rw [h.unstored r hr] at hconnected
        exact hconnected
  | attach =>
      left
      dsimp only at hconnected
      apply hmodify id hconnected
  | @create clients req ws hclients hreq hnew =>
      left
      change (Function.update px.sockets px.opens ws r).status = _ at hconnected
      rcases eq_or_ne r px.opens with rfl | hne
      · rw [Function.update_self, (Websocket.new_fresh hnew).status] at hconnected
        cases hconnected
      · rw [Function.update_of_ne hne] at hconnected
        exact hconnected
  | request =>
      left
      dsimp only at hconnected
      apply hmodify _ hconnected
      rw [foldl_send_frame]
      apply id
  | @complete r' c ws calls hev hcomplete hentering =>
      left
      apply hmodify _ hconnected
      intro hws
      rcases (Websocket.complete_spec hcomplete).connected hws with hbefore | ⟨port, msg, rfl, hopening⟩
      · exact hbefore
      · rw [hev] at hentering
        simp only [entering, hopening] at hentering
        cases hentering
  | @enter r' c ws calls msg hev hcomplete hentering =>
      rcases eq_or_ne r r' with rfl | hne
      · right
        use ws.id
        apply UnorderedMap.lookup_emplace_of_none
        rw [(Websocket.complete_spec hcomplete).id]
        exact (hfree _ hentering).2.2
      · left
        dsimp only at hconnected
        rw [Tables.modifySocket_of_ne hne] at hconnected
        exact hconnected
  | closed _ _ _ hstatus =>
      left
      dsimp only at hconnected
      apply hmodify _ hconnected
      rw [hstatus]
      rintro ⟨⟩
  | closeAll _ h =>
      left
      rcases em (px.Stored r) with hr | hr
      · rw [h.stored r hr] at hconnected
        exact absurd hconnected (Websocket.not_connected_of_closing (Websocket.closing_close _))
      · rw [h.unstored r hr] at hconnected
        exact hconnected

/-- A connection found by url and key was found so before, or was entered. -/
theorem Change.byKey {px : WebsocketProxy} {ev : Event} {t : Tables} (h : Change px ev t)
    {k : WebsocketKey} {r : ℕ} (hk : t.websocketsByUrlApiKey.lookup k = some r) :
  px.websocketsByUrlApiKey.lookup k = some r ∨
    ∃ msg, px.entering ev = some (r, msg) ∧ px.slotKey msg = k
  := by
  cases h with
  | quiet _ _ hbyKey => exact Or.inl ((hbyKey k).symm.trans hk)
  | register | attach | create | throw | request | complete | closed => exact Or.inl hk
  | depart h => exact Or.inl ((h.byKey k r).mp hk).1
  | @enter r' c ws calls msg hev hcomplete hentering =>
      have hk : (px.websocketsByUrlApiKey.emplace (px.slotKey msg) r').lookup k = some r := hk
      rw [UnorderedMap.lookup_emplace_eq] at hk
      split at hk
      case isTrue hnew =>
        right
        obtain rfl := Option.some.inj hk
        use msg, hentering, hnew.1.symm
      case isFalse => exact Or.inl hk
  | closeAll _ h => exact Or.inl ((h.byKey k r).mp hk).1

/-! ### The invariant -/

/-- No opening for the url and key of a request that opens a connection goes on. -/
def OpensAlone (px : WebsocketProxy) (ev : Event) : Prop :=
  ∀ req ∈ px.opensNew ev, ∀ r < px.opens,
    (px.sockets r).opening ≠ none → (px.sockets r).key ≠ req.key

instance (px : WebsocketProxy) (ev : Event) : Decidable (px.OpensAlone ev) :=
  inferInstanceAs (Decidable (∀ req ∈ px.opensNew ev, ∀ r < px.opens, _ → _))

/-- Openings for one url and key do not overlap, connections are entered freely, and the
counter of ids does not wrap. -/
def OneAtATime (px : WebsocketProxy) (ev : Event) : Prop :=
  px.OpensAlone ev ∧ px.EntersFree ev ∧ px.CountsOn ev

instance (px : WebsocketProxy) (ev : Event) : Decidable (px.OneAtATime ev) :=
  inferInstanceAs (Decidable (_ ∧ _ ∧ _))

/-- Connected connections are stored, and openings go on for different urls and keys, under
which no connection is stored that is not closing. -/
structure Single (px : WebsocketProxy) : Prop where
  stored : ∀ {r}, (px.sockets r).status = .connected → px.Stored r
  unique : ∀ {r r'}, (px.sockets r).opening ≠ none → (px.sockets r').opening ≠ none →
    (px.sockets r).key = (px.sockets r').key → r = r'
  closing : ∀ {r r'}, (px.sockets r).opening ≠ none →
    px.websocketsByUrlApiKey.lookup (px.sockets r).key = some r' → (px.sockets r').Closing

theorem lt_opens_of_opening {px : WebsocketProxy} (hwf : px.WellFormed) {r : ℕ}
    (h : (px.sockets r).opening ≠ none) :
  r < px.opens
  := by
  rcases lt_or_ge r px.opens with hr | hr
  · exact hr
  · rw [hwf.blank r hr] at h
    exact absurd rfl h

/-- A connection that is drained is closing. -/
theorem closing_of_drained {px' : WebsocketProxy} {t : Tables} {gone : ℕ → Prop}
    (hdrains : t.Drains px'.toTables gone) (hwf' : px'.WellFormed) (hnumbered' : px'.Numbered)
    (hphases' : ∀ r, (px'.sockets r).Phases) {r : ℕ} (hnonempty : (t.sockets r).clients.Nonempty)
    (hr : t.Stored r) (hgone : gone r) :
  (px'.sockets r).Closing
  := by
  have hheld := hdrains.holds r hr hgone
  rw [← hdrains.closedSockets, ← hdrains.sockets] at hheld
  have hconstructed : px'.Constructed r := by
    intro hblank
    rw [← hdrains.sockets, hblank] at hnonempty
    exact absurd rfl hnonempty.ne_empty
  have hdone := hnumbered'.closesDone_pos hwf' hconstructed hheld
  exact (hphases' r).closing (Nat.lt_of_lt_of_le hdone (hphases' r).done_le)

theorem Single.step {px px' : WebsocketProxy} {ev : Event} (h : px.Single) (hwf : px.WellFormed)
    (hnumbered' : px'.Numbered) (hphases' : ∀ r, (px'.sockets r).Phases)
    (hguard : px.OneAtATime ev) (hstep : px.step ev = some px') :
  px'.Single
  := by
  obtain ⟨halone, hfree, -⟩ := hguard
  have hwf' := step_wellFormed hwf hstep
  obtain ⟨t, gone, hchange, hdrains⟩ := step_change hwf hstep
  have hopened : ∀ {r}, (px'.sockets r).opening ≠ none →
      ((px.sockets r).opening ≠ none ∧ (px'.sockets r).key = (px.sockets r).key) ∨
      r = px.opens ∧ ∃ req, px.opensNew ev = some req ∧ (px'.sockets r).key = req.key := by
    intro r hopening
    rw [hdrains.sockets] at hopening ⊢
    rcases (hchange.socket r).opened hopening with hopening | hnew
    · left
      use hopening
      exact ((hchange.socket r).frame hwf (lt_opens_of_opening hwf hopening)).key
    · apply Or.inr hnew
  constructor
  · intro r hconnected
    have hnot : ¬ (px'.sockets r).Closing :=
      fun hclosing => Websocket.not_connected_of_closing hclosing hconnected
    have hr : t.Stored r := by
      rw [hdrains.sockets] at hconnected hnot
      rcases hchange.connected hfree hconnected with hbefore | hr
      · by_contra hdropped
        apply hnot (hchange.closing_of_dropped (h.stored hbefore) hdropped)
      · exact hr
    apply (hdrains.stored_iff r).mpr
    use hr
    intro hgone
    apply hnot
    apply closing_of_drained hdrains hwf' hnumbered' hphases' _ hr hgone
    exact (hchange.wellFormed hwf).nonempty r hr
  · intro r r' hr hr' hkey
    rcases hopened hr with ⟨hopening, hsame⟩ | ⟨rfl, req, hreq, hnew⟩
    · rcases hopened hr' with ⟨hopening', hsame'⟩ | ⟨rfl, req, hreq, hnew⟩
      · apply h.unique hopening hopening'
        rw [← hsame, ← hsame', hkey]
      · apply absurd _ (halone req hreq r (lt_opens_of_opening hwf hopening) hopening)
        rw [← hsame, hkey, hnew]
    · rcases hopened hr' with ⟨hopening', hsame'⟩ | ⟨rfl, -⟩
      · apply absurd _ (halone req hreq r' (lt_opens_of_opening hwf hopening') hopening')
        rw [← hsame', ← hkey, hnew]
      · rfl
  · intro r r' hr hk
    have hclosing : ∀ {r'}, px.websocketsByUrlApiKey.lookup (px'.sockets r).key = some r' →
        (px.sockets r').Closing → (px'.sockets r').Closing := by
      intro r' hbefore hclosing
      rw [hdrains.sockets]
      exact (hchange.socket r').closing (hwf.byKey_opened _ r' hbefore) hclosing
        (hwf.byKey_lt_opens _ r' hbefore)
    have hbyKey := hchange.byKey ((hdrains.byKey _ r').mp hk).1
    rcases hopened hr with ⟨hopening, hsame⟩ | ⟨-, req, hreq, hnew⟩
    · rcases hbyKey with hbefore | ⟨msg, hentering, hslot⟩
      · apply hclosing hbefore
        rw [hsame] at hbefore
        apply h.closing hopening hbefore
      · -- two openings for one url and key are one, and that has ended
        have hopening' := (entering_eq_some hentering).2
        obtain rfl : r = r' := by
          apply h.unique hopening
          · simp [hopening']
          · rw [← hsame, ← hslot]
            exact (hfree _ hentering).1
        exact absurd (hwf'.byKey_opened _ r hk) hr
    · rcases hbyKey with hbefore | ⟨msg, hentering, -⟩
      · apply hclosing hbefore
        rw [hnew] at hbefore
        exact (opensNew_eq_some hreq).2 r' hbefore
      · obtain ⟨m, rfl⟩ := (opensNew_eq_some hreq).1
        cases hentering

theorem reachable_single {px : WebsocketProxy} (h : system.ReachableUnder OneAtATime px) :
  px.Single
  := by
  apply h.invariant
  · rintro px ⟨pid, clock, rfl⟩
    constructor
    · rintro r ⟨⟩
    · rintro r r' h
      exact absurd rfl h
    · rintro r r' h
      exact absurd rfl h
  · intro px ev px' hreachable hsingle hguard hstep
    have hreachable' := hreachable.step hguard hstep
    have hnumbered' := reachable_numbered (fun _ _ hguard => hguard.2.2) hreachable'
    exact hsingle.step (reachable_wellFormed hreachable) hnumbered'
      (reachable_phases hreachable') hguard hstep

/-- In every run in which openings for one url and key do not overlap, connections are
entered freely and the counter of ids does not wrap, at most one connection for a url and
key is being opened, connecting or connected. -/
theorem single_connection {px : WebsocketProxy} (h : system.ReachableUnder OneAtATime px)
    {r r' : ℕ} (hr : (px.sockets r).Live) (hr' : (px.sockets r').Live)
    (hkey : (px.sockets r).key = (px.sockets r').key) :
  r = r'
  := by
  have hsingle := reachable_single h
  have hagree := tables_agree (h.mono (fun _ _ hguard => hguard.2.1))
  have hlive : ∀ {r}, (px.sockets r).Live →
      (px.sockets r).opening ≠ none ∨ ((px.sockets r).status = .connected ∧
        px.websocketsByUrlApiKey.lookup (px.sockets r).key = some r) := by
    rintro r (hopening | hconnecting | hconnected)
    · apply Or.inl hopening
    · apply Or.inl ((reachable_phases h r).connecting hconnecting)
    · right
      use hconnected
      obtain ⟨id, hid⟩ := hsingle.stored hconnected
      exact (hagree.1 id r hid).2
  have hdistinct : ∀ {r r'}, (px.sockets r).opening ≠ none →
      (px.sockets r').status = .connected →
      px.websocketsByUrlApiKey.lookup (px.sockets r').key = some r' →
      (px.sockets r).key ≠ (px.sockets r').key := by
    intro r r' hopening hconnected hk hkey
    rw [← hkey] at hk
    apply Websocket.not_connected_of_closing (hsingle.closing hopening hk) hconnected
  rcases hlive hr with hopening | ⟨hconnected, hk⟩
  · rcases hlive hr' with hopening' | ⟨hconnected', hk'⟩
    · apply hsingle.unique hopening hopening' hkey
    · exact absurd hkey (hdistinct hopening hconnected' hk')
  · rcases hlive hr' with hopening' | ⟨hconnected', hk'⟩
    · exact absurd hkey.symm (hdistinct hopening' hconnected hk)
    · rw [hkey, hk'] at hk
      exact (Option.some.inj hk).symm

/-- The clients of this run share their connection. -/
theorem single_connection_openShared :
  ∃ px, system.RunUnder OneAtATime (start 7 fun _ => 1) openShared px ∧
    (px.sockets 0).clients = {1, 2} ∧
    ∀ r, (px.sockets r).Live → (px.sockets r).key = (px.sockets 0).key → r = 0
  := by
  have hexec : ∃ px ∈ system.execUnder OneAtATime (start 7 fun _ => 1) openShared,
      (px.sockets 0).clients = {1, 2} ∧ (px.sockets 0).status = .connected := by
    decide +kernel
  obtain ⟨px, hrun, hclients, hconnected⟩ := TransitionSystem.exists_runUnder hexec
  use px, hrun, hclients
  intro r hr hkey
  exact single_connection ⟨_, _, ⟨7, _, rfl⟩, hrun⟩ hr (Or.inr (Or.inr hconnected)) hkey

/-- Two clients ask for one connection before it is opened. -/
def openTwice : List Event :=
  [.register 1, .register 2, .openWs 1 [104] [], .openWs 2 [104] []]
    ++ Event.opened 0 ++ Event.opened 1

/-- The clients of this run are connected by two connections for one url and key. -/
theorem not_single_connection :
  ∃ px, system.Run (start 7 fun _ => 1) openTwice px ∧
    (px.sockets 0).status = .connected ∧ (px.sockets 1).status = .connected ∧
    (px.sockets 0).key = (px.sockets 1).key
  := TransitionSystem.exists_runUnder (by decide +kernel)

end WebsocketProxy
