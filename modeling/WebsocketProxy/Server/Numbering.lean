import WebsocketProxy.Server.Loop

/-!
# The ids of connections

The id of a connection is made of the process id of the server and a counter of 32 bits. As
long as the counter does not wrap, connections have different ids. So an id that is read
from `closed_sockets_` is that of a connection a close of which was completed, and of no
other.
-/

namespace WebsocketProxy

/-- The counter of ids does not wrap. -/
def CountsOn (px : WebsocketProxy) (ev : Event) : Prop :=
  px.opensNew ev ≠ none → px.opens + 1 < 2 ^ 32

instance (px : WebsocketProxy) (ev : Event) : Decidable (px.CountsOn ev) :=
  inferInstanceAs (Decidable (px.opensNew ev ≠ none → _))

/-- The connection at a reference was constructed. -/
def Constructed (px : WebsocketProxy) (r : ℕ) : Prop := px.sockets r ≠ Websocket.blank

/-- The ids of the connections are those the counter gave out, which may have wrapped. -/
structure Counted (px : WebsocketProxy) : Prop where
  websocketId : px.websocketId = UInt32.ofNat px.opens
  id : ∀ r, px.Constructed r →
    (px.sockets r).id = px.pid * 10000 + (UInt32.ofNat (r + 1)).toUInt64

/-- The ids of the connections are those the counter gave out. -/
structure Numbered (px : WebsocketProxy) : Prop where
  websocketId : px.websocketId = UInt32.ofNat px.opens
  opens_lt : px.opens < 2 ^ 32
  id : ∀ r, px.Constructed r → (px.sockets r).id = px.pid * 10000 + UInt64.ofNat (r + 1)
  /-- The ids noted for removal are those of connections that were closed. -/
  closed : ∀ {id}, px.closedSockets.Holds id →
    ∃ r, (px.sockets r).id = id ∧ 0 < (px.sockets r).closesDone

theorem constructed_of_closesDone {px : WebsocketProxy} {r : ℕ}
    (h : 0 < (px.sockets r).closesDone) :
  px.Constructed r
  := by
  intro hblank
  rw [hblank] at h
  exact absurd h (Nat.lt_irrefl 0)

theorem constructed_of_stored {px : WebsocketProxy} (hwf : px.WellFormed) {r : ℕ}
    (h : px.Stored r) :
  px.Constructed r
  := by
  intro hblank
  have hnonempty := hwf.nonempty r h
  rw [hblank] at hnonempty
  apply hnonempty.ne_empty rfl

/-- Only what was constructed has operations to complete. -/
theorem constructed_of_complete {px : WebsocketProxy} {r : ℕ} {c : Websocket.Completion}
    {result : Websocket × List Websocket.Callback} (h : (px.sockets r).complete c = some result) :
  px.Constructed r
  := by
  intro hblank
  rw [hblank] at h
  cases c with
  | resumed | read | write | close => cases h

theorem lt_opens_of_constructed {px : WebsocketProxy} (hwf : px.WellFormed) {r : ℕ}
    (h : px.Constructed r) :
  r < px.opens
  := by
  rcases lt_or_ge r px.opens with hr | hr
  · exact hr
  · exact absurd (hwf.blank r hr) h

/-- The numbers of connections are told from the ids the counter gives out. -/
theorem number_inj {pid : UInt64} {r r' : ℕ} (hr : r + 1 < 2 ^ 32) (hr' : r' + 1 < 2 ^ 32)
    (h : pid * 10000 + UInt64.ofNat (r + 1) = pid * 10000 + UInt64.ofNat (r' + 1)) :
  r = r'
  := by
  have hnum : UInt64.ofNat (r + 1) = UInt64.ofNat (r' + 1) := (UInt64.add_right_inj _).mp h
  have hnat := congrArg UInt64.toNat hnum
  rw [UInt64.toNat_ofNat', UInt64.toNat_ofNat', Nat.mod_eq_of_lt (by omega),
    Nat.mod_eq_of_lt (by omega)] at hnat
  omega

/-- Connections have different ids. -/
theorem Numbered.id_inj {px : WebsocketProxy} (h : px.Numbered) (hwf : px.WellFormed) {r r' : ℕ}
    (hr : px.Constructed r) (hr' : px.Constructed r')
    (hid : (px.sockets r).id = (px.sockets r').id) :
  r = r'
  := by
  rw [h.id r hr, h.id r' hr'] at hid
  have hlt := lt_opens_of_constructed hwf hr
  have hlt' := lt_opens_of_constructed hwf hr'
  have hopens := h.opens_lt
  exact number_inj (by omega) (by omega) hid

/-- A connection whose id was noted for removal was closed. -/
theorem Numbered.closesDone_pos {px : WebsocketProxy} (h : px.Numbered) (hwf : px.WellFormed)
    {r : ℕ} (hr : px.Constructed r) (hholds : px.closedSockets.Holds (px.sockets r).id) :
  0 < (px.sockets r).closesDone
  := by
  obtain ⟨r', hid, hdone⟩ := h.closed hholds
  obtain rfl := h.id_inj hwf (constructed_of_closesDone hdone) hr hid
  exact hdone

/-! ### Steps -/

theorem handleClientMessage_pid (px : WebsocketProxy) (m : Message) :
  ((px.taking m).handleClientMessage px.taken).1.pid = px.pid
  := by
  rcases handleClientMessage_handles px m with ⟨-, -, answers, hhandles, -⟩ |
    ⟨req, clients, -, hopen⟩
  · have hpid := congrArg Process.pid hhandles.process
    exact hpid
  · have hhandles := (openNewWs_handles ((px.taking m).refreshed clients) px.taken req).1
    have hpid := congrArg Process.pid hhandles.process
    rw [hopen]
    exact hpid

theorem caught_pid (px : WebsocketProxy) :
  px.caught.pid = px.pid
  := by
  unfold caught
  split
  · rfl
  · rfl

/-- No step changes the process id of the server. -/
theorem step_pid {px px' : WebsocketProxy} {ev : Event} (h : px.step ev = some px') :
  px'.pid = px.pid
  := by
  rcases em (∃ m, ev = .processClientMessage (some m)) with ⟨m, rfl⟩ | hmessage
  · have hpid := handleClientMessage_pid px m
    rcases processClientMessage_cases (runHandler_of_step h) with ⟨-, rfl⟩ | ⟨-, rfl⟩
    · exact (caught_pid _).trans hpid
    · exact (processNext_pid _).trans hpid
  · exact (step_idle h (fun m hm => hmessage ⟨m, hm⟩)).pid

/-- Calls of `openNewWs` count up, and nothing else does. -/
theorem Change.counter {px : WebsocketProxy} {ev : Event} {t : Tables} (h : Change px ev t) :
  (t.opens = px.opens ∧ t.websocketId = px.websocketId) ∨
  (t.opens = px.opens + 1 ∧ t.websocketId = px.websocketId + 1 ∧ px.opensNew ev ≠ none)
  := by
  cases h with
  | quiet | register | attach | request | complete | enter | closed => exact Or.inl ⟨rfl, rfl⟩
  | depart h => exact Or.inl ⟨h.opens, h.websocketId⟩
  | create _ hreq => exact Or.inr ⟨rfl, rfl, by simp [hreq]⟩
  | throw _ hreq => exact Or.inr ⟨rfl, rfl, by simp [hreq]⟩
  | closeAll _ h => exact Or.inl ⟨h.opens, h.websocketId⟩

/-- The number of calls of `openNewWs` does not fall. -/
theorem step_opens_le {px px' : WebsocketProxy} {ev : Event} (hwf : px.WellFormed)
    (h : px.step ev = some px') :
  px.opens ≤ px'.opens
  := by
  obtain ⟨t, gone, hchange, hdrains⟩ := step_change hwf h
  rw [hdrains.opens]
  rcases hchange.counter with ⟨hopens, -⟩ | ⟨hopens, -⟩
  · apply Nat.le_of_eq hopens.symm
  · rw [hopens]
    apply Nat.le_succ _

/-- The ids noted for removal in a step are those of connections that are closed in it. -/
theorem Change.closed_holds {px : WebsocketProxy} {ev : Event} {t : Tables} (h : Change px ev t)
    {id : UInt64} (hholds : t.closedSockets.Holds id) :
  px.closedSockets.Holds id ∨ ∃ r, (t.sockets r).id = id ∧ 0 < (t.sockets r).closesDone
  := by
  cases h with
  | quiet | register | attach | create | throw | request | complete | enter =>
      apply Or.inl hholds
  | depart h =>
      rw [h.closedSockets] at hholds
      apply Or.inl hholds
  | @closed r c ws calls hev hcomplete hentering hstatus hdone =>
      rcases RingQueue.holds_push hholds with rfl | hholds
      · right
        use r
        dsimp only
        rw [Tables.modifySocket_self, hdone]
        exact ⟨rfl, Nat.succ_pos _⟩
      · apply Or.inl hholds
  | closeAll _ h =>
      rw [h.closedSockets] at hholds
      apply Or.inl hholds

/-- Every step keeps the ids those the counter gave out. -/
theorem Counted.step {px px' : WebsocketProxy} {ev : Event} (h : px.Counted)
    (hwf : px.WellFormed) (hstep : px.step ev = some px') :
  px'.Counted
  := by
  obtain ⟨t, gone, hchange, hdrains⟩ := step_change hwf hstep
  constructor
  · rw [hdrains.websocketId, hdrains.opens]
    rcases hchange.counter with ⟨hopens, hid⟩ | ⟨hopens, hid, -⟩
    · rw [hopens, hid, h.websocketId]
    · rw [hopens, hid, h.websocketId, UInt32.ofNat_add]
      rfl
  · intro r hr
    rw [step_pid hstep]
    rcases em (px.Constructed r) with hconstructed | hblank
    · have hlt := lt_opens_of_constructed hwf hconstructed
      rw [(step_frame hwf hstep hlt).id, h.id r hconstructed]
    · rw [Constructed, not_not] at hblank
      rw [Constructed, hdrains.sockets] at hr
      rw [hdrains.sockets]
      rcases (hchange.socket r).of_blank hwf hblank with hblank' | ⟨rfl, req, hreq, hnew⟩
      · exact absurd hblank' hr
      · rw [(Websocket.new_fresh hnew).id, h.websocketId, UInt32.ofNat_add]
        rfl

/-- In every run, the ids are those the counter gave out. -/
theorem reachable_counted {guard : WebsocketProxy → Event → Prop} {px : WebsocketProxy}
    (h : system.ReachableUnder guard px) :
  px.Counted
  := by
  apply h.invariant
  · rintro px ⟨pid, clock, rfl⟩
    constructor
    · rfl
    · intro r hr
      exact absurd rfl hr
  · intro px ev px' hreachable hcounted _ hstep
    apply hcounted.step (reachable_wellFormed hreachable) hstep

/-- What the counter gives out before it wraps. -/
theorem toUInt64_ofNat_of_lt {opens r : ℕ} (hr : r < opens) (hopens : opens < 2 ^ 32) :
  (UInt32.ofNat (r + 1)).toUInt64 = UInt64.ofNat (r + 1)
  := UInt32.toUInt64_ofNat' (by
    rw [UInt32.size]
    omega)

theorem Numbered.counted {px : WebsocketProxy} (h : px.Numbered) (hwf : px.WellFormed) :
  px.Counted
  := by
  use h.websocketId
  intro r hr
  rw [h.id r hr, toUInt64_ofNat_of_lt (lt_opens_of_constructed hwf hr) h.opens_lt]

/-- Steps in which the counter does not wrap keep the ids those it gave out. -/
theorem Numbered.step {px px' : WebsocketProxy} {ev : Event} (h : px.Numbered)
    (hwf : px.WellFormed) (hcount : px.CountsOn ev) (hstep : px.step ev = some px') :
  px'.Numbered
  := by
  obtain ⟨t, gone, hchange, hdrains⟩ := step_change hwf hstep
  have hcounted := (h.counted hwf).step hwf hstep
  have hopens : px'.opens < 2 ^ 32 := by
    rw [hdrains.opens]
    rcases hchange.counter with ⟨hopens, -⟩ | ⟨hopens, -, hnew⟩
    · rw [hopens]
      apply h.opens_lt
    · rw [hopens]
      apply hcount hnew
  use hcounted.websocketId, hopens
  · intro r hr
    have hlt := lt_opens_of_constructed (step_wellFormed hwf hstep) hr
    rw [hcounted.id r hr, toUInt64_ofNat_of_lt hlt hopens]
  · intro id hholds
    rw [hdrains.closedSockets] at hholds
    rcases hchange.closed_holds hholds with hholds | hclosed
    · obtain ⟨r, rfl, hdone⟩ := h.closed hholds
      have hlt := lt_opens_of_constructed hwf (constructed_of_closesDone hdone)
      have hframe := step_frame hwf hstep hlt
      use r, hframe.id
      apply Nat.lt_of_lt_of_le hdone hframe.closesDone_le
    · rw [hdrains.sockets]
      exact hclosed

/-- In runs in which the counter does not wrap, the ids are those it gave out. -/
theorem reachable_numbered {guard : WebsocketProxy → Event → Prop}
    (hguard : ∀ px ev, guard px ev → px.CountsOn ev) {px : WebsocketProxy}
    (h : system.ReachableUnder guard px) :
  px.Numbered
  := by
  apply h.invariant
  · rintro px ⟨pid, clock, rfl⟩
    constructor
    · rfl
    · apply Nat.two_pow_pos 32
    · intro r hr
      exact absurd rfl hr
    · intro id hholds
      exact absurd hholds (RingQueue.not_holds_empty id)
  · intro px ev px' hreachable hnumbered hg hstep
    apply hnumbered.step (reachable_wellFormed hreachable) (hguard px ev hg) hstep

end WebsocketProxy
