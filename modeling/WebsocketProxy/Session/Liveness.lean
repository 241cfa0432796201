import WebsocketProxy.Client.Timeout
import WebsocketProxy.Library.Observed
import WebsocketProxy.Server.Roster
import WebsocketProxy.Session.Basic

/-!
# Live clients

The server drops a client it has not heard of for 30 seconds, and a client sends a heartbeat
when its worker checks and finds that it has published nothing for `heartbeatInterval`. Not every
message counts at both ends: `LogLevel` puts the heartbeat of the client off, and the server takes
no note of the sender.

A client whose checks are at most `D` apart, and whose messages are handled after at most `L`, is
dropped by no `checkHeartbeats`, as long as no check leaves the heartbeat out although the last
message that counts was sent too long ago for the next one to come in time (`live_not_dropped`).
-/

namespace WebsocketProxyClient

/-- The time with which a step calls `sendHeartbeat`. -/
def checks (c : WebsocketProxyClient) : Event → Option UInt64
  | .sendHeartbeat _ =>
      match c.worker with
      | .beating now _ => some now
      | _ => none
  | .wait now _ => some now
  | _ => none

/-- `sendHeartbeat` publishes a heartbeat. -/
def Beats (c : WebsocketProxyClient) (now : UInt64) : Prop :=
  c.serverPid ≠ 0 ∧ now - c.lastHeartbeatTime > heartbeatInterval

instance (c : WebsocketProxyClient) (now : UInt64) : Decidable (c.Beats now) :=
  inferInstanceAs (Decidable (_ ∧ _))

variable {c c' : WebsocketProxyClient} {ev : Event} {published : List Message}

theorem sendHeartbeat_beats {now sent : UInt64} (h : c.Beats now) :
  (c.sendHeartbeat now sent).2 = [{ pid := c.pid, data := .heartbeat }]
  := by
  rw [Beats] at h
  rw [sendHeartbeat, if_pos h]
  rfl

/-- A check that finds a heartbeat due publishes it. -/
theorem Step.beats (h : Step c ev c' published) {now : UInt64} (hnow : c.checks ev = some now)
    (hbeats : c.Beats now) :
  published = [{ pid := c.pid, data := .heartbeat }]
  := by
  cases h with
  | sendHeartbeat hworker =>
      simp only [checks, hworker] at hnow
      obtain rfl := Option.some.inj hnow
      apply sendHeartbeat_beats hbeats
  | wait =>
      obtain rfl := Option.some.inj hnow
      apply sendHeartbeat_beats hbeats
  | _ => cases hnow

end WebsocketProxyClient

namespace Session

open WebsocketProxyClient (Step)

/-! ### The clock -/

/-- What a step of a session reads from the clock. -/
def readings (s : Session) (ev : Event) (s' : Session) : List UInt64 :=
  match ev with
  | .server _ => s.server.readingsUntil s'.server
  | .client _ ev => ev.readings

/-- A session as a transition system, with a clock that the server and all clients share. -/
def clocked : TransitionSystem (Clocked Session) (Event × ℕ) :=
  system.clocked fun s ev s' => (s.readings ev s').map UInt64.toNat

/-! ### Unread messages -/

/-- What the client `p` says in message `n` of the client queue, if the server has not taken it
yet. -/
def unread (s : Session) (p : UInt64) (n : ℕ) : Option Message.Data :=
  if s.server.taken ≤ n then
    (s.clientQueue[n]?).bind fun m => if m.pid = p then some m.data else none
  else none

/-- The client `p` published message `n`, and the server has not taken it yet. -/
theorem unread_iff {s : Session} {p : UInt64} {n : ℕ} {data : Message.Data} :
  s.unread p n = some data ↔
    s.server.taken ≤ n ∧ ∃ m, s.clientQueue[n]? = some m ∧ m.pid = p ∧ m.data = data
  := by
  unfold unread
  split
  case isTrue hle =>
    rw [Option.bind_eq_some_iff]
    simp only [Option.ite_none_right_eq_some, Option.some.injEq, hle, true_and]
  case isFalse hlt =>
    constructor
    · intro h
      cases h
    · rintro ⟨hle, -⟩
      exact absurd hle hlt

theorem lt_of_unread {s : Session} {p : UInt64} {n : ℕ} {data : Message.Data}
    (h : s.unread p n = some data) :
  n < s.clientQueue.length
  := by
  obtain ⟨-, m, hm, -⟩ := unread_iff.mp h
  exact (List.getElem?_eq_some_iff.mp hm).1

/-- The server has taken the messages of the client `p` that it takes note of the sender of. -/
def Quiet (s : Session) (p : UInt64) : Prop :=
  ∀ n < s.clientQueue.length, ∀ data ∈ s.unread p n, ¬ data.Refreshes

instance (s : Session) (p : UInt64) : Decidable (s.Quiet p) :=
  inferInstanceAs (Decidable (∀ n < _, ∀ data ∈ s.unread p n, ¬ data.Refreshes))

theorem not_quiet {s : Session} {p : UInt64} :
  ¬ s.Quiet p ↔ ∃ n data, s.unread p n = some data ∧ data.Refreshes
  := by
  constructor
  · intro h
    simp only [Quiet, not_forall, not_not] at h
    obtain ⟨n, -, data, hn, hrefreshes⟩ := h
    exact ⟨n, data, hn, hrefreshes⟩
  · rintro ⟨n, data, hn, hrefreshes⟩ h
    apply h n (lt_of_unread hn) data hn hrefreshes

/-- A handler of the server takes a message, or leaves it unread. -/
theorem unread_server {s : Session} {ev : WebsocketProxy.Event} {px : WebsocketProxy}
    (hpx : s.server.step ev = some px) {p : UInt64} {n : ℕ} {data : Message.Data}
    (hfinds : s.ServerFinds ev) (h : s.unread p n = some data) :
  { s with server := px }.unread p n = some data ∨ ∃ m ∈ ev.taken, m.pid = p ∧ m.data = data
  := by
  obtain ⟨hle, m, hm, hpid, hdata⟩ := unread_iff.mp h
  have htaken := WebsocketProxy.step_taken hpx
  cases hev : ev.taken with
  | none =>
      left
      rw [hev] at htaken
      exact unread_iff.mpr ⟨htaken ▸ hle, m, hm, hpid, hdata⟩
  | some m' =>
      rw [hev] at htaken
      rcases Nat.eq_or_lt_of_le hle with rfl | hlt
      · right
        use m', rfl
        have hm' : s.clientQueue[s.server.taken]? = some m' := by
          cases ev with
          | processClientMessage msg =>
              obtain rfl : msg = some m' := hev
              apply hfinds.symm
          | _ => cases hev
        obtain rfl := Option.some.inj (hm'.symm.trans hm)
        exact ⟨hpid, hdata⟩
      · left
        exact unread_iff.mpr ⟨htaken ▸ hlt, m, hm, hpid, hdata⟩

theorem unread_of_server {s : Session} {ev : WebsocketProxy.Event} {px : WebsocketProxy}
    (hpx : s.server.step ev = some px) {p : UInt64} {n : ℕ} {data : Message.Data}
    (h : { s with server := px }.unread p n = some data) :
  s.unread p n = some data
  := by
  obtain ⟨hle, hm⟩ := unread_iff.mp h
  have htaken : px.taken = _ := WebsocketProxy.step_taken hpx
  have hle : px.taken ≤ n := hle
  exact unread_iff.mpr ⟨by omega, hm⟩

/-- A client leaves all messages unread. -/
theorem unread_client {s : Session} {p q : UInt64} {n : ℕ} {data : Message.Data}
    (result : WebsocketProxyClient × List Message) (h : s.unread p n = some data) :
  (s.updateClient q result).unread p n = some data
  := by
  obtain ⟨hle, m, hm, hpid, hdata⟩ := unread_iff.mp h
  refine unread_iff.mpr ⟨hle, m, ?_, hpid, hdata⟩
  exact (List.getElem?_append_left (lt_of_unread h)).trans hm

theorem unread_of_client {s : Session} {p q : UInt64} {n : ℕ} {data : Message.Data}
    {result : WebsocketProxyClient × List Message}
    (h : (s.updateClient q result).unread p n = some data) :
  s.unread p n = some data ∨ ∃ m ∈ result.2, m.pid = p ∧ m.data = data
  := by
  obtain ⟨hle, m, hm, hpid, hdata⟩ := unread_iff.mp h
  have hm : (s.clientQueue ++ result.2)[n]? = some m := hm
  rcases lt_or_ge n s.clientQueue.length with hlt | hge
  · left
    rw [List.getElem?_append_left hlt] at hm
    exact unread_iff.mpr ⟨hle, m, hm, hpid, hdata⟩
  · right
    rw [List.getElem?_append_right hge] at hm
    exact ⟨m, List.mem_of_getElem? hm, hpid, hdata⟩

/-- What a client publishes is unread. -/
theorem unread_published {s : Session} (htaken : s.server.taken ≤ s.clientQueue.length)
    (q : UInt64) (result : WebsocketProxyClient × List Message) {m : Message} (hm : m ∈ result.2) :
  ∃ n, s.clientQueue.length ≤ n ∧ (s.updateClient q result).unread m.pid n = some m.data
  := by
  obtain ⟨k, hk⟩ := List.mem_iff_getElem?.mp hm
  use s.clientQueue.length + k, Nat.le_add_right _ _
  refine unread_iff.mpr ⟨Nat.le_trans htaken (Nat.le_add_right _ _), m, ?_, rfl, rfl⟩
  change (s.clientQueue ++ result.2)[s.clientQueue.length + k]? = some m
  rw [List.getElem?_append_right (Nat.le_add_right _ _), Nat.add_sub_cancel_left, hk]

/-! ### What is watched of a client -/

/-- Times in the life of a client. -/
structure Liveness where
  /-- When each message of the client queue was published. -/
  sentAt : ℕ → ℕ := fun _ => 0
  /-- When the client last published a message that the server takes note of the sender of. -/
  refreshed : ℕ := 0
  /-- When the client last called `sendHeartbeat`, or sent `Register`. -/
  checked : ℕ := 0

/-- In the step of the event, the client `p` calls `sendHeartbeat` or sends `Register`. -/
def Checks (s : Session) (p : UInt64) : Event → Prop
  | .client q (.register ..) => q = p
  | .client q ev => q = p ∧ ((s.clients p).checks ev).isSome
  | .server _ => False

instance (s : Session) (p : UInt64) (ev : Event) : Decidable (s.Checks p ev) := by
  unfold Checks
  split <;> infer_instance

theorem Checks.cases {s : Session} {p q : UInt64} {ev : WebsocketProxyClient.Event}
    (h : s.Checks p (.client q ev)) :
  q = p ∧ ((∃ msg sent start, ev = .register msg sent start) ∨
    ∃ now, (s.clients p).checks ev = some now)
  := by
  cases ev with
  | register msg sent start => exact ⟨h, Or.inl ⟨msg, sent, start, rfl⟩⟩
  | _ => exact ⟨h.1, Or.inr (Option.isSome_iff_exists.mp h.2)⟩

/-- From `s` to `s'` the client `p` publishes a message that the server takes note of the sender
of. -/
def Refreshes (s s' : Session) (p : UInt64) : Prop :=
  ∃ m ∈ s'.clientQueue.drop s.clientQueue.length, m.pid = p ∧ m.data.Refreshes

instance (s s' : Session) (p : UInt64) : Decidable (s.Refreshes s' p) :=
  inferInstanceAs (Decidable (∃ m ∈ _, _))

/-- The times of the client `p` after a step. -/
def Liveness.after (p : UInt64) (c : Clocked Session) (e : Event × ℕ) (c' : Clocked Session)
    (l : Liveness) : Liveness where
  sentAt n := if n < c.state.clientQueue.length then l.sentAt n else c'.time
  refreshed := if c.state.Refreshes c'.state p then c'.time else l.refreshed
  checked := if c.state.Checks p e.1 then c'.time else l.checked

/-- A session with a clock, watched for the times of the client `p`. -/
def living (p : UInt64) : TransitionSystem (Observed (Clocked Session) Liveness) (Event × ℕ) :=
  clocked.observed {} (Liveness.after p)

/-- As long as the client `p` is registered and sends no `Unregister`, its checks are at most `D`
apart, and its messages are handled after at most `L`. -/
structure Prompt (D L : ℕ) (p : UInt64) (w : Observed (Clocked Session) Liveness) (e : Event × ℕ) :
    Prop where
  checks : p ∈ w.state.state.server.clients →
    (∀ n < w.state.state.clientQueue.length, w.state.state.unread p n ≠ some .unregister) →
    e.2 ≤ w.notes.checked + D
  handles : ∀ n < w.state.state.clientQueue.length, (w.state.state.unread p n).isSome →
    e.2 ≤ w.notes.sentAt n + L

/-- A check of the client `p` that sends no heartbeat comes so early after its last message that
the server takes note of the sender of that a heartbeat at the next check will be in time, unless
there is such a message unread. -/
def Recent (D L : ℕ) (p : UInt64) (w : Observed (Clocked Session) Liveness) (e : Event × ℕ) : Prop :=
  match e.1 with
  | .client q ev => q = p → ∀ now ∈ (w.state.state.clients p).checks ev,
      ¬ (w.state.state.clients p).Beats now → p ∈ w.state.state.server.clients →
      w.state.state.Quiet p → e.2 + D + L ≤ w.notes.refreshed + 30000
  | .server _ => True

instance (D L : ℕ) (p : UInt64) (w : Observed (Clocked Session) Liveness) (e : Event × ℕ) :
    Decidable (Prompt D L p w e) :=
  decidable_of_iff
    ((p ∈ w.state.state.server.clients →
        (∀ n < w.state.state.clientQueue.length, w.state.state.unread p n ≠ some .unregister) →
        e.2 ≤ w.notes.checked + D) ∧
      ∀ n < w.state.state.clientQueue.length, (w.state.state.unread p n).isSome →
        e.2 ≤ w.notes.sentAt n + L)
    ⟨fun h => ⟨h.1, h.2⟩, fun h => ⟨h.checks, h.handles⟩⟩

instance (D L : ℕ) (p : UInt64) (w : Observed (Clocked Session) Liveness) (e : Event × ℕ) :
    Decidable (Recent D L p w e) :=
  match e with
  | (.client q ev, stop) =>
      haveI : Decidable (∀ now ∈ (w.state.state.clients p).checks ev,
          ¬ (w.state.state.clients p).Beats now → p ∈ w.state.state.server.clients →
          w.state.state.Quiet p → stop + D + L ≤ w.notes.refreshed + 30000) :=
        Option.decidableForallMem _
      inferInstanceAs (Decidable (q = p → _))
  | (.server _, _) => inferInstanceAs (Decidable True)

/-! ### Steps -/

variable {D L : ℕ} {p : UInt64} {w w' : Observed (Clocked Session) Liveness} {e : Event × ℕ}

/-- A step with the clock and the notes is a step of the session. -/
theorem living_step (h : (living p).step w e = some w') :
  w.state.state.step e.1 = some w'.state.state ∧ w'.state.time = e.2 ∧
    TransitionSystem.Shows w.state.time w'.state.time
      ((w.state.state.readings e.1 w'.state.state).map UInt64.toNat) ∧
    w'.notes = w.notes.after p w.state e w'.state
  := by
  obtain ⟨hstep, hnotes⟩ := TransitionSystem.observed_step.mp h
  obtain ⟨hstep, htime, hshows⟩ := TransitionSystem.clocked_step hstep
  exact ⟨hstep, htime, hshows, hnotes⟩

/-- The client `p`, last heard of at the time `heard`, will be heard of in time: it has published
a message for that, or will do so at its next check. -/
structure Backed (D L : ℕ) (p : UInt64) (w : Observed (Clocked Session) Liveness) (heard : ℕ) :
    Prop where
  heard_le : heard ≤ w.state.time
  published : (∃ n data, w.state.state.unread p n = some data ∧ data.Refreshes ∧
      w.notes.sentAt n + L ≤ heard + 30000) ∨
    w.state.state.Quiet p ∧ w.notes.checked + D + L ≤ heard + 30000 ∧ w.notes.refreshed ≤ heard

/-- The times that are noted are past, and if the client `p` is registered it will be heard of in
time. -/
structure Lives (D L : ℕ) (p : UInt64) (w : Observed (Clocked Session) Liveness) : Prop where
  checked_le : w.notes.checked ≤ w.state.time
  refreshed_le : w.notes.refreshed ≤ w.state.time
  sentAt_le : ∀ n, w.notes.sentAt n ≤ w.state.time
  backed : ∀ info ∈ w.state.state.server.clients.lookup p,
    Backed D L p w info.lastHeartbeatTime.toNat

/-- A client that was just heard of will be so in time. -/
theorem Backed.heard (hDL : D + L ≤ 30000) {heard : ℕ}
    (hchecked : w.notes.checked ≤ heard) (hrefreshed : w.notes.refreshed ≤ heard)
    (hsent : ∀ n data, w.state.state.unread p n = some data → w.notes.sentAt n ≤ heard)
    (hheard : heard ≤ w.state.time) :
  Backed D L p w heard
  := by
  use hheard
  rcases em (w.state.state.Quiet p) with hquiet | hunread
  · right
    exact ⟨hquiet, by omega, hrefreshed⟩
  · left
    obtain ⟨n, data, hn, hdata⟩ := not_quiet.mp hunread
    have hsent := hsent n data hn
    exact ⟨n, data, hn, hdata, by omega⟩

/-- A step of a client that sends its messages and makes its checks in time keeps it backed. -/
theorem Backed.client {q : UInt64} {ev : WebsocketProxyClient.Event} {stop heard : ℕ}
    (h : Backed D L p w heard) (hp : p ∈ w.state.state.server.clients)
    (htaken : w.state.state.server.taken ≤ w.state.state.clientQueue.length)
    (hpid : ∀ q, (w.state.state.clients q).pid = q)
    (hprompt : Prompt D L p w (.client q ev, stop)) (hrecent : Recent D L p w (.client q ev, stop))
    (hstep : (living p).step w (.client q ev, stop) = some w') :
  Backed D L p w' heard
  := by
  obtain ⟨hstep, htime, hshows, hnotes⟩ := living_step hstep
  obtain ⟨-, c, published, hc, hs'⟩ := step_client hstep
  have hclient := WebsocketProxyClient.perform_step hc
  use Nat.le_trans h.heard_le hshows.le
  rcases h.published with ⟨n, data, hn, hdata, hsent⟩ | ⟨hquiet, hchecked, hrefreshed⟩
  · left
    refine ⟨n, data, ?_, hdata, ?_⟩
    · rw [hs']
      apply unread_client _ hn
    · rw [hnotes]
      simp only [Liveness.after, if_pos (lt_of_unread hn)]
      exact hsent
  · -- what the step publishes
    have hnews : w'.state.state.clientQueue.drop w.state.state.clientQueue.length = published := by
      rw [hs']
      apply List.drop_left
    rcases em (w.state.state.Refreshes w'.state.state p) with hsends | hsilent
    · left
      obtain ⟨m, hm, rfl, hdata⟩ := hsends
      rw [hnews] at hm
      obtain ⟨n, hn, hunread⟩ := unread_published htaken q (c, published) hm
      refine ⟨n, m.data, ?_, hdata, ?_⟩
      · rw [hs']
        exact hunread
      · have hprompt := hprompt.checks hp
          (fun n hn hunregister => hquiet n hn _ hunregister trivial)
        rw [hnotes]
        simp only [Liveness.after, if_neg (Nat.not_lt.mpr hn)]
        omega
    · have hsilent' : ∀ m ∈ published, m.pid = p → ¬ m.data.Refreshes := by
        intro m hm hmp hdata
        apply hsilent
        rw [Refreshes, hnews]
        exact ⟨m, hm, hmp, hdata⟩
      right
      refine ⟨?_, ?_, ?_⟩
      · intro n _ data hn hdata
        rw [hs'] at hn
        rcases unread_of_client hn with hbefore | ⟨m, hm, hmp, rfl⟩
        · apply hquiet n (lt_of_unread hbefore) data hbefore hdata
        · apply hsilent' m hm hmp hdata
      · rw [hnotes]
        simp only [Liveness.after]
        split
        case isTrue hchecks =>
          -- the check sends nothing, so it comes early
          obtain ⟨rfl, ⟨msg, sent, start, rfl⟩ | ⟨now, hnow⟩⟩ := hchecks.cases
          · cases hclient with
            | register => exact absurd trivial (hsilent' _ (List.mem_singleton_self _) (hpid q))
          · have hbeats : ¬ (w.state.state.clients q).Beats now := by
              intro hbeats
              rw [hclient.beats hnow hbeats] at hsilent'
              apply hsilent' _ (List.mem_singleton_self _) (hpid q) trivial
            have hrecent := hrecent rfl now hnow hbeats hp hquiet
            rw [htime]
            omega
        case isFalse => exact hchecked
      · rw [hnotes]
        simp only [Liveness.after, if_neg hsilent]
        exact hrefreshed

/-- A handler of the server that still has the client keeps it backed. -/
theorem Lives.server {ev : WebsocketProxy.Event} {stop : ℕ} (h : Lives D L p w)
    (hDL : D + L ≤ 30000) (hstep : (living p).step w (.server ev, stop) = some w')
    {info : ClientInfo} (hinfo : w'.state.state.server.clients.lookup p = some info) :
  Backed D L p w' info.lastHeartbeatTime.toNat
  := by
  obtain ⟨hstep, htime, hshows, hnotes⟩ := living_step hstep
  obtain ⟨hfinds, px, hpx, hs'⟩ := step_server hstep
  have hqueue : w'.state.state.clientQueue = w.state.state.clientQueue := by rw [hs']
  have hrefreshes : ¬ w.state.state.Refreshes w'.state.state p := by
    rintro ⟨m, hm, -⟩
    rw [hqueue, List.drop_length] at hm
    cases hm
  have hchecked : w'.notes.checked = w.notes.checked := by
    have hchecks : ¬ w.state.state.Checks p (.server ev) := fun hchecks => hchecks
    rw [hnotes]
    simp only [Liveness.after, if_neg hchecks]
  have hrefreshed : w'.notes.refreshed = w.notes.refreshed := by
    rw [hnotes]
    simp only [Liveness.after, if_neg hrefreshes]
  have hsent : ∀ {n data}, w'.state.state.unread p n = some data →
      w'.notes.sentAt n = w.notes.sentAt n := by
    intro n data hn
    have hlt := lt_of_unread hn
    rw [hqueue] at hlt
    rw [hnotes]
    simp only [Liveness.after, if_pos hlt]
  rw [hs'] at hinfo
  rcases WebsocketProxy.step_lookup hpx hinfo with ⟨hbefore, hnot⟩ | hread
  · obtain ⟨hheard, hpublished⟩ := h.backed info hbefore
    use Nat.le_trans hheard hshows.le
    rcases hpublished with ⟨n, data, hn, hdata, hle⟩ | ⟨hquiet, hle, hle'⟩
    · left
      rcases unread_server hpx hfinds hn with hstays | ⟨m, hm, hpid, rfl⟩
      · rw [← hs'] at hstays
        use n, data, hstays, hdata
        rw [hsent hstays]
        exact hle
      · exact absurd hdata (hnot m hm hpid)
    · right
      rw [hchecked, hrefreshed]
      refine ⟨?_, hle, hle'⟩
      intro n _ data hn hdata
      rw [hs'] at hn
      have hbefore := unread_of_server hpx hn
      apply hquiet n (lt_of_unread hbefore) data hbefore hdata
  · have hread : info.lastHeartbeatTime.toNat
        ∈ (w.state.state.readings (.server ev) w'.state.state).map UInt64.toNat := by
      apply List.mem_map_of_mem
      rw [hs']
      exact hread
    have hge := hshows.ge_start _ hread
    apply Backed.heard hDL
    · rw [hchecked]
      apply Nat.le_trans h.checked_le hge
    · rw [hrefreshed]
      apply Nat.le_trans h.refreshed_le hge
    · intro n data hn
      rw [hsent hn]
      apply Nat.le_trans (h.sentAt_le n) hge
    · apply hshows.le_stop _ hread

/-! ### Runs -/

/-- A client whose checks and messages are in time, and whose checks leave no heartbeat out for
too long, will always be heard of in time. -/
theorem reachable_lives (hDL : D + L ≤ 30000)
    (h : (living p).ReachableUnder (fun w e => Prompt D L p w e ∧ Recent D L p w e) w) :
  Lives D L p w
  := by
  apply h.invariant (I := Lives D L p)
  · rintro w ⟨⟨pid, clock, names, hs⟩, hnotes⟩
    constructor
    · rw [hnotes]
      apply Nat.zero_le _
    · rw [hnotes]
      apply Nat.zero_le _
    · rw [hnotes]
      exact fun _ => Nat.zero_le _
    · rw [hs]
      rintro info ⟨⟩
  · intro w e w' hreachable hlives hguard hstep
    obtain ⟨hsession, htime, hshows, hnotes⟩ := living_step hstep
    have hle := hshows.le
    constructor
    · rw [hnotes]
      simp only [Liveness.after]
      split
      · apply Nat.le_refl _
      · apply Nat.le_trans hlives.checked_le hle
    · rw [hnotes]
      simp only [Liveness.after]
      split
      · apply Nat.le_refl _
      · apply Nat.le_trans hlives.refreshed_le hle
    · intro n
      rw [hnotes]
      simp only [Liveness.after]
      split
      · apply Nat.le_trans (hlives.sentAt_le n) hle
      · apply Nat.le_refl _
    · intro info hinfo
      have hreachable : system.Reachable w.state.state := hreachable.observed.clocked
      rcases e with ⟨ev | ⟨q, ev⟩, stop⟩
      · apply hlives.server hDL hstep hinfo
      · obtain ⟨-, c, published, -, hs'⟩ := step_client hsession
        have hbefore : w.state.state.server.clients.lookup p = some info := by
          rw [hs'] at hinfo
          exact hinfo
        apply (hlives.backed info hbefore).client _ (reachable_taken hreachable).2
          (fun q => (reachable_client hreachable q).2) hguard.1 hguard.2 hstep
        exact UnorderedMap.mem_iff_lookup.mpr ⟨info, hbefore⟩

/-- A check with the time it is made at leaves no heartbeat out for too long, if the client is
connected and the server takes note of the sender of its last message. -/
theorem recent_of_noted (hDL : 500 + D + L < 30000) {ev : WebsocketProxyClient.Event} {stop : ℕ}
    (hconnected : (w.state.state.clients p).serverPid ≠ 0)
    (hnoted : (w.state.state.clients p).lastHeartbeatTime.toNat ≤ w.notes.refreshed)
    (hpast : w.notes.refreshed ≤ stop)
    (hnow : ∀ now ∈ (w.state.state.clients p).checks ev, now.toNat = stop) :
  Recent D L p w (.client p ev, stop)
  := by
  intro _ now hchecks hbeats _ _
  obtain rfl := hnow now hchecks
  have hlast := Nat.le_trans hnoted hpast
  have hsoon : ¬ now - (w.state.state.clients p).lastHeartbeatTime > heartbeatInterval :=
    fun hlate => hbeats ⟨hconnected, hlate⟩
  have hsoon := Nat.not_lt.mp (mt UInt64.lt_iff_toNat_lt.mpr hsoon)
  rw [UInt64.toNat_sub_of_le _ _ (UInt64.le_iff_toNat_le.mpr hlast)] at hsoon
  have hinterval : heartbeatInterval.toNat = 500 := rfl
  dsimp only
  omega

/-- In every run in which the checks of a client are at most `D` apart, its messages are handled
after at most `L`, and no check leaves a heartbeat out for too long, no `checkHeartbeats` drops the
client. -/
theorem live_not_dropped (hDL : 500 + D + L < 30000) {stop : ℕ}
    (h : (living p).ReachableUnder (fun w e => Prompt D L p w e ∧ Recent D L p w e) w)
    (hprompt : Prompt D L p w (.server .startHeartbeat, stop))
    (hstep : (living p).step w (.server .startHeartbeat, stop) = some w')
    (hp : p ∈ w.state.state.server.clients) :
  p ∈ w'.state.state.server.clients
  := by
  obtain ⟨hsession, htime, hshows, -⟩ := living_step hstep
  obtain ⟨-, px, hpx, hs'⟩ := step_server hsession
  have hreachable : system.Reachable w.state.state := h.observed.clocked
  have hwf := WebsocketProxy.reachable_wellFormed (reachable_taken hreachable).1
  by_contra hdropped
  rw [hs'] at hdropped
  rcases WebsocketProxy.mem_departing (WebsocketProxy.step_departing hwf hpx hp hdropped) with
    ⟨-, hexpired⟩ | ⟨m, hm, -⟩
  · obtain ⟨info, hinfo, now, hread, hnow⟩ := WebsocketProxy.step_expired hpx hexpired
    obtain ⟨hheard, hpublished⟩ := (reachable_lives (by omega) h).backed info hinfo
    have hread : now.toNat
        ∈ (w.state.state.readings (.server .startHeartbeat) w'.state.state).map UInt64.toNat := by
      apply List.mem_map_of_mem
      rw [hs']
      exact hread
    have hge := hshows.ge_start _ hread
    have hle := hshows.le_stop _ hread
    have hnow := UInt64.lt_iff_toNat_lt.mp hnow
    rw [UInt64.toNat_sub_of_le _ _ (UInt64.le_iff_toNat_le.mpr (Nat.le_trans hheard hge))] at hnow
    have hbound : w'.state.time ≤ info.lastHeartbeatTime.toNat + 30000 := by
      rw [htime]
      rcases hpublished with ⟨n, data, hn, -, hsent⟩ | ⟨hquiet, hchecked, -⟩
      · have hhandles := hprompt.handles n (lt_of_unread hn) (by rw [hn]; rfl)
        omega
      · have hchecks := hprompt.checks hp
          (fun n hn hunregister => hquiet n hn _ hunregister trivial)
        omega
    have hlimit : (30000 : UInt64).toNat = 30000 := rfl
    omega
  · cases hm

/-- The readings of the clock of the server in `beatOnce`. -/
def clockOfBeat (j : ℕ) : UInt64 := if j < 3 then 100000 else 100700

/-- A client opens a connection, and sends a heartbeat 700 milliseconds later. -/
def beatOnce : List (Event × ℕ) :=
  (.server .startHeartbeat :: Event.openWebSocketAsync 1 [104] 0 1 100000).map (·, 100000) ++
  (Event.round 1 100700 none ++ [Event.take { pid := 1, data := .heartbeat }]).map (·, 100700)

theorem live_not_dropped_beatOnce :
  ∃ w w', (living 1).RunUnder (fun w e => Prompt 1000 1000 1 w e ∧ Recent 1000 1000 1 w e)
      ⟨{ state := start 7 clockOfBeat (fun _ => []) }, {}⟩ beatOnce w ∧
    (living 1).step w (.server .startHeartbeat, 100700) = some w' ∧
    1 ∈ w'.state.state.server.clients
  := by
  obtain ⟨w, hrun, hprompt, hp, w', hstep, -⟩ :
      ∃ w, (living 1).RunUnder (fun w e => Prompt 1000 1000 1 w e ∧ Recent 1000 1000 1 w e)
        ⟨{ state := start 7 clockOfBeat (fun _ => []) }, {}⟩ beatOnce w ∧
      Prompt 1000 1000 1 w (.server .startHeartbeat, 100700) ∧
      1 ∈ w.state.state.server.clients ∧
      ∃ w' ∈ (living 1).step w (.server .startHeartbeat, 100700), True :=
    TransitionSystem.exists_runUnder (by decide +kernel)
  use w, w', hrun, hstep
  exact live_not_dropped (D := 1000) (L := 1000) (by decide) ⟨_, _, ⟨⟨7, _, _, rfl⟩, rfl⟩, hrun⟩
    hprompt hstep hp

/-- The readings of the clock of the server in `onlyLogLevels`. -/
def clockOfLogLevels (j : ℕ) : UInt64 :=
  if j < 3 then 100000 else if j = 3 then 114000 else if j = 4 then 128000 else 130001

/-- A client opens a connection. Before each of its next two checks it sets the log level, so it
sends no heartbeat. -/
def onlyLogLevels : List (Event × ℕ) :=
  (.server .startHeartbeat :: Event.openWebSocketAsync 1 [104] 0 1 100000).map (·, 100000) ++
  [(.client 1 (.setLogLevel ⟨1⟩ 113900), 113900)] ++
  ([Event.take { pid := 1, data := .logLevel ⟨1⟩ }, .server .startHeartbeat] ++
    Event.round 1 114000 (some { pid := 7, data := .heartbeat })).map (·, 114000) ++
  [(.client 1 (.setLogLevel ⟨1⟩ 127900), 127900)] ++
  ([Event.take { pid := 1, data := .logLevel ⟨1⟩ }, .server .startHeartbeat] ++
    Event.round 1 128000 (some { pid := 7, data := .heartbeat })).map (·, 128000)

/-- The client is dropped 30001 milliseconds after it opened the connection. -/
theorem not_live_not_dropped :
  ¬ ∀ (D L : ℕ) (p : UInt64) (w w' : Observed (Clocked Session) Liveness) (stop : ℕ),
    500 + D + L < 30000 → (living p).ReachableUnder (Prompt D L p) w →
    Prompt D L p w (.server .startHeartbeat, stop) →
    (living p).step w (.server .startHeartbeat, stop) = some w' →
    p ∈ w.state.state.server.clients → p ∈ w'.state.state.server.clients
  := by
  intro hall
  obtain ⟨w, hrun, hprompt, hp, w', hstep, hdropped⟩ :
      ∃ w, (living 1).RunUnder (Prompt 14000 1000 1)
        ⟨{ state := start 7 clockOfLogLevels (fun _ => []) }, {}⟩ onlyLogLevels w ∧
      Prompt 14000 1000 1 w (.server .startHeartbeat, 130001) ∧
      1 ∈ w.state.state.server.clients ∧
      ∃ w' ∈ (living 1).step w (.server .startHeartbeat, 130001),
        1 ∉ w'.state.state.server.clients :=
    TransitionSystem.exists_runUnder (by decide +kernel)
  exact hdropped (hall 14000 1000 1 w w' 130001 (by decide) ⟨_, _, ⟨⟨7, _, _, rfl⟩, rfl⟩, hrun⟩
    hprompt hstep hp)

end Session
