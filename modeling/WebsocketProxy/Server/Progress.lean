import WebsocketProxy.Library.Fairness
import WebsocketProxy.Server.SlotContents

/-!
# Openings come to an end

The coroutine that opens a connection is resumed five times at most: every time it fails, or goes
on to its next stage. Nothing else moves it, and its end answers the request.
-/

namespace Websocket

variable {ws ws' : Websocket} {stage : OpenStage} {msg : ℕ} {calls : List Callback}

/-- How often the coroutine is still resumed at most. -/
def OpenStage.rest : OpenStage → ℕ
  | spawned => 5
  | resolve => 4
  | connect => 3
  | sslHandshake => 2
  | handshake => 1

/-- In every stage the coroutine can be resumed. -/
theorem openResume_success (ws : Websocket) (stage : OpenStage) (msg port : ℕ) :
  (ws.openResume stage msg (.success port)).isSome
  := by
  cases stage with
  | _ => rfl

/-- The coroutine ends, or goes on to a later stage. -/
theorem openResume_proceeds {result : OpenResult}
    (h : ws.openResume stage msg result = some (ws', calls)) :
  ws'.opening = none ∨ ∃ stage', ws'.opening = some (stage', msg) ∧ stage'.rest < stage.rest
  := by
  have hfail : ∀ {ec : ErrorCode},
      some (fail { ws with opening := none } ec (some msg)) = some (ws', calls) →
      ws'.opening = none := by
    intro ec h
    exact (fail_spec (Option.some.inj h)).1
  unfold openResume at h
  cases result with
  | success port =>
      obtain ⟨⟩ | ⟨⟩ | ⟨⟩ | ⟨⟩ | ⟨⟩ := stage
      · cases h
        exact Or.inr ⟨.resolve, rfl, by decide⟩
      · cases h
        exact Or.inr ⟨.connect, rfl, by decide⟩
      · cases h
        exact Or.inr ⟨.sslHandshake, rfl, by decide⟩
      · cases h
        exact Or.inr ⟨.handshake, rfl, by decide⟩
      · cases h
        exact Or.inl rfl
  | failure ec =>
      cases stage with
      | spawned => cases h
      | _ => exact Or.inl (hfail h)
  | hostNameNotSet ec =>
      cases stage with
      | connect => exact Or.inl (hfail h)
      | _ => cases h

/-- Only the resumption of the coroutine moves it. -/
theorem complete_opening {c : Completion} (h : ws.complete c = some (ws', calls))
    (hc : ∀ result, c ≠ .resumed result) :
  ws'.opening = ws.opening
  := by
  cases c with
  | resumed result => exact absurd rfl (hc result)
  | read result =>
      simp only [complete, onRead] at h
      split at h
      case isFalse => cases h
      case isTrue =>
        have h := Option.some.inj h
        split at h
        · split at h
          · exact (fail_answers h).1
          · obtain ⟨rfl, -⟩ := Prod.mk.inj h
            rfl
        · obtain ⟨rfl, -⟩ := Prod.mk.inj h
          split
          · rfl
          · rfl
  | write i ec =>
      obtain ⟨n, -, h⟩ := Option.map_eq_some_iff.mp h
      simp only [onWrite] at h
      split at h
      · split at h
        · exact (fail_answers h).1
        · obtain ⟨rfl, -⟩ := Prod.mk.inj h
          rfl
      · obtain ⟨rfl, -⟩ := Prod.mk.inj h
        rfl
  | close ec =>
      simp only [complete] at h
      split at h
      case isFalse => cases h
      case isTrue =>
        have hclose := (onClose_answers { ws with closesDone := ws.closesDone + 1 } ec).1
        rw [Option.some.inj h] at hclose
        exact hclose

end Websocket

namespace WebsocketProxy

variable {px px' : WebsocketProxy} {r n : ℕ} {stage : Websocket.OpenStage}

/-- The event is a resumption of the coroutine that opens the connection at `r`. -/
def Event.Resumes (r : ℕ) : Event → Prop
  | .complete r' (.resumed _) => r' = r
  | _ => False

/-- A coroutine that opens a connection can be resumed. -/
theorem enabled_resumes (hstopped : ¬ px.stopped)
    (hopening : (px.sockets r).opening = some (stage, n)) :
  system.Enabled (Event.Resumes r) px
  := by
  obtain ⟨⟨ws, calls⟩, hresume⟩ :=
    Option.isSome_iff_exists.mp ((px.sockets r).openResume_success stage n 0)
  use .complete r (.resumed (.success 0)), px.perform r (ws, calls), rfl
  change px.step _ = _
  rw [step, if_neg hstopped]
  simp only [runHandler, Websocket.complete, hopening, Option.bind_some, hresume, Option.map_some]

/-- Only a coroutine that opens a connection is resumed. -/
theorem opening_of_resumes {ev : Event} (h : px.step ev = some px') (hev : ev.Resumes r) :
  ∃ stage n, (px.sockets r).opening = some (stage, n)
  := by
  cases ev with
  | complete r' c =>
      cases c with
      | resumed result =>
          obtain rfl : r' = r := hev
          obtain ⟨⟨ws, calls⟩, hws, -⟩ := Option.map_eq_some_iff.mp (runHandler_of_step h)
          obtain ⟨⟨stage, n⟩, hopening, -⟩ := Option.bind_eq_some_iff.mp hws
          exact ⟨stage, n, hopening⟩
      | read | write | close => exact hev.elim
  | _ => exact hev.elim

theorem perform_opening (px : WebsocketProxy) (r r' : ℕ) (ws : Websocket)
    (calls : List Websocket.Callback) :
  ((px.perform r (ws, calls)).sockets r').opening
    = if r' = r then ws.opening else (px.sockets r').opening
  := by
  rw [perform, foldl_callback_opening]
  rcases eq_or_ne r' r with rfl | hne
  · rw [if_pos rfl, Tables.modifySocket_self]
  · rw [if_neg hne, Tables.modifySocket_of_ne hne]

/-- An opening stays as it is until its coroutine is resumed. -/
theorem step_opening_stays {ev : Event} (hwf : px.WellFormed) (h : px.step ev = some px')
    (hopening : (px.sockets r).opening = some (stage, n)) (hev : ¬ ev.Resumes r) :
  (px'.sockets r).opening = some (stage, n)
  := by
  rw [← hopening]
  rcases em (∃ r' c, ev = .complete r' c) with ⟨r', c, rfl⟩ | hcomplete
  · obtain ⟨⟨ws, calls⟩, hws, rfl⟩ := Option.map_eq_some_iff.mp (runHandler_of_step h)
    rw [perform_opening]
    rcases eq_or_ne r r' with rfl | hne
    · rw [if_pos rfl]
      apply Websocket.complete_opening hws
      rintro result rfl
      exact hev rfl
    · rw [if_neg hne]
  · apply step_opening hwf h fun r' c hev => hcomplete ⟨r', c, hev⟩
    right
    rintro rfl
    rw [hwf.blank px.opens (Nat.le_refl _)] at hopening
    cases hopening

/-- A resumption moves the opening on, or ends it and answers its request. -/
theorem step_resumes {ev : Event} (h : px.step ev = some px') (hev : ev.Resumes r)
    (hopening : (px.sockets r).opening = some (stage, n)) :
  (∃ stage', (px'.sockets r).opening = some (stage', n) ∧ stage'.rest < stage.rest) ∨
    ∃ status, status ≠ .pending ∧ px'.ledger = px.ledger.finish r n status
  := by
  cases ev with
  | complete r' c =>
      cases c with
      | resumed result =>
          obtain rfl : r' = r := hev
          obtain ⟨⟨ws, calls⟩, hws, hpx'⟩ := Option.map_eq_some_iff.mp (runHandler_of_step h)
          have hafter : (px'.sockets r').opening = ws.opening := by
            rw [← hpx', perform_opening, if_pos rfl]
          have hresume := hws
          simp only [Websocket.complete, hopening, Option.bind_some] at hresume
          rcases Websocket.openResume_proceeds hresume with hended | hproceeds
          · right
            rcases complete_ledger (runHandler_of_step h) with hsame |
              ⟨n', status, hstatus, hpending, hfinish⟩
            · have hpending := congrFun (congrArg Ledger.pending hsame) r'
              simp only [ledger, hafter, hended, hopening, Option.map_none, Option.map_some]
                at hpending
              cases hpending
            · have hn : px.ledger.pending r' = some n := congrArg (Option.map Prod.snd) hopening
              obtain rfl := Option.some.inj (hpending.symm.trans hn)
              use status, hstatus
          · left
            rw [hafter]
            exact hproceeds
      | read | write | close => exact hev.elim
  | _ => exact hev.elim

/-- The handler of messages changes nothing when there is no message, no connection to drop, and
no reason to shut down. -/
theorem step_noMessage {px : WebsocketProxy} (hgoes : px.stopped = false) (hrun : px.run = true)
    (hposted : 0 < px.messageHandlers) (hzero : px.shutdownTime = 0)
    (hdrained : px.closedSockets.reserved ≤ px.closedSocketsIndex) :
  px.step (.processClientMessage none) = some px
  := by
  have hnone : px.removeClosedSockets = px.toTables := by
    rw [Tables.removeClosedSockets, Nat.sub_eq_zero_of_le hdrained, Tables.removeClosedLoop]
  rw [step, if_neg (ne_true_of_eq_false hgoes), runHandler, if_pos hposted, processClientMessage]
  simp only [hnone, processNext, Bool.false_eq_true, if_false, Nat.sub_add_cancel hposted]
  rw [if_pos hrun, if_neg (not_not.mpr hzero)]

end WebsocketProxy
