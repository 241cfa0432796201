import WebsocketProxy.Websocket.Phases

/-!
# The moves of the status

The status of a connection starts as disconnected. It moves to connecting, then possibly to
connected, then to disconnecting, and then to disconnected for good. `Lived ws moves` says
that the status of `ws` came about by `moves`, and what else is known of the connection at
that point; completions and closes keep it.
-/

namespace Websocket

/-- The move of the status from `ws` to `ws'`, if there is one. -/
def statusMove (ws ws' : Websocket) : List Status :=
  if ws'.status = ws.status then [] else [ws'.status]

/-- The connections have the same status, the same opening and the same closes. -/
structure SameLife (ws ws' : Websocket) : Prop where
  status : ws'.status = ws.status
  opening : ws'.opening = ws.opening
  closesStarted : ws'.closesStarted = ws.closesStarted
  closesDone : ws'.closesDone = ws.closesDone

/-- The moves of a connection that has not begun to disconnect. -/
def Begun (moves : List Status) : Prop :=
  moves = [.connecting] ∨ moves = [.connecting, .connected]

/-- The status of the connection came about by the moves. -/
inductive Lived (ws : Websocket) : List Status → Prop
  | unopened (hstatus : ws.status = .disconnected)
      (hspawned : ∀ stage msg, ws.opening = some (stage, msg) → stage = .spawned)
      (hstarted : ws.closesStarted = 0) (hdone : ws.closesDone = 0) :
      Lived ws []
  | connecting {stage msg} (hstatus : ws.status = .connecting)
      (hopening : ws.opening = some (stage, msg)) (hstage : stage ≠ .spawned)
      (hstarted : ws.closesStarted = 0) (hdone : ws.closesDone = 0) :
      Lived ws [.connecting]
  | connected (hstatus : ws.status = .connected) (hopened : ws.opening = none)
      (hstarted : ws.closesStarted = 0) (hdone : ws.closesDone = 0) :
      Lived ws [.connecting, .connected]
  | disconnecting {moves} (hbegun : Begun moves) (hstatus : ws.status = .disconnecting)
      (hopened : ws.opening = none) (hstarted : ws.closesStarted = 1) (hdone : ws.closesDone = 0) :
      Lived ws (moves ++ [.disconnecting])
  | disconnected {moves} (hbegun : Begun moves) (hstatus : ws.status = .disconnected)
      (hopened : ws.opening = none) (hstarted : ws.closesStarted = 1) (hdone : ws.closesDone = 1) :
      Lived ws (moves ++ [.disconnecting, .disconnected])

theorem lived_blank :
  Lived blank []
  := by
  apply Lived.unopened
  · rfl
  · rintro stage msg ⟨⟩
  · rfl
  · rfl

theorem Fresh.lived {ws : Websocket} {id : UInt64} {url apiKey : Bytes} {msg : ℕ}
    (h : Fresh ws id url apiKey msg) :
  Lived ws []
  := by
  apply Lived.unopened h.status
  · intro stage msg' hopening
    rw [h.opening] at hopening
    exact (Prod.mk.inj (Option.some.inj hopening)).1.symm
  · apply h.closesStarted
  · apply h.closesDone

/-- All moves of a connection are those of one of two lives. -/
theorem Lived.moves {ws : Websocket} {moves : List Status} (h : Lived ws moves) :
  moves <+: [.connecting, .connected, .disconnecting, .disconnected] ∨
    moves <+: [.connecting, .disconnecting, .disconnected]
  := by
  cases h with
  | unopened | connecting | connected => decide
  | disconnecting hbegun | disconnected hbegun =>
      rcases hbegun with rfl | rfl
      · decide
      · decide

/-- At most one close is started. -/
theorem Lived.closesStarted_le {ws : Websocket} {moves : List Status} (h : Lived ws moves) :
  ws.closesStarted ≤ 1
  := by
  cases h with
  | unopened | connecting | connected | disconnecting | disconnected => omega

/-- A close is done of a disconnected connection only, and once. -/
theorem Lived.closed {ws : Websocket} {moves : List Status} (h : Lived ws moves)
    (hdone : 0 < ws.closesDone) :
  ws.status = .disconnected ∧ ws.opening = none ∧ ws.closesStarted = 1 ∧ ws.closesDone = 1
  := by
  cases h with
  | unopened | connecting | connected | disconnecting => omega
  | disconnected => exact ⟨‹_›, ‹_›, ‹_›, ‹_›⟩

/-! ### Steps -/

theorem statusMove_of_same {ws ws' : Websocket} (h : ws'.status = ws.status) :
  statusMove ws ws' = []
  := if_pos h

theorem statusMove_of_ne {ws ws' : Websocket} (h : ws'.status ≠ ws.status) :
  statusMove ws ws' = [ws'.status]
  := if_neg h

theorem Lived.same {ws ws' : Websocket} {moves : List Status} (h : Lived ws moves)
    (hsame : SameLife ws ws') :
  Lived ws' moves
  := by
  obtain ⟨hstatus', hopening', hstarted', hdone'⟩ := hsame
  cases h with
  | unopened hstatus hspawned hstarted hdone =>
      apply Lived.unopened
      · rw [hstatus', hstatus]
      · rw [hopening']
        exact hspawned
      · rw [hstarted', hstarted]
      · rw [hdone', hdone]
  | connecting hstatus hopening hstage hstarted hdone =>
      apply Lived.connecting (hstatus'.trans hstatus) (hopening'.trans hopening) hstage
      · rw [hstarted', hstarted]
      · rw [hdone', hdone]
  | connected hstatus hopened hstarted hdone =>
      apply Lived.connected (hstatus'.trans hstatus) (hopening'.trans hopened)
      · rw [hstarted', hstarted]
      · rw [hdone', hdone]
  | disconnecting hbegun hstatus hopened hstarted hdone =>
      apply Lived.disconnecting hbegun (hstatus'.trans hstatus) (hopening'.trans hopened)
      · rw [hstarted', hstarted]
      · rw [hdone', hdone]
  | disconnected hbegun hstatus hopened hstarted hdone =>
      apply Lived.disconnected hbegun (hstatus'.trans hstatus) (hopening'.trans hopened)
      · rw [hstarted', hstarted]
      · rw [hdone', hdone]

/-- What happens to the rest of a connection makes no move. -/
theorem Lived.unmoved {ws ws' : Websocket} {moves : List Status} (h : Lived ws moves)
    (hsame : SameLife ws ws') :
  Lived ws' (moves ++ statusMove ws ws')
  := by
  rw [statusMove_of_same hsame.status, List.append_nil]
  apply h.same hsame

/-- A close moves an opened connection that is not closing to disconnecting. -/
theorem Lived.close {ws : Websocket} {moves : List Status} (h : Lived ws moves)
    (hopened : ws.opening = none) :
  Lived ws.close (moves ++ statusMove ws ws.close)
  := by
  have hclosing : ws.Closing → Lived ws.close (moves ++ statusMove ws ws.close) := by
    intro hclosing
    rw [close_of_closing hclosing, statusMove_of_same rfl, List.append_nil]
    exact h
  cases h with
  | unopened hstatus => exact hclosing (Or.inr hstatus)
  | connecting hstatus hopening =>
      rw [hopened] at hopening
      cases hopening
  | connected hstatus _ hstarted hdone =>
      have hnot : ¬ ws.Closing := by
        rintro (h | h)
        · rw [hstatus] at h
          cases h
        · rw [hstatus] at h
          cases h
      rw [close_of_not_closing hnot, statusMove_of_ne]
      · apply Lived.disconnecting (Or.inr rfl)
        · rfl
        · exact hopened
        · apply congrArg (· + 1) hstarted
        · exact hdone
      · rw [hstatus]
        rintro ⟨⟩
  | disconnecting hbegun hstatus => exact hclosing (Or.inl hstatus)
  | disconnected hbegun hstatus => exact hclosing (Or.inr hstatus)

theorem SameLife.close {ws ws' : Websocket} (h : SameLife ws ws') :
  SameLife ws.close ws'.close
  := by
  have hiff : ws'.Closing ↔ ws.Closing := by rw [Closing, Closing, h.status]
  rcases em ws.Closing with hclosing | hnot
  · rw [close_of_closing hclosing, close_of_closing (hiff.mpr hclosing)]
    exact h
  · rw [close_of_not_closing hnot, close_of_not_closing (fun hc => hnot (hiff.mp hc))]
    exact ⟨rfl, h.opening, congrArg (· + 1) h.closesStarted, h.closesDone⟩

/-- A failure closes the connection. -/
theorem fail_eq_close (ws : Websocket) (ec : ErrorCode) (callback : Option ℕ) :
  (ws.fail ec callback true).1 = ws.close
  := by
  simp only [fail, true_and]
  split
  case isTrue => rfl
  case isFalse hnot => rw [close_of_closing (closing_iff.mpr hnot)]

/-- The handler of a read or of a write closes the connection, or leaves its life as it is. -/
theorem complete_life {ws ws' : Websocket} {c : Completion} {calls : List Callback}
    (hc : ws.complete c = some (ws', calls)) (hresumed : ∀ result, c ≠ .resumed result)
    (hclose : ∀ ec, c ≠ .close ec) :
  SameLife ws ws' ∨ SameLife ws.close ws'
  := by
  cases c with
  | resumed result => exact absurd rfl (hresumed result)
  | close ec => exact absurd rfl (hclose ec)
  | read result =>
      simp only [complete] at hc
      split at hc
      case isTrue =>
        have hsame : SameLife ws { ws with reads := ws.reads - 1 } := ⟨rfl, rfl, rfl, rfl⟩
        have hws' := congrArg Prod.fst (Option.some.inj hc)
        obtain rfl : _ = ws' := hws'
        unfold onRead
        split
        · split
          · right
            rw [fail_eq_close]
            apply hsame.close
          · apply Or.inl hsame
        · left
          dsimp only
          split
          · exact ⟨rfl, rfl, rfl, rfl⟩
          · exact hsame
      case isFalse => cases hc
  | write i ec =>
      obtain ⟨n, -, hc⟩ := Option.map_eq_some_iff.mp hc
      have hsame : SameLife ws { ws with writes := ws.writes.eraseIdx i } := ⟨rfl, rfl, rfl, rfl⟩
      have hws' := congrArg Prod.fst hc
      obtain rfl : _ = ws' := hws'
      unfold onWrite
      split
      · split
        · right
          rw [fail_eq_close]
          apply hsame.close
        · apply Or.inl hsame
      · exact Or.inl ⟨rfl, rfl, rfl, rfl⟩

/-- The close of a connection completes while it is disconnecting, and moves it to
disconnected. -/
theorem Lived.onClose {ws ws' : Websocket} {moves : List Status} {ec : Option ErrorCode}
    {calls : List Callback} (h : Lived ws moves)
    (hc : ws.complete (.close ec) = some (ws', calls)) :
  Lived ws' (moves ++ statusMove ws ws')
  := by
  simp only [complete] at hc
  split at hc
  case isTrue hlt =>
    cases h with
    | unopened | connecting | connected | disconnected => omega
    | disconnecting hbegun hstatus hopened hstarted hdone =>
        have hclosing : ({ ws with closesDone := ws.closesDone + 1 } : Websocket).Closing :=
          Or.inl hstatus
        have hws' : ws' = { ws with
            closesDone := ws.closesDone + 1, status := .disconnected } := by
          have hfst := congrArg Prod.fst (Option.some.inj hc)
          obtain rfl : _ = ws' := hfst
          unfold Websocket.onClose
          cases ec with
          | none => rfl
          | some ec =>
              dsimp only
              split
              · rw [fail_eq_close, close_of_closing hclosing]
              · rfl
        rw [hws', statusMove_of_ne]
        · rw [List.append_assoc]
          apply Lived.disconnected hbegun
          · rfl
          · exact hopened
          · exact hstarted
          · apply congrArg (· + 1) hdone
        · rw [hstatus]
          rintro ⟨⟩
  case isFalse => cases hc

/-- The coroutine that opens a connection moves it to connecting, later to connected, or to
disconnecting when it fails. -/
theorem Lived.resumed {ws ws' : Websocket} {moves : List Status} {result : OpenResult}
    {calls : List Callback} (h : Lived ws moves)
    (hc : ws.complete (.resumed result) = some (ws', calls)) :
  Lived ws' (moves ++ statusMove ws ws')
  := by
  simp only [complete, Option.bind_eq_some_iff] at hc
  obtain ⟨⟨stage, msg⟩, hopening, hc⟩ := hc
  cases h with
  | connected _ hopened | disconnecting _ _ hopened | disconnected _ _ hopened =>
      rw [hopened] at hopening
      cases hopening
  | unopened hstatus hspawned hstarted hdone =>
      obtain rfl := hspawned stage msg hopening
      cases result with
      | success port =>
          obtain ⟨rfl, -⟩ := Prod.mk.inj (Option.some.inj hc)
          rw [statusMove_of_ne]
          · apply Lived.connecting
            · rfl
            · rfl
            · rintro ⟨⟩
            · exact hstarted
            · exact hdone
          · rw [hstatus]
            rintro ⟨⟩
      | failure | hostNameNotSet => cases hc
  | @connecting stage' msg' hstatus hopening' hstage hstarted hdone =>
      rw [hopening] at hopening'
      obtain ⟨rfl, rfl⟩ := Prod.mk.inj (Option.some.inj hopening')
      have hfail : ∀ ec, some (fail { ws with opening := none } ec (some msg)) = some (ws', calls) →
          Lived ws' ([.connecting] ++ statusMove ws ws') := by
        intro ec hc
        have hws' := congrArg Prod.fst (Option.some.inj hc)
        rw [fail_eq_close, close_of_not_closing] at hws'
        · obtain rfl : _ = ws' := hws'
          rw [statusMove_of_ne]
          · apply Lived.disconnecting (Or.inl rfl)
            · rfl
            · rfl
            · apply congrArg (· + 1) hstarted
            · exact hdone
          · rw [hstatus]
            rintro ⟨⟩
        · rintro (hclosing | hclosing)
          · rw [hstatus] at hclosing
            cases hclosing
          · rw [hstatus] at hclosing
            cases hclosing
      have hnext : ∀ {stage}, ws'.status = ws.status → ws'.opening = some (stage, msg) →
          stage ≠ .spawned → ws'.closesStarted = ws.closesStarted →
          ws'.closesDone = ws.closesDone →
          Lived ws' ([.connecting] ++ statusMove ws ws') := by
        intro stage hstatus' hopening' hstage hstarted' hdone'
        rw [statusMove_of_same hstatus', List.append_nil]
        apply Lived.connecting (hstatus'.trans hstatus) hopening' hstage
        · rw [hstarted', hstarted]
        · rw [hdone', hdone]
      cases result with
      | failure ec =>
          cases stage with
          | spawned => exact absurd rfl hstage
          | resolve | connect | sslHandshake | handshake => exact hfail ec hc
      | hostNameNotSet ec =>
          cases stage with
          | spawned => exact absurd rfl hstage
          | connect => exact hfail ec hc
          | resolve | sslHandshake | handshake => cases hc
      | success port =>
          cases stage with
          | spawned => exact absurd rfl hstage
          | resolve | connect | sslHandshake =>
              obtain ⟨rfl, -⟩ := Prod.mk.inj (Option.some.inj hc)
              exact hnext rfl rfl (by rintro ⟨⟩) rfl rfl
          | handshake =>
              obtain ⟨rfl, -⟩ := Prod.mk.inj (Option.some.inj hc)
              rw [statusMove_of_ne]
              · apply Lived.connected
                · rfl
                · rfl
                · exact hstarted
                · exact hdone
              · rw [hstatus]
                rintro ⟨⟩

/-- Completions keep the moves. Before a connection is opened nothing is read or written. -/
theorem Lived.complete {ws ws' : Websocket} {moves : List Status} {c : Completion}
    {calls : List Callback} (h : Lived ws moves) (hphases : ws.Phases)
    (hc : ws.complete c = some (ws', calls)) :
  Lived ws' (moves ++ statusMove ws ws')
  := by
  have hlife : ws.opening = none → SameLife ws ws' ∨ SameLife ws.close ws' →
      Lived ws' (moves ++ statusMove ws ws') := by
    rintro hopened (hsame | hclosed)
    · apply h.unmoved hsame
    · have hmove : statusMove ws ws' = statusMove ws ws.close := by
        rw [statusMove, statusMove, hclosed.status]
      rw [hmove]
      exact (h.close hopened).same hclosed
  cases c with
  | resumed result => exact h.resumed hc
  | close ec => exact h.onClose hc
  | read result =>
      apply hlife _ (complete_life hc (by rintro _ ⟨⟩) (by rintro _ ⟨⟩))
      by_contra hopening
      simp [Websocket.complete, hphases.reads hopening] at hc
  | write i ec =>
      apply hlife _ (complete_life hc (by rintro _ ⟨⟩) (by rintro _ ⟨⟩))
      by_contra hopening
      simp [Websocket.complete, hphases.writes hopening] at hc

/-- The handlers of a connection whose close is done report no error. -/
theorem Lived.silent {ws ws' : Websocket} {moves : List Status} {c : Completion}
    {calls : List Callback} (h : Lived ws moves) (hdone : 0 < ws.closesDone)
    (hc : ws.complete c = some (ws', calls)) :
  ∀ call ∈ calls, ∃ data, call = .onWsData data
  := by
  obtain ⟨hstatus, hopened, hstarted, hone⟩ := h.closed hdone
  cases c with
  | resumed result =>
      rw [Websocket.complete, hopened] at hc
      cases hc
  | close ec =>
      rw [Websocket.complete, if_neg (by omega)] at hc
      cases hc
  | read result =>
      simp only [Websocket.complete] at hc
      split at hc
      case isTrue =>
        have hcalls := congrArg Prod.snd (Option.some.inj hc)
        obtain rfl : _ = calls := hcalls
        cases result with
        | error ec =>
            simp only [onRead, hstatus]
            rintro call ⟨⟩
        | ok data =>
            intro call hcall
            use data
            apply List.mem_singleton.mp hcall
      case isFalse => cases hc
  | write i ec =>
      obtain ⟨n, -, hc⟩ := Option.map_eq_some_iff.mp hc
      have hcalls := congrArg Prod.snd hc
      obtain rfl : _ = calls := hcalls
      cases ec with
      | some ec =>
          simp only [onWrite, hstatus]
          rintro call ⟨⟩
      | none => rintro call ⟨⟩

/-! ### Reads and calls -/

/-- Reads are outstanding only of a connection that was opened. -/
theorem complete_reads {ws ws' : Websocket} {c : Completion} {calls : List Callback}
    (hc : ws.complete c = some (ws', calls)) (h : 0 < ws'.reads) :
  0 < ws.reads ∨ ∃ port msg, c = .resumed (.success port) ∧ ws.opening = some (.handshake, msg)
  := by
  cases c with
  | resumed result =>
      simp only [complete, Option.bind_eq_some_iff] at hc
      obtain ⟨⟨stage, msg⟩, hopening, hc⟩ := hc
      unfold openResume at hc
      split at hc <;> simp only [fail, Websocket.close] at hc <;> grind
  | read result =>
      simp only [complete] at hc
      split at hc
      case isTrue hreads => exact Or.inl hreads
      case isFalse => cases hc
  | write i ec =>
      simp only [complete, onWrite, fail, Websocket.close] at hc
      left
      grind
  | close ec =>
      simp only [complete, onClose, fail, Websocket.close] at hc
      left
      grind

/-- Data comes from a read. -/
theorem complete_data {ws ws' : Websocket} {c : Completion} {calls : List Callback}
    (hc : ws.complete c = some (ws', calls)) {data : Bytes} (h : .onWsData data ∈ calls) :
  0 < ws.reads
  := by
  cases c with
  | resumed result =>
      simp only [complete, Option.bind_eq_some_iff] at hc
      obtain ⟨⟨stage, msg⟩, hopening, hc⟩ := hc
      unfold openResume at hc
      split at hc <;> simp only [fail] at hc <;> grind
  | read result =>
      simp only [complete] at hc
      split at hc
      case isTrue hreads => exact hreads
      case isFalse => cases hc
  | write i ec =>
      simp only [complete, onWrite, fail] at hc
      grind
  | close ec =>
      simp only [complete, onClose, fail] at hc
      grind

/-- That a connection is closed is the last of the calls. -/
theorem complete_closed_last {ws ws' : Websocket} {c : Completion} {calls : List Callback}
    (hc : ws.complete c = some (ws', calls)) :
  calls.Pairwise fun call _ => call ≠ .onWsClosed
  := by
  have hsilent : ∀ {calls : List Callback}, (∀ call ∈ calls, call.Silent) →
      calls.Pairwise fun call _ => call ≠ .onWsClosed := by
    intro calls h
    apply List.pairwise_of_forall_mem_list
    rintro call hcall _ - rfl
    apply h _ hcall
  rcases (complete_spec hc).calls with ⟨port, msg, -, -, hcalls, -⟩ |
    ⟨ec, errors, -, herrors, hcalls, -⟩ | ⟨hcalls, -⟩
  · rw [hcalls]
    apply List.pairwise_singleton
  · rw [hcalls, List.pairwise_append]
    use hsilent herrors, List.pairwise_singleton ..
    rintro call hcall _ - rfl
    apply herrors _ hcall
  · apply hsilent hcalls

end Websocket
