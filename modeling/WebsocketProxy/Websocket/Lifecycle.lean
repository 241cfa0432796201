import WebsocketProxy.Websocket.Basic

/-!
# What the methods of a connection do

One specification for each method: what it changes, how the status moves, and which calls
it makes into the proxy. All later facts about connections come from these.
-/

namespace Websocket

/-! ### Construction -/

/-- A constructed connection has the id, url and key it was constructed with; nothing is
attached to it, nothing is outstanding, and its coroutine is spawned. -/
structure Fresh (ws : Websocket) (id : UInt64) (url apiKey : Bytes) (msg : ℕ) : Prop where
  id : ws.id = id
  url : ws.url = url
  apiKey : ws.apiKey = apiKey
  clients : ws.clients = ∅
  subscriptions : ws.subscriptions = ∅
  status : ws.status = .disconnected
  opening : ws.opening = some (.spawned, msg)
  wBuffer : ws.wBuffer = []
  reads : ws.reads = 0
  writes : ws.writes = []
  transport : ws.transport = []
  closesStarted : ws.closesStarted = 0
  closesDone : ws.closesDone = 0

theorem new_fresh {id : UInt64} {url apiKey : Bytes} {msg : ℕ} {ws : Websocket}
    (h : new id url apiKey msg = some ws) :
  Fresh ws id url apiKey msg
  := by
  simp only [new, Option.map_eq_some_iff] at h
  obtain ⟨⟨host, port⟩, -, rfl⟩ := h
  constructor
  all_goals rfl

theorem Fresh.key {ws : Websocket} {id : UInt64} {url apiKey : Bytes} {msg : ℕ}
    (h : Fresh ws id url apiKey msg) :
  ws.key = ⟨url, apiKey⟩
  := by
  rw [Websocket.key, h.url, h.apiKey]

/-! ### Closing -/

/-- The connection is closing or closed. -/
def Closing (ws : Websocket) : Prop := ws.status = .disconnecting ∨ ws.status = .disconnected

instance (ws : Websocket) : Decidable ws.Closing := inferInstanceAs (Decidable (_ ∨ _))

theorem closing_iff {ws : Websocket} :
  ws.Closing ↔ ¬ ws.status.toNat < Status.disconnecting.toNat
  := by
  unfold Closing
  cases ws.status <;> simp [Status.toNat]

theorem close_of_closing {ws : Websocket} (h : ws.Closing) :
  ws.close = ws
  := if_neg (closing_iff.mp h)

theorem close_of_not_closing {ws : Websocket} (h : ¬ ws.Closing) :
  ws.close = { ws with status := .disconnecting, closesStarted := ws.closesStarted + 1 }
  := if_pos (not_not.mp (fun hn => h (closing_iff.mpr hn)))

/-- After `close` the connection is closing. -/
theorem closing_close (ws : Websocket) :
  ws.close.Closing
  := by
  by_cases h : ws.Closing
  · rw [close_of_closing h]
    apply h
  · rw [close_of_not_closing h]
    left
    rfl

/-- `close` changes the status and starts a close, and nothing else. -/
theorem close_frame (ws : Websocket) :
  ws.close = { ws with status := ws.close.status, closesStarted := ws.close.closesStarted }
  := by
  by_cases h : ws.Closing
  · rw [close_of_closing h]
  · rw [close_of_not_closing h]

@[simp]
theorem close_clients (ws : Websocket) :
  ws.close.clients = ws.clients
  := by rw [close_frame]

@[simp]
theorem close_subscriptions (ws : Websocket) :
  ws.close.subscriptions = ws.subscriptions
  := by rw [close_frame]

@[simp]
theorem close_id (ws : Websocket) :
  ws.close.id = ws.id
  := by rw [close_frame]

@[simp]
theorem close_key (ws : Websocket) :
  ws.close.key = ws.key
  := by rw [close_frame]; rfl

@[simp]
theorem close_opening (ws : Websocket) :
  ws.close.opening = ws.opening
  := by rw [close_frame]

@[simp]
theorem close_closesDone (ws : Websocket) :
  ws.close.closesDone = ws.closesDone
  := by rw [close_frame]

@[simp]
theorem close_transport (ws : Websocket) :
  ws.close.transport = ws.transport
  := by rw [close_frame]

/-- `fail` leaves the opening to its caller, and tells about the error before it calls back. -/
theorem fail_spec {ws ws' : Websocket} {ec : ErrorCode} {callback : Option ℕ}
    {closeConnection : Bool} {calls : List Callback}
    (h : ws.fail ec callback closeConnection = (ws', calls)) :
  ws'.opening = ws.opening ∧
    calls = .onWsError ec.message :: (callback.map (Callback.opened · false)).toList
  := by
  have hws : ws' = (ws.fail ec callback closeConnection).1 := by rw [h]
  have hcalls : calls = (ws.fail ec callback closeConnection).2 := by rw [h]
  constructor
  · rw [hws, fail]
    dsimp only
    split
    · apply close_opening
    · rfl
  · rw [hcalls, fail]

/-! ### Completions -/

/-- A call that only tells the clients, or the request, about a failure or about data. -/
def Callback.Silent : Callback → Prop
  | .onWsError _ | .onWsData _ | .opened _ false => True
  | .onWsClosed | .opened _ true => False

/-- What a completion does: the connection `ws` becomes `ws'` with `calls`. -/
structure CompletionSpec (ws : Websocket) (c : Completion) (ws' : Websocket)
    (calls : List Callback) : Prop where
  frame : ws' = { ws with
    host := ws'.host, status := ws'.status, wBuffer := ws'.wBuffer, opening := ws'.opening
    reads := ws'.reads, writes := ws'.writes, closesStarted := ws'.closesStarted
    closesDone := ws'.closesDone }
  /-- Only the end of `open` connects. -/
  connected : ws'.status = .connected → ws.status = .connected ∨
    ∃ port msg, c = .resumed (.success port) ∧ ws.opening = some (.handshake, msg)
  /-- A connection that is being opened was, for the same request. -/
  opening : ∀ stage' msg, ws'.opening = some (stage', msg) →
    ∃ stage, ws.opening = some (stage, msg)
  /-- Once opened, a closing connection stays so. -/
  closing : ws.opening = none → ws.Closing → ws'.Closing
  /-- The calls are those of the end of `open`, those of the close, or silent. -/
  calls : (∃ port msg, c = .resumed (.success port) ∧ ws.opening = some (.handshake, msg) ∧
      calls = [.opened msg true] ∧
      ws' = { ws with status := .connected, opening := none, reads := ws.reads + 1 }) ∨
    (∃ ec errors, c = .close ec ∧ (∀ call ∈ errors, call.Silent) ∧
      calls = errors ++ [.onWsClosed] ∧ ws'.status = .disconnected ∧
      ws'.closesDone = ws.closesDone + 1 ∧ ws'.opening = ws.opening) ∨
    ((∀ call ∈ calls, call.Silent) ∧ ws'.closesDone = ws.closesDone ∧
      ∀ port msg, c = .resumed (.success port) → ws.opening ≠ some (.handshake, msg))

/-- Every completion does what its specification says. -/
theorem complete_spec {ws ws' : Websocket} {c : Completion} {calls : List Callback}
    (h : ws.complete c = some (ws', calls)) :
  CompletionSpec ws c ws' calls
  := by
  cases c with
  | resumed result =>
      simp only [complete, Option.bind_eq_some_iff] at h
      obtain ⟨⟨stage, msg⟩, hopening, h⟩ := h
      unfold openResume at h
      split at h <;> simp only [fail, close] at h <;>
        constructor <;> grind [Callback.Silent, Closing]
  | read result =>
      simp only [complete, onRead, fail, close] at h
      constructor <;> grind [Callback.Silent, Closing]
  | write i ec =>
      simp only [complete, onWrite, fail, close] at h
      constructor <;> grind [Callback.Silent, Closing]
  | close ec =>
      simp only [complete, onClose, fail, close] at h
      constructor <;> grind [Callback.Silent, Closing]

/-- The end of `open` connects, starts a read and calls back. -/
theorem complete_handshake {ws ws' : Websocket} {port msg : ℕ} {calls : List Callback}
    (hopening : ws.opening = some (.handshake, msg))
    (h : ws.complete (.resumed (.success port)) = some (ws', calls)) :
  ws' = { ws with status := .connected, opening := none, reads := ws.reads + 1 } ∧
    calls = [.opened msg true]
  := by
  simp only [complete, hopening, Option.bind_some, openResume, Option.some.injEq,
    Prod.mk.injEq] at h
  use h.1.symm
  apply h.2.symm

namespace CompletionSpec

variable {ws ws' : Websocket} {c : Completion} {calls : List Callback}

theorem id (h : CompletionSpec ws c ws' calls) :
  ws'.id = ws.id
  := by rw [h.frame]

theorem key (h : CompletionSpec ws c ws' calls) :
  ws'.key = ws.key
  := by rw [h.frame]; rfl

theorem clients (h : CompletionSpec ws c ws' calls) :
  ws'.clients = ws.clients
  := by rw [h.frame]

theorem subscriptions (h : CompletionSpec ws c ws' calls) :
  ws'.subscriptions = ws.subscriptions
  := by rw [h.frame]

theorem transport (h : CompletionSpec ws c ws' calls) :
  ws'.transport = ws.transport
  := by rw [h.frame]

/-- A connection that is not being opened stays so. -/
theorem opened (h : CompletionSpec ws c ws' calls) (hopened : ws.opening = none) :
  ws'.opening = none
  := by
  cases hopening : ws'.opening with
  | none => rfl
  | some stage =>
      obtain ⟨stage', h⟩ := h.opening stage.1 stage.2 hopening
      rw [hopened] at h
      cases h

/-- The number of closes that are done does not fall. -/
theorem closesDone_le (h : CompletionSpec ws c ws' calls) :
  ws.closesDone ≤ ws'.closesDone
  := by
  rcases h.calls with ⟨port, msg, -, -, -, hws⟩ | ⟨ec, errors, -, -, -, -, hdone, -⟩ | ⟨-, hdone, -⟩
  · rw [hws]
  · rw [hdone]
    apply Nat.le_succ
  · rw [hdone]

end CompletionSpec

/-- What no event of a connection changes. -/
structure Frame (ws ws' : Websocket) : Prop where
  id : ws'.id = ws.id
  key : ws'.key = ws.key
  closesDone_le : ws.closesDone ≤ ws'.closesDone

theorem Frame.trans {ws ws' ws'' : Websocket} (h : Frame ws ws') (h' : Frame ws' ws'') :
  Frame ws ws''
  := ⟨h'.id.trans h.id, h'.key.trans h.key, h.closesDone_le.trans h'.closesDone_le⟩

theorem step_frame {ws ws' : Websocket} {e : Event} (h : ws.step e = some ws') :
  Frame ws ws'
  := by
  cases e with
  | completed c =>
      obtain ⟨⟨ws'', calls⟩, hc, rfl⟩ := Option.map_eq_some_iff.mp h
      have hspec := complete_spec hc
      exact ⟨hspec.id, hspec.key, hspec.closesDone_le⟩
  | close =>
      obtain rfl := Option.some.inj h
      exact ⟨close_id ws, close_key ws, (close_closesDone ws).ge⟩
  | send | setClients | setSubscriptions =>
      obtain rfl := Option.some.inj h
      exact ⟨rfl, rfl, Nat.le_refl _⟩

end Websocket
