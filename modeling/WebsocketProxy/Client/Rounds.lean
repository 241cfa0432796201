import WebsocketProxy.Client.Steps

/-!
# Rounds of the worker

A round of the loop of `doWork`, when the caller makes no step in between, and the client as
its rounds and the steps of the caller in any order.
-/

namespace WebsocketProxyClient

/-- A round of the loop: at the time `now`, `result` is read; if a heartbeat is sent, then at
the time `sent`. -/
def iterate (c : WebsocketProxyClient) (now sent : UInt64) (result : Option Message) :
    WebsocketProxyClient :=
  if c.serverPid = 0 then c
  else
    match result with
    | some msg =>
        if c.serverPid ≠ msg.pid then c.handleResult c.serverPid now msg
        else { ((c.handleResult c.serverPid now msg).sendHeartbeat now sent).1 with worker := .loading }
    | none =>
        let c := (c.sendHeartbeat now sent).1
        { if c.isTimedOut now then c.giveUp else c with worker := .loading }

/-- Handling a message does not look at where the worker is. -/
theorem handleMessage_worker (c : WebsocketProxyClient) (worker : Worker) (msg : Message) :
  { c with worker }.handleMessage msg = { c.handleMessage msg with worker }
  := by
  unfold handleMessage
  split
  · unfold handleWsOpen
    split
    · rfl
    · rfl
  · unfold handleWsClose
    split
    · rfl
    · rfl
  · unfold handleWsError
    split
    · rfl
    · rfl
  · unfold handleWsData
    split
    · rfl
    · rfl
  · rfl

theorem handleResult_worker (c : WebsocketProxyClient) (worker : Worker) (serverPid now : UInt64)
    (msg : Message) :
  { c with worker }.handleResult serverPid now msg = c.handleResult serverPid now msg
  := by
  unfold handleResult
  split
  · rfl
  · have h := handleMessage_worker (c.noteMessage serverPid now msg) worker msg
    exact congrArg (fun c : WebsocketProxyClient => { c with worker := .beating now true }) h

theorem sendHeartbeat_worker (c : WebsocketProxyClient) (worker : Worker) (now sent : UInt64) :
  ({ c with worker }.sendHeartbeat now sent).1 = { (c.sendHeartbeat now sent).1 with worker }
  := by
  unfold sendHeartbeat
  split
  · rfl
  · rfl

theorem giveUp_worker (c : WebsocketProxyClient) (worker : Worker) :
  { c with worker }.giveUp = { c.giveUp with worker }
  := by
  rw [giveUp, giveUp, foldl_callback_trace, foldl_callback_trace]
  rfl

/-- A round is a run of steps of the worker. -/
theorem iterate_run {c : WebsocketProxyClient} (hworker : c.worker = .loading)
    (now sent : UInt64) (result : Option Message) :
  ∃ es, (∀ ev ∈ es, ev.ofWorker) ∧ system.Run c es (c.iterate now sent result)
  := by
  unfold iterate
  split
  case isTrue =>
    use []
    constructor
    · rintro ev ⟨⟩
    · exact .nil
  case isFalse hconnected =>
    -- the three steps up to the read of the queue
    have hreading : system.Run c [.load, .takeTime now]
        { c with worker := .reading c.serverPid now } := by
      have hload : system.step c .load = some { c with worker := .timing c.serverPid } := by
        simp [system, perform, hworker, hconnected]
      exact (TransitionSystem.RunUnder.single trivial hload).snoc trivial rfl
    split
    case h_1 msg =>
      have hread : system.Run c [.load, .takeTime now, .read (some msg)]
          (c.handleResult c.serverPid now msg) := by
        apply hreading.snoc trivial
        apply congrArg some (handleResult_worker c _ _ _ _)
      split
      case isTrue =>
        use [.load, .takeTime now, .read (some msg)]
        constructor
        · simp [Event.ofWorker]
        · exact hread
      case isFalse heq =>
        obtain heq := not_not.mp heq
        use [.load, .takeTime now, .read (some msg), .sendHeartbeat sent, .compare]
        constructor
        · simp [Event.ofWorker]
        · have hbeating : (c.handleResult c.serverPid now msg).worker = .beating now true := by
            unfold handleResult
            rw [if_neg (not_not.mpr heq)]
          have hsend : system.step (c.handleResult c.serverPid now msg) (.sendHeartbeat sent)
              = some { ((c.handleResult c.serverPid now msg).sendHeartbeat now sent).1 with
                worker := .comparing now true } := by
            simp only [system, perform, hbeating, Option.map_some]
          exact (hread.snoc trivial hsend).snoc trivial rfl
    case h_2 =>
      have hbeaten : system.Run c [.load, .takeTime now, .read none, .sendHeartbeat sent]
          { (c.sendHeartbeat now sent).1 with worker := .comparing now false } := by
        have hread : system.Run c [.load, .takeTime now, .read none]
            { c with worker := .beating now false } := hreading.snoc trivial rfl
        apply hread.snoc trivial
        simp only [system, perform, Option.map_some, sendHeartbeat_worker]
      generalize (c.sendHeartbeat now sent).1 = d at hbeaten
      have hcompare : system.step { d with worker := .comparing now false } .compare
          = some { d with worker := if d.isTimedOut now then .disconnecting else .loading } := rfl
      have hrun := hbeaten.snoc trivial hcompare
      dsimp only
      split
      case isTrue htime =>
        rw [if_pos htime] at hrun
        use [.load, .takeTime now, .read none, .sendHeartbeat sent, .compare, .disconnect]
        constructor
        · simp [Event.ofWorker]
        · apply hrun.snoc trivial
          simp only [system, perform, Option.map_some, giveUp_worker]
      case isFalse htime =>
        rw [if_neg htime] at hrun
        use [.load, .takeTime now, .read none, .sendHeartbeat sent, .compare]
        constructor
        · simp [Event.ofWorker]
        · exact hrun

/-- A turn: a round of the worker, or a step of the caller. -/
inductive Turn where
  | round (now sent : UInt64) (result : Option Message)
  | caller (ev : Event)

/-- A client after a turn. -/
def turn (c : WebsocketProxyClient) : Turn → Option WebsocketProxyClient
  | .round now sent result => some (c.iterate now sent result)
  | .caller ev => if ev.ofWorker then none else system.step c ev

/-- A turn is a run of steps. -/
theorem turn_run {c c' : WebsocketProxyClient} {t : Turn} (hworker : c.worker = .loading)
    (h : c.turn t = some c') :
  ∃ es, system.Run c es c'
  := by
  cases t with
  | round now sent result =>
      obtain rfl := Option.some.inj h
      obtain ⟨es, -, hrun⟩ := iterate_run hworker now sent result
      use es, hrun
  | caller ev =>
      rw [turn] at h
      split at h
      case isTrue => cases h
      case isFalse =>
        use [ev]
        apply TransitionSystem.RunUnder.single trivial h

end WebsocketProxyClient
