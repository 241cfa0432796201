import WebsocketProxy.Library.Fairness
import WebsocketProxy.Server.AutoShutdown

/-!
# How the server stops

`shutdown` posts a closure, which turns `run_` off and posts another; that sets a timer, and the
handler of the timer stops `ioc_`. The server stops in the end if and only if it got a signal, or
`processClientMessage` decided to shut down, and after `run_` was turned off it takes one more
message at most (`stops_iff`).
-/

/-- The process after the handler of messages took a message, or found none. -/
def Process.takes (p : Process) (msg : Option Message) : Process :=
  { p with taken := p.taken + msg.toList.length, messageHandlers := p.messageHandlers - 1 }

/-- The steps of the process in which the server runs. -/
inductive Process.Step (p : Process) : WebsocketProxy.Event → Process → Prop
  /-- The handling of a message throws, and the loop goes on or ends. -/
  | caught {m} (hposted : 0 < p.messageHandlers) (hrun : p.run = true) :
      Step p (.processClientMessage (some m)) (p.takes (some m))
  | ended {m} (hposted : 0 < p.messageHandlers) (hrun : p.run = false) :
      Step p (.processClientMessage (some m)) { p.takes (some m) with stopped := true }
  /-- At its end the handler of messages is posted again, or not, or it shuts down. -/
  | reposted {msg} (hposted : 0 < p.messageHandlers) (hrun : p.run = true) :
      Step p (.processClientMessage msg)
        { p.takes msg with messageHandlers := (p.takes msg).messageHandlers + 1 }
  | decided {msg} (hposted : 0 < p.messageHandlers) (hrun : p.run = true) :
      Step p (.processClientMessage msg)
        { p.takes msg with shutdownClosures := p.shutdownClosures + 1, autoShutdown := true }
  | last {msg} (hposted : 0 < p.messageHandlers) (hrun : p.run = false) :
      Step p (.processClientMessage msg) (p.takes msg)
  | heartbeat {startup} (hposted : 0 < p.heartbeatHandlers) :
      Step p .startHeartbeat
        { p with startup, heartbeatHandlers := p.heartbeatHandlers - 1 }.postHeartbeat
  | signal :
      Step p .signal
        { p with signalHandler := false, shutdownClosures := p.shutdownClosures + 1 }
  | shutdownClosure (hposted : 0 < p.shutdownClosures) :
      Step p .shutdownClosure { p with
        shutdownClosures := p.shutdownClosures - 1, run := false
        stopClosures := p.stopClosures + 1 }
  | stopClosure (hposted : 0 < p.stopClosures) :
      Step p .stopClosure
        { p with stopClosures := p.stopClosures - 1, timerHandlers := p.timerHandlers + 1 }
  | timerHandler (hset : 0 < p.timerHandlers) :
      Step p .timerHandler { p with timerHandlers := p.timerHandlers - 1, stopped := true }
  | complete {r c} : Step p (.complete r c) p
  | slotReused {msg contents} : Step p (.slotReused msg contents) p
  | rehash {clients byId byUrlApiKey} : Step p (.rehash clients byId byUrlApiKey) p

/-- Nothing is posted that stops the server. -/
structure Process.Undisturbed (p : Process) : Prop where
  run : p.run = true
  shutdownClosures : p.shutdownClosures = 0
  stopClosures : p.stopClosures = 0
  timerHandlers : p.timerHandlers = 0
  stopped : p.stopped = false

/-- The server stops after `run_` was turned off. -/
structure Process.Halting (p : Process) : Prop where
  stopClosures : 0 < p.stopClosures → p.run = false
  timerHandlers : 0 < p.timerHandlers → p.run = false
  stopped : p.stopped = true → p.run = false

namespace Process.Step

variable {p p' : Process} {ev : WebsocketProxy.Event}

/-- Only a signal, or the decision to shut down, disturbs the server. -/
theorem undisturbed (h : p.Step ev p') (hp : p.Undisturbed) (hsignal : ev ≠ .signal)
    (hauto : p'.autoShutdown = false) :
  p'.Undisturbed
  := by
  cases h with
  | ended _ hrun | last _ hrun =>
      rw [hp.run] at hrun
      cases hrun
  | decided => cases hauto
  | signal => exact absurd rfl hsignal
  | shutdownClosure hposted => exact absurd hp.shutdownClosures (Nat.ne_of_gt hposted)
  | stopClosure hposted => exact absurd hp.stopClosures (Nat.ne_of_gt hposted)
  | timerHandler hset => exact absurd hp.timerHandlers (Nat.ne_of_gt hset)
  | _ => exact ⟨hp.run, hp.shutdownClosures, hp.stopClosures, hp.timerHandlers, hp.stopped⟩

/-- The server does not come back to run, nor from the decision to shut down. -/
theorem serving (h : p.Step ev p') (hrun : p'.run = true) (hauto : p'.autoShutdown = false) :
  p.run = true ∧ p.autoShutdown = false
  := by
  cases h with
  | shutdownClosure => cases hrun
  | decided => cases hauto
  | _ => exact ⟨hrun, hauto⟩

theorem halting (h : p.Step ev p') (hp : p.Halting) :
  p'.Halting
  := by
  cases h with
  | ended _ hrun => exact ⟨hp.stopClosures, hp.timerHandlers, fun _ => hrun⟩
  | shutdownClosure => exact ⟨fun _ => rfl, fun _ => rfl, fun _ => rfl⟩
  | stopClosure hposted =>
      exact ⟨fun _ => hp.stopClosures hposted, fun _ => hp.stopClosures hposted, hp.stopped⟩
  | timerHandler hset =>
      exact ⟨hp.stopClosures, fun _ => hp.timerHandlers hset, fun _ => hp.timerHandlers hset⟩
  | _ => exact ⟨hp.stopClosures, hp.timerHandlers, hp.stopped⟩

/-- The server decides to shut down in a step that posts a shutdown. -/
theorem decides (h : p.Step ev p') (hbefore : p.autoShutdown = false)
    (hafter : p'.autoShutdown = true) :
  0 < p'.shutdownClosures
  := by
  cases h with
  | decided => exact Nat.succ_pos _
  | _ =>
      have hafter : p.autoShutdown = true := hafter
      rw [hbefore] at hafter
      cases hafter

/-- A signal posts a shutdown. -/
theorem signals (h : p.Step .signal p') :
  0 < p'.shutdownClosures
  := by
  cases h with
  | signal => exact Nat.succ_pos _

/-- When `run_` is off it stays off, and the handler of messages is not posted again. -/
theorem last_messages (h : p.Step ev p') (hrun : p.run = false) :
  p'.run = false ∧ p'.taken + p'.messageHandlers ≤ p.taken + p.messageHandlers
  := by
  cases h with
  | caught _ hruns | reposted _ hruns | decided _ hruns =>
      rw [hrun] at hruns
      cases hruns
  | ended hposted =>
      use hrun
      simp only [Process.takes, Option.toList_some, List.length_singleton]
      omega
  | @last msg hposted =>
      use hrun
      simp only [Process.takes]
      cases msg with
      | none =>
          rw [Option.toList_none, List.length_nil]
          omega
      | some m =>
          rw [Option.toList_some, List.length_singleton]
          omega
  | shutdownClosure => exact ⟨rfl, Nat.le_refl _⟩
  | _ => exact ⟨hrun, Nat.le_refl _⟩

end Process.Step

namespace WebsocketProxy

open TransitionSystem.Behaviour (leadsTo_of_decreases leadsTo_of_imp)

variable {px px' : WebsocketProxy} {ev : Event}

/-- At its end the handler of messages is posted again or shuts down, if the server runs. -/
theorem processNext_process (px : WebsocketProxy) :
  (px.run = false ∧ px.processNext.toProcess = px.toProcess) ∨
  px.run = true ∧
    (px.processNext.toProcess
        = { px.toProcess with messageHandlers := px.messageHandlers + 1 } ∨
      px.processNext.toProcess = { px.toProcess with
        shutdownClosures := px.shutdownClosures + 1, autoShutdown := true })
  := by
  simp only [processNext]
  split
  case isTrue hrun =>
    right
    use hrun
    split
    · split
      · exact Or.inr rfl
      · exact Or.inl rfl
    · exact Or.inl rfl
  case isFalse hrun => exact Or.inl ⟨eq_false_of_ne_true hrun, rfl⟩

/-- What the handler of messages does to the process, when it comes to its end. -/
theorem processNext_step {p : Process} {msg : Option Message} (hposted : 0 < p.messageHandlers)
    (h : px.toProcess = p.takes msg) :
  p.Step (.processClientMessage msg) px.processNext.toProcess
  := by
  have hrun : px.run = (p.takes msg).run := congrArg Process.run h
  rcases processNext_process px with ⟨hnot, hnext⟩ | ⟨hruns, hnext | hnext⟩
  · rw [hnext, h]
    apply Process.Step.last hposted (hrun ▸ hnot)
  · rw [hnext, h]
    apply Process.Step.reposted hposted (hrun ▸ hruns)
  · rw [hnext, h]
    apply Process.Step.decided hposted (hrun ▸ hruns)

/-- Every step of the server is a step of its process. -/
theorem step_process (h : px.step ev = some px') :
  px.stopped = false ∧ px.toProcess.Step ev px'.toProcess
  := by
  constructor
  · rw [step] at h
    split at h
    case isTrue => cases h
    case isFalse hnot => exact eq_false_of_ne_true hnot
  cases ran_of_step h with
  | @handled m hposted =>
      apply processNext_step hposted
      apply handleClientMessage_process px m
  | @threw m hposted =>
      have hprocess := handleClientMessage_process px m
      have hrun : ((px.taking m).handleClientMessage px.taken).1.run = (px.taking m).run :=
        congrArg Process.run hprocess
      rw [caught]
      split
      case isTrue hruns =>
        rw [hprocess]
        apply Process.Step.caught hposted (hrun ▸ hruns)
      case isFalse hnot =>
        change px.toProcess.Step _ { ((px.taking m).handleClientMessage px.taken).1.toProcess with
          stopped := true }
        rw [hprocess]
        apply Process.Step.ended hposted (hrun ▸ eq_false_of_ne_true hnot)
  | noMessage hposted => apply processNext_step hposted rfl
  | announce hposted =>
      rw [(announce_keeps _).1]
      apply Process.Step.heartbeat hposted
  | startHeartbeat hposted =>
      rw [(startHeartbeat_keeps _).1]
      apply Process.Step.heartbeat hposted
  | @complete r c ws calls =>
      have hprocess : (px.perform r (ws, calls)).toProcess = px.toProcess :=
        foldl_callback_process r calls _
      rw [hprocess]
      exact .complete
  | signal => exact .signal
  | shutdownClosure hposted =>
      exact .shutdownClosure hposted
  | stopClosure hposted => exact .stopClosure hposted
  | timerHandler hset => exact .timerHandler hset
  | slotReused => exact .slotReused
  | rehash => exact .rehash

/-- A server that has not turned `run_` off is not stopped. -/
theorem reachable_halting {guard : WebsocketProxy → Event → Prop} {px : WebsocketProxy}
    (h : system.ReachableUnder guard px) :
  px.toProcess.Halting
  := by
  apply h.invariant (I := fun px => px.toProcess.Halting)
  · rintro _ ⟨pid, clock, rfl⟩
    constructor
    · rintro ⟨⟩
    · rintro ⟨⟩
    · rintro ⟨⟩
  · intro px ev px' _ hpx _ hstep
    apply (step_process hstep).2.halting hpx

/-! ### Handlers that are posted -/

variable {guard : WebsocketProxy → Event → Prop} {s : WebsocketProxy}
  {b : system.Behaviour guard s}

/-- A handler that is posted is run in the end, unless the server stops before. Other handlers do
not take it back. -/
theorem leadsTo_run {Q : Process → Prop} (posted : Process → ℕ) (hfair : b.Fair (· = ev))
    (henabled : ∀ px : WebsocketProxy, 0 < posted px.toProcess → (px.runHandler ev).isSome)
    (hstays : ∀ {p p' : Process} {ev'}, p.Step ev' p' → ev' ≠ ev → posted p ≤ posted p')
    (hruns : ∀ {p p' : Process}, p.Step ev p' → Q p') :
  b.LeadsTo (fun px => 0 < posted px.toProcess) (fun px => px.stopped = true ∨ Q px.toProcess)
  := by
  apply leadsTo_of_decreases (fun _ => 0) hfair
  · intro i hposted hnot
    obtain ⟨px, hpx⟩ := Option.isSome_iff_exists.mp (henabled (b.state i) hposted)
    use ev, px, rfl
    change (b.state i).step ev = some px
    rw [step, if_neg fun hstopped => hnot (Or.inl hstopped), hpx]
  · intro i ev' hev' hposted _
    have hstep := (step_process (b.step i ev' hev').2).2
    rcases em (ev' = ev) with rfl | hne
    · exact Or.inl (Or.inr (hruns hstep))
    · exact Or.inr ⟨Nat.lt_of_lt_of_le hposted (hstays hstep hne), Nat.le_refl 0,
        fun hev => absurd hev hne⟩

/-- When a shutdown is posted, the server stops in the end. -/
theorem leadsTo_stopped (hshutdown : b.Fair (· = .shutdownClosure))
    (hstop : b.Fair (· = .stopClosure)) (htimer : b.Fair (· = .timerHandler)) :
  b.LeadsTo (fun px => 0 < px.shutdownClosures) (fun px => px.stopped = true)
  := by
  have hnow : b.LeadsTo (fun px => px.stopped = true) (fun px => px.stopped = true) :=
    leadsTo_of_imp fun _ h => h
  have htimers : b.LeadsTo (fun px => 0 < px.timerHandlers) (fun px => px.stopped = true) := by
    apply (leadsTo_run (Q := fun p => p.stopped = true) Process.timerHandlers htimer _ _ _).trans
      (hnow.or hnow)
    · intro px hposted
      rw [runHandler, if_pos hposted]
      rfl
    · intro p p' ev hstep hne
      cases hstep with
      | timerHandler => exact absurd rfl hne
      | stopClosure => exact Nat.le_succ _
      | _ => exact Nat.le_refl _
    · intro p p' hstep
      cases hstep with
      | timerHandler => rfl
  have hstops : b.LeadsTo (fun px => 0 < px.stopClosures) (fun px => px.stopped = true) := by
    apply (leadsTo_run (Q := fun p => 0 < p.timerHandlers) Process.stopClosures hstop _ _ _).trans
      (hnow.or htimers)
    · intro px hposted
      rw [runHandler, if_pos hposted]
      rfl
    · intro p p' ev hstep hne
      cases hstep with
      | stopClosure => exact absurd rfl hne
      | shutdownClosure => exact Nat.le_succ _
      | _ => exact Nat.le_refl _
    · intro p p' hstep
      cases hstep with
      | stopClosure => exact Nat.succ_pos _
  apply (leadsTo_run (Q := fun p => 0 < p.stopClosures) Process.shutdownClosures hshutdown _ _ _).trans
    (hnow.or hstops)
  · intro px hposted
    rw [runHandler, if_pos hposted]
    rfl
  · intro p p' ev hstep hne
    cases hstep with
    | shutdownClosure => exact absurd rfl hne
    | decided | signal => exact Nat.le_succ _
    | _ => exact Nat.le_refl _
  · intro p p' hstep
    cases hstep with
    | shutdownClosure => exact Nat.succ_pos _

/-! ### The end of the server -/

/-- The server stops if and only if it gets a signal, or decides to shut down; and after `run_` is
off it takes one more message at most. -/
theorem stops_iff {pid : UInt64} {clock : ℕ → UInt64} {b : system.Behaviour guard (start pid clock)}
    (hshutdown : b.Fair (· = .shutdownClosure)) (hstop : b.Fair (· = .stopClosure))
    (htimer : b.Fair (· = .timerHandler)) :
  ((∃ k, (b.state k).stopped = true) ↔
      ∃ i, .signal ∈ b.event i ∨ (b.state i).autoShutdown = true) ∧
    ∀ j k, j ≤ k → (b.state j).run = false → (b.state k).taken ≤ (b.state j).taken + 1
  := by
  have hprocess : ∀ i, ∀ ev ∈ b.event i,
      (b.state i).toProcess.Step ev (b.state (i + 1)).toProcess := by
    intro i ev hev
    exact (step_process (b.step i ev hev).2).2
  have hstops := leadsTo_stopped hshutdown hstop htimer
  refine ⟨⟨?_, ?_⟩, ?_⟩
  · rintro ⟨k, hstopped⟩
    by_contra hnone
    rw [not_exists] at hnone
    have hundisturbed : ∀ i, (b.state i).toProcess.Undisturbed := by
      intro i
      induction i with
      | zero =>
          rw [b.start]
          exact ⟨rfl, rfl, rfl, rfl, rfl⟩
      | succ i ih =>
          cases hev : b.event i with
          | none =>
              rw [b.quiet i hev]
              exact ih
          | some ev =>
              apply (hprocess i ev hev).undisturbed ih
              · rintro rfl
                exact hnone i (Or.inl hev)
              · exact eq_false_of_ne_true fun hauto => hnone (i + 1) (Or.inr hauto)
    rw [(hundisturbed k).stopped] at hstopped
    cases hstopped
  · have hposted : (∃ i, .signal ∈ b.event i ∨ (b.state i).autoShutdown = true) →
        ∃ i, 0 < (b.state i).shutdownClosures := by
      rintro ⟨i, hsignal | hauto⟩
      · use i + 1
        exact (hprocess i _ hsignal).signals
      · by_contra hnone
        rw [not_exists] at hnone
        revert hauto
        rw [imp_false, Bool.not_eq_true]
        induction i with
        | zero =>
            rw [b.start]
            rfl
        | succ i ih =>
            cases hev : b.event i with
            | none =>
                rw [b.quiet i hev]
                exact ih
            | some ev =>
                apply eq_false_of_ne_true
                intro hauto
                exact hnone (i + 1) ((hprocess i ev hev).decides ih hauto)
    intro hends
    obtain ⟨i, hi⟩ := hposted hends
    obtain ⟨k, -, hstopped⟩ := hstops i hi
    exact ⟨k, hstopped⟩
  · intro j k hjk hrun
    obtain ⟨es, hes⟩ := b.run hjk
    have hone := (reachable_vacant (b.reachable ⟨pid, clock, rfl⟩ j).reachable).handlers_le
    have hlast : (b.state k).run = false ∧
        (b.state k).taken + (b.state k).messageHandlers
          ≤ (b.state j).taken + (b.state j).messageHandlers := by
      apply hes.preserves (I := fun px => px.run = false ∧
        px.taken + px.messageHandlers ≤ (b.state j).taken + (b.state j).messageHandlers)
      · rintro px ev px' ⟨hrun, hle⟩ _ hstep
        obtain ⟨hrun', hle'⟩ := (step_process hstep).2.last_messages hrun
        exact ⟨hrun', Nat.le_trans hle' hle⟩
      · exact ⟨hrun, Nat.le_refl _⟩
    omega

/-- A client opens a connection, and the server gets a signal and stops. -/
def openAndStop : List Event := openOne ++ [.signal, .shutdownClosure, .stopClosure, .timerHandler]

theorem stops_iff_openAndStop :
  ∃ b : system.Behaviour (fun _ _ => True) (start 7 fun _ => 1),
    (∀ i < openAndStop.length, b.event i = openAndStop[i]?) ∧ ∃ k, (b.state k).stopped = true
  := by
  have hexec : ∃ px ∈ system.exec (start 7 fun _ => 1) openAndStop, px.stopped = true := by
    decide +kernel
  obtain ⟨px, hrun, hstopped⟩ := TransitionSystem.exists_runUnder hexec
  obtain ⟨b, hevents, -, hround⟩ := TransitionSystem.Behaviour.exists_of_runs hrun .nil none
    fun _ he => absurd he (Option.not_mem_none _)
  have hfair : ∀ ev, b.Fair (· = ev) := by
    intro ev
    apply TransitionSystem.Behaviour.fair_of_loop hround
    rintro ⟨ev', px', -, hstep⟩
    have hstep : px.step ev' = some px' := hstep
    rw [step, if_pos hstopped] at hstep
    cases hstep
  use b, hevents
  apply (stops_iff (hfair _) (hfair _) (hfair _)).1.mpr
  use openOne.length
  left
  rw [hevents openOne.length (by decide)]
  rfl

end WebsocketProxy
