import WebsocketProxy.Server.OpenAnswers

/-!
# One initiator for each connection

Clients that are answered with a new connection authenticate on it. In runs in which the
slots of pending openings are kept, of the answers that name one connection the first is
given to the message that the connection was constructed for, and it is the only one with
the mark of a new connection (`one_initiator`).
-/

/-! ### Lists whose first element is marked -/

/-- The first element of a list is marked, and no other. -/
def FirstMarked {α : Type*} (mark : α → Bool) : List α → Prop
  | [] => True
  | a :: as => mark a = true ∧ ∀ a' ∈ as, mark a' = false

theorem FirstMarked.append {α : Type*} {mark : α → Bool} {as bs : List α}
    (h : FirstMarked mark as) (hne : as ≠ []) (hbs : ∀ b ∈ bs, mark b = false) :
  FirstMarked mark (as ++ bs)
  := by
  cases as with
  | nil => exact absurd rfl hne
  | cons a as =>
      use h.1
      intro a' ha'
      rcases List.mem_append.mp ha' with ha' | ha'
      · apply h.2 a' ha'
      · apply hbs a' ha'

/-- A filter of the numbers below a bound that keeps one number. -/
theorem List.filterMap_range_eq_singleton {β : Type*} {f : ℕ → Option β} {k n : ℕ} {b : β}
    (hn : n < k) (hb : f n = some b) (hothers : ∀ n' ≠ n, f n' = none) :
  (List.range k).filterMap f = [b]
  := by
  induction k with
  | zero => exact absurd hn (Nat.not_lt_zero n)
  | succ k ih =>
      rw [List.range_succ, List.filterMap_append]
      rcases eq_or_ne k n with rfl | hne
      · have hnil : (List.range k).filterMap f = [] := by
          rw [List.filterMap_eq_nil_iff]
          intro n' hn'
          apply hothers n' (Nat.ne_of_lt (List.mem_range.mp hn'))
        rw [hnil, List.filterMap_cons_some hb]
        rfl
      · rw [ih (by omega), List.filterMap_cons_none (hothers k hne)]
        rfl

namespace WebsocketProxy

/-! ### The answers of a step -/

/-- The `OpenWs` messages a step answers with `SUCCESS`: their numbers, with the answers. -/
def openAnswers (px : WebsocketProxy) (_ : Event) (px' : WebsocketProxy) : List (ℕ × WsOpen) :=
  (List.range px'.taken).filterMap fun n =>
    if .success ∈ px.answersIn px' n then
      match (px'.slots n).data with
      | .openWs answer => some (n, answer)
      | _ => none
    else none

/-- The connection a step constructs: the number of the message it is for, and its id. -/
def constructions (px : WebsocketProxy) (_ : Event) (px' : WebsocketProxy) : List (ℕ × UInt64) :=
  if px'.opens = px.opens then []
  else ((px'.sockets px.opens).opening.map fun (_, n) => (n, (px'.sockets px.opens).id)).toList

/-- The only `OpenWs` message that a step answers with `SUCCESS`. -/
theorem openAnswers_eq_singleton {px px' : WebsocketProxy} {ev : Event} {n : ℕ} {answer : WsOpen}
    (hn : n < px'.taken) (hanswer : .success ∈ px.answersIn px' n)
    (hdata : (px'.slots n).data = .openWs answer)
    (hothers : ∀ n' ≠ n, .success ∉ px.answersIn px' n') :
  px.openAnswers ev px' = [(n, answer)]
  := by
  apply List.filterMap_range_eq_singleton hn
  · rw [if_pos hanswer, hdata]
  · intro n' hne
    rw [if_neg (hothers n' hne)]

theorem openAnswers_eq_nil {px px' : WebsocketProxy} {ev : Event}
    (h : ∀ n answer, .success ∈ px.answersIn px' n → (px'.slots n).data ≠ .openWs answer) :
  px.openAnswers ev px' = []
  := by
  rw [openAnswers, List.filterMap_eq_nil_iff]
  intro n _
  split
  case isTrue hanswer =>
    split
    case h_1 answer hdata => exact absurd hdata (h n answer hanswer)
    case h_2 => rfl
  case isFalse => rfl

/-- A step answers no `OpenWs` message with `SUCCESS`, or attaches a client to a connection
that is found by key and is not new, or enters a connection, which is new. -/
theorem openAnswers_cases {px px' : WebsocketProxy} {ms : List Message} {ev : Event}
    (hpx : px.Requested ms) (hwf : px.WellFormed) (hphases : ∀ r, (px.sockets r).Phases)
    (h : px.step ev = some px') :
  (px.openAnswers ev px' = [] ∧ px.entering ev = none) ∨
  (px.entering ev = none ∧ ∃ k r n answer, px.websocketsByUrlApiKey.lookup k = some r ∧
    px.openAnswers ev px' = [(n, answer)] ∧ answer.id = (px.sockets r).id ∧
    answer.newConnection = false) ∨
  ∃ r n answer, px.entering ev = some (r, n) ∧ px.openAnswers ev px' = [(n, answer)] ∧
    answer.id = (px.sockets r).id ∧ answer.newConnection = true
  := by
  cases hentering : px.entering ev with
  | some entry =>
      right; right
      obtain ⟨r, n⟩ := entry
      have henters := step_enters h hentering
      obtain ⟨hev, hopening⟩ := entering_eq_some hentering
      obtain ⟨m, req, hm, hreq, -, hslot⟩ := hpx.opening hopening
      have hn : n < px'.taken := by
        have hlt := (List.getElem?_eq_some_iff.mp hm).1
        rw [step_taken h, hpx.taken]
        omega
      have hstores := congrFun henters.stores n
      rw [Function.update_self] at hstores
      obtain ⟨answer, hdata, hid, hnew⟩ : ∃ answer : WsOpen, (px'.slots n).data = .openWs answer ∧
          answer.id = (px.sockets r).id ∧ answer.newConnection = true := by
        rw [henters.slot, hslot]
        exact ⟨_, rfl, rfl, rfl⟩
      refine ⟨r, n, answer, rfl, openAnswers_eq_singleton hn ?_ hdata ?_, hid, hnew⟩
      · rw [answersIn_of_append hstores]
        apply List.mem_singleton_self _
      · intro n' hne hanswer
        apply hne
        obtain ⟨port, rfl⟩ := hev
        rcases success_cases h hanswer with ⟨m', ⟨⟩, -⟩ | ⟨r', hentering'⟩
        rw [hentering] at hentering'
        exact (Prod.mk.inj (Option.some.inj hentering')).2.symm
  | none =>
      have hmessage : ∀ n, .success ∈ px.answersIn px' n →
          ∃ m, ev = .processClientMessage (some m) ∧ n = px.taken ∧
            ∀ req, m.data = .openWs req → ∃ r, px.Attaches m req r (px.handled ev) := by
        intro n hanswer
        rcases success_cases h hanswer with hmessage | ⟨r, hentering'⟩
        · exact hmessage
        · rw [hentering] at hentering'
          cases hentering'
      rcases em (∃ n answer, .success ∈ px.answersIn px' n ∧
        (px'.slots n).data = .openWs answer) with ⟨n, answer, hanswer, hdata⟩ | hnone
      · right; left
        use rfl
        obtain ⟨m, rfl, rfl, hattaches⟩ := hmessage n hanswer
        have hslots := congrFun (message_slots h) px.taken
        rw [hslots] at hdata
        obtain ⟨req, hreq⟩ := (handleClientMessage_writes _ _).openWs answer hdata
        rw [slots_taking] at hreq
        obtain ⟨r, hattaches⟩ := hattaches req hreq
        have hslot : ((px.taking m).handleClientMessage px.taken).1.slots px.taken = _ :=
          hattaches.slot
        rw [hslot] at hdata
        have hanswerEq := Message.Data.openWs.inj hdata
        refine ⟨req.key, r, px.taken, answer, hattaches.byKey,
          openAnswers_eq_singleton ?_ hanswer ?_ ?_, ?_, ?_⟩
        · rw [message_taken h]
          apply Nat.lt_succ_self _
        · rw [hslots, hslot]
          exact hdata
        · intro n' hne hanswer'
          obtain ⟨-, -, hn', -⟩ := hmessage n' hanswer'
          apply hne hn'
        · rw [← hanswerEq]
        · have hconnected := connected_of_live hwf (hphases r) hattaches.byKey hattaches.live
          rw [← hanswerEq]
          apply decide_eq_false
          rw [hconnected]
          rintro ⟨⟩
      · left
        constructor
        · apply openAnswers_eq_nil
          intro n answer hanswer hdata
          exact hnone ⟨n, answer, hanswer, hdata⟩
        · rfl

/-! ### The answers of a run -/

/-- What the answers `answers` given so far, and the connections `created` constructed so
far, have to do with each other and with the state. -/
structure Initiated (px : WebsocketProxy) (answers : List (ℕ × WsOpen))
    (created : List (ℕ × UInt64)) : Prop where
  /-- A connection that is found by url and key was answered with. -/
  found : ∀ k r, px.websocketsByUrlApiKey.lookup k = some r →
    ∃ a ∈ answers, a.2.id = (px.sockets r).id
  /-- One that is being opened was not. -/
  opening : ∀ r, (px.sockets r).opening ≠ none → ∀ a ∈ answers, a.2.id ≠ (px.sockets r).id
  constructed : ∀ r stage n, (px.sockets r).opening = some (stage, n) →
    (n, (px.sockets r).id) ∈ created
  numbered : ∀ a ∈ answers, ∃ r < px.opens, a.2.id = px.pid * 10000 + UInt64.ofNat (r + 1)
  /-- The first answer with an id is that to the message of the connection. -/
  first : ∀ id, FirstMarked (fun a : ℕ × WsOpen => a.2.newConnection)
    (answers.filter fun a => a.2.id = id)
  initiator : ∀ a ∈ answers, a.2.newConnection = true → (a.1, a.2.id) ∈ created

theorem start_initiated (pid : UInt64) (clock : ℕ → UInt64) :
  (start pid clock).Initiated [] []
  := by
  constructor
  · rintro k r ⟨⟩
  · rintro r h
    exact absurd rfl h
  · rintro r stage n ⟨⟩
  · rintro a ⟨⟩
  · exact fun id => trivial
  · rintro a ⟨⟩

/-- The connection whose opening starts in a step is constructed in it. -/
theorem mem_constructions {px px' : WebsocketProxy} (ev : Event) {n : ℕ}
    {stage : Websocket.OpenStage} (hwf' : px'.WellFormed)
    (hopening : (px'.sockets px.opens).opening = some (stage, n)) :
  (n, (px'.sockets px.opens).id) ∈ px.constructions ev px'
  := by
  have hne : px'.opens ≠ px.opens := by
    intro heq
    rw [hwf'.blank _ (Nat.le_of_eq heq)] at hopening
    cases hopening
  rw [constructions, if_neg hne, hopening]
  apply List.mem_singleton_self _

/-- Steps keep answers and connections together. -/
theorem Initiated.step {px px' : WebsocketProxy} {ms : List Message} {ev : Event}
    {answers : List (ℕ × WsOpen)} {created : List (ℕ × UInt64)}
    (hpx : px.Initiated answers created) (hrequested : px.Requested ms) (hwf : px.WellFormed)
    (hphases : ∀ r, (px.sockets r).Phases) (hnumbered : px.Numbered) (hnumbered' : px'.Numbered)
    (h : px.step ev = some px') :
  px'.Initiated (answers ++ px.openAnswers ev px') (created ++ px.constructions ev px')
  := by
  have hwf' := step_wellFormed hwf h
  have hcases := openAnswers_cases hrequested hwf hphases h
  have hopens := step_opens_le hwf h
  have hpid := step_pid h
  have hframe : ∀ {r}, r < px.opens → (px'.sockets r).id = (px.sockets r).id :=
    fun hr => (step_frame hwf h hr).id
  have hconstructed : ∀ {r}, (px.sockets r).opening ≠ none → px.Constructed r := by
    intro r hopening hblank
    rw [hblank] at hopening
    apply hopening rfl
  have hnew : ∀ a ∈ px.openAnswers ev px', ∃ r < px.opens, px.Constructed r ∧
      (px'.sockets r).opening = none ∧ a.2.id = (px.sockets r).id := by
    intro a ha
    rcases hcases with ⟨hnil, -⟩ | ⟨-, k, r, n, answer, hk, hanswers, hid, -⟩ |
      ⟨r, n, answer, hentering, hanswers, hid, -⟩
    · rw [hnil] at ha
      cases ha
    · rw [hanswers, List.mem_singleton] at ha
      have hlt := hwf.byKey_lt_opens k r hk
      use r, hlt, constructed_of_stored hwf (hrequested.byKey k r hk).2
      constructor
      · by_contra hopening
        obtain ⟨⟨stage, n⟩, hopening⟩ := Option.ne_none_iff_exists'.mp hopening
        rcases step_opening_cases hwf h hopening with ⟨⟨stage', hbefore⟩, -⟩ | ⟨-, hr, -⟩
        · rw [hwf.byKey_opened k r hk] at hbefore
          cases hbefore
        · apply Nat.ne_of_lt hlt hr
      · rw [ha, hid]
    · rw [hanswers, List.mem_singleton] at ha
      have hopening : (px.sockets r).opening ≠ none := by
        simp [(entering_eq_some hentering).2]
      use r, lt_opens_of_opening hwf hopening, hconstructed hopening
      constructor
      · rw [(step_enters h hentering).socket]
      · rw [ha, hid]
  have hall : ∀ a ∈ answers ++ px.openAnswers ev px', ∃ r < px.opens,
      a.2.id = px.pid * 10000 + UInt64.ofNat (r + 1) := by
    intro a ha
    rcases List.mem_append.mp ha with ha | ha
    · apply hpx.numbered a ha
    · obtain ⟨r, hr, hconstructed, -, hid⟩ := hnew a ha
      use r, hr
      rw [hid, hnumbered.id r hconstructed]
  constructor
  · intro k r hk
    obtain ⟨t, gone, hchange, hdrains⟩ := step_change hwf h
    rcases hchange.byKey ((hdrains.byKey k r).mp hk).1 with hbefore | ⟨msg, hentering, -⟩
    · obtain ⟨a, ha, hid⟩ := hpx.found k r hbefore
      use a, List.mem_append_left _ ha
      rw [hframe (hwf.byKey_lt_opens k r hbefore), hid]
    · rcases hcases with ⟨-, hnone⟩ | ⟨hnone, -⟩ | ⟨r', n, answer, hentering', hanswers, hid, -⟩
      · rw [hnone] at hentering
        cases hentering
      · rw [hnone] at hentering
        cases hentering
      · rw [hentering'] at hentering
        obtain ⟨rfl, rfl⟩ := Prod.mk.inj (Option.some.inj hentering)
        have hopening := (entering_eq_some hentering').2
        use (n, answer)
        constructor
        · rw [hanswers]
          apply List.mem_append_right _ (List.mem_singleton_self _)
        · rw [hframe (lt_opens_of_opening hwf (by simp [hopening])), hid]
  · intro r hopening a ha hid
    obtain ⟨⟨stage, n⟩, hopening'⟩ := Option.ne_none_iff_exists'.mp hopening
    rcases step_opening_cases hwf h hopening' with ⟨⟨stage', hbefore⟩, hsame, -⟩ | ⟨-, rfl, -⟩
    · have hbefore : (px.sockets r).opening ≠ none := by simp [hbefore]
      rw [hsame] at hid
      rcases List.mem_append.mp ha with ha | ha
      · apply hpx.opening r hbefore a ha hid
      · obtain ⟨r', -, hr', hended, hid'⟩ := hnew a ha
        obtain rfl := hnumbered.id_inj hwf (hconstructed hbefore) hr' (hid.symm.trans hid')
        apply hopening hended
    · -- a connection that is constructed in the step has a number of its own
      have hr : px'.Constructed px.opens := by
        intro hblank
        rw [hblank] at hopening
        apply hopening rfl
      have hlt := lt_opens_of_constructed hwf' hr
      have hlimit := hnumbered'.opens_lt
      obtain ⟨r', hr', hid'⟩ := hall a ha
      rw [hnumbered'.id _ hr, hpid, hid'] at hid
      exact Nat.ne_of_lt hr' (number_inj (by omega) (by omega) hid)
  · intro r stage n hopening
    rcases step_opening_cases hwf h hopening with ⟨⟨stage', hbefore⟩, hsame, -⟩ | ⟨-, rfl, -⟩
    · rw [hsame]
      apply List.mem_append_left _ (hpx.constructed r stage' n hbefore)
    · apply List.mem_append_right _ (mem_constructions ev hwf' hopening)
  · intro a ha
    obtain ⟨r, hr, hid⟩ := hall a ha
    use r, Nat.lt_of_lt_of_le hr hopens
    rw [hpid, hid]
  · intro id
    have hfirst := hpx.first id
    rw [List.filter_append]
    rcases hcases with ⟨hnil, -⟩ | ⟨-, k, r, n, answer, hk, hanswers, hid, hold⟩ |
      ⟨r, n, answer, hentering, hanswers, hid, hmark⟩
    · rw [hnil]
      simpa using hfirst
    · rw [hanswers]
      rcases eq_or_ne answer.id id with rfl | hne
      · apply hfirst.append
        · obtain ⟨a, ha, hid'⟩ := hpx.found k r hk
          apply List.ne_nil_of_mem (a := a)
          rw [List.mem_filter, hid', hid]
          use ha
          apply decide_eq_true rfl
        · intro b hb
          rw [List.mem_singleton.mp (List.mem_of_mem_filter hb), hold]
      · simpa [List.filter_cons, hne] using hfirst
    · rw [hanswers]
      rcases eq_or_ne answer.id id with rfl | hne
      · have hnone : (answers.filter fun a => a.2.id = answer.id) = [] := by
          rw [List.filter_eq_nil_iff]
          intro a ha heq
          have hopening := (entering_eq_some hentering).2
          apply hpx.opening r (by simp [hopening]) a ha
          rw [of_decide_eq_true heq, hid]
        rw [hnone, List.nil_append]
        simpa [List.filter_cons, FirstMarked] using hmark
      · simpa [List.filter_cons, hne] using hfirst
  · intro a ha hmark
    rcases List.mem_append.mp ha with ha | ha
    · apply List.mem_append_left _ (hpx.initiator a ha hmark)
    · rcases hcases with ⟨hnil, -⟩ | ⟨-, k, r, n, answer, -, hanswers, -, hold⟩ |
        ⟨r, n, answer, hentering, hanswers, hid, -⟩
      · rw [hnil] at ha
        cases ha
      · rw [hanswers, List.mem_singleton] at ha
        rw [ha, hold] at hmark
        cases hmark
      · rw [hanswers, List.mem_singleton] at ha
        rw [ha, hid]
        apply List.mem_append_left _ (hpx.constructed r _ n (entering_eq_some hentering).2)

theorem run_initiated {pid : UInt64} {clock : ℕ → UInt64} {es : List Event} {px : WebsocketProxy}
    (h : system.RunUnder SlotsKept (start pid clock) es px) :
  px.Initiated (system.outputs openAnswers (start pid clock) es)
    (system.outputs constructions (start pid clock) es)
  := by
  induction h with
  | nil => apply start_initiated
  | @snoc es px ev px' hrun hkept hstep ih =>
      have hreachable : system.ReachableUnder SlotsKept px := ⟨_, _, ⟨pid, clock, rfl⟩, hrun⟩
      have hnumbered : ∀ {px}, system.ReachableUnder SlotsKept px → px.Numbered :=
        reachable_numbered (fun _ _ hkept => hkept.2)
      rw [hrun.outputs_snoc hstep, hrun.outputs_snoc hstep]
      exact ih.step (run_requested hrun) (reachable_wellFormed hreachable)
        (reachable_phases hreachable) (hnumbered hreachable)
        (hnumbered (hreachable.step hkept hstep)) hstep

/-- In runs in which the slots of pending openings are kept and the counter of ids does not
wrap, of the `SUCCESS` answers to `OpenWs` messages that have one id, the first has the mark
of a new connection and no other has: it answers the message the connection was constructed
for. -/
theorem one_initiator {pid : UInt64} {clock : ℕ → UInt64} {es : List Event} {px : WebsocketProxy}
    (h : system.RunUnder SlotsKept (start pid clock) es px) {n : ℕ} {answer : WsOpen}
    (hanswer : (n, answer) ∈ system.outputs openAnswers (start pid clock) es) :
  ∃ first rest,
    (system.outputs openAnswers (start pid clock) es).filter (fun a => a.2.id = answer.id)
      = first :: rest ∧
    first.2.newConnection = true ∧
    (first.1, answer.id) ∈ system.outputs constructions (start pid clock) es ∧
    ∀ a ∈ rest, a.2.newConnection = false
  := by
  obtain ⟨-, -, -, -, hfirst, hinitiator⟩ := run_initiated h
  have hfirst := hfirst answer.id
  cases hfilter : (system.outputs openAnswers (start pid clock) es).filter
      (fun a => a.2.id = answer.id) with
  | nil =>
      rw [List.filter_eq_nil_iff] at hfilter
      exact absurd (decide_eq_true rfl) (hfilter _ hanswer)
  | cons first rest =>
      rw [hfilter] at hfirst
      have hmem : first ∈ (system.outputs openAnswers (start pid clock) es).filter
          (fun a => a.2.id = answer.id) := by
        rw [hfilter]
        exact List.mem_cons_self ..
      obtain ⟨hmem, hid⟩ := List.mem_filter.mp hmem
      have hcreated := hinitiator first hmem hfirst.1
      rw [of_decide_eq_true hid] at hcreated
      exact ⟨first, rest, rfl, hfirst.1, hcreated, hfirst.2⟩

/-- The clients of this run are answered with one connection, and one of them initiates it. -/
theorem one_initiator_openShared :
  ∃ px, system.RunUnder SlotsKept (start 7 fun _ => 1) openShared px ∧
    (system.outputs openAnswers (start 7 fun _ => 1) openShared).length = 2 ∧
    ∃ first rest,
      (system.outputs openAnswers (start 7 fun _ => 1) openShared).filter (fun a => a.2.id = 70001)
        = first :: rest ∧
      first.2.newConnection = true ∧
      (first.1, 70001) ∈ system.outputs constructions (start 7 fun _ => 1) openShared ∧
      ∀ a ∈ rest, a.2.newConnection = false
  := by
  have hexec : ∃ px ∈ system.execUnder SlotsKept (start 7 fun _ => 1) openShared, True := by
    decide +kernel
  obtain ⟨px, hrun, -⟩ := TransitionSystem.exists_runUnder hexec
  have hanswer : (3, { url := [104], clientPid := 2, id := 70001 }) ∈
      system.outputs openAnswers (start 7 fun _ => 1) openShared := by
    decide +kernel
  use px, hrun
  constructor
  · decide +kernel
  · apply one_initiator hrun hanswer

end WebsocketProxy
