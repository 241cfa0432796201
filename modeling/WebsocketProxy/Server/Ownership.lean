import Mathlib.Data.Finset.Basic
import WebsocketProxy.Library.Transition

/-!
# Who may run

The processes of the proxy keep the process id of the one that runs in a shared mapping,
`owner_pid_`. The process that creates the mapping stores its process id there and enters the
main loop; another one gives up when the owner it reads is a running process, and else takes
over by a compare-exchange. The model has the atomic steps of the constructor, of the
ownership block of `run` and of the destructor, for any number of processes that can die
between any two steps.

Creation and store are two steps, and a process that starts between them reads no owner. If
it has taken over by the time the creator stores, two processes run
(`Ownership.main_loop_shared`). Otherwise at most one does (`Ownership.main_loop_exclusive`).
-/

namespace Ownership

/-- Where a process is: the next step it performs. -/
inductive Stage where
  /-- Not started. -/
  | absent
  /-- It created the mapping, and stores its process id next. -/
  | created
  /-- It created the mapping and stored its process id, and calls `run` next. -/
  | stored
  /-- It opened the mapping of another process, and loads the owner next. -/
  | opened
  /-- It read the owner, and asks whether that process is running next. -/
  | checking (owner : UInt64)
  /-- It exchanges its process id for `owner` next. -/
  | exchanging (owner : UInt64)
  /-- It is in the main loop. -/
  | running (ownShm : Bool)
  /-- `run` returned, and the destructor is called next. -/
  | destructing (ownShm : Bool)
  /-- It closes its handle of the mapping next. -/
  | unmapped
  | closed
  /-- It called `exit`. -/
  | exiting
  /-- It is dead. -/
  | gone
deriving DecidableEq

namespace Stage

/-- The process is in the main loop of `run`. -/
def inMainLoop : Stage → Bool
  | running _ => true
  | _ => false

/-- The process runs. -/
def isRunning : Stage → Bool
  | absent | gone => false
  | _ => true

/-- The process has a handle of the mapping. -/
def hasHandle : Stage → Bool
  | absent | closed | gone => false
  | _ => true

/-- The process created the mapping and has not given up the ownership. -/
def isCreator : Stage → Bool
  | created | stored | running true | destructing true => true
  | _ => false

/-- The mapping shows the process as its owner. -/
def isOwner : Stage → Bool
  | stored | running _ | destructing true => true
  | _ => false

end Stage

end Ownership

open Ownership

/-- The mapping, and where the processes are. -/
structure Ownership where
  /-- What `owner_pid_` refers to. -/
  ownerPid : UInt64 := 0
  /-- The processes that have a handle of the mapping. It goes with the last handle. -/
  handles : Finset UInt64 := ∅
  stage : UInt64 → Stage := fun _ => .absent

namespace Ownership

/-- A process goes on to a stage. -/
def enter (s : Ownership) (pid : UInt64) (st : Stage) : Ownership :=
  { s with
    stage := Function.update s.stage pid st
    handles := if st.hasHandle then insert pid s.handles else s.handles.erase pid }

/-- A process is running, for all that other processes can tell. -/
def isProcessRunning (s : Ownership) (pid : UInt64) : Bool := (s.stage pid).isRunning

/-- Create the mapping, filled with zeros, or open the one that exists. -/
def createFileMapping (s : Ownership) (pid : UInt64) : Ownership :=
  if s.handles = ∅ then { s with ownerPid := 0 }.enter pid .created else s.enter pid .opened

/-- The next step of a process. -/
def advance (s : Ownership) (pid : UInt64) : Option Ownership :=
  match s.stage pid with
  | .absent => if pid = 0 then none else some (s.createFileMapping pid)
  | .created => some ({ s with ownerPid := pid }.enter pid .stored)
  | .stored => some (s.enter pid (.running true))
  | .opened =>
      some (s.enter pid (if s.ownerPid = 0 then .exchanging 0 else .checking s.ownerPid))
  | .checking owner =>
      some (s.enter pid (if s.isProcessRunning owner then .exiting else .exchanging owner))
  | .exchanging owner =>
      if s.ownerPid = owner then some ({ s with ownerPid := pid }.enter pid (.running false))
      -- the exchange failed and read the owner there is
      else some (s.enter pid (if s.ownerPid = 0 then .exchanging 0 else .exiting))
  | .running ownShm => some (s.enter pid (.destructing ownShm))
  | .destructing ownShm =>
      some ((if ownShm then { s with ownerPid := 0 } else s).enter pid .unmapped)
  | .unmapped => some (s.enter pid .closed)
  | .closed | .exiting | .gone => none

/-- A process dies, which closes its handles. -/
def die (s : Ownership) (pid : UInt64) : Option Ownership :=
  if s.isProcessRunning pid then some (s.enter pid .gone) else none

/-- What happens to the processes. -/
inductive Event where
  | advance (pid : UInt64)
  | die (pid : UInt64)

/-- No process is started. -/
def start : Ownership := {}

/-- The processes of the proxy. -/
def system : TransitionSystem Ownership Event where
  initial s := s = start
  step s
    | .advance pid => s.advance pid
    | .die pid => s.die pid

/-- No process is in the main loop when the creator of the mapping stores its process id. -/
def Uncontested (s : Ownership) : Event → Prop
  | .advance pid => s.stage pid = .created → ∀ q ∈ s.handles, (s.stage q).inMainLoop = false
  | .die _ => True

instance (s : Ownership) (ev : Event) : Decidable (s.Uncontested ev) :=
  match ev with
  | .advance pid =>
      -- the instance for all process ids would be found first, and does not compute
      haveI : Decidable (∀ q ∈ s.handles, (s.stage q).inMainLoop = false) :=
        Finset.decidableDforallFinset
      inferInstanceAs (Decidable (s.stage pid = .created → _))
  | .die _ => inferInstanceAs (Decidable True)

/-! ### What holds between the steps -/

/-- The creator is one process, and owners are the process the mapping shows. A process that
is about to exchange its process id for another one exchanges it for that of a dead process. -/
structure Consistent (s : Ownership) : Prop where
  nonzero : ∀ p, (s.stage p).isRunning → p ≠ 0
  handles : ∀ p, p ∈ s.handles ↔ (s.stage p).hasHandle
  creator : ∀ p q, (s.stage p).isCreator → (s.stage q).isCreator → p = q
  owner : ∀ p, (s.stage p).isOwner → s.ownerPid = p
  started : s.ownerPid ≠ 0 → s.stage s.ownerPid ≠ .absent
  checking : ∀ p o, s.stage p = .checking o → s.stage o ≠ .absent
  exchanging : ∀ p o, s.stage p = .exchanging o → o ≠ 0 → s.stage o = .gone

variable {s : Ownership} {pid : UInt64} {st : Stage}

theorem enter_stage_self : (s.enter pid st).stage pid = st := Function.update_self ..

theorem enter_stage_of_ne {p : UInt64} (hne : p ≠ pid) : (s.enter pid st).stage p = s.stage p :=
  Function.update_of_ne hne ..

theorem consistent_start : start.Consistent where
  nonzero := by
    intro p hp
    cases hp
  handles := by
    intro p
    constructor
    · intro hp
      cases hp
    · intro hp
      cases hp
  creator := by
    intro p q hp
    cases hp
  owner := by
    intro p hp
    cases hp
  started := fun hne => absurd rfl hne
  checking := by
    intro p o hp
    cases hp
  exchanging := by
    intro p o hp
    cases hp

/-- A process that is not dead goes on to a stage. -/
theorem Consistent.enter (h : s.Consistent) (hpid : pid ≠ 0) (hst : st ≠ .absent)
    (hgone : s.stage pid ≠ .gone)
    (hcreator : st.isCreator → ∀ q, (s.stage q).isCreator → q = pid)
    (howner : st.isOwner → s.ownerPid = pid)
    (hchecking : ∀ o, st = .checking o → s.stage o ≠ .absent)
    (hexchanging : ∀ o, st = .exchanging o → o ≠ 0 → s.stage o = .gone) :
  (s.enter pid st).Consistent
  := by
  have hstarted : ∀ {o}, s.stage o ≠ .absent → (s.enter pid st).stage o ≠ .absent := by
    intro o ho
    rcases eq_or_ne o pid with rfl | hne
    · rw [enter_stage_self]
      exact hst
    · rw [enter_stage_of_ne hne]
      exact ho
  have hdead : ∀ {o}, s.stage o = .gone → (s.enter pid st).stage o = .gone := by
    intro o ho
    have hne : o ≠ pid := by
      rintro rfl
      apply hgone ho
    rw [enter_stage_of_ne hne]
    exact ho
  constructor
  case nonzero =>
    intro p hp
    rcases eq_or_ne p pid with rfl | hne
    · exact hpid
    · rw [enter_stage_of_ne hne] at hp
      apply h.nonzero p hp
  case handles =>
    intro p
    have hmem : p ∈ (s.enter pid st).handles ↔ p = pid ∧ st.hasHandle ∨ p ≠ pid ∧ p ∈ s.handles := by
      unfold Ownership.enter
      split
      case isTrue hhandle =>
        rw [Finset.mem_insert]
        tauto
      case isFalse hhandle =>
        rw [Finset.mem_erase]
        tauto
    rw [hmem]
    rcases eq_or_ne p pid with rfl | hne
    · simp [enter_stage_self]
    · simp [enter_stage_of_ne hne, hne, h.handles]
  case creator =>
    intro p q hp hq
    rcases eq_or_ne p pid with rfl | hne
    · rcases eq_or_ne q p with rfl | hne'
      · rfl
      · rw [enter_stage_self] at hp
        rw [enter_stage_of_ne hne'] at hq
        exact (hcreator hp q hq).symm
    · rw [enter_stage_of_ne hne] at hp
      rcases eq_or_ne q pid with rfl | hne'
      · rw [enter_stage_self] at hq
        apply hcreator hq p hp
      · rw [enter_stage_of_ne hne'] at hq
        apply h.creator p q hp hq
  case owner =>
    intro p hp
    rcases eq_or_ne p pid with rfl | hne
    · rw [enter_stage_self] at hp
      apply howner hp
    · rw [enter_stage_of_ne hne] at hp
      apply h.owner p hp
  case started =>
    intro hne
    apply hstarted (h.started hne)
  case checking =>
    intro p o hp
    apply hstarted
    rcases eq_or_ne p pid with rfl | hne
    · rw [enter_stage_self] at hp
      apply hchecking o hp
    · rw [enter_stage_of_ne hne] at hp
      apply h.checking p o hp
  case exchanging =>
    intro p o hp ho
    apply hdead
    rcases eq_or_ne p pid with rfl | hne
    · rw [enter_stage_self] at hp
      apply hexchanging o hp ho
    · rw [enter_stage_of_ne hne] at hp
      apply h.exchanging p o hp ho

/-- A process id is stored that every owner has. -/
theorem Consistent.store (h : s.Consistent) (howner : ∀ q, (s.stage q).isOwner → pid = q)
    (hstarted : pid ≠ 0 → s.stage pid ≠ .absent) :
  Consistent { s with ownerPid := pid }
  := { h with
    owner := howner
    started := hstarted }

/-- A stage that only says that the process goes on. -/
theorem Consistent.pass (h : s.Consistent) (hpid : pid ≠ 0) (hst : st ≠ .absent)
    (hgone : s.stage pid ≠ .gone) (hcreator : st.isCreator = false) (howner : st.isOwner = false)
    (hchecking : ∀ o, st ≠ .checking o) (hexchanging : ∀ o, st = .exchanging o → o = 0) :
  (s.enter pid st).Consistent
  := by
  apply h.enter hpid hst hgone
  · intro htrue
    rw [hcreator] at htrue
    cases htrue
  · intro htrue
    rw [howner] at htrue
    cases htrue
  · intro o ho
    exact absurd ho (hchecking o)
  · intro o ho hne
    exact absurd (hexchanging o ho) hne

/-! ### The steps -/

theorem Stage.isRunning_of_hasHandle (h : st.hasHandle) : st.isRunning := by
  cases st <;> first | rfl | cases h

theorem Stage.hasHandle_of_isOwner (h : st.isOwner) : st.hasHandle := by
  cases st <;> first | rfl | cases h

/-- A process that runs has a process id, and is not dead. -/
theorem Consistent.running (h : s.Consistent) (hst : s.stage pid = st) (hrunning : st.isRunning) :
  pid ≠ 0 ∧ s.stage pid ≠ .gone
  := by
  constructor
  · apply h.nonzero
    rw [hst]
    exact hrunning
  · rw [hst]
    rintro rfl
    cases hrunning

/-- Without handles there is no owner. -/
theorem Consistent.not_isOwner (h : s.Consistent) (hempty : s.handles = ∅) (q : UInt64) :
  ¬ (s.stage q).isOwner
  := by
  intro hq
  have hmem := (h.handles q).mpr (Stage.hasHandle_of_isOwner hq)
  rw [hempty] at hmem
  cases hmem

/-- Without handles there is no creator. -/
theorem Consistent.not_isCreator (h : s.Consistent) (hempty : s.handles = ∅) (q : UInt64) :
  ¬ (s.stage q).isCreator
  := by
  intro hq
  have hhandle : (s.stage q).hasHandle := by
    cases hst : s.stage q <;> rw [hst] at hq <;> first | rfl | cases hq
  have hmem := (h.handles q).mpr hhandle
  rw [hempty] at hmem
  cases hmem

/-- A process opens the mapping, or creates it. -/
theorem createFileMapping_consistent (h : s.Consistent) (hpid : pid ≠ 0)
    (habsent : s.stage pid = .absent) :
  (s.createFileMapping pid).Consistent
  := by
  have hgone : s.stage pid ≠ .gone := by
    rw [habsent]
    decide
  unfold createFileMapping
  split
  case isTrue hempty =>
    have hzero : Consistent { s with ownerPid := 0 } := by
      apply h.store
      · intro q hq
        exact absurd hq (h.not_isOwner hempty q)
      · intro hne
        exact absurd rfl hne
    apply hzero.enter hpid (by decide) hgone
    · intro _ q hq
      exact absurd hq (h.not_isCreator hempty q)
    · intro hfalse
      cases hfalse
    · intro o ho
      cases ho
    · intro o ho
      cases ho
  case isFalse =>
    apply h.pass hpid (by decide) hgone rfl rfl
    · intro o ho
      cases ho
    · intro o ho
      cases ho

/-- The creator stores its process id, with no other process in the main loop. -/
theorem store_consistent (h : s.Consistent) (hcreated : s.stage pid = .created)
    (halone : ∀ q ∈ s.handles, (s.stage q).inMainLoop = false) :
  ({ s with ownerPid := pid }.enter pid .stored).Consistent
  := by
  have hcreator : (s.stage pid).isCreator := by
    rw [hcreated]
    rfl
  obtain ⟨hpid, hgone⟩ := h.running hcreated rfl
  have hstore : Consistent { s with ownerPid := pid } := by
    apply h.store
    · intro q hq
      -- an owner is the creator itself, or in the main loop
      apply h.creator pid q hcreator
      have hloop := halone q ((h.handles q).mpr (Stage.hasHandle_of_isOwner hq))
      cases hst : s.stage q with
      | running => rw [hst] at hloop; cases hloop
      | stored => rfl
      | destructing ownShm => rw [hst] at hq; cases ownShm <;> first | rfl | cases hq
      | _ => rw [hst] at hq; cases hq
    · intro _
      rw [hcreated]
      decide
  apply hstore.enter hpid (by decide) hgone
  · intro _ q hq
    apply h.creator q pid hq hcreator
  · exact fun _ => rfl
  · intro o ho
    cases ho
  · intro o ho
    cases ho

/-- A compare-exchange that succeeds. -/
theorem takeOver_consistent (h : s.Consistent) {owner : UInt64}
    (hstage : s.stage pid = .exchanging owner) (howner : s.ownerPid = owner) :
  ({ s with ownerPid := pid }.enter pid (.running false)).Consistent
  := by
  obtain ⟨hpid, hgone⟩ := h.running hstage rfl
  have hnone : ∀ q, ¬ (s.stage q).isOwner := by
    intro q hq
    have hrunning := Stage.isRunning_of_hasHandle (Stage.hasHandle_of_isOwner hq)
    obtain rfl : owner = q := howner.symm.trans (h.owner q hq)
    rw [h.exchanging pid owner hstage (h.nonzero owner hrunning)] at hq
    cases hq
  have hstore : Consistent { s with ownerPid := pid } := by
    apply h.store
    · intro q hq
      exact absurd hq (hnone q)
    · intro _
      rw [hstage]
      exact fun h => Stage.noConfusion h
  apply hstore.enter hpid (fun h => Stage.noConfusion h) hgone
  · intro hfalse
    cases hfalse
  · exact fun _ => rfl
  · intro o ho
    cases ho
  · intro o ho
    cases ho

/-- The destructor of the creator gives up the ownership. -/
theorem giveUp_consistent (h : s.Consistent) (hstage : s.stage pid = .destructing true) :
  ({ s with ownerPid := 0 }.enter pid .unmapped).Consistent
  := by
  obtain ⟨hpid, hgone⟩ := h.running hstage rfl
  have hpass : (s.enter pid .unmapped).Consistent := by
    apply h.pass hpid (by decide) hgone rfl rfl
    · intro o ho
      cases ho
    · intro o ho
      cases ho
  have howner : ∀ q, ((s.enter pid .unmapped).stage q).isOwner → 0 = q := by
    -- the process itself is the only owner there was
    intro q hq
    rcases eq_or_ne q pid with rfl | hne
    · rw [enter_stage_self] at hq
      cases hq
    · rw [enter_stage_of_ne hne] at hq
      have hown : s.ownerPid = pid := by
        apply h.owner
        rw [hstage]
        rfl
      exact absurd ((h.owner q hq).symm.trans hown) hne
  exact hpass.store howner (fun hne => absurd rfl hne)

/-- A process performs its next step. -/
theorem advance_consistent (h : s.Consistent) {t : Ownership} (hstep : s.advance pid = some t)
    (halone : s.Uncontested (.advance pid)) :
  t.Consistent
  := by
  unfold advance at hstep
  split at hstep
  case h_1 habsent =>
    split at hstep
    case isTrue => cases hstep
    case isFalse hpid =>
      obtain rfl := Option.some.inj hstep
      apply createFileMapping_consistent h hpid habsent
  case h_2 hcreated =>
    obtain rfl := Option.some.inj hstep
    apply store_consistent h hcreated (halone hcreated)
  case h_3 hstored =>
    obtain rfl := Option.some.inj hstep
    obtain ⟨hpid, hgone⟩ := h.running hstored rfl
    apply h.enter hpid (fun h => Stage.noConfusion h) hgone
    · intro _ q hq
      apply h.creator q pid hq
      rw [hstored]
      rfl
    · intro _
      apply h.owner
      rw [hstored]
      rfl
    · intro o ho
      cases ho
    · intro o ho
      cases ho
  case h_4 hopened =>
    obtain rfl := Option.some.inj hstep
    obtain ⟨hpid, hgone⟩ := h.running hopened rfl
    split
    case isTrue hzero =>
      apply h.pass hpid (fun h => Stage.noConfusion h) hgone rfl rfl
      · exact fun o ho => Stage.noConfusion ho
      · intro o ho
        cases ho
        rfl
    case isFalse hne =>
      apply h.enter hpid (fun h => Stage.noConfusion h) hgone
      · intro hfalse
        cases hfalse
      · intro hfalse
        cases hfalse
      · intro o ho
        cases ho
        apply h.started hne
      · exact fun o ho => Stage.noConfusion ho
  case h_5 owner hchecking =>
    obtain rfl := Option.some.inj hstep
    obtain ⟨hpid, hgone⟩ := h.running hchecking rfl
    split
    case isTrue =>
      apply h.pass hpid (by decide) hgone rfl rfl
      · exact fun o ho => Stage.noConfusion ho
      · exact fun o ho => Stage.noConfusion ho
    case isFalse hdead =>
      apply h.enter hpid (fun h => Stage.noConfusion h) hgone
      · intro hfalse
        cases hfalse
      · intro hfalse
        cases hfalse
      · exact fun o ho => Stage.noConfusion ho
      · intro o ho _
        cases ho
        -- the owner was started when it was read, and is not running now
        have hstarted := h.checking pid owner hchecking
        unfold isProcessRunning at hdead
        cases hst : s.stage owner with
        | gone => rfl
        | absent => exact absurd hst hstarted
        | _ => rw [hst] at hdead; exact absurd rfl hdead
  case h_6 owner hexchanging =>
    split at hstep
    case isTrue howner =>
      obtain rfl := Option.some.inj hstep
      apply takeOver_consistent h hexchanging howner
    case isFalse =>
      obtain rfl := Option.some.inj hstep
      obtain ⟨hpid, hgone⟩ := h.running hexchanging rfl
      split
      · apply h.pass hpid (fun h => Stage.noConfusion h) hgone rfl rfl
        · exact fun o ho => Stage.noConfusion ho
        · intro o ho
          cases ho
          rfl
      · apply h.pass hpid (by decide) hgone rfl rfl
        · exact fun o ho => Stage.noConfusion ho
        · exact fun o ho => Stage.noConfusion ho
  case h_7 ownShm hrunning =>
    obtain rfl := Option.some.inj hstep
    obtain ⟨hpid, hgone⟩ := h.running hrunning rfl
    apply h.enter hpid (fun h => Stage.noConfusion h) hgone
    · intro hcreator q hq
      apply h.creator q pid hq
      rw [hrunning]
      cases ownShm with
      | true => rfl
      | false => cases hcreator
    · intro _
      apply h.owner
      rw [hrunning]
      rfl
    · exact fun o ho => Stage.noConfusion ho
    · exact fun o ho => Stage.noConfusion ho
  case h_8 ownShm hdestructing =>
    obtain rfl := Option.some.inj hstep
    cases ownShm with
    | true => exact giveUp_consistent h hdestructing
    | false =>
        obtain ⟨hpid, hgone⟩ := h.running hdestructing rfl
        apply h.pass hpid (by decide) hgone rfl rfl
        · exact fun o ho => Stage.noConfusion ho
        · exact fun o ho => Stage.noConfusion ho
  case h_9 hunmapped =>
    obtain rfl := Option.some.inj hstep
    obtain ⟨hpid, hgone⟩ := h.running hunmapped rfl
    apply h.pass hpid (by decide) hgone rfl rfl
    · exact fun o ho => Stage.noConfusion ho
    · exact fun o ho => Stage.noConfusion ho
  all_goals cases hstep

/-- A process dies. -/
theorem die_consistent (h : s.Consistent) {t : Ownership} (hstep : s.die pid = some t) :
  t.Consistent
  := by
  unfold die at hstep
  split at hstep
  case isTrue hrunning =>
    obtain rfl := Option.some.inj hstep
    apply h.pass (h.nonzero pid hrunning) (by decide) _ rfl rfl
    · exact fun o ho => Stage.noConfusion ho
    · exact fun o ho => Stage.noConfusion ho
    · intro hgone
      rw [isProcessRunning, hgone] at hrunning
      cases hrunning
  case isFalse => cases hstep

theorem reachable_consistent (h : system.ReachableUnder Uncontested s) :
  s.Consistent
  := by
  apply h.invariant
  · rintro _ rfl
    apply consistent_start
  · intro s ev t _ hs hguard hstep
    cases ev with
    | advance pid => exact advance_consistent hs hstep hguard
    | die pid => exact die_consistent hs hstep

/-! ### The main loop -/

/-- Where no process is in the main loop when the creator of the mapping stores its process
id, no two processes ever are in the main loop. -/
theorem main_loop_exclusive {s : Ownership} (h : system.ReachableUnder Uncontested s)
    {p q : UInt64} (hp : (s.stage p).inMainLoop) (hq : (s.stage q).inMainLoop) :
  p = q
  := by
  have howner : ∀ {st : Stage}, st.inMainLoop → st.isOwner := by
    intro st hst
    cases st with
    | running => rfl
    | _ => cases hst
  have hs := reachable_consistent h
  rw [← hs.owner p (howner hp), ← hs.owner q (howner hq)]

/-- The creator dies in the main loop, and a process that read its process id takes over. -/
theorem main_loop_exclusive_takeOver :
  ∃ s, system.RunUnder Uncontested start
      [.advance 1, .advance 1, .advance 1, .advance 2, .advance 2, .die 1, .advance 2, .advance 2] s ∧
    (s.stage 2).inMainLoop ∧ ∀ q, (s.stage q).inMainLoop → q = 2
  := by
  obtain ⟨s, hrun, htwo⟩ : ∃ s, system.RunUnder Uncontested start
      [.advance 1, .advance 1, .advance 1, .advance 2, .advance 2, .die 1, .advance 2, .advance 2] s ∧
      (s.stage 2).inMainLoop := TransitionSystem.exists_runUnder (by decide +kernel)
  use s, hrun, htwo
  intro q hq
  exact main_loop_exclusive ⟨start, _, rfl, hrun⟩ hq htwo

/-- Where a process is in the main loop when the creator stores its process id, both are as
soon as the creator has called `run`. -/
theorem main_loop_shared {s : Ownership} {p q : UInt64} (hp : s.stage p = .created)
    (hq : (s.stage q).inMainLoop) :
  ∃ t, system.Run s [.advance p, .advance p] t ∧ p ≠ q ∧
    (t.stage p).inMainLoop ∧ (t.stage q).inMainLoop
  := by
  have hne : q ≠ p := by
    rintro rfl
    rw [hp] at hq
    cases hq
  have hstore : s.advance p = some ({ s with ownerPid := p }.enter p .stored) := by
    unfold advance
    rw [hp]
  have hrun : ({ s with ownerPid := p }.enter p .stored).advance p
      = some (({ s with ownerPid := p }.enter p .stored).enter p (.running true)) := by
    unfold advance
    rw [enter_stage_self]
  use ({ s with ownerPid := p }.enter p .stored).enter p (.running true)
  refine ⟨?_, hne.symm, ?_, ?_⟩
  · exact (TransitionSystem.RunUnder.single trivial hstore).snoc trivial hrun
  · rw [enter_stage_self]
    rfl
  · rw [enter_stage_of_ne hne, enter_stage_of_ne hne]
    exact hq

/-- A process starts, reads no owner and takes over, before the creator of the mapping stores
its process id. -/
theorem main_loop_not_exclusive :
  ¬ ∀ s, system.Reachable s → ∀ p q, (s.stage p).inMainLoop → (s.stage q).inMainLoop → p = q
  := by
  intro h
  obtain ⟨s, hrun, hone, htwo⟩ : ∃ s, system.Run start
      [.advance 1, .advance 2, .advance 2, .advance 2, .advance 1, .advance 1] s ∧
      (s.stage 1).inMainLoop ∧ (s.stage 2).inMainLoop :=
    TransitionSystem.exists_runUnder (by decide +kernel)
  exact absurd (h s ⟨start, _, rfl, hrun⟩ 1 2 hone htwo) (by decide)

end Ownership
