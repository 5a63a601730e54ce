import Cachee.Daemon.Pipeline
import Cachee.Daemon.Provenance
import Cachee.Daemon.Replies

/-!
# Tasks come to an end

A task has at most five steps, so whatever else happens in between, a line is answered when its
task has made five steps.  A step panics only if a line was passed on which the handler panics.  In
the release build such a panic ends the daemon; otherwise all lines that were passed are answered
when the tasks that are running have made their steps.
-/

open Text

namespace Cachee

/-! ### The steps of a task -/

/-- How many steps of tasks an event is. -/
def ServerEvent.steps : ServerEvent → ℕ
  | .gate _ => 0
  | .step _ _ => 1
  | .evict _ => 0

/-- How many steps a task has left, at most. -/
def Task.remaining : Task → ℕ
  | .setInsert _ _ _ => 4
  | .setPersist _ _ => 3
  | .setValue _ _ => 2
  | .setLog _ => 1
  | .verifiedValue _ => 3
  | .verifiedSlot _ _ => 2
  | .verifiedLog _ _ => 1
  | .delValue _ => 3
  | .delSlot _ _ => 2
  | .delLog _ _ => 1
  | .infoStats => 5
  | .infoSlots _ => 4
  | .infoReload _ _ => 3
  | .infoFlush _ _ _ => 2
  | .infoBundles _ _ _ _ => 1
  | .single _ => 1

/-- How many steps are left of what a step has led to. -/
def TaskProgress.remaining : TaskProgress → ℕ
  | .next task => task.remaining
  | .reply _ => 0

/-- A task that is running has a step left. -/
theorem Task.remaining_pos (task : Task) :
  0 < task.remaining
  := by
  cases task with
  | _ => simp [Task.remaining]

/-- A step takes one of the steps that are left. -/
theorem Task.remaining_of_step {ext : Externals} {cfg : DaemonConfig} {amb : Ambient}
    {s s' : DaemonState} {task : Task} {progress : TaskProgress}
    (h : task.step ext cfg amb s = .ok (s', progress)) :
  progress.remaining < task.remaining
  := by
  cases task with
  | setPersist key value =>
    obtain ⟨s₁, -, h⟩ := bind_eq_ok_iff.mp h
    rw [← (Prod.mk.inj (Except.ok.inj h)).2]
    simp [Task.remaining, TaskProgress.remaining]
  | verifiedValue key =>
    rw [Task.step] at h
    split at h
    · rw [← (Prod.mk.inj (Except.ok.inj h)).2]
      simp [Task.remaining, TaskProgress.remaining]
    · rw [← (Prod.mk.inj (Except.ok.inj h)).2]
      simp [Task.remaining, TaskProgress.remaining]
  | verifiedSlot key value =>
    obtain ⟨response, -, h⟩ := bind_eq_ok_iff.mp h
    rw [← (Prod.mk.inj (Except.ok.inj h)).2]
    simp [Task.remaining, TaskProgress.remaining]
  | single parts =>
    obtain ⟨⟨s₁, reply⟩, -, h⟩ := bind_eq_ok_iff.mp h
    rw [← (Prod.mk.inj (Except.ok.inj h)).2]
    simp [Task.remaining, TaskProgress.remaining]
  | _ =>
    rw [← (Prod.mk.inj (Except.ok.inj h)).2]
    simp [Task.remaining, TaskProgress.remaining]

/-- A task has at most five steps. -/
theorem remaining_of_startTask {cfg : DaemonConfig} {data : Bytes} {progress : TaskProgress}
    (h : startTask cfg data = .ok progress) :
  progress.remaining ≤ 5
  := by
  cases taskStart_of_startTask h with
  | _ => simp [Task.remaining, TaskProgress.remaining]

namespace Server

variable {ext : Externals} {cfg : DaemonConfig} {requireAuth : Bool} {s s' : Server}
  {e : ServerEvent} {line : PassedLine} {outcome : Outcome TaskProgress}

/-- How many steps the running tasks have left, at most. -/
def work (s : Server) : ℕ := (s.tasks.map fun running => running.task.remaining).sum

/-- How many steps are left of the outcome of a step. -/
def remainingOf : Outcome TaskProgress → ℕ
  | .ok progress => progress.remaining
  | .error _ => 0

/-- What is left of a task that goes on is added to the work. -/
theorem work_goOn (s : Server) (line : PassedLine) (outcome : Outcome TaskProgress) :
  (s.goOn line outcome).work = s.work + remainingOf outcome
  := by
  unfold goOn
  split
  · simp [work, remainingOf, TaskProgress.remaining]
  · rfl
  · rfl

/-- The work without a task is less by what this task has left. -/
theorem work_eraseIdx {k : ℕ} {running : RunningTask} (hk : s.tasks[k]? = some running)
    (daemon : DaemonState) :
  ({ s with tasks := s.tasks.eraseIdx k, daemon } : Server).work + running.task.remaining = s.work
  := by
  obtain ⟨hlt, rfl⟩ := List.getElem?_eq_some_iff.mp hk
  have hk : k < (s.tasks.map fun running => running.task.remaining).length := by
    rw [List.length_map]
    apply hlt
  have hsum := List.CommMonoid.add_sum_eraseIdx hk
  rw [List.eraseIdx_map, List.getElem_map] at hsum
  rw [work, work, ← hsum, Nat.add_comm]

/-- Every event covers its steps: a step of a task leaves less work, and a line that is passed adds
five steps at most. -/
theorem steps_le_of_step (hstep : ServerStep ext cfg requireAuth s e s') :
  e.steps + 5 * s.gate.passed.length + s'.work ≤ 5 * s'.gate.passed.length + s.work
  := by
  cases hstep with
  | gate hadmits hgate hpassed =>
    rw [ServerEvent.steps, hpassed, Nat.zero_add]
    apply Nat.le_refl
  | @pass e gate line hadmits hgate hpassed =>
    have hfive : remainingOf (startTask cfg line.data) ≤ 5 := by
      cases hstart : startTask cfg line.data with
      | ok progress => apply remaining_of_startTask hstart
      | error e => apply Nat.zero_le
    rw [ServerEvent.steps, begin, work_goOn, (goOn_gate_daemon _ _ _).1, hpassed,
      List.length_append, List.length_singleton]
    have hwork : ({ s with gate } : Server).work = s.work := rfl
    omega
  | @task k amb line task daemon progress hi hstep =>
    have hless := Task.remaining_of_step hstep
    have hwork := work_eraseIdx hi daemon
    rw [ServerEvent.steps, work_goOn, (goOn_gate_daemon _ _ _).1, remainingOf]
    dsimp only at hwork ⊢
    omega
  | @panic k amb line task e hi hstep =>
    have hpos := task.remaining_pos
    have hwork := work_eraseIdx hi s.daemon
    have hsame : ({ s with tasks := s.tasks.eraseIdx k, ended := s.ended ++ [line.connection] } :
        Server).work = ({ s with tasks := s.tasks.eraseIdx k } : Server).work := rfl
    rw [ServerEvent.steps, hsame]
    dsimp only at hwork ⊢
    omega
  | evict key =>
    rw [ServerEvent.steps, Nat.zero_add]
    apply Nat.le_refl

/-- A step of a task leaves the gate as it is, and less work. -/
theorem work_of_step {k : ℕ} {amb : Ambient}
    (hstep : ServerStep ext cfg requireAuth s (.step k amb) s') :
  s'.gate = s.gate ∧ s'.work < s.work
  := by
  have hgate : s'.gate = s.gate := by
    cases hstep with
    | task hi hstep => apply (goOn_gate_daemon _ _ _).1
    | panic hi hstep => rfl
  have hle := steps_le_of_step hstep
  rw [ServerEvent.steps, hgate] at hle
  refine ⟨hgate, ?_⟩
  omega

/-- Where panics abort, the steps of the tasks that are running, one after another, lead to a state
without tasks or to a panic, whatever they meet with. -/
theorem exists_run_done (ext : Externals) (cfg : DaemonConfig) (requireAuth : Bool)
    (ambs : ℕ → Ambient) (s : Server) :
  ∃ n ≤ s.work, ∃ s', run (stepAborting ext cfg requireAuth) s
      ((List.range n).map fun k => .step 0 (ambs k)) = some s' ∧ s'.gate = s.gate ∧
      (s'.ended = [] → s'.tasks = [])
  := by
  induction hwork : s.work using Nat.strong_induction_on generalizing s ambs with
  | _ work ih =>
    by_cases hended : s.ended = []
    · cases htasks : s.tasks with
      | nil => exact ⟨0, Nat.zero_le _, s, rfl, rfl, fun _ => htasks⟩
      | cons running rest =>
        have hstep : s.step ext cfg requireAuth (.step 0 (ambs 0))
            = some (s.stepTask ext cfg (ambs 0) 0 running) := by
          rw [Server.step, htasks]
          rfl
        have hfirst : s.stepAborting ext cfg requireAuth (.step 0 (ambs 0))
            = some (s.stepTask ext cfg (ambs 0) 0 running) := by
          rw [stepAborting, if_pos hended, hstep]
        obtain ⟨hgate, hless⟩ := work_of_step (step_eq_some hstep)
        rw [hwork] at hless
        obtain ⟨n, hn, s', hrun, hgate', hdone⟩ := ih _ hless (fun k => ambs (k + 1)) _ rfl
        refine ⟨n + 1, by omega, s', ?_, hgate'.trans hgate, hdone⟩
        rw [List.range_succ_eq_map, List.map_cons, List.map_map]
        apply run_cons_eq_some.mpr ⟨_, hfirst, hrun⟩
    · exact ⟨0, Nat.zero_le _, s, rfl, rfl, fun h => absurd h hended⟩

/-- Every task that is running has at most five steps left. -/
theorem work_le (s : Server) :
  s.work ≤ 5 * s.tasks.length
  := by
  have hfive : ∀ task : Task, task.remaining ≤ 5 := by
    intro task
    cases task with
    | _ => simp [Task.remaining]
  rw [work, Nat.mul_comm, ← List.length_map fun running : RunningTask => running.task.remaining]
  apply List.sum_le_card_nsmul
  intro n hn
  obtain ⟨running, -, rfl⟩ := List.mem_map.mp hn
  apply hfive

/-! ### Panics -/

/-- The start of a task panics only on a line on which the handler does. -/
theorem not_replied_of_startTask {e : Halt} {data : Bytes} (ext : Externals)
    (h : startTask cfg data = .error e) :
  ¬ Replied ext.library cfg (words data)
  := by
  intro hreplied
  obtain ⟨result, hhandle⟩ :=
    (returns_handleWords_iff ext cfg plainAmbient (.empty "") (words data)).mpr hreplied
  have hrun := runTask_eq ext cfg plainAmbient (.empty "") data
  rw [runTask, h, handleResp_eq, hhandle] at hrun
  cases Option.some.inj hrun

section Tasks

variable {asked : List String → Prop} {parts : List String} {key : String} {slot : CacheSlot}
  {amb : Ambient} {d : DaemonState}

/-- The handler panics on the `SET` of a slot with a valid fingerprint when the keys are not
accepted. -/
theorem exists_not_replied_of_slotOfSet (hslot : SlotOfSet ext cfg asked key slot)
    (hvalid : slot.hasValidFingerprint = true) (hkeys : ¬ cfg.KeysAccepted ext.library) :
  ∃ parts, asked parts ∧ ¬ Replied ext.library cfg parts
  := by
  obtain ⟨parts, text, fingerprint, amb, hasked, hsets, hretired⟩ := hslot
  obtain ⟨command, word, args, rfl, hcommand, harguments⟩ := hsets
  have hfingerprint : fingerprint.isValid = true := by
    rcases hretired with rfl | ⟨-, state, -, -, rfl⟩
    · apply hvalid
    · apply hvalid
  refine ⟨_, hasked, ?_⟩
  rintro ⟨-, hsigns⟩
  apply hsigns
  refine ⟨⟨by simp, congrArg some hcommand⟩, ?_, hkeys⟩
  unfold setArguments at harguments
  cases hidx : fpIndex (command :: key :: word :: args) with
  | none =>
    rw [hidx] at harguments
    rcases ite_eq_iff.mp harguments with ⟨-, hnone⟩ | ⟨-, hsome⟩
    · cases hnone
    · obtain ⟨texts, -, hsome⟩ := bind_eq_ok_iff.mp hsome
      obtain ⟨-, rfl⟩ := Prod.mk.inj (Option.some.inj (Except.ok.inj hsome))
      exact absurd hfingerprint (by decide)
  | some idx =>
    rw [hidx] at harguments
    obtain ⟨texts, -, hsome⟩ := bind_eq_ok_iff.mp harguments
    obtain ⟨-, rfl⟩ := Prod.mk.inj (Option.some.inj (Except.ok.inj hsome))
    exact ⟨idx, rfl, hfingerprint⟩

/-- A step of a task panics only if a line was passed on which the handler does. -/
theorem exists_not_replied_of_step {task : Task} {e : Halt} (hbelongs : task.BelongsTo cfg parts)
    (hinserted : ∀ key, task.inserted? = some key → HasSlotOfSet ext cfg asked d key)
    (h : task.step ext cfg amb d = .error e) :
  ∃ parts, asked parts ∧ ¬ Replied ext.library cfg parts
  := by
  cases task with
  | setPersist key value =>
    have hpersist : ¬ Returns (d.persistSlot ext cfg amb key) := by
      rintro ⟨d', hpersist⟩
      rw [Task.step, hpersist] at h
      cases h
    rw [returns_persistSlot_iff] at hpersist
    push Not at hpersist
    obtain ⟨slot, hslot, hvalid, hkeys⟩ := hpersist
    apply exists_not_replied_of_slotOfSet (hinserted key rfl slot hslot) hvalid hkeys
  | verifiedValue key =>
    rw [Task.step] at h
    split at h
    · cases h
    · cases h
  | verifiedSlot key value =>
    obtain ⟨response, hrespond⟩ : Returns (d.respond ext amb key value) :=
      d.returns_respond key value
    rw [Task.step, hrespond] at h
    cases h
  | single parts' =>
    obtain ⟨rfl, hsingle⟩ := hbelongs
    obtain ⟨result, hdispatch⟩ := @returns_dispatch ext cfg amb d _ _ hsingle.set
    rw [Task.step, hdispatch] at h
    cases h
  | _ => cases h

end Tasks

/-- A panic has happened only if a line was passed on which the handler panics. -/
def PanicsFromLines (ext : Externals) (cfg : DaemonConfig) (s : Server) : Prop :=
  s.ended ≠ [] → ∃ parts, s.Asked parts ∧ ¬ Replied ext.library cfg parts

/-- A task that goes on, or has replied, is no panic. -/
theorem ended_goOn_ok (s : Server) (line : PassedLine) (progress : TaskProgress) :
  (s.goOn line (.ok progress)).ended = s.ended
  := by
  cases progress with
  | next task => rfl
  | reply text => rfl

/-- Every event of a traced server panics only if a line was passed on which the handler does. -/
theorem PanicsFromLines.step {start : DaemonState} (h : PanicsFromLines ext cfg s)
    (htraced : s.Traced ext cfg start) (hstep : ServerStep ext cfg requireAuth s e s') :
  PanicsFromLines ext cfg s'
  := by
  cases hstep with
  | @gate e gate hadmits hgate hpassed =>
    intro hended
    obtain ⟨parts, ⟨line, hline, hparts⟩, hreplied⟩ := h hended
    refine ⟨parts, ⟨line, ?_, hparts⟩, hreplied⟩
    rw [hpassed]
    apply hline
  | @pass e gate line hadmits hgate hpassed =>
    have hmem {line' : PassedLine} (hline' : line' ∈ s.gate.passed ++ [line]) :
        line' ∈ (({ s with gate } : Server).begin cfg line).gate.passed := by
      rw [begin, (goOn_gate_daemon _ _ _).1, hpassed]
      apply hline'
    intro hended
    cases hstart : startTask cfg line.data with
    | ok progress =>
      rw [begin, hstart, ended_goOn_ok] at hended
      obtain ⟨parts, ⟨line', hline', hparts⟩, hreplied⟩ := h hended
      exact ⟨parts, ⟨line', hmem (List.mem_append_left _ hline'), hparts⟩, hreplied⟩
    | error e =>
      exact ⟨words line.data, ⟨line, hmem (by simp), rfl⟩, not_replied_of_startTask ext hstart⟩
  | task hi hstep =>
    rw [PanicsFromLines, ended_goOn_ok]
    intro hended
    obtain ⟨parts, hasked, hreplied⟩ := h hended
    refine ⟨parts, ?_, hreplied⟩
    rw [Asked, (goOn_gate_daemon _ _ _).1]
    apply hasked
  | panic hi hstep =>
    intro _
    have hmem := List.mem_of_getElem? hi
    obtain ⟨-, hbelongs, -⟩ := htraced.tasks _ hmem
    apply exists_not_replied_of_step hbelongs (htraced.inserted _ hmem) hstep
  | evict key => apply h

/-- In every run, a panic has happened only if a line was passed on which the handler panics. -/
theorem panicsFromLines_of_run {registry : ApiKeyRegistry} {start : DaemonState}
    {events : List ServerEvent}
    (hrun : run (Server.step ext cfg requireAuth) (initial registry start) events = some s) :
  PanicsFromLines ext cfg s
  := by
  have hkeeps : ∀ s₁ e s₂, Traced ext cfg start s₁ ∧ PanicsFromLines ext cfg s₁ →
      Server.step ext cfg requireAuth s₁ e = some s₂ →
        Traced ext cfg start s₂ ∧ PanicsFromLines ext cfg s₂ := by
    rintro s₁ e s₂ ⟨htraced, h⟩ hstep
    exact ⟨htraced.step (step_eq_some hstep), h.step htraced (step_eq_some hstep)⟩
  apply (run_invariant_of_step hkeeps ⟨traced_initial ext cfg registry start, _⟩ hrun).2
  intro hended
  exact absurd rfl hended

/-! ### The release build -/

/-- In every interleaving of any number of connections, the tasks have made at most five steps for
each line that was passed to the handler.  When the tasks that are running make their steps one
after another, whatever they meet with, at most five for each of them, then none is running and all
lines that were passed are answered; or a panic has ended the daemon, and a line was passed that is
a `SET` whose key is its first word `FP`, or one that is to be signed with keys that are not
accepted. -/
theorem steps_le_of_run {registry : ApiKeyRegistry} {start : DaemonState}
    {events : List ServerEvent}
    (hrun : run (stepAborting ext cfg requireAuth) (initial registry start) events = some s) :
  (events.map ServerEvent.steps).sum ≤ 5 * s.gate.passed.length ∧
    ∀ ambs : ℕ → Ambient, ∃ n ≤ 5 * s.tasks.length, ∃ s',
      run (stepAborting ext cfg requireAuth) s ((List.range n).map fun k => .step 0 (ambs k))
        = some s' ∧
      s'.gate = s.gate ∧
      ((s'.tasks = [] ∧ ∀ i, s'.answeredOf i = linesOf i s.gate.passed) ∨
        (s'.ended ≠ [] ∧ ∃ line ∈ s.gate.passed, KeyIsFp (words line.data) ∨
          SignsWithRejectedKeys ext.library cfg (words line.data)))
  := by
  have hunwinding := run_of_stepAborting hrun
  constructor
  · have hkeeps : ∀ s₁ e s₂, Server.step ext cfg requireAuth s₁ e = some s₂ →
        e.steps + 5 * s₁.gate.passed.length + s₂.work ≤ 5 * s₂.gate.passed.length + s₁.work :=
      fun s₁ e s₂ hstep => steps_le_of_step (step_eq_some hstep)
    have hsum := run_sum_cost_le hkeeps hunwinding
    have hnone : (initial registry start).work = 0 := rfl
    have hempty : (initial registry start).gate.passed.length = 0 := rfl
    omega
  · intro ambs
    obtain ⟨n, hn, s', hrun', hgate, hdone⟩ := exists_run_done ext cfg requireAuth ambs s
    refine ⟨n, hn.trans s.work_le, s', hrun', hgate, ?_⟩
    have hall : run (Server.step ext cfg requireAuth) (initial registry start)
        (events ++ (List.range n).map fun k => .step 0 (ambs k)) = some s' := by
      rw [run_append, hunwinding]
      apply run_of_stepAborting hrun'
    rw [← hgate]
    by_cases hended : s'.ended = []
    · left
      refine ⟨hdone hended, ?_⟩
      intro i
      rcases (pipelined_of_run hall i).1 with ⟨-, hpassed, -⟩ | ⟨hmem, -⟩
      · rw [hpassed, runningOf, hdone hended]
        exact (List.append_nil _).symm
      · rw [hended] at hmem
        cases hmem
    · right
      obtain ⟨parts, ⟨line, hline, rfl⟩, hreplied⟩ := panicsFromLines_of_run hall hended
      refine ⟨hended, line, hline, ?_⟩
      rw [Replied] at hreplied
      tauto

/-- After the run of two connections, with two tasks running, at most ten steps are left. -/
theorem steps_le_deletedRun :
  ∃ s, run (stepAborting plainExternals plainConfig true)
      (initial GateState.writerRegistry (.empty "node")) deletedRun = some s ∧
    s.gate.passed.length = 3 ∧ s.tasks.length = 2 ∧
    (deletedRun.map ServerEvent.steps).sum ≤ 5 * s.gate.passed.length ∧
    ∀ ambs : ℕ → Ambient, ∃ n ≤ 5 * s.tasks.length, ∃ s',
      run (stepAborting plainExternals plainConfig true) s
        ((List.range n).map fun k => .step 0 (ambs k)) = some s' ∧
      s'.gate = s.gate ∧
      ((s'.tasks = [] ∧ ∀ i, s'.answeredOf i = linesOf i s.gate.passed) ∨
        (s'.ended ≠ [] ∧ ∃ line ∈ s.gate.passed, KeyIsFp (words line.data) ∨
          SignsWithRejectedKeys plainExternals.library plainConfig (words line.data)))
  := by
  have hcounts : (run (stepAborting plainExternals plainConfig true)
      (initial GateState.writerRegistry (.empty "node")) deletedRun).map (fun s =>
        (s.gate.passed.length, s.tasks.length)) = some (3, 2) := by
    decide +kernel
  obtain ⟨s, hrun, hcounts⟩ := Option.map_eq_some_iff.mp hcounts
  obtain ⟨hpassed, htasks⟩ := Prod.mk.inj hcounts
  exact ⟨s, hrun, hpassed, htasks, steps_le_of_run hrun⟩

end Server

end Cachee
