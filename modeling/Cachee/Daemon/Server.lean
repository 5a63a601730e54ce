import Cachee.Daemon.Gate
import Cachee.Daemon.Tasks

/-!
# The server

The server reads lines from its connections, and starts a task for each line that passes the gate.
The tasks of different connections perform their steps in any order; a connection reads its next
line when the task of the last one has replied.  Where panics unwind, a panic ends the connection
whose task panics, and leaves the daemon as it was before the step.  The release profile has panics
abort: there the first one ends the daemon, so that the runs of the release build are those runs in
which nothing comes after a panic.
-/

open Text

namespace Cachee

/-- A task that is running, with the line that it handles. -/
structure RunningTask where
  line : PassedLine
  task : Task

/-- The reply of the handler to a line. -/
structure Answer where
  line : PassedLine
  reply : String

/-- The gate, the daemon, the tasks that are running, the replies so far, and the connections whose
task has panicked. -/
structure Server where
  gate : GateState
  daemon : DaemonState
  tasks : List RunningTask
  answers : List Answer
  ended : List ℕ

/-- An event at the gate, a step of a task, or the engine giving up the value of a key. -/
inductive ServerEvent where
  | gate (e : GateEvent)
  | step (i : ℕ) (amb : Ambient)
  | evict (key : String)

namespace Server

/-- The server before its first connection. -/
def initial (registry : ApiKeyRegistry) (daemon : DaemonState) : Server where
  gate := .initial registry
  daemon := daemon
  tasks := []
  answers := []
  ended := []

/-- The task of a line goes on, has replied, or has panicked, which ends its connection. -/
def goOn (s : Server) (line : PassedLine) : Outcome TaskProgress → Server
  | .ok (.next task) => { s with tasks := s.tasks ++ [⟨line, task⟩] }
  | .ok (.reply reply) => { s with answers := s.answers ++ [⟨line, reply⟩] }
  | .error _ => { s with ended := s.ended ++ [line.connection] }

/-- Start the task of a line. -/
def begin (cfg : DaemonConfig) (s : Server) (line : PassedLine) : Server :=
  s.goOn line (startTask cfg line.data)

/-- A connection reads when it has no task and has not ended. -/
def admits (s : Server) : GateEvent → Bool
  | .read i _ => (s.tasks.all fun t => t.line.connection ≠ i) && !s.ended.contains i
  | _ => true

/-- A step of a task of the list. -/
def stepTask (ext : Externals) (cfg : DaemonConfig) (amb : Ambient) (s : Server) (i : ℕ)
    (running : RunningTask) : Server :=
  let s := { s with tasks := s.tasks.eraseIdx i }
  match running.task.step ext cfg amb s.daemon with
  | .ok (daemon, progress) => { s with daemon }.goOn running.line (.ok progress)
  | .error e => s.goOn running.line (.error e)

/-- The state after an event, where panics unwind. -/
def step (ext : Externals) (cfg : DaemonConfig) (requireAuth : Bool) (s : Server) :
    ServerEvent → Option Server
  | .gate e =>
    if s.admits e then do
      let gate ← s.gate.step ext.sha3 requireAuth e
      return (gate.passed.drop s.gate.passed.length).foldl (begin cfg) { s with gate }
    else none
  | .step i amb =>
    match s.tasks[i]? with
    | some running => some (s.stepTask ext cfg amb i running)
    | none => none
  | .evict key => some { s with daemon := { s.daemon with engine := s.daemon.engine.erase key } }

/-- The state after an event, where panics abort: after a panic there is no daemon. -/
def stepAborting (ext : Externals) (cfg : DaemonConfig) (requireAuth : Bool) (s : Server)
    (e : ServerEvent) : Option Server :=
  if s.ended = [] then s.step ext cfg requireAuth e else none

end Server

/-! ### What an event does -/

/-- What an event does to the server: the gate makes a step, and a line that it passes is started;
or a task makes a step or panics; or a value is dropped. -/
inductive ServerStep (ext : Externals) (cfg : DaemonConfig) (requireAuth : Bool) (s : Server) :
    ServerEvent → Server → Prop
  | gate {e : GateEvent} {gate : GateState} (hadmits : s.admits e = true)
      (hgate : s.gate.step ext.sha3 requireAuth e = some gate)
      (hpassed : gate.passed = s.gate.passed) :
      ServerStep ext cfg requireAuth s (.gate e) { s with gate }
  | pass {e : GateEvent} {gate : GateState} {line : PassedLine} (hadmits : s.admits e = true)
      (hgate : s.gate.step ext.sha3 requireAuth e = some gate)
      (hpassed : gate.passed = s.gate.passed ++ [line]) :
      ServerStep ext cfg requireAuth s (.gate e) ({ s with gate }.begin cfg line)
  | task {i : ℕ} {amb : Ambient} {line : PassedLine} {task : Task} {daemon : DaemonState}
      {progress : TaskProgress} (hi : s.tasks[i]? = some ⟨line, task⟩)
      (hstep : task.step ext cfg amb s.daemon = .ok (daemon, progress)) :
      ServerStep ext cfg requireAuth s (.step i amb)
        ({ s with tasks := s.tasks.eraseIdx i, daemon }.goOn line (.ok progress))
  | panic {i : ℕ} {amb : Ambient} {line : PassedLine} {task : Task} {e : Halt}
      (hi : s.tasks[i]? = some ⟨line, task⟩)
      (hstep : task.step ext cfg amb s.daemon = .error e) :
      ServerStep ext cfg requireAuth s (.step i amb)
        { s with tasks := s.tasks.eraseIdx i, ended := s.ended ++ [line.connection] }
  | evict (key : String) :
      ServerStep ext cfg requireAuth s (.evict key)
        { s with daemon := { s.daemon with engine := s.daemon.engine.erase key } }

/-- A step of the gate passes no line or one. -/
theorem GateState.passed_of_step {sha3 : Bytes → Block 32} {requireAuth : Bool} {s s' : GateState}
    {e : GateEvent} (h : GateState.step sha3 requireAuth s e = some s') :
  s'.passed = s.passed ∨ ∃ line, s'.passed = s.passed ++ [line]
  := by
  cases GateState.step_eq_some h with
  | pass hi hcheck =>
    right
    exact ⟨_, rfl⟩
  | _ =>
    left
    rfl

namespace Server

variable {ext : Externals} {cfg : DaemonConfig} {requireAuth : Bool} {s s' : Server}
  {e : ServerEvent}

/-- An event of the server does what it says. -/
theorem step_eq_some (h : s.step ext cfg requireAuth e = some s') :
  ServerStep ext cfg requireAuth s e s'
  := by
  cases e with
  | gate e =>
    rw [step] at h
    obtain ⟨hadmits, h⟩ := Option.ite_none_right_eq_some.mp h
    obtain ⟨gate, hgate, h⟩ := Option.bind_eq_some_iff.mp h
    obtain rfl := Option.some.inj h
    rcases GateState.passed_of_step hgate with hpassed | ⟨line, hpassed⟩
    · rw [hpassed, List.drop_length]
      exact .gate hadmits hgate hpassed
    · rw [hpassed, List.drop_left]
      exact .pass hadmits hgate hpassed
  | step i amb =>
    rw [step] at h
    split at h
    · rename_i running hi
      obtain ⟨line, task⟩ := running
      obtain rfl := Option.some.inj h
      rw [stepTask]
      cases hstep : task.step ext cfg amb s.daemon with
      | ok result =>
        obtain ⟨daemon, progress⟩ := result
        exact .task hi hstep
      | error e => exact .panic hi hstep
    · cases h
  | evict key =>
    obtain rfl := Option.some.inj h
    exact .evict key

/-- The runs where panics abort are runs where panics unwind. -/
theorem run_of_stepAborting {events : List ServerEvent}
    (hrun : run (stepAborting ext cfg requireAuth) s events = some s') :
  run (step ext cfg requireAuth) s events = some s'
  := by
  apply run_mono _ hrun
  intro s₁ e s₂ h
  apply (Option.ite_none_right_eq_some.mp h).2

/-- A task that goes on leaves the gate and the daemon as they are. -/
theorem goOn_gate_daemon (s : Server) (line : PassedLine) (outcome : Outcome TaskProgress) :
  (s.goOn line outcome).gate = s.gate ∧ (s.goOn line outcome).daemon = s.daemon
  := by
  unfold goOn
  split
  · exact ⟨rfl, rfl⟩
  · exact ⟨rfl, rfl⟩
  · exact ⟨rfl, rfl⟩

/-- The gate of the server makes steps of the gate only. -/
theorem gate_of_step (hstep : ServerStep ext cfg requireAuth s e s') :
  s'.gate = s.gate ∨ ∃ e, s.gate.step ext.sha3 requireAuth e = some s'.gate
  := by
  cases hstep with
  | gate hadmits hgate hpassed =>
    right
    exact ⟨_, hgate⟩
  | pass hadmits hgate hpassed =>
    right
    rw [begin, (goOn_gate_daemon _ _ _).1]
    exact ⟨_, hgate⟩
  | task hi hstep =>
    left
    rw [(goOn_gate_daemon _ _ _).1]
  | panic hi hstep =>
    left
    rfl
  | evict key =>
    left
    rfl

/-- With required authentication, every event keeps the gate guarded. -/
theorem guarded_of_step (h : s.gate.Guarded ext.sha3) (hstep : ServerStep ext cfg true s e s') :
  s'.gate.Guarded ext.sha3
  := by
  rcases gate_of_step hstep with heq | ⟨e', hgate⟩
  · rw [heq]
    apply h
  · apply h.step hgate

/-- In every run with required authentication, the gate of the server is guarded. -/
theorem guarded_of_run {registry : ApiKeyRegistry} {daemon : DaemonState}
    {events : List ServerEvent}
    (hrun : run (step ext cfg true) (initial registry daemon) events = some s) :
  s.gate.Guarded ext.sha3
  := by
  have hkeeps : ∀ s₁ e s₂, s₁.gate.Guarded ext.sha3 → step ext cfg true s₁ e = some s₂ →
      s₂.gate.Guarded ext.sha3 :=
    fun s₁ e s₂ h hstep => guarded_of_step h (step_eq_some hstep)
  apply run_invariant_of_step hkeeps _ hrun
  apply GateState.guarded_initial

end Server

end Cachee
