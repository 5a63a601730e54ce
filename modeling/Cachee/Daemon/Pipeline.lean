import Cachee.Daemon.Server
import Cachee.Daemon.TaskEffects

/-!
# Replies in order

A connection has at most one line in hand: it reads the next one when the task of the last one has
replied.  So the lines that were passed are answered in their order, each once, as long as no panic
ends the connection.
-/

open Text

namespace Cachee

/-! ### The line in hand -/

/-- A connection that is not idle after a step was not idle before, or has just read. -/
theorem GateState.busy_of_step {sha3 : Bytes → Block 32} {requireAuth : Bool} {s s' : GateState}
    {e : GateEvent} {i : ℕ} {c' : GateConnection} (hstep : GateStep sha3 requireAuth s e s')
    (hi : s'.conns[i]? = some c') (hbusy : c'.phase ≠ .idle) :
  (∃ data, e = .read i data) ∨ ∃ c, s.conns[i]? = some c ∧ c.phase ≠ .idle
  := by
  have hset : ∀ {j : ℕ} {c : GateConnection}, (s.setConn j c).conns[i]? = some c' →
      (j = i ∧ c = c') ∨ ∃ c, s.conns[i]? = some c ∧ c.phase ≠ .idle := by
    intro j c hget
    rw [setConn, List.getElem?_set] at hget
    split at hget
    · rename_i hj
      split at hget
      · left
        exact ⟨hj, Option.some.inj hget⟩
      · cases hget
    · right
      exact ⟨c', hget, hbusy⟩
  cases hstep with
  | reload registry =>
    right
    exact ⟨c', hi, hbusy⟩
  | connect =>
    right
    rw [List.getElem?_append] at hi
    split at hi
    · exact ⟨c', hi, hbusy⟩
    · rw [List.mem_singleton.mp (List.mem_of_getElem? hi)] at hbusy
      exact absurd rfl hbusy
  | read hj hcheck =>
    rcases hset hi with ⟨rfl, -⟩ | hbefore
    · left
      exact ⟨_, rfl⟩
    · right
      apply hbefore
  | checkQuota current hj =>
    right
    rcases hset hi with ⟨rfl, -⟩ | hbefore
    · exact ⟨_, hj, nofun⟩
    · apply hbefore
  | revalidate hj hcheck =>
    right
    rcases hset hi with ⟨rfl, -⟩ | hbefore
    · exact ⟨_, hj, nofun⟩
    · apply hbefore
  | refuse hj hcheck =>
    right
    rcases hset hi with ⟨rfl, -⟩ | hbefore
    · exact ⟨_, hj, nofun⟩
    · apply hbefore
  | pass hj hcheck =>
    right
    rcases hset hi with ⟨rfl, -⟩ | hbefore
    · exact ⟨_, hj, nofun⟩
    · apply hbefore

/-- The connection of a line that is passed was not idle before, and is idle then. -/
theorem GateState.connection_of_pass {sha3 : Bytes → Block 32} {requireAuth : Bool}
    {s s' : GateState} {e : GateEvent} {line : PassedLine}
    (hstep : GateStep sha3 requireAuth s e s') (hpassed : s'.passed = s.passed ++ [line]) :
  (∃ c, s.conns[line.connection]? = some c ∧ c.phase ≠ .idle) ∧
    ∀ c, s'.conns[line.connection]? = some c → c.phase = .idle
  := by
  cases hstep with
  | pass hi hcheck =>
    obtain rfl := List.singleton_inj.mp (List.append_cancel_left hpassed)
    refine ⟨⟨_, hi, nofun⟩, ?_⟩
    intro c hc
    have hlt := (List.getElem?_eq_some_iff.mp hi).1
    rw [setConn, List.getElem?_set_self hlt] at hc
    rw [← Option.some.inj hc]
  | _ => cases List.self_eq_append_right.mp hpassed

/-- The lines of a connection, among others. -/
def linesOf (i : ℕ) (lines : List PassedLine) : List PassedLine :=
  lines.filter fun line => line.connection = i

theorem linesOf_concat_self (lines : List PassedLine) (line : PassedLine) :
  linesOf line.connection (lines ++ [line]) = linesOf line.connection lines ++ [line]
  := by
  simp [linesOf]

theorem linesOf_concat_of_ne (lines : List PassedLine) {i : ℕ} {line : PassedLine}
    (h : line.connection ≠ i) :
  linesOf i (lines ++ [line]) = linesOf i lines
  := by
  simp [linesOf, h]

namespace Server

/-- The lines of a connection whose tasks are running. -/
def runningOf (s : Server) (i : ℕ) : List PassedLine := linesOf i (s.tasks.map RunningTask.line)

/-- The lines of a connection that were answered. -/
def answeredOf (s : Server) (i : ℕ) : List PassedLine := linesOf i (s.answers.map Answer.line)

/-- The lines of a connection that were passed to the handler are answered in their order: all of
them but the one whose task is running, or the one whose task has panicked. -/
def InOrder (s : Server) (i : ℕ) : Prop :=
  (i ∉ s.ended ∧ linesOf i s.gate.passed = s.answeredOf i ++ s.runningOf i ∧
      (s.runningOf i).length ≤ 1) ∨
    (i ∈ s.ended ∧ s.runningOf i = [] ∧
      ∃ line, linesOf i s.gate.passed = s.answeredOf i ++ [line])

/-- A connection with a line at the gate has no task, and has not ended. -/
def Waits (s : Server) (i : ℕ) : Prop :=
  (∃ c, s.gate.conns[i]? = some c ∧ c.phase ≠ .idle) → i ∉ s.ended ∧ s.runningOf i = []

variable {ext : Externals} {cfg : DaemonConfig} {requireAuth : Bool} {s s' : Server}
  {e : ServerEvent} {i : ℕ} {line : PassedLine} {outcome : Outcome TaskProgress}

/-- When the task of a line goes on, replies or panics, its connection has the line in hand, has
its answer, or has ended. -/
theorem inOrder_goOn (hended : line.connection ∉ s.ended)
    (hrunning : s.runningOf line.connection = [])
    (hpassed : linesOf line.connection s.gate.passed = s.answeredOf line.connection ++ [line]) :
  (s.goOn line outcome).InOrder line.connection
  := by
  unfold goOn
  split
  · left
    refine ⟨hended, ?_⟩
    rw [runningOf, List.map_append, List.map_singleton, linesOf_concat_self, ← runningOf, hrunning]
    exact ⟨hpassed, Nat.le_refl 1⟩
  · left
    refine ⟨hended, ?_⟩
    rw [answeredOf, List.map_append, List.map_singleton, linesOf_concat_self]
    rw [runningOf] at hrunning ⊢
    rw [hrunning, List.append_nil]
    exact ⟨hpassed, Nat.zero_le 1⟩
  · right
    exact ⟨List.mem_append_right _ (List.mem_singleton_self _), hrunning, line, hpassed⟩

/-- What happens to a line changes nothing for the other connections. -/
theorem inOrder_goOn_of_ne (h : line.connection ≠ i) (hi : s.InOrder i) :
  (s.goOn line outcome).InOrder i
  := by
  unfold goOn
  split
  · rw [InOrder, runningOf, List.map_append, List.map_singleton, linesOf_concat_of_ne _ h]
    apply hi
  · rw [InOrder, answeredOf, List.map_append, List.map_singleton, linesOf_concat_of_ne _ h]
    apply hi
  · rw [InOrder, List.mem_append, List.mem_singleton, or_iff_left (Ne.symm h)]
    apply hi

/-- What happens to a line changes nothing for a connection at the gate, if it is another one. -/
theorem waits_goOn (h : line.connection = i →
      ∀ c, s.gate.conns[i]? = some c → c.phase = .idle) (hi : s.Waits i) :
  (s.goOn line outcome).Waits i
  := by
  rintro ⟨c, hc, hbusy⟩
  rw [(goOn_gate_daemon _ _ _).1] at hc
  have hne : line.connection ≠ i := by
    intro heq
    exact hbusy (h heq c hc)
  obtain ⟨hended, hrunning⟩ := hi ⟨c, hc, hbusy⟩
  unfold goOn
  split
  · refine ⟨hended, ?_⟩
    rw [runningOf, List.map_append, List.map_singleton, linesOf_concat_of_ne _ hne]
    apply hrunning
  · exact ⟨hended, hrunning⟩
  · refine ⟨?_, hrunning⟩
    rw [List.mem_append, List.mem_singleton, or_iff_left (Ne.symm hne)]
    apply hended

/-- Without its task, a server has the same lines in hand for the other connections. -/
theorem runningOf_eraseIdx {k : ℕ} {task : Task} (hk : s.tasks[k]? = some ⟨line, task⟩)
    (daemon : DaemonState) (i : ℕ) :
  (∃ before after, s.runningOf i = before ++ linesOf i [line] ++ after ∧
    ({ s with tasks := s.tasks.eraseIdx k, daemon } : Server).runningOf i = before ++ after)
  := by
  obtain ⟨hlt, hget⟩ := List.getElem?_eq_some_iff.mp hk
  refine ⟨linesOf i ((s.tasks.take k).map RunningTask.line),
    linesOf i ((s.tasks.drop (k + 1)).map RunningTask.line), ?_, ?_⟩
  · have hsplit : s.tasks = s.tasks.take k ++ [⟨line, task⟩] ++ s.tasks.drop (k + 1) := by
      rw [← hget, List.append_assoc, List.singleton_append, List.getElem_cons_drop,
        List.take_append_drop]
    rw [runningOf]
    nth_rewrite 1 [hsplit]
    simp only [linesOf, List.map_append, List.map_singleton, List.filter_append]
  · simp only [runningOf, linesOf, List.eraseIdx_eq_take_drop_succ, List.map_append,
      List.filter_append]

/-- The connection of a task that is taken out has its line in hand before, and none then. -/
theorem runningOf_own {k : ℕ} {task : Task} (hk : s.tasks[k]? = some ⟨line, task⟩)
    (daemon : DaemonState) (h : s.InOrder line.connection) :
  line.connection ∉ s.ended ∧
    linesOf line.connection s.gate.passed = s.answeredOf line.connection ++ [line] ∧
    ({ s with tasks := s.tasks.eraseIdx k, daemon } : Server).runningOf line.connection = []
  := by
  obtain ⟨before, after, hrunning, herased⟩ := runningOf_eraseIdx hk daemon line.connection
  have hown : linesOf line.connection [line] = [line] := by simp [linesOf]
  rw [hown] at hrunning
  rcases h with ⟨hended, hpassed, hlen⟩ | ⟨-, hnone, -⟩
  · rw [hrunning, List.length_append, List.length_append, List.length_singleton] at hlen
    obtain rfl : before = [] := List.length_eq_zero_iff.mp (by omega)
    obtain rfl : after = [] := List.length_eq_zero_iff.mp (by omega)
    rw [hrunning] at hpassed
    exact ⟨hended, hpassed, herased⟩
  · rw [hrunning] at hnone
    simp at hnone

/-- Taking a task out changes nothing for the other connections. -/
theorem runningOf_other {k : ℕ} {task : Task} (hk : s.tasks[k]? = some ⟨line, task⟩)
    (daemon : DaemonState) (h : line.connection ≠ i) :
  ({ s with tasks := s.tasks.eraseIdx k, daemon } : Server).runningOf i = s.runningOf i
  := by
  obtain ⟨before, after, hrunning, herased⟩ := runningOf_eraseIdx hk daemon i
  have hother : linesOf i [line] = [] := by simp [linesOf, h]
  rw [herased, hrunning, hother, List.append_nil]

/-- The lines of the connections are answered in their order, and those at the gate have no task. -/
def Pipelined (s : Server) : Prop := ∀ i, s.InOrder i ∧ s.Waits i

/-- Taking a task out and going on with it keeps the server pipelined. -/
theorem Pipelined.stepTask {k : ℕ} {task : Task} (h : s.Pipelined)
    (hk : s.tasks[k]? = some ⟨line, task⟩) (daemon : DaemonState)
    (outcome : Outcome TaskProgress) :
  ({ s with tasks := s.tasks.eraseIdx k, daemon }.goOn line outcome).Pipelined
  := by
  obtain ⟨hended, hpassed, herased⟩ := runningOf_own hk daemon (h line.connection).1
  intro i
  by_cases hi : line.connection = i
  · subst hi
    refine ⟨inOrder_goOn hended herased hpassed, waits_goOn ?_ ?_⟩
    · -- The connection has a task, so it is idle at the gate.
      intro _ c hc
      by_contra hbusy
      have hnone := ((h line.connection).2 ⟨c, hc, hbusy⟩).2
      have hmem : line ∈ s.runningOf line.connection := by
        apply List.mem_filter.mpr ⟨List.mem_map.mpr ⟨_, List.mem_of_getElem? hk, rfl⟩, ?_⟩
        simp
      rw [hnone] at hmem
      cases hmem
    · intro hbusy
      exact ⟨hended, herased⟩
  · have hother := runningOf_other hk daemon hi
    refine ⟨inOrder_goOn_of_ne hi ?_, waits_goOn (fun heq => absurd heq hi) ?_⟩
    · unfold InOrder
      rw [hother]
      apply (h i).1
    · unfold Waits
      rw [hother]
      apply (h i).2

/-- A connection that has a line at the gate after a step of the gate has no task: the gate does not
let a connection read while it has one. -/
theorem waits_of_gate {e : GateEvent} {gate : GateState} (h : s.Waits i) (hadmits : s.admits e = true)
    (hgate : GateStep ext.sha3 requireAuth s.gate e gate) :
  ({ s with gate } : Server).Waits i
  := by
  rintro ⟨c, hc, hbusy⟩
  rcases GateState.busy_of_step hgate hc hbusy with ⟨data, rfl⟩ | hbefore
  · obtain ⟨hnone, hended⟩ := Bool.and_eq_true_iff.mp hadmits
    constructor
    · intro hmem
      rw [List.contains_iff_mem.mpr hmem] at hended
      cases hended
    · apply List.filter_eq_nil_iff.mpr
      intro line hline
      obtain ⟨running, hrunning, rfl⟩ := List.mem_map.mp hline
      have hother := List.all_eq_true.mp hnone running hrunning
      simpa using hother
  · apply h hbefore

/-- Every event keeps the server pipelined. -/
theorem Pipelined.step (h : s.Pipelined) (hstep : ServerStep ext cfg requireAuth s e s') :
  s'.Pipelined
  := by
  cases hstep with
  | @gate e gate hadmits hgate hpassed =>
    intro i
    refine ⟨?_, ?_⟩
    · unfold InOrder
      rw [hpassed]
      apply (h i).1
    · apply waits_of_gate (h i).2 hadmits (GateState.step_eq_some hgate)
  | @pass e gate line hadmits hgate hpassed =>
    have hgate := GateState.step_eq_some hgate
    obtain ⟨hbusy, hidle⟩ := GateState.connection_of_pass hgate hpassed
    obtain ⟨hended, hrunning⟩ := (h line.connection).2 hbusy
    intro i
    by_cases hi : line.connection = i
    · subst hi
      refine ⟨inOrder_goOn hended hrunning ?_, waits_goOn (fun _ => hidle) ?_⟩
      · rw [hpassed, linesOf_concat_self]
        rcases (h line.connection).1 with ⟨-, hbefore, -⟩ | ⟨hended', -⟩
        · rw [hbefore, hrunning, List.append_nil]
          rfl
        · exact absurd hended' hended
      · apply waits_of_gate (h line.connection).2 hadmits hgate
    · refine ⟨inOrder_goOn_of_ne hi ?_, waits_goOn (fun heq => absurd heq hi) ?_⟩
      · unfold InOrder
        rw [hpassed, linesOf_concat_of_ne _ hi]
        apply (h i).1
      · apply waits_of_gate (h i).2 hadmits hgate
  | task hi hstep => apply h.stepTask hi
  | @panic k amb line task e hi hstep => apply h.stepTask hi s.daemon (.error e)
  | evict key => apply h

/-- In every run the server is pipelined. -/
theorem pipelined_of_run {registry : ApiKeyRegistry} {start : DaemonState}
    {events : List ServerEvent}
    (hrun : run (Server.step ext cfg requireAuth) (initial registry start) events = some s) :
  s.Pipelined
  := by
  apply run_invariant_of_step _ _ hrun
  · intro s₁ e s₂ h hstep
    apply h.step (step_eq_some hstep)
  · intro i
    constructor
    · left
      exact ⟨nofun, rfl, Nat.zero_le 1⟩
    · intro _
      exact ⟨nofun, rfl⟩

/-- In every interleaving of any number of connections, the lines of each connection that were
passed to the handler are answered in their order, and each once: all of them are, but the one whose
task is running, or the one whose task has panicked, and then the connection has ended. -/
theorem inOrder_of_run {registry : ApiKeyRegistry} {start : DaemonState} {events : List ServerEvent}
    (hrun : run (Server.step ext cfg requireAuth) (initial registry start) events = some s) :
  ∀ i, s.InOrder i
  := by
  intro i
  apply (pipelined_of_run hrun i).1

/-- Two connections authenticate; the first sets `k` and gets it, while the second deletes it. -/
def deletedRun : List ServerEvent :=
  [.gate .connect, .gate .connect, .gate (.read 0 (asBytes "auth s")),
    .gate (.read 1 (asBytes "auth s")), .gate (.read 0 (asBytes "set k v")),
    .gate (.checkQuota 0 0), .gate (.revalidate 0), .gate (.checkPermission 0),
    .step 0 plainAmbient, .step 0 plainAmbient, .gate (.read 1 (asBytes "del k")),
    .gate (.checkQuota 1 1), .gate (.revalidate 1), .gate (.checkPermission 1),
    .step 0 plainAmbient, .step 1 plainAmbient, .step 0 plainAmbient,
    .gate (.read 0 (asBytes "get k")), .gate (.checkQuota 0 2), .gate (.revalidate 0),
    .gate (.checkPermission 0)]

/-- In this run, the `SET` is answered, and the `GET` and the `DEL` are in hand. -/
theorem inOrder_deletedRun :
  ∃ s, run (Server.step plainExternals plainConfig true)
      (initial GateState.writerRegistry (.empty "node")) deletedRun = some s ∧
    (s.answeredOf 0).map PassedLine.data = [asBytes "set k v"] ∧
    (s.runningOf 0).map PassedLine.data = [asBytes "get k"] ∧
    (s.runningOf 1).map PassedLine.data = [asBytes "del k"] ∧ ∀ i, s.InOrder i
  := by
  have hlines : (run (Server.step plainExternals plainConfig true)
      (initial GateState.writerRegistry (.empty "node")) deletedRun).map (fun s =>
        ((s.answeredOf 0).map PassedLine.data, (s.runningOf 0).map PassedLine.data,
          (s.runningOf 1).map PassedLine.data))
      = some ([asBytes "set k v"], [asBytes "get k"], [asBytes "del k"]) := by
    decide +kernel
  obtain ⟨s, hrun, hlines⟩ := Option.map_eq_some_iff.mp hlines
  obtain ⟨hanswered, hlines⟩ := Prod.mk.inj hlines
  obtain ⟨hfirst, hsecond⟩ := Prod.mk.inj hlines
  exact ⟨s, hrun, hanswered, hfirst, hsecond, inOrder_of_run hrun⟩

end Server

end Cachee
