import Cachee.Daemon.Handler

/-!
# Error replies

A command whose reply is an error has changed nothing: every exit of a command with an error comes
before its first effect.  For an anchor this needs that its entry can be stored: an entry that was
inserted, but not flushed, stays in the database.
-/

open Text

namespace Cachee

/-- A reply is an error. -/
def isError (reply : String) : Bool := hasPrefix reply "-ERR"

/-- Every reply of a command is no error at all, or an error that has left the daemon as it was, if
the audit log could be stored. -/
def ErrorsKeep (amb : Ambient) (s : DaemonState) (result : Outcome (DaemonState × String)) : Prop :=
  ∀ s' reply, result = .ok (s', reply) → reply.toList.head? ≠ some '-' ∨
    isError reply = true ∧ (amb.auditFault = none → s' = s)

variable {ext : Externals} {cfg : DaemonConfig} {amb : Ambient} {s s' : DaemonState}
  {parts : List String}

/-! ### Computations with a reply -/

/-- A bulk string is no error. -/
theorem head?_bulk (text : String) :
  (bulk text).toList.head? ≠ some '-'
  := by
  simp [bulk, toString]

/-- An error starts with a minus. -/
theorem head?_of_isError {reply : String} (h : isError reply = true) :
  reply.toList.head? = some '-'
  := by
  obtain ⟨rest, hrest⟩ := List.isPrefixOf_iff_prefix.mp h
  rw [← hrest]
  rfl

/-- A command with another reply than an error may change the daemon. -/
theorem errorsKeep_reply {reply : String} (h : reply.toList.head? ≠ some '-') :
  ErrorsKeep amb s (.ok (s', reply))
  := by
  intro s'' reply' hresult
  obtain ⟨-, rfl⟩ := Prod.mk.inj (Except.ok.inj hresult)
  exact .inl h

theorem errorsKeep_error {reply : String} (h : isError reply = true) :
  ErrorsKeep amb s (.ok (s, reply))
  := by
  intro s' reply' hresult
  obtain ⟨rfl, rfl⟩ := Prod.mk.inj (Except.ok.inj hresult)
  exact .inr ⟨h, fun _ => rfl⟩

/-- What is computed before the reply does not matter. -/
theorem ErrorsKeep.bind {α : Type} {x : Outcome α} {f : α → Outcome (DaemonState × String)}
    (hf : ∀ a, ErrorsKeep amb s (f a)) :
  ErrorsKeep amb s (x >>= f)
  := by
  intro s' reply h
  obtain ⟨a, -, ha⟩ := bind_eq_ok_iff.mp h
  apply hf a s' reply ha

theorem errorsKeep_ite {c : Prop} [Decidable c] {x y : Outcome (DaemonState × String)}
    (hx : ErrorsKeep amb s x) (hy : ErrorsKeep amb s y) :
  ErrorsKeep amb s (if c then x else y)
  := by
  split
  · apply hx
  · apply hy

/-! ### The commands -/

/-- A `SET` without a required fingerprint is refused before the slot is inserted. -/
theorem errorsKeep_handleSet :
  ErrorsKeep amb s (handleSet ext cfg amb s parts)
  := by
  apply ErrorsKeep.bind
  intro key
  apply ErrorsKeep.bind
  rintro (_ | ⟨value, fingerprint⟩)
  · apply errorsKeep_error
    decide
  · apply ErrorsKeep.bind
    intro s₁
    apply errorsKeep_reply
    decide

theorem errorsKeep_handleGet :
  ErrorsKeep amb s (handleGet cfg s parts)
  := by
  apply errorsKeep_ite
  · apply errorsKeep_error
    apply hasPrefix_append
    decide
  · apply ErrorsKeep.bind
    intro key
    split
    · apply errorsKeep_reply
      apply head?_bulk
    · apply errorsKeep_reply
      decide

theorem errorsKeep_handleGetVerified :
  ErrorsKeep amb s (handleGetVerified ext amb s parts)
  := by
  apply ErrorsKeep.bind
  intro key
  apply ErrorsKeep.bind
  rintro (_ | response)
  · apply errorsKeep_reply
    decide
  · apply errorsKeep_reply
    apply head?_bulk

theorem errorsKeep_handleDel :
  ErrorsKeep amb s (handleDel ext amb s parts)
  := by
  apply ErrorsKeep.bind
  intro key
  apply errorsKeep_reply
  simp [toString]

/-- A change of state that is refused, or for which there is no slot, changes nothing. -/
theorem errorsKeep_transitionSlot {key missing toState : String} {newState : EntryState}
    {reason : Option String} (hmissing : isError missing = true) :
  ErrorsKeep amb s (.ok (s.transitionSlot ext amb key missing newState toState reason))
  := by
  rw [DaemonState.transitionSlot]
  split
  · split
    · apply errorsKeep_reply
      decide
    · apply errorsKeep_error
      exact hasPrefix_append (hasPrefix_append (by decide) _) _
  · apply errorsKeep_error hmissing

theorem errorsKeep_handleInvalidate :
  ErrorsKeep amb s (handleInvalidate ext amb s parts)
  := by
  apply ErrorsKeep.bind
  intro key
  apply ErrorsKeep.bind
  intro reason
  apply errorsKeep_transitionSlot
  decide

theorem errorsKeep_handleSupersede :
  ErrorsKeep amb s (handleSupersede ext amb s parts)
  := by
  apply ErrorsKeep.bind
  intro oldKey
  apply ErrorsKeep.bind
  intro newKey
  split
  · apply errorsKeep_error
    decide
  · apply errorsKeep_transitionSlot
    decide

theorem errorsKeep_handleState :
  ErrorsKeep amb s (handleState ext s parts)
  := by
  apply ErrorsKeep.bind
  intro key
  split
  · apply errorsKeep_reply
    apply head?_bulk
  · apply errorsKeep_reply
    decide

theorem errorsKeep_handleAuditLog :
  ErrorsKeep amb s (handleAuditLog ext s parts)
  := by
  apply ErrorsKeep.bind
  intro key
  apply errorsKeep_reply
  apply head?_bulk

/-- A broken chain is only reported. -/
theorem errorsKeep_handleAuditVerify :
  ErrorsKeep amb s (.ok (s, handleAuditVerify ext s))
  := by
  rw [handleAuditVerify]
  split
  · apply errorsKeep_reply
    apply head?_bulk
  · apply errorsKeep_error
    exact hasPrefix_append (hasPrefix_append (hasPrefix_append (hasPrefix_append (by decide) _) _) _) _
  · apply errorsKeep_error
    exact hasPrefix_append (hasPrefix_append (by decide) _) _

/-- An append that fails without a failure of the storage changes nothing. -/
theorem AuditLog.append_of_error {sha3 : Bytes → Block 32} {json : AuditJson} {log : AuditLog}
    {timestampNs : UInt64} {event : AuditEventType} {e : String}
    (h : (log.append sha3 json timestampNs none event).2 = .error e) :
  (log.append sha3 json timestampNs none event).1 = log
  := by
  rw [append] at h ⊢
  cases htext : json.entry.toVec (log.newEntry sha3 json timestampNs event) with
  | error e' => rfl
  | ok text =>
    simp only [htext] at h
    cases h

/-- An anchor that fails without a failure of the storage changes nothing. -/
theorem AuditLog.computeMerkleAnchor_of_error {sha3 : Bytes → Block 32} {json : AuditJson}
    {log : AuditLog} {timestampNs : UInt64} {e : String}
    (h : (log.computeMerkleAnchor sha3 json timestampNs none).2 = .error e) :
  (log.computeMerkleAnchor sha3 json timestampNs none).1 = log
  := by
  rw [computeMerkleAnchor] at h ⊢
  split
  · rfl
  · rename_i hsome
    rw [if_neg hsome] at h
    cases happend : log.append sha3 json timestampNs none (log.anchorEvent sha3) with
    | mk log' result =>
      cases result with
      | error e' =>
        have hlog := append_of_error (congrArg Prod.snd happend)
        rw [happend] at hlog
        apply hlog
      | ok hash =>
        rw [happend] at h
        cases h

theorem errorsKeep_handleAuditAnchor :
  ErrorsKeep amb s (.ok (handleAuditAnchor ext amb s))
  := by
  intro s' reply h
  rw [handleAuditAnchor] at h
  rcases hanchor : s.auditLog.computeMerkleAnchor ext.sha3 ext.auditJson amb.auditNow
      amb.auditFault with ⟨log, e | root⟩
  · rw [hanchor] at h
    obtain ⟨rfl, rfl⟩ := Prod.mk.inj (Except.ok.inj h)
    right
    use hasPrefix_append (hasPrefix_append (by decide) _) _
    intro hstored
    rw [hstored] at hanchor
    have hlog := AuditLog.computeMerkleAnchor_of_error (congrArg Prod.snd hanchor)
    rw [hanchor] at hlog
    obtain rfl : log = s.auditLog := hlog
    rfl
  · rw [hanchor] at h
    obtain ⟨rfl, rfl⟩ := Prod.mk.inj (Except.ok.inj h)
    left
    apply head?_bulk

theorem errorsKeep_dispatch (command : String) :
  ErrorsKeep amb s (dispatch ext cfg amb s parts command)
  := by
  apply errorsKeep_ite (errorsKeep_reply (by decide))
  apply errorsKeep_ite errorsKeep_handleSet
  apply errorsKeep_ite errorsKeep_handleGet
  apply errorsKeep_ite errorsKeep_handleGetVerified
  apply errorsKeep_ite errorsKeep_handleDel
  apply errorsKeep_ite errorsKeep_handleInvalidate
  apply errorsKeep_ite errorsKeep_handleSupersede
  apply errorsKeep_ite errorsKeep_handleState
  apply errorsKeep_ite (errorsKeep_reply (head?_bulk _))
  apply errorsKeep_ite errorsKeep_handleAuditLog
  apply errorsKeep_ite errorsKeep_handleAuditVerify
  apply errorsKeep_ite errorsKeep_handleAuditAnchor
  apply errorsKeep_error (by decide)

/-- Every reply to a line is no error at all, or an error that has left the daemon as it was, if the
audit log could be stored. -/
theorem errorsKeep_handleResp (data : Bytes) :
  ErrorsKeep amb s (handleResp ext cfg amb s data)
  := by
  rw [handleResp]
  split
  · apply errorsKeep_error
    decide
  · apply errorsKeep_dispatch

/-- In every state, a line whose reply is an error leaves the engine, the slots, the content store
and the audit log as they were, unless the entry of an anchor could not be stored. -/
theorem unchanged_of_isError {data : Bytes} {reply : String} (hstored : amb.auditFault = none)
    (hreply : handleResp ext cfg amb s data = .ok (s', reply)) (herror : isError reply = true) :
  s'.engine = s.engine ∧ s'.slots = s.slots ∧ s'.contentStore = s.contentStore ∧
    s'.auditLog = s.auditLog
  := by
  rcases errorsKeep_handleResp data s' reply hreply with hhead | ⟨-, hkeeps⟩
  · exact absurd (head?_of_isError herror) hhead
  · obtain rfl := hkeeps hstored
    exact ⟨rfl, rfl, rfl, rfl⟩

/-- An anchor of an empty log is refused, and the log stays empty. -/
theorem unchanged_emptyAnchor :
  ∃ s' reply, handleResp plainExternals plainConfig plainAmbient (DaemonState.empty "node")
      (asBytes "AUDITANCHOR") = .ok (s', reply) ∧
    reply = "-ERR no entries since last anchor\r\n" ∧
    s'.auditLog = (DaemonState.empty "node").auditLog
  := by
  have hreply : (handleResp plainExternals plainConfig plainAmbient (DaemonState.empty "node")
      (asBytes "AUDITANCHOR")).toOption.map Prod.snd
        = some "-ERR no entries since last anchor\r\n" := by
    decide +kernel
  obtain ⟨⟨s', reply⟩, hresp, rfl⟩ := map_toOption_eq_some_iff.mp hreply
  refine ⟨s', _, hresp, rfl, ?_⟩
  apply (unchanged_of_isError rfl hresp (by decide)).2.2.2

end Cachee
