import Inception.Session.Hooks
import Inception.Audit.Effects

/-!
# Probes — a session that does not execute only reads the remote

In check, split and query-tree mode nothing a client sends is run on the remote.  The audit
connection carries the read-only probes (`SHOW ... LIKE`, `USE`, the `information_schema`
selects) and, for an `UPDATE` or `DELETE`, `EXPLAIN` of its cached text; `execute_statements`
never runs, so no statement is sent and `remote_exec_thread_id` stays 0, which keeps
`kill_session` from sending a `KILL`.

The queries a run may send are fixed by its requests (`allowedBy`); the invariant `Probing` says
that the audit connection's log holds no other query, that no remote statement is running, and
that the mode is not execute.  Each hook keeps it (§2), so every state of a run does (§3).  A
query sent on the audit connection is appended to its log, and a step that closes the connection
(a commit, a start marker) sends nothing on it first, so the log of each state holds every query
sent since the connection was opened.
-/

namespace Inception

/-! ## 1. What a run allows -/

/-- Whether `q` is `EXPLAIN` of the cached text of the request, an `UPDATE` or a `DELETE`. -/
def Request.explains (q : RemoteQuery) : Request → Bool
  | .query text (.ok stmt) =>
    stmt.command.explainsRows && q == .explain ⟨stripInceptionComment text.data⟩
  | _ => false

/-- The queries a run of `reqs` may send on the audit connection: the probes, and `EXPLAIN` of the
    cached text of one of its `UPDATE` or `DELETE` statements. -/
def allowedBy (reqs : List Request) (q : RemoteQuery) : Bool :=
  q.isProbe || reqs.any (Request.explains q)

/-- What a run of `reqs` must not send. -/
def notAllowedBy (reqs : List Request) : Forbidden :=
  ⟨fun q => !allowedBy reqs q, fun q h => by simp [allowedBy, h]⟩

/-- A start marker that selects execute mode. -/
def Request.selectsExecute (env : SessionEnv) : Request → Bool
  | .query text _ => isInceptionStart text && !isInceptionCommit text &&
      (parseInceptionStart env.sv env.cipher text {}).2.opts.mode == .execute
  | _ => false

/-- The invariant of a run of `reqs`: the audit log holds only allowed queries, no remote
    statement is running, and the mode is not execute. -/
structure Probing (reqs : List Request) (s : Session) : Prop where
  log : s.ctx.auditLog.filter (notAllowedBy reqs).bad = []
  idle : s.ctx.remoteExecThreadId = 0
  mode : s.ctx.opts.mode ≠ .execute

section Invariant

variable {reqs : List Request} {s s' : Session}

/-- The invariant reads the forbidden part of the log, the remote thread id and the mode. -/
theorem Probing.of_eq (h : Probing reqs s)
    (hidle : s'.ctx.remoteExecThreadId = s.ctx.remoteExecThreadId)
    (hmode : s'.ctx.opts.mode = s.ctx.opts.mode)
    (hl : s'.ctx.auditLog.filter (notAllowedBy reqs).bad =
      s.ctx.auditLog.filter (notAllowedBy reqs).bad) : Probing reqs s' :=
  ⟨hl ▸ h.log, hidle ▸ h.idle, hmode ▸ h.mode⟩

/-- A context just reset, or just set up from a start marker that does not select execute. -/
theorem Probing.of_fresh {ctx : InceptionContext} (hlog : ctx.auditLog = [])
    (hidle : ctx.remoteExecThreadId = 0) (hmode : ctx.opts.mode ≠ .execute) :
    Probing reqs { s with ctx } :=
  ⟨by simp [hlog], hidle, hmode⟩

end Invariant

/-! ## 2. Each hook keeps the invariant -/

section Steps

variable (env : SessionEnv) {reqs : List Request} {s : Session}

/-- A parse of a start marker does not depend on the context it resets. -/
theorem parseInceptionStart_reset (q : String) (ctx : InceptionContext) :
    parseInceptionStart env.sv env.cipher q ctx = parseInceptionStart env.sv env.cipher q {} := rfl

/-- `setup_inception_session` leaves a fresh context: no log, no remote statement, the comment's
    options. -/
theorem setupInceptionSession_fresh (ctx : InceptionContext) (q : String) :
    (setupInceptionSession env ctx q).2.auditLog = [] ∧
      (setupInceptionSession env ctx q).2.remoteExecThreadId = 0 ∧
      (setupInceptionSession env ctx q).2.opts =
        (parseInceptionStart env.sv env.cipher q {}).2.opts := by
  obtain ⟨-, -, hidle⟩ := parseInceptionStart_fresh env.sv env.cipher q ctx
  obtain ⟨-, hconn⟩ := parseInceptionStart_active env.sv env.cipher q ctx
  have hlog : (parseInceptionStart env.sv env.cipher q ctx).2.auditLog = [] := by
    simp [InceptionContext.auditLog, hconn]
  rw [← parseInceptionStart_reset env q ctx]
  simp only [setupInceptionSession]
  split <;> simp [hlog, hidle]

/-- An admin command runs nothing, and with no remote statement running it sends no `KILL`. -/
theorem applyAdmin_probing (h : Probing reqs s) (cmd : AdminCommand) :
    Probing reqs { s with ctx := (applyAdmin env.threadId cmd s.ctx).1 } ∧
      (applyAdmin env.threadId cmd s.ctx).2.exec = none ∧
      (applyAdmin env.threadId cmd s.ctx).2.kill = none := by
  have hk : ¬(0 < s.ctx.remoteExecThreadId) := by simp [h.idle]
  cases cmd with
  | kill tid force =>
    simp only [applyAdmin, killSession]
    by_cases ht : tid = env.threadId <;> by_cases ha : s.ctx.active = true
    all_goals simp [ht, ha, hk, h]
    exact h.of_eq rfl rfl rfl
  | setSleep tid ms =>
    simp only [applyAdmin]
    by_cases ht : tid = env.threadId <;> by_cases ha : s.ctx.active = true
    all_goals simp [ht, ha, h]
    exact h.of_eq rfl rfl rfl
  | _ => simp [applyAdmin, h]

/-- A commit outside execute mode runs nothing and leaves a reset context. -/
theorem doInceptionCommit_probing (h : Probing reqs s) :
    Probing reqs (doInceptionCommit env s).1 ∧ (doInceptionCommit env s).2.exec = none ∧
      (doInceptionCommit env s).2.kill = none := by
  simp only [doInceptionCommit]
  split
  · exact ⟨h, rfl, rfl⟩
  · have hf : Probing reqs { s with ctx := s.ctx.reset } := Probing.of_fresh rfl rfl (by simp)
    split
    · exact ⟨hf, rfl, rfl⟩
    · exact ⟨hf, rfl, rfl⟩
    · exact absurd ‹_› h.mode
    · exact ⟨hf, rfl, rfl⟩

/-- `before_parse` on a text that does not select execute keeps the invariant, and what it
    answers runs nothing and sends no `KILL`. -/
theorem beforeParse_probing (h : Probing reqs s) (text : String) (parsed : Except String Stmt)
    (hx : (Request.query text parsed).selectsExecute env = false) :
    Probing reqs (beforeParse env s text).1 ∧
      ∀ out, (beforeParse env s text).2 = some out → out.exec = none ∧ out.kill = none := by
  obtain ⟨hlog, hidle, hopts⟩ := setupInceptionSession_fresh env s.ctx text
  simp only [beforeParse]
  split
  · obtain ⟨h1, h2, h3⟩ := doInceptionCommit_probing env h
    exact ⟨h1, by simp [h2, h3]⟩
  next hc =>
    have hset : Probing reqs { s with ctx := (if isInceptionStart text then
        setupInceptionSession env s.ctx text else (false, s.ctx)).2 } := by
      split
      next hs =>
        refine Probing.of_fresh hlog hidle ?_
        simpa [Request.selectsExecute, hs, hc, hopts] using hx
      · exact h
    generalize (if isInceptionStart text then setupInceptionSession env s.ctx text
      else (false, s.ctx)) = r at hset ⊢
    split
    · exact ⟨hset, by simp⟩
    · split
      · obtain ⟨h1, h2, h3⟩ := applyAdmin_probing env hset ‹_›
        exact ⟨h1, by simp [h2, h3]⟩
      · exact ⟨hset, by simp⟩

/-- A failed parse is recorded in the batch only. -/
theorem handleParseError_probing (h : Probing reqs s) (text msg : String) :
    ∀ s', handleParseError s text msg = some s' → Probing reqs s' := by
  simp only [handleParseError]
  split
  · simp
  · rintro _ ⟨⟩
    exact h.of_eq rfl rfl rfl

/-- An intercepted statement of the run keeps the invariant: split mode writes the batch, the
    query-tree extractor and the audit send only allowed queries. -/
theorem interceptStatement_probing (h : Probing reqs s) (text : String) (stmt : Stmt)
    (hr : Request.query text (.ok stmt) ∈ reqs) :
    ∀ s', interceptStatement env s text stmt = some s' → Probing reqs s' := by
  simp only [interceptStatement]
  split
  · simp
  split
  · simp
  split
  · simp
  rintro _ ⟨⟩
  split
  · -- split mode
    simp only [splitStatement, useStatement]
    split
    · split
      · exact h.of_eq rfl rfl rfl
      · exact h
    · split
      · exact h
      · exact h.of_eq rfl rfl rfl
  · -- query-tree mode
    simp only [treeStatement, useStatement]
    split
    · split
      · exact h.of_eq rfl rfl rfl
      · exact h
    · split
      · exact h
      · obtain ⟨hc, hl⟩ := extractQueryTree_frame (notAllowedBy reqs) (env.remote s.ctx.opts)
          s.thdDb stmt { s.ctx with batch := { s.ctx.batch with nextId := s.ctx.batch.nextId + 1 } }
        exact h.of_eq (congrArg InceptionContext.remoteExecThreadId hc :)
          (congrArg (·.opts.mode) hc :) hl
  · -- check and execute mode
    have hx : stmt.command.explainsRows → (notAllowedBy reqs).bad
        (.explain (s.ctx.addSql ⟨stripInceptionComment text.data⟩ stmt.command).2.sqlText) =
          false := fun he => by
      simp only [notAllowedBy, allowedBy, Bool.not_eq_false', Bool.or_eq_true, List.any_eq_true]
      exact .inr ⟨_, hr, by simp [Request.explains, he]⟩
    obtain ⟨hc, hl⟩ := auditStatement_frame (notAllowedBy reqs) (env.auditEnv s) stmt
      { node := (s.ctx.addSql _ stmt.command).2, ctx := (s.ctx.addSql _ stmt.command).1 } hx
    exact h.of_eq (congrArg InceptionContext.remoteExecThreadId hc :)
      (congrArg (·.opts.mode) hc :) hl

/-- **One request.**  A request of the run that does not select execute keeps the invariant, runs
    nothing and sends no `KILL`. -/
theorem handleRequest_probing (h : Probing reqs s) (r : Request) (hr : r ∈ reqs)
    (hx : r.selectsExecute env = false) :
    Probing reqs (handleRequest env s r).1 ∧ (handleRequest env s r).2.exec = none ∧
      (handleRequest env s r).2.kill = none := by
  cases r with
  | query text parsed =>
    obtain ⟨hb, hout⟩ := beforeParse_probing env h text parsed hx
    rcases hbp : beforeParse env s text with ⟨s', _ | out⟩ <;> rw [hbp] at hb hout
    · cases parsed with
      | error msg =>
        rcases hp : handleParseError s' text msg with _ | s''
        · simp only [handleRequest, hbp, hp]
          exact ⟨hb, trivial, trivial⟩
        · simp only [handleRequest, hbp, hp]
          exact ⟨handleParseError_probing hb text msg s'' hp, trivial, trivial⟩
      | ok stmt =>
        rcases hi : interceptStatement env s' text stmt with _ | s''
        · simp only [handleRequest, hbp, hi]
          exact ⟨hb.of_eq (by simp) (by simp) (by simp), trivial, trivial⟩
        · simp only [handleRequest, hbp, hi]
          exact ⟨interceptStatement_probing env hb text stmt hr s'' hi, trivial, trivial⟩
    · simp only [handleRequest, hbp]
      exact ⟨hb, hout out rfl⟩
  | initDb db => exact ⟨h.of_eq rfl rfl rfl, rfl, rfl⟩
  | admin cmd => exact applyAdmin_probing env h cmd

end Steps

/-! ## 3. Every state of a run -/

/-- The run lemma: from a state with the invariant, along requests of `reqs`, every state keeps it
    and no outcome runs the engine or sends a `KILL`. -/
theorem runRequests_probing (env : SessionEnv) {reqs : List Request}
    (hreqs : ∀ r ∈ reqs, r.selectsExecute env = false) :
    ∀ (rs : List Request) (s : Session), (∀ r ∈ rs, r ∈ reqs) → Probing reqs s →
      ∀ p ∈ runRequests env s rs, Probing reqs p.1 ∧ p.2.exec = none ∧ p.2.kill = none
  | [], _, _, _ => by simp [runRequests]
  | r :: rs, s, hsub, h => by
    have hr := hsub r (.head _)
    simp only [runRequests, List.mem_cons, forall_eq_or_imp]
    exact ⟨handleRequest_probing env h r hr (hreqs r hr),
      runRequests_probing env hreqs rs _ (fun r' h' => hsub r' (.tail _ h'))
        (handleRequest_probing env h r hr (hreqs r hr)).1⟩

/-- **A session that never selects execute mode only reads the remote.**  Along every run of
    requests from a new session (with any current database) none of whose start markers selects
    execute mode: every query on the audit connection is a probe or `EXPLAIN` of the cached text
    of one of the run's `UPDATE` or `DELETE` statements, `execute_statements` never runs, and no
    `KILL` is sent. -/
theorem session_sends_only_probes (env : SessionEnv) (db : Option String) (reqs : List Request)
    (hreqs : ∀ r ∈ reqs, r.selectsExecute env = false) :
    ∀ p ∈ runRequests env { thdDb := db } reqs,
      (∀ q ∈ p.1.ctx.auditLog, allowedBy reqs q = true) ∧ p.2.exec = none ∧ p.2.kill = none := by
  intro p hp
  obtain ⟨h, hexec, hkill⟩ :=
    runRequests_probing env hreqs reqs { thdDb := db } (fun _ h => h) ⟨rfl, rfl, nofun⟩ p hp
  refine ⟨fun q hq => ?_, hexec, hkill⟩
  simpa [notAllowedBy] using List.filter_eq_nil_iff.1 h.log q hq

/-- A remote that accepts the audit connection and answers every query with no row. -/
def emptyRemoteEnv : SessionEnv :=
  { offlineEnv with remote := fun _ => { connect := .ok "8.0.32", answer := fun _ _ => .ok {} } }

/-- A check-mode batch with one `UPDATE`, committed. -/
def updateRun : List Request :=
  [.query startQuery (.ok { command := .emptyQuery }),
   .query "UPDATE t SET a = 1 WHERE id = 2"
     (.ok { command := .update, queryTables := [.base none "t"] }),
   .query "/*inception_magic_commit*/" (.ok { command := .emptyQuery })]

theorem session_sends_only_probes_updateRun :
    (∀ r ∈ updateRun, r.selectsExecute emptyRemoteEnv = false) ∧
      ∀ p ∈ runRequests emptyRemoteEnv { thdDb := some "d" } updateRun,
        (∀ q ∈ p.1.ctx.auditLog, allowedBy updateRun q = true) ∧ p.2.exec = none ∧
          p.2.kill = none :=
  ⟨by decide, session_sends_only_probes emptyRemoteEnv (some "d") updateRun (by decide)⟩

end Inception
