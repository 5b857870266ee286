import Inception.Audit.Modes
import Inception.Session.Results

/-!
# Preview — check mode sees what execute mode will run

A batch in check mode and the same batch in execute mode differ only in `ctx->mode`.  Outside
the two markers, the mode is read by `intercept_statement` alone, which caches and audits a
statement alike in both modes, by no audit block (`auditStatement_withMode`), and by
`inception show sessions`, whose row of the session itself names its mode.  So, request by
request, the execute-mode session is the check-mode session with its mode changed, every reply is
the same but for the mode in that row (`audit_runs_agree_across_modes`), and the commit in
execute mode runs `execute_statements` on exactly the records check mode replies with
(`execute_commit_runs_checked_records`).

The remote a batch's options name must not depend on their mode (`RemoteIgnoresMode`): the
remote's answers to the audit's probes are then the same in both runs.
-/

namespace Inception

/-- The session with its operation mode set to `m`. -/
def Session.withMode (s : Session) (m : OpMode) : Session := { s with ctx := s.ctx.withMode m }

theorem OpMode.audits_iff (m : OpMode) : m.audits = true ↔ m = .check ∨ m = .execute := by
  cases m <;> simp [OpMode.audits]

/-- The reply the session would get in mode `m`: the mode of its own row of `show sessions`
    changed; no other reply names the mode. -/
def ClientReply.withMode (m : OpMode) : ClientReply → ClientReply
  | .sessions (some row) => .sessions (some { row with mode := modeName m })
  | r => r

/-- The outcome with its reply in mode `m`. -/
def Outcome.withMode (o : Outcome) (m : OpMode) : Outcome := { o with reply := o.reply.withMode m }

/-- A start or a commit marker: the requests that set or read the mode outside
    `intercept_statement`. -/
def Request.marker : Request → Bool
  | .query text _ => isInceptionCommit text || isInceptionStart text
  | _ => false

/-- The remote a batch's connection options name does not depend on their mode. -/
def SessionEnv.RemoteIgnoresMode (env : SessionEnv) : Prop :=
  ∀ (o : SessionOptions) (m : OpMode), env.remote { o with mode := m } = env.remote o

/-! ## 1. The hooks, one by one -/

section Hooks

variable (env : SessionEnv) (s : Session) (c : InceptionContext) (m : OpMode)

@[simp] theorem Session.withMode_withMode (m' : OpMode) :
    (s.withMode m).withMode m' = s.withMode m' := rfl
@[simp] theorem Session.withMode_mode_self : s.withMode s.ctx.opts.mode = s := rfl
theorem Session.withMode_of_mode (h : s.ctx.opts.mode = m) : s.withMode m = s := by subst h; rfl
@[simp] theorem Session.withMode_ctx : (s.withMode m).ctx = s.ctx.withMode m := rfl
@[simp] theorem Session.withMode_thdDb : (s.withMode m).thdDb = s.thdDb := rfl
@[simp] theorem InceptionContext.withMode_mode : (c.withMode m).opts.mode = m := rfl

theorem InceptionContext.addSql_withMode (sql : String) (cmd : SqlCommand) :
    (c.withMode m).addSql sql cmd = ((c.addSql sql cmd).1.withMode m, (c.addSql sql cmd).2) := rfl

theorem InceptionContext.setLastNode_withMode (node : SqlCacheNode) :
    (c.withMode m).setLastNode node = (c.setLastNode node).withMode m := rfl

theorem auditEnv_withMode (h : env.RemoteIgnoresMode) : env.auditEnv (s.withMode m) = env.auditEnv s := by
  unfold SessionEnv.auditEnv
  rw [show (s.withMode m).ctx.opts = { s.ctx.opts with mode := m } from rfl, h]
  rfl

theorem killSession_withMode (force : Bool) :
    killSession force (c.withMode m) = (killSession force c).map fun p => (p.1.withMode m, p.2) := by
  unfold killSession
  rw [InceptionContext.withMode_active]
  cases c.active <;> rfl

/-- Of the admin commands, only `show sessions` reads the mode, into the session's own row. -/
theorem applyAdmin_withMode (tid : Nat) (cmd : AdminCommand) :
    applyAdmin tid cmd (c.withMode m) =
      ((applyAdmin tid cmd c).1.withMode m, (applyAdmin tid cmd c).2.withMode m) := by
  unfold applyAdmin
  split
  case h_2 tid' force =>
    split
    · rw [killSession_withMode]
      cases killSession force c <;> rfl
    · rfl
  case h_3 =>
    split
    · rw [InceptionContext.withMode_active]
      cases c.active <;> rfl
    · rfl
  case h_4 =>
    rw [InceptionContext.withMode_active]
    cases c.active <;> rfl
  all_goals rfl

/-- Outside the markers, `before_parse` only answers admin commands, which read the mode only
    into the session's own row of `show sessions`. -/
theorem beforeParse_withMode (q : String) (hc : isInceptionCommit q = false)
    (hs : isInceptionStart q = false) :
    beforeParse env (s.withMode m) q =
      ((beforeParse env s q).1.withMode m, (beforeParse env s q).2.map (·.withMode m)) := by
  simp only [beforeParse, hc, hs, Bool.false_eq_true, if_false, Session.withMode_ctx]
  split
  · rw [applyAdmin_withMode]; rfl
  · rfl

theorem handleParseError_withMode (text msg : String) :
    handleParseError (s.withMode m) text msg = (handleParseError s text msg).map (·.withMode m) := by
  unfold handleParseError
  rw [Session.withMode_ctx, InceptionContext.withMode_active]
  cases s.ctx.active <;> rfl

theorem auditIntercept_withMode (h : env.RemoteIgnoresMode) (text : String) (stmt : Stmt) :
    auditIntercept env (s.withMode m) text stmt = (auditIntercept env s text stmt).withMode m := by
  simp only [auditIntercept, auditEnv_withMode env s m h, Session.withMode_ctx,
    InceptionContext.addSql_withMode, AuditState.mk_withMode, auditStatement_withMode,
    AuditState.withMode_ctx, AuditState.withMode_node, InceptionContext.setLastNode_withMode]
  rfl

/-- In check and execute mode, `intercept_statement` takes the same statements and treats them
    alike. -/
theorem interceptStatement_withMode (h : env.RemoteIgnoresMode) (hs : s.ctx.opts.mode.audits = true)
    (hm : m.audits = true) (text : String) (stmt : Stmt) :
    interceptStatement env (s.withMode m) text stmt =
      (interceptStatement env s text stmt).map (·.withMode m) := by
  unfold interceptStatement
  simp only [Session.withMode_ctx, InceptionContext.withMode_active, InceptionContext.withMode_mode]
  split_ifs
  · rfl
  · rfl
  · rfl
  · obtain hs | hs := (OpMode.audits_iff _).1 hs <;> obtain rfl | rfl := (OpMode.audits_iff _).1 hm <;>
      simp only [hs, Option.map_some', auditIntercept_withMode env s _ h]

theorem serverExecute_withMode (stmt : Stmt) :
    serverExecute (s.withMode m) stmt = (serverExecute s stmt).withMode m := by
  unfold serverExecute
  split <;> rfl

end Hooks

/-! ## 2. A request, and a run -/

section Run

variable (env : SessionEnv) (h : env.RemoteIgnoresMode)

include h in
/-- A request that is not a marker, in check or execute mode: the session in another of the two
    modes takes the same step and gets the same answer, but for the mode in its own row of
    `show sessions`. -/
theorem handleRequest_withMode (s : Session) (m : OpMode) (r : Request)
    (hs : s.ctx.opts.mode.audits = true) (hm : m.audits = true) (hr : r.marker = false) :
    handleRequest env (s.withMode m) r =
      ((handleRequest env s r).1.withMode m, (handleRequest env s r).2.withMode m) := by
  cases r with
  | query text parsed =>
    simp only [Request.marker, Bool.or_eq_false_iff] at hr
    have hb₀ := beforeParse_withMode env s s.ctx.opts.mode text hr.1 hr.2
    rw [Session.withMode_mode_self] at hb₀
    simp only [handleRequest, beforeParse_withMode env s m text hr.1 hr.2]
    rcases hbp : beforeParse env s text with ⟨s₁, _ | out⟩
    · have hs₁ : s₁.ctx.opts.mode = s.ctx.opts.mode := by
        rw [hbp] at hb₀
        exact congrArg (·.1.ctx.opts.mode) hb₀
      rw [Option.map_none']
      cases parsed with
      | error msg =>
        dsimp only
        rw [handleParseError_withMode]
        cases handleParseError s₁ text msg <;> rfl
      | ok stmt =>
        dsimp only
        rw [interceptStatement_withMode env s₁ m h (hs₁ ▸ hs) hm]
        cases interceptStatement env s₁ text stmt
        · simp only [Option.map_none', serverExecute_withMode]
          rfl
        · rfl
    · rfl
  | initDb db => rfl
  | admin cmd =>
    simp only [handleRequest, Session.withMode_ctx, applyAdmin_withMode]
    rfl

include h in
/-- In check or execute mode, a request that is not a marker keeps the mode. -/
theorem handleRequest_mode (s : Session) (r : Request) (hs : s.ctx.opts.mode.audits = true)
    (hr : r.marker = false) : (handleRequest env s r).1.ctx.opts.mode = s.ctx.opts.mode := by
  have hstep := handleRequest_withMode env h s s.ctx.opts.mode r hs hs hr
  rw [Session.withMode_mode_self] at hstep
  exact congrArg (·.1.ctx.opts.mode) hstep

include h in
/-- A run of requests that are not markers, from the same session in check or execute mode: the
    sessions differ only in the mode, and the outcomes only in the mode of the session's own row
    of `show sessions`. -/
theorem runRequests_withMode (m m' : OpMode) (hm : m.audits = true) (hm' : m'.audits = true) :
    ∀ (s : Session) (rs : List Request), (∀ r ∈ rs, r.marker = false) →
      runRequests env (s.withMode m) rs =
        (runRequests env (s.withMode m') rs).map fun p => (p.1.withMode m, p.2.withMode m)
  | _, [], _ => rfl
  | s, r :: rs, hrs => by
    have hr := hrs r (List.mem_cons_self r rs)
    have hstep := handleRequest_withMode env h (s.withMode m') m r hm' hm hr
    have hmode : (handleRequest env (s.withMode m') r).1.ctx.opts.mode = m' :=
      handleRequest_mode env h (s.withMode m') r hm' hr
    rw [Session.withMode_withMode] at hstep
    simp only [runRequests, hstep, List.map_cons,
      runRequests_withMode m m' hm hm' _ rs fun r' h' => hrs r' (List.mem_cons_of_mem r h'),
      Session.withMode_of_mode _ _ hmode]

include h in
/-- The sessions of the two runs. -/
theorem runSessions_withMode (m m' : OpMode) (hm : m.audits = true) (hm' : m'.audits = true)
    (s : Session) (rs : List Request) (hrs : ∀ r ∈ rs, r.marker = false) :
    runSessions env (s.withMode m) rs = (runSessions env (s.withMode m') rs).map (·.withMode m) := by
  simp only [runSessions, runRequests_withMode env h m m' hm hm' s rs hrs, List.map_map, List.map_cons,
    Session.withMode_withMode]
  rfl

include h in
/-- Check mode previews execute mode: from the same session, a stream of requests with no
    marker takes the execute-mode session exactly where it takes the check-mode one, up to the
    mode, with the same replies but for the mode in the session's own row of `show sessions`. -/
theorem audit_runs_agree_across_modes (s : Session) (rs : List Request)
    (hrs : ∀ r ∈ rs, r.marker = false) :
    runRequests env (s.withMode .execute) rs =
      (runRequests env (s.withMode .check) rs).map fun p => (p.1.withMode .execute, p.2.withMode .execute) :=
  runRequests_withMode env h .execute .check rfl rfl s rs hrs

/-- An active session. -/
def previewSession : Session := { ctx := { active := true } }

/-- A statement the parser rejects, then a `COM_INIT_DB`. -/
def previewStream : List Request :=
  [.query "INSERT INTO t VALUES (1)" (.error "syntax error"), .initDb "d"]

/-- `previewStream`, then `inception show sessions`. -/
def sessionsStream : List Request := previewStream ++ [.admin .showSessions]

theorem audit_runs_agree_across_modes_offline :
    offlineEnv.RemoteIgnoresMode ∧ (∀ r ∈ sessionsStream, r.marker = false) ∧
      runRequests offlineEnv (previewSession.withMode .execute) sessionsStream =
        (runRequests offlineEnv (previewSession.withMode .check) sessionsStream).map
          fun p => (p.1.withMode .execute, p.2.withMode .execute) :=
  ⟨fun _ _ => rfl, by decide,
    audit_runs_agree_across_modes offlineEnv (fun _ _ => rfl) previewSession sessionsStream
      (by decide)⟩

/-- The mode the session's own row of `show sessions` names, in the last reply of a run. -/
def ownRowMode (run : List (Session × Outcome)) : Option String :=
  match run.getLast?.map fun p => p.2.reply with
  | some (ClientReply.sessions (some row)) => some row.mode
  | _ => none

/-- The two runs' last replies differ in the mode of the session's own row. -/
example : ownRowMode (runRequests offlineEnv (previewSession.withMode .check) sessionsStream) =
      some "CHECK" ∧
    ownRowMode (runRequests offlineEnv (previewSession.withMode .execute) sessionsStream) =
      some "EXECUTE" := by
  decide

include h in
/-- The commit of a batch in execute mode starts `execute_statements` on exactly the records
    the same batch, committed in check mode, replies with. -/
theorem execute_commit_runs_checked_records (s : Session) (rs : List Request)
    (hrs : ∀ r ∈ rs, r.marker = false) (t : Session)
    (ht : (runSessions env (s.withMode .check) rs).getLast? = some t) (hact : t.ctx.active = true) :
    (runSessions env (s.withMode .execute) rs).getLast? = some (t.withMode .execute) ∧
      (doInceptionCommit env t).2.reply = .results t.ctx.batch.cacheNodes ∧
      (doInceptionCommit env (t.withMode .execute)).2.exec =
        some (runMoves
          { ctx := t.ctx.withMode .execute, threadId := env.threadId, todo := t.ctx.batch.cacheNodes }
          (env.execMoves (t.ctx.withMode .execute))) := by
  have hcheck := congrArg List.getLast? (runSessions_withMode env h .check .check rfl rfl s rs hrs)
  rw [List.getLast?_map, ht] at hcheck
  have hmode : t.ctx.opts.mode = .check := congrArg (·.ctx.opts.mode) (Option.some.inj hcheck)
  refine ⟨?_, ?_, ?_⟩
  · rw [runSessions_withMode env h .execute .check rfl rfl s rs hrs, List.getLast?_map, ht]
    rfl
  · simp only [doInceptionCommit, hact, hmode, Bool.not_true, Bool.false_eq_true, if_false]
  · simp only [doInceptionCommit, Session.withMode_ctx, InceptionContext.withMode_active, hact,
      InceptionContext.withMode_mode, Bool.not_true, Bool.false_eq_true, if_false]
    rfl

/-- The check-mode session after `previewStream`. -/
def previewChecked : Session :=
  ((runSessions offlineEnv (previewSession.withMode .check) previewStream).getLast?).getD {}

theorem execute_commit_runs_checked_records_offline :
    offlineEnv.RemoteIgnoresMode ∧ (∀ r ∈ previewStream, r.marker = false) ∧
      (runSessions offlineEnv (previewSession.withMode .check) previewStream).getLast? =
        some previewChecked ∧ previewChecked.ctx.active = true ∧
      (runSessions offlineEnv (previewSession.withMode .execute) previewStream).getLast? =
          some (previewChecked.withMode .execute) ∧
        (doInceptionCommit offlineEnv previewChecked).2.reply =
          .results previewChecked.ctx.batch.cacheNodes ∧
        (doInceptionCommit offlineEnv (previewChecked.withMode .execute)).2.exec =
          some (runMoves
            { ctx := previewChecked.ctx.withMode .execute, threadId := offlineEnv.threadId,
              todo := previewChecked.ctx.batch.cacheNodes }
            (offlineEnv.execMoves (previewChecked.ctx.withMode .execute))) :=
  ⟨fun _ _ => rfl, by decide, rfl, rfl,
    execute_commit_runs_checked_records offlineEnv (fun _ _ => rfl) previewSession previewStream
      (by decide) previewChecked rfl rfl⟩

end Run

end Inception
