import Inception.Exec.Safety
import Inception.Audit.Effects
import Inception.Session.Hooks

/-!
# Commit — what a batch leaves behind

`remote_exec_thread_id` is the id of the remote connection `execute_statements` runs a batch on;
`kill <tid> force` from another session kills that remote thread while it is non-zero.  It is
stored once the connection is open and cleared at the end of the loop (§1), so every return of
`execute_statements` leaves it cleared, except the pre-scan's: that path closes the connection
and returns with its id still stored, which the commit's `reset` clears only afterwards.

A commit resets the whole context.  From that, and from each hook acting on an inactive session
only by starting it (§2), an inactive session holds no batch, no kill, no remote thread id and no
audit connection, in every state a run of requests reaches.
-/

namespace Inception

/-! ## 1. The remote thread id at the returns of `execute_statements` -/

/-- What `remote_exec_thread_id` holds along a run entered with none stored: none before the
    connect, and none at every return but the pre-scan's. -/
structure ThreadIdCleared (s : ExecState) : Prop where
  at_start : s.pc = .start → s.ctx.remoteExecThreadId = 0
  at_return : ∀ e, s.pc = .returned e → e ≠ .blocked → s.ctx.remoteExecThreadId = 0

namespace ThreadIdCleared

variable {s : ExecState}

/-- Inside the loop the invariant says nothing. -/
theorem of_running (hpc : s.pc = .loop ∨ s.pc = .wait ∨ s.pc = .exec) : ThreadIdCleared s where
  at_start h := by rcases hpc with h' | h' | h' <;> simp [h'] at h
  at_return _ h := by rcases hpc with h' | h' | h' <;> simp [h'] at h

theorem startStep (h : ThreadIdCleared s) (hpc : s.pc = .start) (r : Reply) :
    ThreadIdCleared (Inception.startStep s r) := by
  have h0 := h.at_start hpc
  rcases startStep_cases s r with ⟨-, heq⟩ | ⟨-, f, heq, -⟩ | ⟨f, heq, -⟩ | ⟨tid, heq⟩ |
      ⟨-, -, tid, conns, evs, -, heq⟩ <;> rw [heq]
  · exact ⟨nofun, fun _ _ _ => h0⟩
  · exact ⟨nofun, fun _ _ _ => h0⟩
  · exact ⟨nofun, fun _ _ _ => h0⟩
  · exact ⟨nofun, fun _ he hne => absurd (ExecPc.returned.inj he).symm hne⟩
  · exact of_running (.inl rfl)

theorem loopStep (hpc : s.pc = .loop) (r : Reply) : ThreadIdCleared (Inception.loopStep s r) := by
  rcases loopStep_cases s r with ⟨-, heq⟩ | ⟨node, rest, -, ⟨-, node', heq, -⟩ |
      ⟨-, -, node', heq, -⟩ | ⟨-, -, node', evs, heq, -⟩ | ⟨-, -, pc, evs, heq, hpc', -⟩⟩ <;>
    rw [heq]
  · exact ⟨nofun, fun _ _ _ => rfl⟩
  · exact of_running (.inl hpc)
  · exact of_running (.inl hpc)
  · exact of_running (.inl hpc)
  · exact of_running (.inr hpc')

theorem execStep (hpc : s.pc = .exec) (r : Reply) : ThreadIdCleared (Inception.execStep s r) := by
  rcases execStep_cases s r with ⟨-, heq⟩ | ⟨_, _, _, _, _, -, heq, -⟩ <;> rw [heq]
  · exact of_running (.inr (.inr hpc))
  · exact of_running (.inl rfl)

/-- **Every step keeps the invariant.** -/
theorem step (h : ThreadIdCleared s) (r : Reply) : ThreadIdCleared (Inception.step s r) := by
  cases hpc : s.pc with
  | start => rw [Inception.step, hpc]; exact h.startStep hpc r
  | loop => rw [Inception.step, hpc]; exact loopStep hpc r
  | wait =>
    obtain ⟨-, -, -, hpc', -⟩ := step_wait r hpc
    exact of_running (.inr hpc')
  | exec => rw [Inception.step, hpc]; exact execStep hpc r
  | returned e => rw [Inception.step, hpc]; exact h

/-- The run lemma: other sessions' `kill` and `set sleep` leave the thread id alone. -/
theorem reachable {ctx₀ : InceptionContext} {tid : Nat} (h0 : ctx₀.remoteExecThreadId = 0)
    (hrun : ExecReachable (ExecState.init ctx₀ tid) s) : ThreadIdCleared s := by
  induction hrun with
  | refl => exact ⟨fun _ => h0, nofun⟩
  | tail _ hstep ih =>
    cases hstep with
    | engine r => exact ih.step r
    | kill => exact ⟨ih.at_start, ih.at_return⟩
    | setSleep => exact ⟨ih.at_start, ih.at_return⟩

end ThreadIdCleared

/-- **Every return but the pre-scan's clears the remote thread id.**  For every batch, flags,
    replies and interleaving of other sessions' commands, a run of `execute_statements` entered
    with no remote thread id stored returns with none stored, unless it returns at the pre-scan:
    the empty batch, a kill seen on entry and a failed connect never store one, and the end of the
    loop clears it. -/
theorem execute_statements_thread_id_cleared (ctx₀ : InceptionContext) (tid : Nat) (s : ExecState)
    (hrun : ExecReachable (ExecState.init ctx₀ tid) s) (h0 : ctx₀.remoteExecThreadId = 0)
    (e : ExecExit) (hret : s.pc = .returned e) (hne : e ≠ .blocked) :
    s.ctx.remoteExecThreadId = 0 :=
  (ThreadIdCleared.reachable h0 hrun).at_return e hret hne

/-- An execute-mode batch of one `INSERT`. -/
def oneInsertBatch : InceptionContext :=
  { active := true, opts := { mode := .execute },
    batch := { cacheNodes := [{ id := 1, sqlText := "INSERT INTO t VALUES (1)" }], nextId := 2 } }

/-- Six engine steps against a remote that accepts the connection, as thread 42, and the
    statement. -/
def acceptingMoves : List ExecMove := List.replicate 6 (.engine { connect := .ok 42 })

theorem execute_statements_thread_id_cleared_oneInsert :
    ExecReachable (.init oneInsertBatch 7) (runMoves (.init oneInsertBatch 7) acceptingMoves) ∧
      oneInsertBatch.remoteExecThreadId = 0 ∧
      (runMoves (.init oneInsertBatch 7) acceptingMoves).pc = .returned (.finished false) ∧
      ExecExit.finished false ≠ .blocked ∧
      (runMoves (.init oneInsertBatch 7) acceptingMoves).ctx.remoteExecThreadId = 0 :=
  ⟨reachable_runMoves _ _, rfl, by decide, by decide,
    execute_statements_thread_id_cleared oneInsertBatch 7 _ (reachable_runMoves _ _) rfl (.finished false)
      (by decide) (by decide)⟩

/-- An execute-mode batch on host `h` whose one statement has an audit error, `force` off. -/
def blockedBatch : InceptionContext :=
  { active := true, opts := { mode := .execute, host := "h" },
    batch := { cacheNodes := [{ id := 1, sqlText := "DROP TABLE t", errlevel := 2,
                                errmsg := "Command is forbidden." }], nextId := 2 } }

/-- The pre-scan returns with the id of the remote connection it has just closed stored, and a
    `kill ... force` of the session until the commit's `reset` sends `KILL` for that id. -/
theorem blocked_batch_keeps_thread_id :
    (runMoves (.init blockedBatch 7) [.engine { connect := .ok 42 }]).pc = .returned .blocked ∧
      (runMoves (.init blockedBatch 7) [.engine { connect := .ok 42 }]).ctx.remoteExecThreadId =
        42 ∧
      ((killSession true (runMoves (.init blockedBatch 7)
        [.engine { connect := .ok 42 }]).ctx).map Prod.snd) = some (some (.killThread 42)) := by
  decide

/-! ## 2. An inactive session holds nothing -/

/-- What `reset` leaves of a context, as the next batch and other sessions see it: no batch (every
    cache empty, `next_id` 1), no kill, no remote thread id, no audit connection. -/
structure Cleared (ctx : InceptionContext) : Prop where
  batch : ctx.batch = {}
  killed : ctx.killed = false
  threadId : ctx.remoteExecThreadId = 0
  closed : ctx.remoteConn = none

theorem cleared_reset (ctx : InceptionContext) : Cleared ctx.reset := ⟨rfl, rfl, rfl, rfl⟩

/-- The session invariant: an inactive session's context is cleared. -/
def IdleCleared (s : Session) : Prop := s.ctx.active = false → Cleared s.ctx

/-- The sessions a run of requests passes through, the first included. -/
def runSessions (env : SessionEnv) (s : Session) (rs : List Request) : List Session :=
  s :: (runRequests env s rs).map Prod.fst

section Hooks

variable (env : SessionEnv) {s s' : Session}

/-- A hook that leaves the context as it was, or leaves the session active, keeps the invariant. -/
theorem IdleCleared.of_eq_or_active (h : IdleCleared s)
    (hs : s'.ctx = s.ctx ∨ s'.ctx.active = true) : IdleCleared s' := by
  rcases hs with hs | hs
  · unfold IdleCleared; rw [hs]; exact h
  · intro ha; simp [hs] at ha

/-- A commit leaves the session inactive and cleared. -/
theorem doInceptionCommit_cleared (h : IdleCleared s) :
    (doInceptionCommit env s).1.ctx.active = false ∧ Cleared (doInceptionCommit env s).1.ctx := by
  unfold doInceptionCommit
  split
  next hna =>
    have ha : s.ctx.active = false := by simpa using hna
    exact ⟨ha, h ha⟩
  · dsimp only
    split <;> exact ⟨rfl, rfl, rfl, rfl, rfl⟩

/-- A start marker either starts the session or leaves it cleared. -/
theorem setupInceptionSession_cleared (ctx : InceptionContext) (q : String)
    (ha : (setupInceptionSession env ctx q).2.active = false) :
    Cleared (setupInceptionSession env ctx q).2 := by
  obtain ⟨hb, hk, ht⟩ := parseInceptionStart_fresh env.sv env.cipher q ctx
  obtain ⟨hact, hconn⟩ := parseInceptionStart_active env.sv env.cipher q ctx
  rcases hp : parseInceptionStart env.sv env.cipher q ctx with ⟨_ | _, c⟩ <;>
    simp only [setupInceptionSession, hp] at ha hb hk ht hact hconn ⊢
  · simp [hact] at ha
  · exact ⟨hb, hk, ht, hconn⟩

/-- `kill` and `set sleep` act on an active session only, and keep it active. -/
theorem applyAdmin_eq_or_active (tid : Nat) (cmd : AdminCommand) (ctx : InceptionContext) :
    (applyAdmin tid cmd ctx).1 = ctx ∨ (applyAdmin tid cmd ctx).1.active = true := by
  cases cmd with
  | kill t force =>
    simp only [applyAdmin, killSession]
    by_cases ht : t = tid <;> by_cases ha : ctx.active = true <;> simp [ht, ha]
  | setSleep t ms =>
    simp only [applyAdmin]
    by_cases ht : t = tid <;> by_cases ha : ctx.active = true <;> simp [ht, ha]
  | _ => exact .inl rfl

theorem handleParseError_active (text msg : String) :
    ∀ s', handleParseError s text msg = some s' → s'.ctx.active = true := by
  simp only [handleParseError]
  split
  · simp
  next hna =>
    rintro _ ⟨⟩
    simpa using hna

/-- An intercepted statement leaves the session active: no mode's handler touches `active`. -/
theorem interceptStatement_active (text : String) (stmt : Stmt) :
    ∀ s', interceptStatement env s text stmt = some s' → s'.ctx.active = true := by
  simp only [interceptStatement]
  split
  · simp
  next hna =>
  have ha : s.ctx.active = true := by simpa using hna
  split
  · simp
  split
  · simp
  rintro _ ⟨⟩
  split
  · simp only [splitStatement, useStatement]
    split
    · split <;> exact ha
    · split <;> exact ha
  · simp only [treeStatement, useStatement]
    split
    · split <;> exact ha
    · split
      · exact ha
      · have hc := (extractQueryTree_frame Forbidden.nothing (env.remote s.ctx.opts) s.thdDb stmt
          { s.ctx with batch := { s.ctx.batch with nextId := s.ctx.batch.nextId + 1 } }).1
        exact (congrArg InceptionContext.active hc :).trans ha
  · have hc := (auditStatement_frame Forbidden.nothing (env.auditEnv s) stmt
      { node := (s.ctx.addSql ⟨stripInceptionComment text.data⟩ stmt.command).2,
        ctx := (s.ctx.addSql ⟨stripInceptionComment text.data⟩ stmt.command).1 } fun _ => rfl).1
    exact (congrArg InceptionContext.active hc :).trans ha

theorem beforeParse_cleared (h : IdleCleared s) (q : String) : IdleCleared (beforeParse env s q).1 := by
  simp only [beforeParse]
  split
  · exact fun _ => (doInceptionCommit_cleared env h).2
  have hset : IdleCleared { s with ctx := (if isInceptionStart q then
      setupInceptionSession env s.ctx q else (false, s.ctx)).2 } := by
    split
    · exact setupInceptionSession_cleared env s.ctx q
    · exact h
  generalize (if isInceptionStart q then setupInceptionSession env s.ctx q
    else (false, s.ctx)) = r at hset ⊢
  split
  · exact hset
  · split
    · exact hset.of_eq_or_active (applyAdmin_eq_or_active _ _ _)
    · exact hset

/-- **One request keeps the invariant.** -/
theorem handleRequest_cleared (h : IdleCleared s) (r : Request) :
    IdleCleared (handleRequest env s r).1 := by
  cases r with
  | query text parsed =>
    have hb := beforeParse_cleared env h text
    rcases hbp : beforeParse env s text with ⟨s₁, _ | out⟩ <;> rw [hbp] at hb
    · cases parsed with
      | error msg =>
        rcases hp : handleParseError s₁ text msg with _ | s₂ <;> simp only [handleRequest, hbp, hp]
        · exact hb
        · exact hb.of_eq_or_active (.inr (handleParseError_active text msg s₂ hp))
      | ok stmt =>
        rcases hi : interceptStatement env s₁ text stmt with _ | s₂ <;>
          simp only [handleRequest, hbp, hi]
        · exact hb.of_eq_or_active (.inl (serverExecute_ctx s₁ stmt))
        · exact hb.of_eq_or_active (.inr (interceptStatement_active env text stmt s₂ hi))
    · simpa only [handleRequest, hbp] using hb
  | initDb db => exact h
  | admin cmd => exact h.of_eq_or_active (applyAdmin_eq_or_active _ _ _)

/-- The run lemma. -/
theorem runSessions_cleared (h : IdleCleared s) (rs : List Request) :
    ∀ s' ∈ runSessions env s rs, IdleCleared s' := by
  induction rs generalizing s with
  | nil => simpa [runSessions, runRequests] using h
  | cons r rs ih =>
    intro s' hs'
    simp only [runSessions, runRequests, List.map_cons, List.mem_cons] at hs'
    rcases hs' with rfl | rfl | hs'
    · exact h
    · exact handleRequest_cleared env h r
    · exact ih (handleRequest_cleared env h r) s' (List.mem_cons_of_mem _ hs')

end Hooks

/-- **An inactive session holds nothing.**  In every session a run of requests reaches from a new
    session (with any current database), under any start markers, commits, admin commands of
    other sessions (`kill`, `set sleep`), statements parsed or not and `COM_INIT_DB`: when the
    session is not active its batch is empty (every cache, `next_id` 1), it is not killed, and it
    holds no remote thread id and no audit connection.  A commit from any of these sessions
    leaves it inactive, so cleared. -/
theorem inactive_session_cleared (env : SessionEnv) (db : Option String) (reqs : List Request) :
    ∀ s ∈ runSessions env { thdDb := db } reqs, (s.ctx.active = false → Cleared s.ctx) ∧
      ∀ text parsed, isInceptionCommit text = true →
        (handleRequest env s (.query text parsed)).1.ctx.active = false ∧
          Cleared (handleRequest env s (.query text parsed)).1.ctx := by
  intro s hs
  have h := runSessions_cleared env (fun _ => cleared_reset {}) reqs s hs
  refine ⟨h, fun text parsed hc => ?_⟩
  simpa [handleRequest, beforeParse, hc] using doInceptionCommit_cleared env h

/-- A check-mode session after its start marker and one `INSERT`. -/
def startedInsert : Session :=
  (handleRequest offlineEnv (handleRequest offlineEnv {} (.query startQuery
    (.ok { command := .emptyQuery }))).1 (.query "INSERT INTO t VALUES (1)"
      (.ok { command := .insert, queryTables := [.base none "t"] }))).1

theorem inactive_session_cleared_startedInsert :
    (handleRequest offlineEnv startedInsert
        (.query "/*inception_magic_commit*/" (.ok { command := .emptyQuery }))).1.ctx.active = false ∧
      Cleared (handleRequest offlineEnv startedInsert
        (.query "/*inception_magic_commit*/" (.ok { command := .emptyQuery }))).1.ctx :=
  (inactive_session_cleared offlineEnv none
    [.query startQuery (.ok { command := .emptyQuery }), .query "INSERT INTO t VALUES (1)"
      (.ok { command := .insert, queryTables := [.base none "t"] })] startedInsert
    (List.mem_cons_of_mem _ (List.mem_cons_of_mem _ (List.mem_cons_self _ _)))).2 _ _ (by decide)

end Inception
