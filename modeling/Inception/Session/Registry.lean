import Inception.Session.Admin
import Inception.Log

/-!
# Registry — the sessions of the server, and the admin commands that reach across them

`inception_context.cc` keeps the context of every connection in one map, `g_ctx_map`, under one
mutex.  `kill_session` and `set_sleep_by_thread_id` change the first active session of a thread
id, `get_active_sessions` lists the active ones, and `handle_inception_command` answers
`inception kill`, `inception set sleep` and `inception show sessions` with them.

A connection's context lives in its session while its thread waits for requests, and in the
engine's state while a commit in execute mode runs `execute_statements` (§1).  With distinct
thread ids, an admin command run on the map is, on every connection, what that session's own
model says (§3): an idle session handles the request `Request.admin`, and a running engine takes
the move `kill` or `set sleep` of `ExecStep`.
-/

namespace Inception

/-! ## 1. Connections -/

/-- What a connection's thread is doing: waiting for a request, with its session; or running the
    `execute_statements` of a commit, with the session's current database and the engine's state,
    whose context is the session's while it runs. -/
inductive Phase
  | idle (s : Session)
  | running (thdDb : Option String) (e : ExecState)

/-- An entry of `g_ctx_map`: the thread id of the connection's `THD`, and what its thread is
    doing. -/
structure Conn where
  tid : Nat
  phase : Phase

namespace Phase

/-- The connection's context, where the other threads find it. -/
def ctx : Phase → InceptionContext
  | .idle s => s.ctx
  | .running _ e => e.ctx

/-- The context replaced where it lives. -/
def setCtx (ctx : InceptionContext) : Phase → Phase
  | .idle s => .idle { s with ctx }
  | .running db e => .running db { e with ctx }

/-- The session's records: the batch's, amended in place while the engine runs. -/
def cacheNodes : Phase → List SqlCacheNode
  | .idle s => s.ctx.batch.cacheNodes
  | .running _ e => e.handled ++ e.todo

@[simp] theorem ctx_setCtx (ctx : InceptionContext) (p : Phase) : (p.setCtx ctx).ctx = ctx := by
  cases p <;> rfl

end Phase

/-- The environment of the thread `tid`: the server's knobs, cipher, remote and parser, with the
    thread's own id. -/
def SessionEnv.onThread (env : SessionEnv) (tid : Nat) : SessionEnv := { env with threadId := tid }

@[simp] theorem SessionEnv.onThread_threadId (env : SessionEnv) (tid : Nat) :
    (env.onThread tid).threadId = tid := rfl

/-! ## 2. `inception_context.cc` -/

/-- `kill_session`: the first connection of the thread whose session is active is marked killed,
    and a forced kill reads the remote thread to kill (`killSession`); `none` when there is no
    such connection. -/
def killSessionIn (tid : Nat) (force : Bool) : List Conn → Option (List Conn × Option RemoteQuery)
  | [] => none
  | c :: cs =>
    match (if c.tid = tid then killSession force c.phase.ctx else none) with
    | some (ctx, k) => some ({ c with phase := c.phase.setCtx ctx } :: cs, k)
    | none => (killSessionIn tid force cs).map fun r => (c :: r.1, r.2)

/-- `set_sleep_by_thread_id`: the first connection of the thread whose session is active takes
    the sleep time; `none` when there is no such connection. -/
def setSleepByThreadId (tid ms : Nat) : List Conn → Option (List Conn)
  | [] => none
  | c :: cs =>
    if c.tid = tid ∧ c.phase.ctx.active then
      let ctx := { c.phase.ctx with opts := { c.phase.ctx.opts with sleepMs := ms } }
      some ({ c with phase := c.phase.setCtx ctx } :: cs)
    else (setSleepByThreadId tid ms cs).map (c :: ·)

/-- `destroy_context`: the connection's entry is erased. -/
def destroyContext (tid : Nat) (reg : List Conn) : List Conn := reg.filter (·.tid ≠ tid)

/-- A row of `get_active_sessions`: the connection's id, its context, and the records its
    context holds (while the engine runs, as it has left them). -/
def sessionInfo (c : Conn) : SessionInfo := sessionInfoOf c.tid c.phase.ctx c.phase.cacheNodes

/-- `get_active_sessions`: a row per active session, in the map's order. -/
def getActiveSessions (reg : List Conn) : List SessionInfo :=
  (reg.filter fun c => c.phase.ctx.active).map sessionInfo

/-! ## 3. `handle_inception_command` on the map -/

/-- What an admin command answers: `my_ok`, an error, the rows of `show sessions`, the result set
    of `get sqltypes`, or the answer of `get encrypt_password`. -/
inductive AdminReply
  | ok
  | error (msg : String)
  | sessions (rows : List SessionInfo)
  | sqltypes
  | password (answer : Except String String)

/-- An admin command run on the map, its answer, and the `KILL` a forced kill sends on a
    connection of its own. -/
def handleInceptionCommand (env : SessionEnv) (reg : List Conn) :
    AdminCommand → List Conn × AdminReply × Option RemoteQuery
  | .showSessions => (reg, .sessions (getActiveSessions reg), none)
  | .setSleep tid ms =>
    match setSleepByThreadId tid ms reg with
    | some reg' => (reg', .ok, none)
    | none => (reg, .error (threadNotFound tid), none)
  | .getSqltypes => (reg, .sqltypes, none)
  | .encryptPassword plain =>
    (reg, .password (encryptPasswordResult env.cipher env.sv.inceptionPasswordEncryptKey plain), none)
  | .kill tid force =>
    match killSessionIn tid force reg with
    | some (reg', k) => (reg', .ok, k)
    | none => (reg, .error (threadNotFound tid), none)
  | .usage msg => (reg, .error msg, none)

/-- The thread id a command acts on: `kill` and `set sleep` name one. -/
def AdminCommand.target : AdminCommand → Option Nat
  | .kill tid _ => some tid
  | .setSleep tid _ => some tid
  | _ => none

/-- An admin command as one connection's own model sees it: an idle session handles the request
    `Request.admin`; a running engine takes the move `kill` or `set sleep` of `ExecStep` when the
    command names its thread and its session is active. -/
def Phase.admin (env : SessionEnv) (cmd : AdminCommand) : Phase → Phase
  | .idle s => .idle (handleRequest env s (.admin cmd)).1
  | .running db e =>
    .running db (match cmd with
      | .kill tid _ => if tid = env.threadId ∧ e.ctx.active then ExecMove.kill.apply e else e
      | .setSleep tid ms =>
        if tid = env.threadId ∧ e.ctx.active then (ExecMove.setSleep ms).apply e else e
      | _ => e)

/-- A command that names another thread leaves a connection as it is. -/
theorem Phase.admin_of_target_ne (env : SessionEnv) (cmd : AdminCommand)
    (h : cmd.target ≠ some env.threadId) (p : Phase) : p.admin env cmd = p := by
  cases p <;> cases cmd <;>
    simp_all [Phase.admin, AdminCommand.target, handleRequest, applyAdmin]

/-- On the thread it names, `kill` is `killSession` on the context, wherever it lives. -/
theorem Phase.admin_kill (env : SessionEnv) (force : Bool) (p : Phase) :
    p.admin env (.kill env.threadId force) =
      match killSession force p.ctx with
      | some (ctx, _) => p.setCtx ctx
      | none => p := by
  cases p with
  | idle s =>
    rcases hk : killSession force s.ctx with _ | ⟨ctx, k⟩ <;>
      simp [Phase.admin, handleRequest, applyAdmin, hk, Phase.setCtx, Phase.ctx]
  | running db e =>
    simp only [Phase.admin, Phase.ctx, killSession, true_and]
    by_cases ha : e.ctx.active = true <;> simp [ha, ExecMove.apply, Phase.setCtx]

/-- On the thread it names, `set sleep` sets the active session's sleep time. -/
theorem Phase.admin_setSleep (env : SessionEnv) (ms : Nat) (p : Phase) :
    p.admin env (.setSleep env.threadId ms) =
      if p.ctx.active then p.setCtx { p.ctx with opts := { p.ctx.opts with sleepMs := ms } }
      else p := by
  cases p with
  | idle s =>
    simp only [Phase.admin, handleRequest, applyAdmin, if_true, Phase.ctx]
    split <;> rfl
  | running db e =>
    simp only [Phase.admin, Phase.ctx, true_and]
    split <;> rfl

section Refinement

variable (env : SessionEnv)

/-- Every connection's image under an admin command. -/
def adminAll (cmd : AdminCommand) (reg : List Conn) : List Conn :=
  reg.map fun c => { c with phase := c.phase.admin (env.onThread c.tid) cmd }

theorem adminAll_cons (cmd : AdminCommand) (c : Conn) (cs : List Conn) :
    adminAll env cmd (c :: cs) = { c with phase := c.phase.admin (env.onThread c.tid) cmd } ::
      adminAll env cmd cs := rfl

/-- Connections of other threads are left as they are. -/
theorem adminAll_of_target (cmd : AdminCommand) {tid : Nat} (ht : cmd.target = some tid)
    {cs : List Conn} (hcs : tid ∉ cs.map Conn.tid) : adminAll env cmd cs = cs := by
  induction cs with
  | nil => rfl
  | cons c cs ih =>
    simp only [List.map_cons, List.mem_cons, not_or] at hcs
    rw [adminAll_cons, ih hcs.2,
      Phase.admin_of_target_ne _ _ (by simpa [ht] using hcs.1)]

theorem killSessionIn_registry (tid : Nat) (force : Bool) :
    ∀ reg : List Conn, (reg.map Conn.tid).Nodup →
      ((killSessionIn tid force reg).map Prod.fst).getD reg = adminAll env (.kill tid force) reg
  | [], _ => rfl
  | c :: cs, hnd => by
    rw [List.map_cons, List.nodup_cons] at hnd
    have ih := killSessionIn_registry tid force cs hnd.2
    by_cases hc : c.tid = tid
    · subst hc
      have hp := Phase.admin_kill (env.onThread c.tid) force c.phase
      simp only [SessionEnv.onThread_threadId] at hp
      rw [adminAll_cons, hp, adminAll_of_target env (.kill c.tid force) rfl hnd.1]
      rcases hk : killSession force c.phase.ctx with _ | ⟨ctx, k⟩
      · rcases hcs : killSessionIn c.tid force cs with _ | ⟨cs', k'⟩ <;>
          simp_all [killSessionIn, adminAll_of_target env (.kill c.tid force) rfl hnd.1]
      · simp [killSessionIn, hk]
    · have hp := Phase.admin_of_target_ne (env.onThread c.tid) (.kill tid force)
        (by simpa [AdminCommand.target] using Ne.symm hc) c.phase
      rw [adminAll_cons, hp, ← ih]
      rcases hcs : killSessionIn tid force cs with _ | ⟨cs', k'⟩ <;> simp [killSessionIn, hc, hcs]

theorem setSleepByThreadId_registry (tid ms : Nat) :
    ∀ reg : List Conn, (reg.map Conn.tid).Nodup →
      (setSleepByThreadId tid ms reg).getD reg = adminAll env (.setSleep tid ms) reg
  | [], _ => rfl
  | c :: cs, hnd => by
    rw [List.map_cons, List.nodup_cons] at hnd
    have ih := setSleepByThreadId_registry tid ms cs hnd.2
    by_cases hc : c.tid = tid
    · subst hc
      have hp := Phase.admin_setSleep (env.onThread c.tid) ms c.phase
      simp only [SessionEnv.onThread_threadId] at hp
      rw [adminAll_cons, hp]
      by_cases ha : c.phase.ctx.active = true
      · simp [setSleepByThreadId, ha, adminAll_of_target env (.setSleep c.tid ms) rfl hnd.1]
      · rcases hcs : setSleepByThreadId c.tid ms cs with _ | cs' <;>
          simp_all [setSleepByThreadId, adminAll_of_target env (.setSleep c.tid ms) rfl hnd.1]
    · have hp := Phase.admin_of_target_ne (env.onThread c.tid) (.setSleep tid ms)
        (by simpa [AdminCommand.target] using Ne.symm hc) c.phase
      rw [adminAll_cons, hp, ← ih]
      rcases hcs : setSleepByThreadId tid ms cs with _ | cs' <;> simp [setSleepByThreadId, hc, hcs]

/-- With distinct thread ids, the map an admin command leaves is every connection's image. -/
theorem handleInceptionCommand_adminAll (reg : List Conn) (hnd : (reg.map Conn.tid).Nodup)
    (cmd : AdminCommand) : (handleInceptionCommand env reg cmd).1 = adminAll env cmd reg := by
  have hnone : cmd.target = none → adminAll env cmd reg = reg := fun h => by
    conv_rhs => rw [← List.map_id reg]
    exact List.map_congr_left fun c _ => by
      rw [Phase.admin_of_target_ne _ _ (by simp [h])]; rfl
  cases cmd with
  | kill tid force =>
    rw [← killSessionIn_registry env tid force reg hnd]
    simp only [handleInceptionCommand]
    split <;> simp_all
  | setSleep tid ms =>
    rw [← setSleepByThreadId_registry env tid ms reg hnd]
    simp only [handleInceptionCommand]
    split <;> simp_all
  | _ => exact (hnone rfl).symm

@[simp] theorem map_tid_adminAll (cmd : AdminCommand) (reg : List Conn) :
    (adminAll env cmd reg).map Conn.tid = reg.map Conn.tid := by
  simp [adminAll, Function.comp_def]

end Refinement

/-- The `KILL` a kill command sends is the forced kill of an active session of the thread, read
    off its context where it lives. -/
theorem killSessionIn_kill {tid : Nat} {force : Bool} {q : RemoteQuery} :
    ∀ {reg reg' : List Conn}, killSessionIn tid force reg = some (reg', some q) →
      ∃ c ∈ reg, c.tid = tid ∧ c.phase.ctx.active = true ∧ 0 < c.phase.ctx.remoteExecThreadId ∧
        q = .killThread c.phase.ctx.remoteExecThreadId
  | [], _, h => nomatch h
  | c :: cs, reg', h => by
    have later : (killSessionIn tid force cs).map (fun r => (c :: r.1, r.2)) = some (reg', some q) →
        ∃ c' ∈ c :: cs, c'.tid = tid ∧ c'.phase.ctx.active = true ∧
          0 < c'.phase.ctx.remoteExecThreadId ∧ q = .killThread c'.phase.ctx.remoteExecThreadId :=
      fun h => by
        obtain ⟨⟨cs', k'⟩, hcs, he⟩ := Option.map_eq_some'.mp h
        obtain ⟨-, rfl⟩ := Prod.mk.inj he
        obtain ⟨c', hc', h'⟩ := killSessionIn_kill hcs
        exact ⟨c', .tail _ hc', h'⟩
    by_cases hc : c.tid = tid
    · by_cases ha : c.phase.ctx.active = true
      · simp only [killSessionIn, hc, if_true, killSession, ha, Bool.not_true] at h
        obtain ⟨-, hq⟩ := Prod.mk.inj (Option.some.inj h)
        split at hq
        next hf => exact ⟨c, .head _, hc, ha, hf.2.1, (Option.some.inj hq).symm⟩
        · cases hq
      · simp only [killSessionIn, hc, if_true, killSession, ha] at h
        exact later (by simpa using h)
    · simp only [killSessionIn, hc, if_false] at h
      exact later h

/-! ## 4. A thread's connection -/

/-- The phase of a thread's connection, as `get_context` finds it. -/
def lookupConn (tid : Nat) : List Conn → Option Phase
  | [] => none
  | c :: cs => if c.tid = tid then some c.phase else lookupConn tid cs

section Lookup

variable {tid : Nat} {p : Phase}

theorem lookupConn_some : ∀ {reg : List Conn}, lookupConn tid reg = some p →
    ∃ c ∈ reg, c.tid = tid ∧ c.phase = p
  | [], h => nomatch h
  | c :: cs, h => by
    simp only [lookupConn] at h
    split at h
    next hc => exact ⟨c, .head _, hc, Option.some.inj h⟩
    · obtain ⟨c', hc', h'⟩ := lookupConn_some h
      exact ⟨c', .tail _ hc', h'⟩

theorem lookupConn_of_mem : ∀ {reg : List Conn}, (reg.map Conn.tid).Nodup → ∀ {c : Conn}, c ∈ reg →
    lookupConn c.tid reg = some c.phase
  | [], _, _, h => nomatch h
  | c' :: cs, hnd, c, h => by
    rw [List.map_cons, List.nodup_cons] at hnd
    rcases List.mem_cons.mp h with rfl | h
    · simp [lookupConn]
    · have hne : c'.tid ≠ c.tid := fun he => hnd.1 (he ▸ List.mem_map_of_mem Conn.tid h)
      simp [lookupConn, hne, lookupConn_of_mem hnd.2 h]

theorem lookupConn_adminAll (env : SessionEnv) (cmd : AdminCommand) :
    ∀ reg : List Conn, lookupConn tid (adminAll env cmd reg) =
      (lookupConn tid reg).map (·.admin (env.onThread tid) cmd)
  | [] => rfl
  | c :: cs => by
    rw [adminAll_cons]
    by_cases ht : c.tid = tid <;> simp [lookupConn, ht, lookupConn_adminAll env cmd cs]

end Lookup

/-- **An admin command on the map is each session's own model at work.**  When the connections'
    thread ids are distinct, an admin command leaves the map with the same threads, each connection
    as its own model moves it: an idle session as the request `Request.admin` of `handleRequest`
    does, a running engine by the `kill` or `set sleep` move of `ExecStep` when the command names
    its active session.  A connection the command does not name is left as it was. -/
theorem registry_admin_refines (env : SessionEnv) (reg : List Conn)
    (hnd : (reg.map Conn.tid).Nodup) (cmd : AdminCommand) :
    (handleInceptionCommand env reg cmd).1.map Conn.tid = reg.map Conn.tid ∧
      ∀ c ∈ reg, lookupConn c.tid (handleInceptionCommand env reg cmd).1 =
          some (c.phase.admin (env.onThread c.tid) cmd) ∧
        (cmd.target ≠ some c.tid →
          lookupConn c.tid (handleInceptionCommand env reg cmd).1 = some c.phase) := by
  rw [handleInceptionCommand_adminAll env reg hnd cmd, map_tid_adminAll]
  refine ⟨rfl, fun c hc => ?_⟩
  rw [lookupConn_adminAll, lookupConn_of_mem hnd hc, Option.map_some']
  exact ⟨rfl, fun ht => by rw [Phase.admin_of_target_ne _ _ (by simpa using ht)]⟩

/-- An idle active session on thread 5, and thread 7 running a commit of an active session. -/
def twoConns : List Conn :=
  [⟨5, .idle { ctx := { active := true } }⟩, ⟨7, .running none (.init { active := true } 7)⟩]

theorem registry_admin_refines_kill :
    (twoConns.map Conn.tid).Nodup ∧
      ((handleInceptionCommand offlineEnv twoConns (.kill 7 true)).1.map Conn.tid =
          twoConns.map Conn.tid ∧
        ∀ c ∈ twoConns, lookupConn c.tid (handleInceptionCommand offlineEnv twoConns (.kill 7 true)).1 =
            some (c.phase.admin (offlineEnv.onThread c.tid) (.kill 7 true)) ∧
          ((AdminCommand.kill 7 true).target ≠ some c.tid →
            lookupConn c.tid (handleInceptionCommand offlineEnv twoConns (.kill 7 true)).1 =
              some c.phase)) :=
  ⟨by decide, registry_admin_refines offlineEnv twoConns (by decide) (.kill 7 true)⟩

end Inception
