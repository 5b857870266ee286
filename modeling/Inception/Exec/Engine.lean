import Mathlib.Logic.Relation
import Inception.Context
import Inception.Sysvars
import Inception.Text
import Inception.Parse
import Inception.RemoteSql

/-!
# Engine — `execute_statements` as a machine that another session can interrupt

`inception_exec.cc`.  The engine runs on the session's thread while an admin command on another
session may set `killed` (`kill_session`) or `sleep_ms` (`set_sleep_by_thread_id`) at any moment.
The engine reads `killed` only on entry and at the top of each loop iteration, so it is cut into
steps at those reads and at each iteration of `wait_for_remote_ready`:

* `start` — the empty and killed checks on entry, `connect_remote`, the pre-scan and the slave
  connections;
* `loop` — one iteration's checks: killed, a prior runtime error, `pre_execute_checks`' read-only
  gate; then either the throttle wait or the execution;
* `wait` — one iteration of `wait_for_remote_ready`;
* `exec` — `execute_one`, its warnings, the audit log and the sequence token.

Everything the outside world supplies to a step (the remote's answers, the clock, the global knobs
as read at that moment) is a `Reply`; every theorem quantifies over all of them.  The engine's
progress lines on `stderr` and the statements it sends form its trace.
-/

namespace Inception

/-- A successful execution of a statement: `affected_rows` as the client library reports it and
    the statement's `warning_count`. -/
structure ExecOk where
  affectedRows : Nat := 0
  warningCount : Nat := 0
  deriving DecidableEq, Repr

/-- What the world supplies to one step: the remote's answers (`error` carries `mysql_error()`;
    a query whose `mysql_store_result` fails is an error too), the clock, and the knobs. -/
structure Reply where
  connect : Except String Nat := .error ""
  slaveConnect : List Bool := []
  readOnly : Except String (List Row) := .ok []
  threadsRunning : Except String (List Row) := .ok []
  slaveStatus : List (Except String (List Row × Nat)) := []
  exec : Except String ExecOk := .ok {}
  warnings : Except String (List Row) := .ok []
  now : Int := 0
  elapsed : String := "0.000"
  sv : Sysvars := {}

/-- The remote queries of the execution phase other than the statements themselves. -/
inductive ExecQuery
  | readOnly | threadsRunning | slaveStatus (host : String) (port : Nat) | showWarnings
  deriving DecidableEq, Repr

/-- The engine's trace: its `stderr` progress lines (carrying the statement's id where the C++
    prints its position) and what it sends to the remote. -/
inductive ExecEvent
  | blocked
  | slaveConnectFailed (host : String) (port : Nat)
  | killed (id : Nat)
  | skipped (id : Nat)
  | precheckFailed (id : Nat)
  | waiting
  | executing (id : Nat)
  | query (q : ExecQuery)
  | sent (id : Nat) (text : String)
  | failed (id : Nat)
  | ok (id : Nat)
  deriving DecidableEq, Repr

/-- The `return` statement of `execute_statements` a run ended at. -/
inductive ExecExit
  | empty | killedOnEntry | connectFailed | blocked | finished (hasError : Bool)
  deriving DecidableEq, Repr

/-- Where the engine is. -/
inductive ExecPc
  | start | loop | wait | exec | returned (exit : ExecExit)
  deriving DecidableEq, Repr

/-- The engine's state: the session context it runs on, the statements already handled (`handled`)
    and still to handle (`todo`, whose head is the current one in `wait` and `exec`), the locals of
    `execute_statements`, and its trace. -/
structure ExecState where
  pc : ExecPc := .start
  ctx : InceptionContext
  threadId : Nat
  handled : List SqlCacheNode := []
  todo : List SqlCacheNode
  hasError : Bool := false
  stopExec : Bool := false
  slaveConns : List (String × Nat) := []
  trace : List ExecEvent := []

/-- The engine about to run on `ctx`, for the session with connection id `threadId`. -/
def ExecState.init (ctx : InceptionContext) (threadId : Nat) : ExecState :=
  { ctx, threadId, todo := ctx.batch.cacheNodes }

/-! ## The engine's helpers -/

/-- `parse_onoff_value`. -/
def parseOnoffValue : Option String → Bool
  | some v => v = "1" || eqCi v.data "on".data || eqCi v.data "true".data
  | none => false

/-- `check_remote_read_only`: the `@@GLOBAL.read_only` value, or the error text. -/
def checkRemoteReadOnly (a : Except String (List Row)) : Except String Bool :=
  match a with
  | .ok rows => .ok (match rows with
    | row :: _ => parseOnoffValue (row.col 0)
    | [] => false)
  | .error e => .error (snprintfBuf 512 ("Failed to query remote read_only status: " ++ e))

/-- `connect_remote`'s error text, with the default host. -/
def connectError (o : SessionOptions) (e : String) : String :=
  snprintfBuf 512 ("Cannot connect to remote " ++ (if o.host = "" then "127.0.0.1" else o.host) ++
    ":" ++ toString o.port ++ ": " ++ e)

/-- The statement text `execute_one` sends: the cached text without a leading start marker. -/
def execText (node : SqlCacheNode) : String := ⟨stripInceptionCommentExec node.sqlText.data⟩

/-- `affected_rows` as stored: the all-ones error value reads as 0, and the 64-bit count is cast
    to `int64_t`. -/
def affectedRowsOf (raw : Nat) : Int :=
  if raw = 2 ^ 64 - 1 then 0 else if raw < 2 ^ 63 then raw else (raw : Int) - 2 ^ 64

/-- `collect_remote_warnings` over the rows of `SHOW WARNINGS` (`Level`, `Code`, `Message`). -/
def collectRemoteWarnings (rows : List Row) (node : SqlCacheNode) : SqlCacheNode :=
  rows.foldl (fun n row =>
    let level := (row.col 0).getD "Warning"
    let text := "Remote " ++ level ++ " (code " ++ (row.col 1).getD "0" ++ "): " ++
      (row.col 2).getD ""
    if eqCi level.data "Error".data then n.appendError text else n.appendWarning text) node

/-- The pre-scan: some statement has an audit error and `force` is off, or some statement has a
    warning and `ignore_warnings` is off. -/
def prescanBlocks (force ignoreWarnings : Bool) (nodes : List SqlCacheNode) : Bool :=
  nodes.any fun n => (decide (n.errlevel ≥ errlevelError) && !force) ||
    (decide (n.errlevel ≥ errlevelWarning) && !ignoreWarnings)

/-- The slave hosts `execute_statements` connects to for the replication-delay check. -/
def connectSlaves (sv : Sysvars) (hosts : List (String × Nat)) (ok : List Bool) :
    List (String × Nat) × List ExecEvent :=
  if sv.execMaxReplicationDelay > 0 ∧ hosts ≠ [] then
    ((hosts.zip (ok ++ List.replicate hosts.length false)).filterMap
        fun (h, b) => if b then some h else none,
      (hosts.zip (ok ++ List.replicate hosts.length false)).filterMap
        fun ((h, p), b) => if b then none else some (.slaveConnectFailed h p))
  else ([], [])

/-- `static_cast<long>` of an `unsigned long`. -/
def toLong (v : Nat) : Int := if v < 2 ^ 63 then v else (v : Int) - 2 ^ 64

/-- The slave loop of one `wait_for_remote_ready` iteration: for each open slave connection in
    order, `SHOW SLAVE STATUS` and its `Seconds_Behind_Master` (column 32, `NULL` when replication
    is stopped); stop at the first slave that makes the engine wait.  Returns whether to wait, the
    largest delay seen, and the queries sent. -/
def pollSlaves (cap : Nat) :
    List (String × Nat) → List (Except String (List Row × Nat)) → Int →
      Bool × Int × List ExecEvent
  | [], _, maxDelay => (false, maxDelay, [])
  | (h, p) :: rest, answers, maxDelay =>
    let q := ExecEvent.query (.slaveStatus h p)
    let (wait, maxDelay) := match answers.headD (.error "") with
      | .ok (row :: _, numFields) =>
        if numFields > 32 then
          match row.col 32 with
          | some v =>
            let delay := (strtoul v.data).value
            (decide (delay > cap), if toLong delay > maxDelay then toLong delay else maxDelay)
          | none => (true, maxDelay)
        else (false, maxDelay)
      | _ => (false, maxDelay)
    if wait then (true, maxDelay, [q, .waiting])
    else
      let (w, m, evs) := pollSlaves cap rest answers.tail maxDelay
      (w, m, q :: evs)

/-- The `Threads_running` check of one `wait_for_remote_ready` iteration, made when the cap is
    set: whether to wait, the value read, and the events. -/
def checkThreadsRunning (cap : Nat) (answer : Except String (List Row)) :
    Bool × Option Nat × List ExecEvent :=
  if cap > 0 then
    match answer with
    | .ok (row :: _) =>
      match row.col 1 with
      | some v =>
        let n := (strtoul v.data).value
        if n > cap then (true, some n, [.query .threadsRunning, .waiting])
        else (false, some n, [.query .threadsRunning])
      | none => (false, none, [.query .threadsRunning])
    | _ => (false, none, [.query .threadsRunning])
  else (false, none, [])

/-- One iteration of `wait_for_remote_ready`: whether to wait again, with the load snapshot
    updated and the queries sent. -/
def pollOnce (s : ExecState) (r : Reply) : Bool × ExecState :=
  let primary := checkThreadsRunning r.sv.execMaxThreadsRunning r.threadsRunning
  let slaves := if !primary.1 ∧ r.sv.execMaxReplicationDelay > 0 then
      pollSlaves r.sv.execMaxReplicationDelay s.slaveConns r.slaveStatus (-1)
    else (primary.1, -1, [])
  (slaves.1,
    { s with
      ctx := { s.ctx with
        lastThreadsRunning := primary.2.1.getD s.ctx.lastThreadsRunning,
        lastReplDelay := if slaves.2.1 ≥ 0 then slaves.2.1 else s.ctx.lastReplDelay }
      trace := s.trace ++ primary.2.2 ++ slaves.2.2 })

/-- `execute_one`: whether it failed, the updated record, and the events (the statement sent, and
    `SHOW WARNINGS` when the remote reported warnings). -/
def executeOne (node : SqlCacheNode) (r : Reply) : Bool × SqlCacheNode × List ExecEvent :=
  if execText node = "" then
    (false, { node with stage := .executed, stageStatus := "Execute completed" }, [])
  else
    let sent := ExecEvent.sent node.id (execText node)
    match r.exec with
    | .error e =>
      (true, { node.appendError ("Execute failed: " ++ e) with
        stage := .executed, stageStatus := "Execute failed" }, [sent])
    | .ok res =>
      let node := { node with
                    affectedRows := affectedRowsOf res.affectedRows, executeTime := r.elapsed,
                    stage := .executed, stageStatus := "Execute completed" }
      if res.warningCount = 0 then (false, node, [sent])
      else match r.warnings with
        | .ok rows => (false, collectRemoteWarnings rows node, [sent, .query .showWarnings])
        | .error _ => (false, node, [sent, .query .showWarnings])

/-- Mark every cached statement, as the killed-on-entry and connect-failure paths do. -/
def markAll (f : SqlCacheNode → SqlCacheNode) (s : ExecState) (exit : ExecExit) : ExecState :=
  { s with pc := .returned exit, handled := s.handled ++ s.todo.map f, todo := [] }

/-! ## One step -/

/-- The entry step: the empty and killed checks, `connect_remote` (storing the remote thread id
    for `kill ... force`), the pre-scan, and the slave connections. -/
def startStep (s : ExecState) (r : Reply) : ExecState :=
  if s.todo = [] then { s with pc := .returned .empty }
  else if s.ctx.killed then
    markAll (fun n => { n with stage := .executed, stageStatus := "Killed by user" }) s
      .killedOnEntry
  else match r.connect with
    | .error e =>
      markAll (fun n => { n.appendError (connectError s.ctx.opts e) with
        stage := .executed, stageStatus := "Execute failed" }) s .connectFailed
    | .ok tid =>
      let s := { s with ctx := { s.ctx with remoteExecThreadId := tid } }
      if prescanBlocks s.ctx.opts.force s.ctx.opts.ignoreWarnings s.todo then
        { s with pc := .returned .blocked, trace := s.trace ++ [.blocked] }
      else
        let (conns, evs) := connectSlaves r.sv s.ctx.opts.slaveHosts r.slaveConnect
        { s with pc := .loop, slaveConns := conns, trace := s.trace ++ evs }

/-- The top of a loop iteration for the head of `todo`: killed, a prior runtime error, the
    read-only gate; then the throttle wait if one is configured, else the execution.  With nothing
    left the slave connections are closed and `remote_exec_thread_id` is cleared. -/
def loopStep (s : ExecState) (r : Reply) : ExecState :=
  match s.todo with
  | [] =>
    { s with
      pc := .returned (.finished s.hasError), slaveConns := [],
      ctx := { s.ctx with remoteExecThreadId := 0 } }
  | node :: rest =>
    if s.ctx.killed then
      { s with
        handled := s.handled ++ [{ node with stage := .executed, stageStatus := "Killed by user" }]
        todo := rest, trace := s.trace ++ [.killed node.id] }
    else if s.stopExec then
      { s with
        handled := s.handled ++ [{ node.appendError "Skipped: previous statement had errors." with
          stage := .skipped, stageStatus := "Skipped due to prior error" }],
        todo := rest, trace := s.trace ++ [.skipped node.id] }
    else
      let gate : Except String Bool :=
        if r.sv.execCheckReadOnly then checkRemoteReadOnly r.readOnly else .ok false
      let evs := if r.sv.execCheckReadOnly then [ExecEvent.query .readOnly] else []
      let fail (msg : String) : ExecState :=
        { s with
          handled := s.handled ++ [{ node.appendError msg with
            stage := .checked, stageStatus := "Pre-check failed" }],
          todo := rest, hasError := true, stopExec := true,
          trace := s.trace ++ evs ++ [.precheckFailed node.id] }
      match gate with
      | .error e => fail e
      | .ok true =>
        fail "Remote is read-only (read_only=ON), execution blocked by pre-check."
      | .ok false =>
        { s with
          pc := if r.sv.execMaxThreadsRunning > 0 ∨
              (s.slaveConns ≠ [] ∧ r.sv.execMaxReplicationDelay > 0) then .wait else .exec
          trace := s.trace ++ evs }

/-- The execution of the head of `todo`: `execute_one`, the progress lines, and the sequence
    token `'<time>_<thread id>_<statement id>'` (`execute_one` leaves the id as it was). -/
def execStep (s : ExecState) (r : Reply) : ExecState :=
  match s.todo with
  | [] => s
  | node :: rest =>
    let res := executeOne node r
    let seq := "'" ++ toString r.now ++ "_" ++ toString s.threadId ++ "_" ++ toString node.id ++ "'"
    { s with
      pc := .loop, todo := rest,
      handled := s.handled ++
        [if res.2.1.stage = .executed then { res.2.1 with sequence := seq } else res.2.1],
      hasError := s.hasError || res.1, stopExec := s.stopExec || (res.1 && !s.ctx.opts.force),
      trace := s.trace ++ [.executing node.id] ++ res.2.2 ++
        [if res.1 then .failed node.id else .ok node.id] }

/-- One step of the engine with the world's `Reply`. -/
def step (s : ExecState) (r : Reply) : ExecState :=
  match s.pc with
  | .start => startStep s r
  | .loop => loopStep s r
  | .wait =>
    let (needWait, s) := pollOnce s r
    if needWait then s else { s with pc := .exec }
  | .exec => execStep s r
  | .returned _ => s

/-- A step of the whole system: the engine with any reply, or another session's `kill` (which sets
    `killed`) or `set sleep` (which sets `sleep_ms`). -/
inductive ExecStep : ExecState → ExecState → Prop
  | engine (s : ExecState) (r : Reply) : ExecStep s (step s r)
  | kill (s : ExecState) : ExecStep s { s with ctx := { s.ctx with killed := true } }
  | setSleep (s : ExecState) (ms : Nat) :
      ExecStep s { s with ctx := { s.ctx with opts := { s.ctx.opts with sleepMs := ms } } }

/-- The states a run of `execute_statements` reaches from `s₀`, under every interleaving of the
    other sessions' commands. -/
def ExecReachable (s₀ s : ExecState) : Prop := Relation.ReflTransGen ExecStep s₀ s

/-- One move of the system, for replaying a given interleaving. -/
inductive ExecMove
  | engine (r : Reply)
  | kill
  | setSleep (ms : Nat)

/-- The state after a move. -/
def ExecMove.apply : ExecMove → ExecState → ExecState
  | .engine r, s => step s r
  | .kill, s => { s with ctx := { s.ctx with killed := true } }
  | .setSleep ms, s => { s with ctx := { s.ctx with opts := { s.ctx.opts with sleepMs := ms } } }

/-- The state after a sequence of moves. -/
def runMoves (s : ExecState) : List ExecMove → ExecState
  | [] => s
  | m :: ms => runMoves (m.apply s) ms

/-- A replayed interleaving is a run. -/
theorem reachable_runMoves (s : ExecState) (ms : List ExecMove) :
    ExecReachable s (runMoves s ms) := by
  induction ms generalizing s with
  | nil => exact .refl
  | cons m ms ih =>
    refine .head ?_ (ih _)
    cases m with
    | engine r => exact .engine s r
    | kill => exact .kill s
    | setSleep ms => exact .setSleep s ms

/-- The statements sent to the remote, with the id of their record. -/
def sentStmts (trace : List ExecEvent) : List (Nat × String) :=
  trace.filterMap fun | .sent id t => some (id, t) | _ => none

end Inception
