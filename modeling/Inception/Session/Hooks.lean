import Mathlib.Data.List.DropRight
import Inception.Audit.Handlers
import Inception.Tree
import Inception.Exec.Engine
import Inception.Log

/-!
# Hooks — the session as the server drives it

`inception.cc`: the four hooks the server calls (`before_parse`, `handle_parse_error`,
`intercept_statement`, `handle_use_db`), the marker handling they reach
(`setup_inception_session`, `do_inception_commit`) and the admin commands of
`handle_inception_command`.

The server's own loop is not under `src/`.  A session is a sequence of requests, each handled as
the spec's state machine says: a statement goes to `before_parse`, then to the parser, then to
`handle_parse_error` or `intercept_statement`, and to the server's own execution when no hook takes
it; a `COM_INIT_DB` goes to `handle_use_db`; an admin command that another session runs on this
session's thread id is a request of its own.
-/

namespace Inception

/-! ## 1. Requests, replies and the session -/

/-- An `inception ...` command as `handle_inception_command` reads it; `usage` is an unknown
    sub-command or a bad argument, with the error it reports. -/
inductive AdminCommand
  | showSessions
  | setSleep (tid ms : Nat)
  | getSqltypes
  | encryptPassword (plain : List Char)
  | kill (tid : Nat) (force : Bool)
  | usage (msg : String)
  deriving DecidableEq, Repr

/-- Modelled from the spec: what reaches the hooks.  A statement carries the text `thd->query()`
    holds and what the parser makes of it (the `LEX`, or the message of its error); `initDb` is a
    `COM_INIT_DB`; `admin` is an admin command another session runs on this session. -/
inductive Request
  | query (text : String) (parsed : Except String Stmt)
  | initDb (db : String)
  | admin (cmd : AdminCommand)

/-- `SessionInfo`, without `elapsed_sec`: the model keeps no `session_start_time`. -/
structure SessionInfo where
  threadId : Nat
  host : String
  port : Nat
  user : String
  mode : String
  dbType : String
  sleepMs : Nat
  totalSql : Nat
  executedSql : Nat
  threadsRunning : Nat
  replDelay : Int
  deriving DecidableEq, Repr

/-- The values of the `STAGE_*` constants. -/
def Stage.toNat : Stage → Nat
  | .none => 0
  | .checked => 1
  | .executed => 2
  | .skipped => 3

/-- `dbtype_name`. -/
def dbtypeName : DbType → String
  | .mysql => "MySQL"
  | .tidb => "TiDB"

/-- The row `get_active_sessions` makes of the context of thread `tid` holding the records
    `nodes` (`mode_name` is the log's table): `executed_sql` counts the records whose stage is
    `STAGE_EXECUTED` or above. -/
def sessionInfoOf (tid : Nat) (ctx : InceptionContext) (nodes : List SqlCacheNode) : SessionInfo :=
  { threadId := tid, host := ctx.opts.host, port := ctx.opts.port, user := ctx.opts.user,
    mode := modeName ctx.opts.mode, dbType := dbtypeName ctx.dbType, sleepMs := ctx.opts.sleepMs,
    totalSql := nodes.length, executedSql := nodes.countP fun n => 2 ≤ n.stage.toNat,
    threadsRunning := ctx.lastThreadsRunning, replDelay := ctx.lastReplDelay }

/-- What the client is sent.  `sessions` is the answer of `inception show sessions` with the row
    of the session itself, when it is active (the other sessions' rows are the registry's);
    `admin` is the answer of another admin command that reads no state of the session or names
    another session; `server` is the server's own answer to a statement no hook takes. -/
inductive ClientReply
  | ok
  | error (msg : String)
  | results (nodes : List SqlCacheNode)
  | splitResults (nodes : List SplitNode)
  | treeResults (nodes : List QueryTreeNode)
  | sessions (own : Option SessionInfo)
  | admin
  | server

/-- What a request produces: the reply, the run of `execute_statements` at a commit in execute
    mode, and the `KILL` that `kill_session ... force` sends on a connection of its own. -/
structure Outcome where
  reply : ClientReply
  exec : Option ExecState := none
  kill : Option RemoteQuery := none

/-- A client session: its context and the server's current database `thd->db()`. -/
structure Session where
  ctx : InceptionContext := {}
  thdDb : Option String := none

/-- What a session runs against: the global knobs, the password cipher, the remote target of a
    batch's connection options, the parser's keyword test, the session's thread id, and the moves
    each commit's `execute_statements` runs under (the remote's replies and the other sessions'
    kills, as the context of the batch decides them). -/
structure SessionEnv where
  sv : Sysvars
  cipher : Cipher
  remote : SessionOptions → Remote
  isKeyword : String → Bool
  threadId : Nat
  execMoves : InceptionContext → List ExecMove

/-- What `audit_statement` reads of the session. -/
def SessionEnv.auditEnv (env : SessionEnv) (s : Session) : AuditEnv :=
  { sv := env.sv, remote := env.remote s.ctx.opts, thdDb := s.thdDb, isKeyword := env.isKeyword }

/-! ## 2. The remote's version string -/

/-- Where `parse_first_version` is: between numbers, in the major digits, just after their dot,
    or in the minor digits. -/
inductive VersionScan
  | scan
  | major (ds : List Char)
  | dot (ds : List Char)
  | minor (ds ms : List Char)

/-- The scan of `parse_first_version`: a run of digits not followed by a dot and a digit is
    skipped; the first `major.minor` is read, each run by `strtoul` cast to `uint`. -/
def scanVersion : VersionScan → List Char → Option (Nat × Nat)
  | .scan, c :: cs => scanVersion (if c.isDigit then .major [c] else .scan) cs
  | .major ds, c :: cs =>
    scanVersion (if c.isDigit then .major (ds ++ [c]) else if c = '.' then .dot ds else .scan) cs
  | .dot ds, c :: cs => scanVersion (if c.isDigit then .minor ds [c] else .scan) cs
  | .minor ds ms, c :: cs =>
    if c.isDigit then scanVersion (.minor ds (ms ++ [c])) cs
    else some ((strtoul ds).value % 2 ^ 32, (strtoul ms).value % 2 ^ 32)
  | .minor ds ms, [] => some ((strtoul ds).value % 2 ^ 32, (strtoul ms).value % 2 ^ 32)
  | _, [] => none

/-- `parse_first_version`. -/
def parseFirstVersion (text : List Char) : Option (Nat × Nat) := scanVersion .scan text

/-- The text after the first occurrence of `marker` (`find`, then `substr`). -/
def afterMarker (marker : List Char) : List Char → Option (List Char)
  | [] => if marker = [] then some [] else none
  | c :: cs =>
    if marker <+: c :: cs then some ((c :: cs).drop marker.length) else afterMarker marker cs

/-- `parse_tidb_version`: the markers in order; the first whose tail holds a version. -/
def parseTidbVersion (info : List Char) : Option (Nat × Nat) :=
  ["TiDB-v", "tidb-v", "TiDB-", "tidb-"].findSome? fun m =>
    (afterMarker m.data info).bind parseFirstVersion

/-- `maybe_detect_remote_db_profile`: once the audit connection is open, its server version
    decides the database type (TiDB when it contains `TiDB` or `tidb`) and, when one parses out of
    it, the version. -/
def maybeDetectRemoteDbProfile (remote : Remote) (ctx : InceptionContext) : InceptionContext :=
  let (ctx, ok) := getRemoteConn remote ctx
  if !ok then ctx
  else
    let info := (ctx.remoteConn.map AuditConn.version).getD ""
    let isTidb := "TiDB".data <:+: info.data ∨ "tidb".data <:+: info.data
    let ctx := { ctx with dbType := if isTidb then .tidb else .mysql }
    let parsed := if isTidb then parseTidbVersion info.data <|> parseFirstVersion info.data
      else parseFirstVersion info.data
    match parsed with
    | some (major, minor) => { ctx with dbVersionMajor := major, dbVersionMinor := minor }
    | none => ctx

/-- `setup_inception_session`: `true` when the comment does not parse.  On success the profile is
    detected over the new connection options. -/
def setupInceptionSession (env : SessionEnv) (ctx : InceptionContext) (q : String) :
    Bool × InceptionContext :=
  let (err, ctx) := parseInceptionStart env.sv env.cipher q ctx
  if err then (true, ctx) else (false, maybeDetectRemoteDbProfile (env.remote ctx.opts) ctx)

/-! ## 3. The admin commands -/

/-- The query as `handle_inception_command` reads it: white space skipped at the start, white space
    and `;` stripped at the end. -/
def trimCommand (q : List Char) : List Char :=
  (skipWhitespace q).rdropWhile fun c => isWs c || c = ';'

/-- The spaces and tabs the sub-command parsers skip. -/
def skipBlanks (l : List Char) : List Char := l.dropWhile fun c => c = ' ' || c = '\t'

/-- A thread id as `strtoul` reads it, when it is one: some digits, no `ERANGE`, at most
    `UINT32_MAX`. -/
def threadIdArg (args : List Char) : Option Strtoul :=
  let t := strtoul args
  if t.rest = args ∨ t.erange ∨ t.value > 2 ^ 32 - 1 then none else some t

/-- The argument of `encrypt_password`: blanks skipped, one pair of surrounding quotes (single,
    character 39, or double) dropped. -/
def passwordArg (arg : List Char) : List Char :=
  let arg := skipBlanks arg
  if 2 ≤ arg.length ∧ ((arg.head? = some (Char.ofNat 39) ∧ arg.getLast? = some (Char.ofNat 39)) ∨
      (arg.head? = some '"' ∧ arg.getLast? = some '"')) then (arg.drop 1).dropLast
  else arg

/-- The parse of `handle_inception_command`: the command a query names, `none` when it is not an
    admin command. -/
def parseInceptionCommand (q : List Char) : Option AdminCommand :=
  let q := trimCommand q
  if prefixCi "inception show ".data q then
    some (if eqCi (skipBlanks (q.drop 15)) "sessions".data then .showSessions
      else .usage "Unknown inception show command. Supported: sessions")
  else if prefixCi "inception set ".data q then
    let sub := skipBlanks (q.drop 14)
    if 6 < sub.length ∧ prefixCi "sleep ".data sub then
      let usage := AdminCommand.usage "Usage: inception set sleep <thread_id> <milliseconds>"
      match threadIdArg (skipBlanks (sub.drop 6)) with
      | some t =>
        let ms := strtoul (skipBlanks t.rest)
        some (if t.rest = [] ∨ ms.rest = skipBlanks t.rest then usage else .setSleep t.value ms.value)
      | none => some usage
    else some (.usage "Unknown inception set command. Supported: sleep")
  else if prefixCi "inception get ".data q then
    let sub := skipBlanks (q.drop 14)
    some (if eqCi sub "sqltypes".data then .getSqltypes
      else if 17 < sub.length ∧ prefixCi "encrypt_password ".data sub then
        .encryptPassword (passwordArg (sub.drop 17))
      else .usage "Unknown inception get command. Supported: sqltypes, encrypt_password")
  else if prefixCi "inception kill ".data q then
    match threadIdArg (skipBlanks (q.drop 15)) with
    | some t => some (.kill t.value (prefixCi "force".data (skipBlanks t.rest)))
    | none => some (.usage "Usage: inception kill <thread_id> [force]")
  else none

/-- The error of `kill` and `set sleep` when the thread is not an active session. -/
def threadNotFound (tid : Nat) : String :=
  "Thread " ++ toString tid ++ " not found or not in active inception session."

/-- `kill_session` on this session (`none`: it is not active).  It is marked killed; with `force`,
    a running remote statement (`remote_exec_thread_id > 0`) and a host, its remote thread is
    killed on a connection of its own. -/
def killSession (force : Bool) (ctx : InceptionContext) :
    Option (InceptionContext × Option RemoteQuery) :=
  if !ctx.active then none
  else some ({ ctx with killed := true },
    if force ∧ 0 < ctx.remoteExecThreadId ∧ ctx.opts.host ≠ "" then
      some (.killThread ctx.remoteExecThreadId)
    else none)

/-- An admin command's effect on the session with thread id `threadId`, and its answer: `kill`
    and `set sleep` act on the active session they name, `show sessions` lists the session's own
    row among the active ones, and the other commands only read. -/
def applyAdmin (threadId : Nat) (cmd : AdminCommand) (ctx : InceptionContext) :
    InceptionContext × Outcome :=
  match cmd with
  | .usage msg => (ctx, { reply := .error msg })
  | .kill tid force =>
    if tid = threadId then
      match killSession force ctx with
      | some (ctx, k) => (ctx, { reply := .ok, kill := k })
      | none => (ctx, { reply := .error (threadNotFound tid) })
    else (ctx, { reply := .admin })
  | .setSleep tid ms =>
    if tid = threadId then
      if ctx.active then ({ ctx with opts := { ctx.opts with sleepMs := ms } }, { reply := .ok })
      else (ctx, { reply := .error (threadNotFound tid) })
    else (ctx, { reply := .admin })
  | .showSessions =>
    (ctx, { reply := .sessions (if ctx.active then some (sessionInfoOf threadId ctx ctx.batch.cacheNodes)
      else none) })
  | _ => (ctx, { reply := .admin })

/-! ## 4. The hooks -/

/-- `do_inception_commit`: without a start, an error.  Split and query-tree mode send their
    groups and trees; check mode sends the records, execute mode after `execute_statements` has
    run on them; the context is reset. -/
def doInceptionCommit (env : SessionEnv) (s : Session) : Session × Outcome :=
  if !s.ctx.active then
    (s, { reply := .error "inception_magic_commit without inception_magic_start" })
  else match s.ctx.opts.mode with
    | .split => ({ s with ctx := s.ctx.reset }, { reply := .splitResults s.ctx.batch.splitNodes })
    | .queryTree => ({ s with ctx := s.ctx.reset }, { reply := .treeResults s.ctx.batch.treeNodes })
    | .execute =>
      let e := runMoves (.init s.ctx env.threadId) (env.execMoves s.ctx)
      ({ s with ctx := e.ctx.reset }, { reply := .results (e.handled ++ e.todo), exec := some e })
    | .check => ({ s with ctx := s.ctx.reset }, { reply := .results s.ctx.batch.cacheNodes })

/-- `before_parse`: a commit marker commits; a start marker sets the session up, and the query
    goes on when its comment parses; an admin command is handled.  `none` lets the parser run. -/
def beforeParse (env : SessionEnv) (s : Session) (q : String) : Session × Option Outcome :=
  if isInceptionCommit q then
    let r := doInceptionCommit env s
    (r.1, some r.2)
  else
    let r := if isInceptionStart q then setupInceptionSession env s.ctx q else (false, s.ctx)
    let s := { s with ctx := r.2 }
    if r.1 then (s, some { reply := .error "Failed to parse inception_magic_start comment" })
    else match parseInceptionCommand q.data with
      | some cmd =>
        let a := applyAdmin env.threadId cmd s.ctx
        ({ s with ctx := a.1 }, some a.2)
      | none => (s, none)

/-- `handle_parse_error`: in a session the failed statement is recorded, cut at its first `;`,
    checked, with the parser's message as an error. -/
def handleParseError (s : Session) (text msg : String) : Option Session :=
  if !s.ctx.active then none
  else
    let r := s.ctx.addSql ⟨(stripInceptionComment text.data).takeWhile (· ≠ ';')⟩ .sqlEnd
    let node := { r.2 with stage := .checked, stageStatus := "Audit completed" }.appendError
      ("SQL parse error: " ++ msg)
    some { s with ctx := r.1.setLastNode node }

/-- The database a `USE` names (`lex->query_block->db`). -/
def Stmt.useDb (stmt : Stmt) : Option String := stmt.queryBlock.db

/-- A `USE` in split and query-tree mode: the database becomes the batch's and the session's. -/
def useStatement (s : Session) (stmt : Stmt) : Session :=
  match stmt.useDb with
  | some db => { ctx := { s.ctx with batch := { s.ctx.batch with currentUsedb := db } },
                 thdDb := some db }
  | none => s

/-- The table and database a split group is keyed by: the first table's, its database defaulting
    to the current one; for `CREATE`, `DROP` and `ALTER DATABASE`, the database named. -/
def splitTarget (thdDb : Option String) (stmt : Stmt) : String × String :=
  match stmt.queryTable with
  | some t => (t.tableName.getD "", match t.db with
    | some d => d
    | none => thdDb.getD "")
  | none =>
    if stmt.command = .createDb ∨ stmt.command = .dropDb ∨ stmt.command = .alterDb then
      ("", stmt.name.getD "")
    else ("", "")

/-- The commands split mode groups as DDL. -/
def SqlCommand.isDdl : SqlCommand → Bool
  | .createTable | .alterTable | .dropTable | .renameTable | .truncate | .createIndex | .dropIndex
  | .createDb | .dropDb | .alterDb | .createView | .dropView | .createTrigger | .dropTrigger => true
  | _ => false

/-- The `USE` line a new split group opens with: the current database of the batch, else the
    group's own, else none. -/
def usePrefix (currentUsedb dbName : String) : String :=
  if currentUsedb ≠ "" then "USE " ++ currentUsedb ++ ";\n"
  else if dbName ≠ "" then "USE " ++ dbName ++ ";\n"
  else ""

/-- Whether a statement's group record joins the last group: same table, database and kind. -/
def SplitNode.sameGroup (last sn : SplitNode) : Bool :=
  last.tableName = sn.tableName ∧ last.dbName = sn.dbName ∧ last.isDdlType = sn.isDdlType

/-- Add a statement to the split groups: to the last group when it is the same group (its flag
    raised by a high-risk statement), else as a new group with its `USE` line. -/
def pushSplit (currentUsedb sqlText : String) (sn : SplitNode) (nodes : List SplitNode) :
    List SplitNode :=
  match nodes.getLast? with
  | some last =>
    if last.sameGroup sn then
      nodes.dropLast ++ [{ last with sqlText := last.sqlText ++ sqlText ++ ";\n",
                                     ddlflag := if sn.ddlflag ≠ 0 then 1 else last.ddlflag }]
    else nodes ++ [{ sn with sqlText := usePrefix currentUsedb sn.dbName ++ sqlText ++ ";\n" }]
  | none => nodes ++ [{ sn with sqlText := usePrefix currentUsedb sn.dbName ++ sqlText ++ ";\n" }]

/-- A statement's group record: keyed by `splitTarget`, of its kind, and high-risk for
    `ALTER TABLE` and `DROP TABLE`. -/
def splitNode (thdDb : Option String) (stmt : Stmt) : SplitNode :=
  { dbName := (splitTarget thdDb stmt).2, tableName := (splitTarget thdDb stmt).1,
    isDdlType := SqlCommand.isDdl stmt.command,
    ddlflag := if stmt.command = .alterTable ∨ stmt.command = .dropTable then 1 else 0 }

/-- Split mode: a `USE` switches the database, a `SET` is dropped, any other statement joins the
    groups. -/
def splitStatement (s : Session) (text : String) (stmt : Stmt) : Session :=
  if stmt.command = .changeDb then useStatement s stmt
  else if stmt.command = .setOption then s
  else
    { s with ctx := { s.ctx with batch := { s.ctx.batch with
      splitNodes := pushSplit s.ctx.batch.currentUsedb ⟨stripInceptionComment text.data⟩
        (splitNode s.thdDb stmt) s.ctx.batch.splitNodes } } }

/-- Query-tree mode: a `USE` switches the database, a `SET` is dropped, any other statement gets
    the next id and its query tree. -/
def treeStatement (env : SessionEnv) (s : Session) (text : String) (stmt : Stmt) : Session :=
  if stmt.command = .changeDb then useStatement s stmt
  else if stmt.command = .setOption then s
  else
    let id := s.ctx.batch.nextId
    let r := extractQueryTree (env.remote s.ctx.opts) s.thdDb stmt
      { s.ctx with batch := { s.ctx.batch with nextId := id + 1 } }
    { s with ctx := { r.1 with batch := { r.1.batch with treeNodes := r.1.batch.treeNodes ++
      [{ id, sqlText := ⟨stripInceptionComment text.data⟩, queryTreeJson := r.2 }] } } }

/-- Check and execute mode: the statement is cached with its leading comment stripped and
    audited; a `USE` then switches the session's database. -/
def auditIntercept (env : SessionEnv) (s : Session) (text : String) (stmt : Stmt) : Session :=
  let r := s.ctx.addSql ⟨stripInceptionComment text.data⟩ stmt.command
  let st := auditStatement (env.auditEnv s) stmt { node := r.2, ctx := r.1 }
  { ctx := st.ctx.setLastNode st.node,
    thdDb := if stmt.command = .changeDb then stmt.useDb <|> s.thdDb else s.thdDb }

/-- `intercept_statement`: `none` when the statement goes on to the server (no session, an empty
    query, or the client's own `SELECT DATABASE()`, compared on its first 17 characters). -/
def interceptStatement (env : SessionEnv) (s : Session) (text : String) (stmt : Stmt) :
    Option Session :=
  if !s.ctx.active then none
  else if stmt.command = .emptyQuery then none
  else if stmt.command = .select ∧ prefixCi "SELECT DATABASE()".data text.data then none
  else some (match s.ctx.opts.mode with
    | .split => splitStatement s text stmt
    | .queryTree => treeStatement env s text stmt
    | _ => auditIntercept env s text stmt)

/-- `handle_use_db` (`COM_INIT_DB`): the database becomes the session's current one, and nothing
    else changes; outside a session the server does the same. -/
def handleUseDb (s : Session) (db : String) : Session := { s with thdDb := some db }

/-- Modelled from the spec: the server's own execution of a statement no hook takes, as far as
    the session sees it: a `USE` changes the current database. -/
def serverExecute (s : Session) (stmt : Stmt) : Session :=
  if stmt.command = .changeDb then { s with thdDb := stmt.useDb <|> s.thdDb } else s

@[simp] theorem serverExecute_ctx (s : Session) (stmt : Stmt) : (serverExecute s stmt).ctx = s.ctx := by
  unfold serverExecute; split <;> rfl

/-! ## 5. A run -/

/-- Modelled from the spec: one request, through the hooks in the server's order. -/
def handleRequest (env : SessionEnv) (s : Session) : Request → Session × Outcome
  | .query text parsed =>
    match beforeParse env s text with
    | (s, some out) => (s, out)
    | (s, none) =>
      match parsed with
      | .error msg =>
        match handleParseError s text msg with
        | some s => (s, { reply := .ok })
        | none => (s, { reply := .error msg })
      | .ok stmt =>
        match interceptStatement env s text stmt with
        | some s => (s, { reply := .ok })
        | none => (serverExecute s stmt, { reply := .server })
  | .initDb db => (handleUseDb s db, { reply := .ok })
  | .admin cmd =>
    let a := applyAdmin env.threadId cmd s.ctx
    ({ s with ctx := a.1 }, a.2)

/-- The sessions and outcomes along a run of requests. -/
def runRequests (env : SessionEnv) : Session → List Request → List (Session × Outcome)
  | _, [] => []
  | s, r :: rs =>
    let p := handleRequest env s r
    p :: runRequests env p.1 rs

/-! ## 6. The start marker -/

theorem firstComment_eq_some {l : List Char} {p : List Char × List Char}
    (h : firstComment l = some p) : ∃ rest, l = '/' :: '*' :: rest := by
  unfold firstComment at h
  split at h
  · exact ⟨_, rfl⟩
  · cases h

/-- A start marker's text begins, after white space, with its comment. -/
theorem isInceptionStart_comment {q : String} (h : isInceptionStart q = true) :
    ∃ rest, skipWhitespace q.data = '/' :: rest := by
  simp only [isInceptionStart, isInceptionMarker, Bool.and_eq_true] at h
  split at h
  · obtain ⟨rest, hr⟩ := firstComment_eq_some ‹_›
    exact ⟨_, hr⟩
  · simp at h

/-- A query that begins with a comment is no admin command. -/
theorem parseInceptionCommand_comment {q rest : List Char} (h : skipWhitespace q = '/' :: rest) :
    parseInceptionCommand q = none := by
  obtain ⟨u, hu⟩ := List.rdropWhile_prefix (p := fun c => isWs c || c = ';') (l := '/' :: rest)
  have ht : ∃ t, trimCommand q = '/' :: t := by
    rw [trimCommand, h]
    rcases hd : ('/' :: rest).rdropWhile (fun c => isWs c || c = ';') with _ | ⟨c, t⟩
    · exact absurd (List.rdropWhile_eq_nil_iff.1 hd '/' (.head _)) (by decide)
    · rw [hd] at hu
      exact ⟨t, by rw [(List.cons.inj hu).1]⟩
  obtain ⟨t, ht⟩ := ht
  simp only [parseInceptionCommand, ht]
  rfl

theorem parseInceptionStart_active (sv : Sysvars) (cipher : Cipher) (q : String)
    (ctx : InceptionContext) :
    (parseInceptionStart sv cipher q ctx).2.active = !(parseInceptionStart sv cipher q ctx).1 ∧
      (parseInceptionStart sv cipher q ctx).2.remoteConn = none := by
  unfold parseInceptionStart
  split
  · dsimp only; split <;> exact ⟨rfl, rfl⟩
  · exact ⟨rfl, rfl⟩

/-- `maybe_detect_remote_db_profile` changes the profile fields only, after `get_remote_conn`. -/
theorem maybeDetectRemoteDbProfile_eq (remote : Remote) (ctx : InceptionContext) :
    ∃ t major minor, maybeDetectRemoteDbProfile remote ctx =
      { (getRemoteConn remote ctx).1 with
        dbType := t, dbVersionMajor := major, dbVersionMinor := minor } := by
  rcases h : getRemoteConn remote ctx with ⟨c, ok⟩
  simp only [maybeDetectRemoteDbProfile, h]
  split
  · exact ⟨_, _, _, rfl⟩
  · split <;> exact ⟨_, _, _, rfl⟩

section Profile

variable (remote : Remote) (ctx : InceptionContext)

@[simp] theorem maybeDetectRemoteDbProfile_batch :
    (maybeDetectRemoteDbProfile remote ctx).batch = ctx.batch := by
  obtain ⟨_, _, _, h⟩ := maybeDetectRemoteDbProfile_eq remote ctx
  rw [h]; exact InceptionContext.getRemoteConn_batch ctx remote

@[simp] theorem maybeDetectRemoteDbProfile_opts :
    (maybeDetectRemoteDbProfile remote ctx).opts = ctx.opts := by
  obtain ⟨_, _, _, h⟩ := maybeDetectRemoteDbProfile_eq remote ctx
  rw [h]
  exact (congrArg InceptionContext.opts (InceptionContext.getRemoteConn_sansConn ctx remote) :)

@[simp] theorem maybeDetectRemoteDbProfile_active :
    (maybeDetectRemoteDbProfile remote ctx).active = ctx.active := by
  obtain ⟨_, _, _, h⟩ := maybeDetectRemoteDbProfile_eq remote ctx
  rw [h]
  exact (congrArg InceptionContext.active (InceptionContext.getRemoteConn_sansConn ctx remote) :)

@[simp] theorem maybeDetectRemoteDbProfile_remoteExecThreadId :
    (maybeDetectRemoteDbProfile remote ctx).remoteExecThreadId = ctx.remoteExecThreadId := by
  obtain ⟨_, _, _, h⟩ := maybeDetectRemoteDbProfile_eq remote ctx
  rw [h]
  exact (congrArg InceptionContext.remoteExecThreadId (InceptionContext.getRemoteConn_sansConn ctx remote) :)

@[simp] theorem maybeDetectRemoteDbProfile_auditLog :
    (maybeDetectRemoteDbProfile remote ctx).auditLog = ctx.auditLog := by
  obtain ⟨_, _, _, h⟩ := maybeDetectRemoteDbProfile_eq remote ctx
  rw [h]; exact InceptionContext.getRemoteConn_auditLog ctx remote

end Profile

/-- **A start marker discards the batch.**  For a text recognised as a start (and not as a
    commit), `before_parse` empties the caches and takes the new comment's options, whatever the
    session held.  When the comment parses, the query goes on to the parser with the session
    active; otherwise it is rejected with the parse error and the session is left idle. -/
theorem beforeParse_start (env : SessionEnv) (s : Session) (q : String)
    (hstart : isInceptionStart q = true) (hcommit : isInceptionCommit q = false) :
    (beforeParse env s q).1.ctx.batch = {} ∧
      (beforeParse env s q).1.ctx.opts = (parseInceptionStart env.sv env.cipher q s.ctx).2.opts ∧
      (beforeParse env s q).1.thdDb = s.thdDb ∧
      if (parseInceptionStart env.sv env.cipher q s.ctx).1 then
        (beforeParse env s q).2 =
            some { reply := .error "Failed to parse inception_magic_start comment" } ∧
          (beforeParse env s q).1.ctx.active = false
      else (beforeParse env s q).2 = none ∧ (beforeParse env s q).1.ctx.active = true := by
  obtain ⟨rest, hrest⟩ := isInceptionStart_comment hstart
  obtain ⟨hbatch, -, -⟩ := parseInceptionStart_fresh env.sv env.cipher q s.ctx
  obtain ⟨hact, -⟩ := parseInceptionStart_active env.sv env.cipher q s.ctx
  simp only [beforeParse, setupInceptionSession, hcommit, hstart, parseInceptionCommand_comment hrest]
  cases h : (parseInceptionStart env.sv env.cipher q s.ctx).1 <;> simp_all

/-- A session environment whose remote refuses every connection. -/
def offlineEnv : SessionEnv where
  sv := {}
  cipher := ⟨id, some, fun _ p => some p, fun _ c => some c⟩
  remote _ := {}
  isKeyword _ := false
  threadId := 1
  execMoves _ := []

/-- A start marker for a check-mode batch on host `h`. -/
def startQuery : String := "/*--host=h;--enable-check=1;inception_magic_start;*/"

/-- A check-mode session with one statement cached. -/
def pendingSession : Session :=
  { ctx := { active := true, batch := { nextId := 2, cacheNodes :=
      [{ id := 1, sqlText := "INSERT INTO t VALUES (1)", sqlCommand := .insert }] } } }

theorem beforeParse_start_pending :
    isInceptionStart startQuery = true ∧ isInceptionCommit startQuery = false ∧
      (beforeParse offlineEnv pendingSession startQuery).1.ctx.batch = {} :=
  ⟨rfl, rfl, (beforeParse_start offlineEnv pendingSession startQuery rfl rfl).1⟩

/-- A second start marker in an active session with a cached statement is not rejected: the
    query goes on to the parser and the cached statement is gone. -/
theorem start_marker_discards_batch :
    pendingSession.ctx.active = true ∧ pendingSession.ctx.batch.cacheNodes ≠ [] ∧
      isInceptionStart startQuery = true ∧
      (beforeParse offlineEnv pendingSession startQuery).2 = none ∧
      (beforeParse offlineEnv pendingSession startQuery).1.ctx.batch.cacheNodes = [] :=
  ⟨rfl, by decide, rfl, rfl, rfl⟩

/-! ## 7. The cached text -/

/-- A check-mode session. -/
def checkSession : Session := { ctx := { active := true } }

/-- The mysqldump header `/*!40101 SET NAMES utf8 */`, a statement of its own in a check-mode
    session, is cached with an empty text: `strip_inception_comment` drops any leading comment of
    every statement, not only the start marker. -/
theorem versioned_comment_cached_empty :
    (handleRequest offlineEnv checkSession
        (.query "/*!40101 SET NAMES utf8 */" (.ok { command := .setOption }))).1.ctx.batch.cacheNodes.map
      SqlCacheNode.sqlText = [""] := rfl

end Inception
