import Mathlib.Data.Finset.Basic
import Inception.RemoteSql

/-!
# Context — the per-session state of an audit session

`inception_context.h`: the statement record `SqlCacheNode` with its three diagnostic operations
(`append_error`, `append_warning`, `report`), the split and query-tree records, and the
per-connection `InceptionContext` with `add_sql` and `reset`.

Strings are Lean `String`s, so lengths count characters where the C++ counts bytes.  A `MYSQL*`
handle is modelled by whether it is open; `std::set<std::string>` is a `Finset String` and
`std::map<std::string, std::set<std::string>>` a function to `Option (Finset String)`.
-/

namespace Inception

/-- `enum class OpMode`. -/
inductive OpMode
  | check | execute | split | queryTree
  deriving DecidableEq, Repr

/-- `enum class DbType`. -/
inductive DbType
  | mysql | tidb
  deriving DecidableEq, Repr

/-- `ERRLEVEL_OK`, `ERRLEVEL_WARNING`, `ERRLEVEL_ERROR`. -/
def errlevelOk : Nat := 0
def errlevelWarning : Nat := 1
def errlevelError : Nat := 2

/-- The `STAGE_*` constants. -/
inductive Stage
  | none | checked | executed | skipped
  deriving DecidableEq, Repr

/-- The subset of `enum_sql_command` the module names; `other` stands for every other command
    and `sqlEnd` for `SQLCOM_END`, the command of a statement that failed to parse. -/
inductive SqlCommand
  | emptyQuery | select | changeDb | setOption
  | createDb | dropDb | alterDb
  | createTable | alterTable | dropTable | renameTable | truncate
  | createIndex | dropIndex | createView | dropView | createTrigger | dropTrigger
  | insert | insertSelect | replace | replaceSelect
  | update | updateMulti | delete | deleteMulti
  | createUser | dropUser | grant | revoke | lockTables | unlockTables
  | sqlEnd | other
  deriving DecidableEq, Repr

/-- `SqlCacheNode`: one cached statement and its audit and execution results. -/
structure SqlCacheNode where
  id : Nat := 0
  sqlText : String := ""
  dbName : String := ""
  tableName : String := ""
  stage : Stage := .none
  errlevel : Nat := errlevelOk
  errmsg : String := ""
  stageStatus : String := ""
  affectedRows : Int := 0
  sequence : String := ""
  executeTime : String := ""
  sqlsha1 : String := ""
  sqlCommand : SqlCommand := .sqlEnd
  subType : String := ""
  ddlAlgorithm : String := ""
  /-- Ghost: the level and message of each diagnostic appended to the record, in order.  No C++
      field holds it; `append_at` writes it beside `errlevel` and `errmsg`. -/
  diagnostics : List (Nat × String) := []
  deriving DecidableEq, Repr

/-- What `vsnprintf` leaves in a `char buf[n]`: the first `n - 1` characters. -/
def snprintfBuf (n : Nat) (s : String) : String := ⟨s.data.take (n - 1)⟩

/-- The body shared by `append_error`, `append_warning` and `report`: the formatted message goes
    on a new line of `errmsg`, and `errlevel` rises to at least `lvl`; the ghost list records the
    diagnostic. -/
def SqlCacheNode.appendAt (node : SqlCacheNode) (lvl : Nat) (msg : String) : SqlCacheNode :=
  { node with
    errmsg := (if node.errmsg = "" then "" else node.errmsg ++ "\n") ++ snprintfBuf 1024 msg
    errlevel := if node.errlevel < lvl then lvl else node.errlevel
    diagnostics := node.diagnostics ++ [(lvl, msg)] }

/-- `append_error`. -/
def SqlCacheNode.appendError (node : SqlCacheNode) (msg : String) : SqlCacheNode :=
  node.appendAt errlevelError msg

/-- `append_warning`. -/
def SqlCacheNode.appendWarning (node : SqlCacheNode) (msg : String) : SqlCacheNode :=
  node.appendAt errlevelWarning msg

/-- `report`: a rule knob of `0` skips the rule, `1` warns, `2` or more is an error. -/
def SqlCacheNode.report (node : SqlCacheNode) (level : Nat) (msg : String) : SqlCacheNode :=
  if level = 0 then node
  else node.appendAt (if level ≥ 2 then errlevelError else errlevelWarning) msg

/-- `SplitNode`: consecutive statements on one table and of one kind (DDL or DML). -/
structure SplitNode where
  sqlText : String := ""
  dbName : String := ""
  tableName : String := ""
  ddlflag : Nat := 0
  isDdlType : Bool := false
  deriving DecidableEq, Repr

/-- `QueryTreeNode`: a statement with its extracted query-tree JSON. -/
structure QueryTreeNode where
  id : Nat := 0
  sqlText : String := ""
  queryTreeJson : String := ""
  deriving DecidableEq, Repr

/-- The connection parameters and flags of a session, as the start marker sets them (the fields
    of `InceptionContext` that `parse_option` writes).  `explicitPort` is set by `parse_option` and
    read by `parse_inception_start` but is not declared in the header under `src/`; `reset` clears
    it here, which does not change what `parse_inception_start` returns, since every parse resets
    `port` to 3306 and sets `explicitPort` whenever it sets `port`. -/
structure SessionOptions where
  host : String := ""
  user : String := ""
  password : String := ""
  port : Nat := 3306
  explicitPort : Bool := false
  mode : OpMode := .check
  force : Bool := false
  backup : Bool := true
  ignoreWarnings : Bool := false
  sleepMs : Nat := 0
  slaveHosts : List (String × Nat) := []
  deriving DecidableEq, Repr

/-- The per-batch caches of `InceptionContext`: the statement, split and tree caches, the USE
    database of split and tree mode, and the batch-schema tracking. -/
structure BatchCache where
  cacheNodes : List SqlCacheNode := []
  nextId : Nat := 1
  splitNodes : List SplitNode := []
  currentUsedb : String := ""
  treeNodes : List QueryTreeNode := []
  alteredTables : Finset String := ∅
  batchTables : String → Option (Finset String) := fun _ => none
  batchDatabases : Finset String := ∅

/-- An open audit connection (`remote_conn`): the server version it reported, and the queries
    sent on it so far, on which the remote session's answers may depend. -/
structure AuditConn where
  version : String
  log : List RemoteQuery := []
  deriving DecidableEq, Repr

/-- `InceptionContext`, its fields grouped: `opts` (connection and flags), the detected remote
    profile, the execution fields another session reads or writes (`killed`,
    `remote_exec_thread_id`, the load snapshot), the audit connection (`remoteConn` while
    `remote_conn` is open) and `batch`, the caches. -/
structure InceptionContext where
  active : Bool := false
  opts : SessionOptions := {}
  dbType : DbType := .mysql
  dbVersionMajor : Nat := 8
  dbVersionMinor : Nat := 0
  killed : Bool := false
  remoteExecThreadId : Nat := 0
  lastThreadsRunning : Nat := 0
  lastReplDelay : Int := -1
  remoteConn : Option AuditConn := none
  remoteConnFailed : Bool := false
  remoteConnError : String := ""
  batch : BatchCache := {}

/-- `add_sql`: a fresh record with the next id is appended to the cache; the second component is
    the record the C++ returns a reference to. -/
def InceptionContext.addSql (ctx : InceptionContext) (sql : String) (cmd : SqlCommand) :
    InceptionContext × SqlCacheNode :=
  let node : SqlCacheNode := { id := ctx.batch.nextId, sqlText := sql, sqlCommand := cmd }
  ({ ctx with batch := { ctx.batch with cacheNodes := ctx.batch.cacheNodes ++ [node],
                                         nextId := ctx.batch.nextId + 1 } }, node)

/-- Write back the record `add_sql` returned, after the caller has updated it. -/
def InceptionContext.setLastNode (ctx : InceptionContext) (node : SqlCacheNode) :
    InceptionContext :=
  { ctx with batch := { ctx.batch with cacheNodes := ctx.batch.cacheNodes.dropLast ++ [node] } }

/-- `reset`: every field back to its initial value and the audit connection closed. -/
def InceptionContext.reset (ctx : InceptionContext) : InceptionContext :=
  { ctx with
    active := false, opts := {}, killed := false, remoteExecThreadId := 0,
    lastThreadsRunning := 0, lastReplDelay := -1, dbType := .mysql, dbVersionMajor := 8,
    dbVersionMinor := 0, batch := {}, remoteConnFailed := false, remoteConnError := "",
    remoteConn := none }

/-! ## Diagnostics -/

namespace SqlCacheNode

variable (node : SqlCacheNode) (lvl : Nat) (msg : String)

@[simp] theorem appendAt_errlevel :
    (node.appendAt lvl msg).errlevel = max node.errlevel lvl := by
  simp only [appendAt, max_def]
  split <;> split <;> omega

@[simp] theorem appendAt_id : (node.appendAt lvl msg).id = node.id := rfl
@[simp] theorem appendAt_sqlText : (node.appendAt lvl msg).sqlText = node.sqlText := rfl
@[simp] theorem appendAt_stage : (node.appendAt lvl msg).stage = node.stage := rfl
@[simp] theorem appendAt_stageStatus :
    (node.appendAt lvl msg).stageStatus = node.stageStatus := rfl
@[simp] theorem appendAt_sqlCommand :
    (node.appendAt lvl msg).sqlCommand = node.sqlCommand := rfl
@[simp] theorem appendAt_diagnostics :
    (node.appendAt lvl msg).diagnostics = node.diagnostics ++ [(lvl, msg)] := rfl

@[simp] theorem report_id : (node.report lvl msg).id = node.id := by
  unfold report; split <;> rfl
@[simp] theorem report_sqlText : (node.report lvl msg).sqlText = node.sqlText := by
  unfold report; split <;> rfl
@[simp] theorem report_stage : (node.report lvl msg).stage = node.stage := by
  unfold report; split <;> rfl

end SqlCacheNode

/-! ## The cache -/

namespace InceptionContext

/-- The id `add_sql` gives the new record is the context's `next_id`. -/
@[simp] theorem addSql_snd (ctx : InceptionContext) (sql : String) (cmd : SqlCommand) :
    (ctx.addSql sql cmd).2 = { id := ctx.batch.nextId, sqlText := sql, sqlCommand := cmd } := rfl

@[simp] theorem reset_eq (ctx : InceptionContext) : ctx.reset = {} := rfl

end InceptionContext

end Inception
