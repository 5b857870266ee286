import Mathlib.Data.Nat.Digits
import Inception.Audit.Reports
import Inception.Session.Registry
import Inception.Session.Commands

/-!
# Reply — the result sets a commit and an admin command send

`inception_result.cc` writes the result sets.  A commit in check or execute mode sends a row of
fifteen columns per record (§1), `inception get sqltypes` the catalogue of the types those rows
name (§2).  The `db_version` column prints the profile's `major.minor` into 16 bytes:
`parse_first_version` reads it back as the same pair exactly when the text fits in 15
characters (§3).  The split, query-tree and session result sets follow (§4).
-/

namespace Inception

/-! ## 1. The statement result set -/

/-- `stage_name`: a `SET` or a `USE` that ran is reported `RERUN`. -/
def stageName : Stage → SqlCommand → String
  | .checked, _ => "CHECKED"
  | .executed, cmd => if cmd = .setOption ∨ cmd = .changeDb then "RERUN" else "EXECUTED"
  | .skipped, _ => "SKIPPED"
  | .none, _ => "NONE"

/-- An entry of `sql_type_table`: the command, the name the `sql_type` column shows, the
    catalogue's description, and whether audit rules are implemented for the command. -/
structure SqlTypeEntry where
  cmd : SqlCommand
  typeName : String
  description : String
  audited : Bool
  deriving DecidableEq, Repr

/-- `sql_type_table`. -/
def sqlTypeTable : List SqlTypeEntry :=
  [⟨.createTable, "CREATE_TABLE", "Create a new table", true⟩,
   ⟨.alterTable, "ALTER_TABLE", "Alter table structure", true⟩,
   ⟨.dropTable, "DROP_TABLE", "Drop a table", true⟩,
   ⟨.renameTable, "RENAME_TABLE", "Rename a table", false⟩,
   ⟨.truncate, "TRUNCATE", "Truncate a table", true⟩,
   ⟨.createIndex, "CREATE_INDEX", "Create an index", false⟩,
   ⟨.dropIndex, "DROP_INDEX", "Drop an index", false⟩,
   ⟨.createDb, "CREATE_DATABASE", "Create a new database", true⟩,
   ⟨.dropDb, "DROP_DATABASE", "Drop a database", true⟩,
   ⟨.alterDb, "ALTER_DATABASE", "Alter database attributes", false⟩,
   ⟨.changeDb, "USE_DATABASE", "Switch current database (USE)", true⟩,
   ⟨.insert, "INSERT", "Insert rows", true⟩,
   ⟨.insertSelect, "INSERT_SELECT", "Insert rows from SELECT", true⟩,
   ⟨.replace, "REPLACE", "Replace rows", true⟩,
   ⟨.replaceSelect, "REPLACE_SELECT", "Replace rows from SELECT", true⟩,
   ⟨.update, "UPDATE", "Update rows", true⟩,
   ⟨.updateMulti, "UPDATE", "Update rows (multi-table)", true⟩,
   ⟨.delete, "DELETE", "Delete rows", true⟩,
   ⟨.deleteMulti, "DELETE", "Delete rows (multi-table)", true⟩,
   ⟨.select, "SELECT", "Select query", true⟩,
   ⟨.setOption, "SET", "Set session/global variable", false⟩,
   ⟨.createView, "CREATE_VIEW", "Create a view", false⟩,
   ⟨.dropView, "DROP_VIEW", "Drop a view", false⟩,
   ⟨.createTrigger, "CREATE_TRIGGER", "Create a trigger", false⟩,
   ⟨.dropTrigger, "DROP_TRIGGER", "Drop a trigger", false⟩,
   ⟨.createUser, "CREATE_USER", "Create a user account", false⟩,
   ⟨.dropUser, "DROP_USER", "Drop a user account", false⟩,
   ⟨.grant, "GRANT", "Grant privileges", false⟩,
   ⟨.revoke, "REVOKE", "Revoke privileges", false⟩,
   ⟨.lockTables, "LOCK_TABLES", "Lock tables", false⟩,
   ⟨.unlockTables, "UNLOCK_TABLES", "Unlock tables", false⟩]

/-- `sql_type_name`: the name of the command's first entry; `UNKNOWN` for a statement that did
    not parse, `OTHER` for a command the table lacks. -/
def sqlTypeName (cmd : SqlCommand) : String :=
  match sqlTypeTable.find? (·.cmd = cmd) with
  | some e => e.typeName
  | none => if cmd = .sqlEnd then "UNKNOWN" else "OTHER"

/-- `type_val`, the `sql_type` column: the base type, then `.` and the sub-type when the record
    has one. -/
def sqlTypeValue (cmd : SqlCommand) (subType : String) : String :=
  if subType = "" then sqlTypeName cmd else sqlTypeName cmd ++ "." ++ subType

/-- `db_type_str`: `Unknown` when the audit connection failed, else the profile's type. -/
def dbTypeValue (ctx : InceptionContext) : String :=
  if ctx.remoteConnFailed then "Unknown" else dbtypeName ctx.dbType

/-- `db_version_buf`: empty when the audit connection failed, else `%u.%u` of the profile's
    version, in 16 bytes. -/
def dbVersionValue (ctx : InceptionContext) : String :=
  if ctx.remoteConnFailed then ""
  else snprintfBuf 16 (toString ctx.dbVersionMajor ++ "." ++ toString ctx.dbVersionMinor)

/-- A row of `send_inception_results`, its fifteen columns in order. -/
structure ResultRow where
  id : Nat
  stage : String
  errLevel : Nat
  stageStatus : String
  errMessage : String
  sqlText : String
  affectedRows : Int
  sequence : String
  backupDbname : String
  executeTime : String
  sqlSha1 : String
  sqlType : String
  ddlAlgorithm : String
  dbType : String
  dbVersion : String
  deriving DecidableEq, Repr

/-- The row of a record.  `err_message` is `None` when the record has no diagnostic;
    `backup_dbname` is a field of the record that nothing writes, so it is empty. -/
def resultRow (ctx : InceptionContext) (node : SqlCacheNode) : ResultRow :=
  { id := node.id, stage := stageName node.stage node.sqlCommand, errLevel := node.errlevel,
    stageStatus := node.stageStatus, errMessage := if node.errmsg = "" then "None" else node.errmsg,
    sqlText := node.sqlText, affectedRows := node.affectedRows, sequence := node.sequence,
    backupDbname := "", executeTime := node.executeTime, sqlSha1 := node.sqlsha1,
    sqlType := sqlTypeValue node.sqlCommand node.subType, ddlAlgorithm := node.ddlAlgorithm,
    dbType := dbTypeValue ctx, dbVersion := dbVersionValue ctx }

/-- `send_inception_results`: a row per record of the context's cache, in order.  The records
    are passed on their own: while a commit in execute mode runs, the model keeps them in the
    engine's state. -/
def sendInceptionResults (ctx : InceptionContext) (nodes : List SqlCacheNode) : List ResultRow :=
  nodes.map (resultRow ctx)

/-! ## 2. The catalogue of `inception get sqltypes` -/

/-- An entry of `alter_sub_types`. -/
structure AlterSubTypeEntry where
  subType : String
  description : String
  audited : Bool
  deriving DecidableEq, Repr

/-- `alter_sub_types`. -/
def alterSubTypes : List AlterSubTypeEntry :=
  [⟨"ADD_COLUMN", "Add new column(s)", true⟩,
   ⟨"DROP_COLUMN", "Drop column(s)", true⟩,
   ⟨"MODIFY_COLUMN", "Modify/change column definition", true⟩,
   ⟨"CHANGE_DEFAULT", "Change column default value", false⟩,
   ⟨"COLUMN_ORDER", "Reorder columns (FIRST/AFTER)", false⟩,
   ⟨"ADD_INDEX", "Add new index", true⟩,
   ⟨"DROP_INDEX", "Drop index", true⟩,
   ⟨"RENAME_INDEX", "Rename index", false⟩,
   ⟨"INDEX_VISIBILITY", "Change index visibility", false⟩,
   ⟨"RENAME", "Rename table", true⟩,
   ⟨"ORDER", "ORDER BY clause", false⟩,
   ⟨"OPTIONS", "Change table options (ENGINE, COMMENT, etc.)", true⟩,
   ⟨"KEYS_ONOFF", "Enable/disable keys", false⟩,
   ⟨"FORCE", "Force table rebuild", false⟩,
   ⟨"ADD_PARTITION", "Add partition", false⟩,
   ⟨"DROP_PARTITION", "Drop partition", false⟩,
   ⟨"COALESCE_PARTITION", "Coalesce partition", false⟩,
   ⟨"REORGANIZE_PARTITION", "Reorganize partition", false⟩,
   ⟨"EXCHANGE_PARTITION", "Exchange partition", false⟩,
   ⟨"TRUNCATE_PARTITION", "Truncate partition", false⟩,
   ⟨"REMOVE_PARTITIONING", "Remove partitioning", false⟩,
   ⟨"DISCARD_TABLESPACE", "Discard tablespace", false⟩,
   ⟨"IMPORT_TABLESPACE", "Import tablespace", false⟩,
   ⟨"COLUMN_VISIBILITY", "Change column visibility", false⟩]

/-- A row of `send_sqltypes_result`. -/
structure SqltypesRow where
  sqltype : String
  description : String
  audited : String
  deriving DecidableEq, Repr

/-- The `audited` column. -/
def auditedValue (audited : Bool) : String := if audited then "YES" else "NO"

/-- `send_sqltypes_result`: a row per entry of `sql_type_table`, and after `ALTER_TABLE` a row per
    entry of `alter_sub_types`. -/
def sendSqltypesResult : List SqltypesRow :=
  sqlTypeTable.flatMap fun e =>
    ⟨e.typeName, e.description, auditedValue e.audited⟩ ::
      if e.cmd = .alterTable then
        alterSubTypes.map fun sub =>
          ⟨"ALTER_TABLE." ++ sub.subType, sub.description, auditedValue sub.audited⟩
      else []

/-! ## 3. Reading `db_version` back -/

/-- `parse_first_version` reads two runs of digits joined by a dot as their values. -/
theorem parseFirstVersion_runs {ms ns : List Char} (hm : DigitRun ms) (hn : DigitRun ns)
    (hmv : digitsValue ms < 2 ^ 32) (hnv : digitsValue ns < 2 ^ 32) :
    parseFirstVersion (ms ++ '.' :: ns) = some (digitsValue ms, digitsValue ns) := by
  refine parseFirstVersion_of_leftmost ⟨[], [], ⟨by simp, nofun, hm, hn, nofun⟩,
    fun _ _ _ _ _ => Nat.zero_le _⟩ hmv hnv

/-- **The `db_version` column reads back exactly when it fits.**  For every profile whose version
    fields hold `uint`s, with the audit connection up, `parse_first_version` reads the column of
    every row back as the profile's `major.minor` if and only if `%u.%u` fits in the 15
    characters the buffer keeps: a longer text is cut inside the minor version, which then reads
    as a smaller number. -/
theorem db_version_column_reads_back (ctx : InceptionContext) (node : SqlCacheNode)
    (hok : ctx.remoteConnFailed = false) (hmajor : ctx.dbVersionMajor < 2 ^ 32)
    (hminor : ctx.dbVersionMinor < 2 ^ 32) :
    parseFirstVersion (resultRow ctx node).dbVersion.data =
        some (ctx.dbVersionMajor, ctx.dbVersionMinor) ↔
      (toString ctx.dbVersionMajor).length + (toString ctx.dbVersionMinor).length < 15 := by
  have hm := digitRun_toString ctx.dbVersionMajor
  have hn := digitRun_toString ctx.dbVersionMinor
  have hmv := digitsValue_toString ctx.dbVersionMajor
  have hnv := digitsValue_toString ctx.dbVersionMinor
  have hmlen : (toString ctx.dbVersionMajor).data.length ≤ 10 :=
    Nat.repr_length _ 10 (by decide) (by omega)
  have hcol : (resultRow ctx node).dbVersion.data =
      ((toString ctx.dbVersionMajor).data ++ '.' :: (toString ctx.dbVersionMinor).data).take 15 := by
    simp [resultRow, dbVersionValue, hok, snprintfBuf]
  rw [hcol]
  change _ ↔ (toString ctx.dbVersionMajor).data.length + (toString ctx.dbVersionMinor).data.length < 15
  generalize (toString ctx.dbVersionMajor).data = ms at hm hmv hmlen ⊢
  generalize hns : (toString ctx.dbVersionMinor).data = ns at hn hnv ⊢
  constructor
  · intro hparse
    by_contra hlong
    have hcut : (ms ++ '.' :: ns).take 15 = ms ++ '.' :: ns.take (14 - ms.length) := by
      rw [List.take_append_eq_append_take, List.take_of_length_le (by omega),
        show 15 - ms.length = 14 - ms.length + 1 by omega, List.take_succ_cons]
    have hsplit := digitsValue_append (ns.take (14 - ms.length)) (ns.drop (14 - ms.length))
    rw [List.take_append_drop, hnv] at hsplit
    have hten : 10 ≤ 10 ^ (ns.drop (14 - ms.length)).length :=
      Nat.le_self_pow (by simp; omega) 10
    have hle : digitsValue (ns.take (14 - ms.length)) ≤ ctx.dbVersionMinor := by
      have := Nat.le_mul_of_pos_right (digitsValue (ns.take (14 - ms.length)))
        (show 0 < 10 ^ (ns.drop (14 - ms.length)).length by omega)
      omega
    have hk : DigitRun (ns.take (14 - ms.length)) :=
      ⟨by simpa using ⟨by omega, hn.1⟩, fun c hc => hn.2 c (List.mem_of_mem_take hc)⟩
    rw [hcut, parseFirstVersion_runs hm hk (hmv ▸ hmajor) (by omega), hmv] at hparse
    have hv : digitsValue (ns.take (14 - ms.length)) = ctx.dbVersionMinor :=
      (Prod.mk.inj (Option.some.inj hparse)).2
    rw [hv] at hsplit
    have h0 : ctx.dbVersionMinor = 0 := by
      have := Nat.mul_le_mul_left ctx.dbVersionMinor hten
      omega
    rw [h0] at hns
    have hlen0 : (toString 0).data.length = 1 := rfl
    rw [← hns] at hlong
    omega
  · intro hfits
    rw [List.take_of_length_le (by simp; omega), parseFirstVersion_runs hm hn (hmv ▸ hmajor)
      (hnv ▸ hminor), hmv, hnv]

/-- The profile of a TiDB 6.5 remote. -/
def tidbProfile : InceptionContext := { dbType := .tidb, dbVersionMajor := 6, dbVersionMinor := 5 }

theorem db_version_column_reads_back_tidb :
    tidbProfile.remoteConnFailed = false ∧ tidbProfile.dbVersionMajor < 2 ^ 32 ∧
      tidbProfile.dbVersionMinor < 2 ^ 32 ∧
      (parseFirstVersion (resultRow tidbProfile {}).dbVersion.data =
          some (tidbProfile.dbVersionMajor, tidbProfile.dbVersionMinor) ↔
        (toString tidbProfile.dbVersionMajor).length +
          (toString tidbProfile.dbVersionMinor).length < 15) :=
  ⟨rfl, by decide, by decide, db_version_column_reads_back tidbProfile {} rfl (by decide) (by decide)⟩

/-- The largest `uint`s do not fit: the minor version is cut to four digits. -/
example : (resultRow { dbVersionMajor := 4294967295, dbVersionMinor := 4294967295 } {}).dbVersion =
    "4294967295.4294" := by
  decide

/-! ## 4. The other result sets -/

/-- A row of `send_split_results`. -/
structure SplitRow where
  id : Nat
  sqlStatement : String
  ddlflag : Nat
  deriving DecidableEq, Repr

/-- `send_split_results`: the groups, numbered from 1. -/
def sendSplitResults (nodes : List SplitNode) : List SplitRow :=
  (nodes.enumFrom 1).map fun p => ⟨p.1, p.2.sqlText, p.2.ddlflag⟩

/-- `send_query_tree_results`: a row per tree, under its statement's id. -/
def sendQueryTreeResults (nodes : List QueryTreeNode) : List (Nat × String × String) :=
  nodes.map fun n => (n.id, n.sqlText, n.queryTreeJson)

/-- A row of `send_sessions_result`, without `elapsed`: the model keeps no start time. -/
structure SessionRow where
  threadId : Nat
  host : String
  port : Nat
  user : String
  mode : String
  dbType : String
  sleepMs : Nat
  totalSql : Nat
  executedSql : Nat
  threadsRunning : Nat
  replDelay : String
  deriving DecidableEq, Repr

/-- The `repl_delay` column: `-` when the delay was not checked, else `%lds`. -/
def replDelayValue (delay : Int) : String := if delay < 0 then "-" else toString delay ++ "s"

/-- The row of a session. -/
def sessionRow (si : SessionInfo) : SessionRow :=
  { threadId := si.threadId, host := si.host, port := si.port, user := si.user, mode := si.mode,
    dbType := si.dbType, sleepMs := si.sleepMs, totalSql := si.totalSql,
    executedSql := si.executedSql, threadsRunning := si.threadsRunning,
    replDelay := replDelayValue si.replDelay }

/-- `send_sessions_result`: a row per active session, in the map's order. -/
def sendSessionsResult (reg : List Conn) : List SessionRow := (getActiveSessions reg).map sessionRow

end Inception
