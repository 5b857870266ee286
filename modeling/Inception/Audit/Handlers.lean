import Inception.Audit.Rules

/-!
# Handlers — `audit_statement` and the audit of each command

`audit_statement` marks the record checked, tests the audit connection once, fills the record's
database and table, dispatches on the command, and stores the digest's SHA1.  Each handler is a
sequence of blocks over the `AuditState`, in the source's order; a block that sends a probe
does so through the `AuditState` probes of `Remote`, and every diagnostic drawn from an existence
probe is also noted in the state's ghost `existence` list.

The blocks the source repeats verbatim across handlers (the table-existence test of the DML
handlers, the row estimate of `UPDATE` and `DELETE`, the charset whitelist) are one definition
each, with the text that differs as a parameter.
-/

namespace Inception

/-- Apply a change of the record. -/
def AuditState.withNode (st : AuditState) (f : SqlCacheNode → SqlCacheNode) : AuditState :=
  { st with node := f st.node }

@[simp] theorem AuditState.withNode_ctx (st : AuditState) (f : SqlCacheNode → SqlCacheNode) :
    (st.withNode f).ctx = st.ctx := rfl

/-- Add a lowercased column to a batch table (`batch_tables[key].insert(col)`). -/
def AuditState.batchAddColumn (st : AuditState) (db table col : String) : AuditState :=
  let key := batchTableKey db table
  let cols := insert (lowerName col) ((st.ctx.batch.batchTables key).getD ∅)
  { st with ctx := { st.ctx with batch := st.ctx.batch.setTable key cols } }

/-- Remove a lowercased column from a batch table (`batch_tables[key].erase(col)`). -/
def AuditState.batchDropColumn (st : AuditState) (db table col : String) : AuditState :=
  let key := batchTableKey db table
  let cols := ((st.ctx.batch.batchTables key).getD ∅).erase (lowerName col)
  { st with ctx := { st.ctx with batch := st.ctx.batch.setTable key cols } }

/-- `item->item_name.ptr()` of an item of a column list, which the parser builds from
    `Item_field`s: the field's name. -/
def Item.itemName : Item → Option String
  | .field _ name _ => name
  | _ => none

section Handlers

variable (env : AuditEnv) (stmt : Stmt)

/-! ## 1. The statement's table -/

/-- `(tbl && tbl->db) ? tbl->db : thd->db().str`: the database of the statement's first table,
    or the session's. -/
def auditDb : Option String :=
  match stmt.queryTable.bind TableEntry.db with
  | some db => some db
  | none => env.thdDb

/-- `tbl ? tbl->table_name : nullptr`. -/
def auditTableName : Option String := stmt.queryTable.bind TableEntry.tableName

/-- The database and table, when the handlers' `db && table_name` holds. -/
def auditTarget : Option (String × String) :=
  match auditDb env stmt, auditTableName stmt with
  | some db, some table => some (db, table)
  | _, _ => none

/-- The table-existence block of `audit_insert`, `audit_update` and `audit_delete`: a table that
    was not created in the batch and is not found on the remote is an error. -/
def checkTableExists (st : AuditState) : AuditState :=
  match auditTarget env stmt with
  | some (db, table) =>
    if batchHas st.ctx db table then st
    else
      let r := st.remoteConn env.remote
      if r.2 then
        let e := r.1.remoteTableExists env.remote db table
        if e.2 then e.1
        else (e.1.appendError ("Table '" ++ db ++ "." ++ table ++
          "' does not exist on remote server.")).noteExistence (.table db table) false
      else r.1
  | none => st

/-- One name of the column-existence loops of `audit_insert` and `audit_update`: looked up in the
    batch schema for a table created in the batch, else on the remote when it is open. -/
def checkColumnName (db table : String) (inBatch remote : Bool) (st : AuditState)
    (name : String) : AuditState :=
  let msg := "Column '" ++ name ++ "' does not exist in '" ++ db ++ "." ++ table ++ "'."
  if inBatch then
    if batchColumnExists st.ctx db table name then st
    else st.report env.sv.checkColumnExists msg
  else if remote then
    let e := st.remoteColumnExists env.remote db table name
    if e.2 then e.1
    else (e.1.report env.sv.checkColumnExists msg).noteExistence (.column db table name) false
  else st

/-- The row-estimate block of `audit_update` and `audit_delete`: `EXPLAIN` the statement's text,
    or else read `TABLE_ROWS`; a known estimate is recorded and warned about above the limit. -/
def estimateRows (verb : String) (st : AuditState) : AuditState :=
  match auditTarget env stmt with
  | some (db, table) =>
    let r := st.remoteConn env.remote
    if r.2 then
      let e := r.1.explainRows env.remote db r.1.node.sqlText (r.1.ctx.dbType = .tidb)
      let t := if e.2 < 0 then e.1.remoteTableRows env.remote db table else e
      if t.2 ≥ 0 then
        let st := t.1.withNode fun n => { n with affectedRows := t.2 }
        if env.sv.checkMaxUpdateRows > 0 ∧ t.2.toNat > env.sv.checkMaxUpdateRows then
          st.appendWarning ("Table '" ++ db ++ "." ++ table ++ "' has approximately " ++
            toString t.2 ++ " rows, exceeds max " ++ toString env.sv.checkMaxUpdateRows ++
            ". Consider batching the " ++ verb ++ ".")
        else st
      else t.1
    else r.1
  | none => st

/-! ## 2. `CREATE TABLE` -/

/-- The segments of `inception_support_charset` the whitelist loop visits: the `,`-separated
    pieces, without the empty piece after a trailing comma. -/
def charsetSegments (setting : String) : List (List Char) :=
  let parts := setting.data.splitOn ','
  if parts.getLast? = some [] then parts.dropLast else parts

/-- The whitelist test: some segment equals the character set's name, ignoring case. -/
def charsetAllowed (setting csname : String) : Bool :=
  (charsetSegments setting).any fun seg => eqCi seg csname.data

/-- The charset whitelist of `audit_create_table` (`what` = `Table`) and `audit_create_db`
    (`Database`): a default character set missing from a non-empty setting is an error. -/
def charsetWhitelist (sv : Sysvars) (what : String) (cs : Option String) (n : SqlCacheNode) :
    SqlCacheNode :=
  match sv.supportCharset, cs with
  | some setting, some csname =>
    if setting ≠ "" ∧ !charsetAllowed setting csname then
      n.appendError (what ++ " charset '" ++ csname ++ "' is not in allowed list '" ++ setting ++
        "'.")
    else n
  | _, _ => n

/-- `strcasecmp` of two key-part names; `none` when one is null, where the C++ has undefined
    behaviour. -/
def keyPartNamesEq (a b : KeyPart) : Option Bool :=
  match a.fieldName, b.fieldName with
  | some x, some y => some (eqCi x.data y.data)
  | _, _ => none

/-- The prefix loop of the redundant-index detection: the first `k` names agree, in order, up to
    the first difference. -/
def keyPrefixMatch : List KeyPart → List KeyPart → Nat → Option Bool
  | a :: as, b :: bs, k + 1 =>
    match keyPartNamesEq a b with
    | some true => keyPrefixMatch as bs k
    | r => r
  | _, _, _ => some true

/-- One pair `(a, b)`, `a` first in the key list, of the redundant-index detection. -/
def redundantPair (knob : Nat) (a b : KeySpec) (st : AuditState) : AuditState :=
  let minCols := min a.columns.length b.columns.length
  if b.keyType = .primary ∨ b.keyType = .foreign ∨ minCols = 0 then st
  else match keyPrefixMatch a.columns b.columns minCols with
    | some true =>
      let aShorter := a.columns.length ≤ b.columns.length
      st.report knob ("Index '" ++ (if aShorter then a else b).displayName ++ "' is a prefix of '" ++
        (if aShorter then b else a).displayName ++ "' and may be redundant.")
    | some false => st
    | none => { st with undefined := true }

/-- The redundant-index detection over every pair of keys that are neither primary nor
    foreign. -/
def redundantIndexes (knob : Nat) : List KeySpec → AuditState → AuditState
  | [], st => st
  | a :: rest, st =>
    let st := if a.keyType = .primary ∨ a.keyType = .foreign then st
      else rest.foldl (fun st b => redundantPair knob a b st) st
    redundantIndexes knob rest st

/-- The existence block of `audit_create_table`: a table created earlier in the batch, or found
    on the remote, is an error. -/
def createTableExists (st : AuditState) : AuditState :=
  match auditTarget env stmt with
  | some (db, table) =>
    if batchHas st.ctx db table then
      st.appendError ("Table '" ++ db ++ "." ++ table ++
        "' already exists (created earlier in this batch).")
    else
      let r := st.remoteConn env.remote
      if r.2 then
        let e := r.1.remoteTableExists env.remote db table
        if e.2 then (e.1.appendError ("Table '" ++ db ++ "." ++ table ++
            "' already exists on remote server.")).noteExistence (.table db table) true
        else e.1
      else r.1
  | none => st

/-- Rules 1 to 21 of `audit_create_table`. -/
def createTableRules (st : AuditState) : AuditState :=
  let sv := env.sv
  let ai := stmt.alterInfo
  let ci := stmt.createInfo
  let st := st.withNode fun n =>
    let n := n.rule sv.checkPrimaryKey (!ai.keyList.any (·.keyType = .primary))
      "Table must have a PRIMARY KEY."
    let n := n.rule sv.checkTableComment (ci.comment = "") "Table must have a comment."
    let n := match ci.engine with
      | some e => n.rule sv.checkEngineInnodb (e ≠ innodbName)
          ("Table engine must be InnoDB (found '" ++ e ++ "').")
      | none => n
    let n := charsetWhitelist sv "Table" ci.defaultTableCharset n
    let n := n.rule sv.checkCreateSelect (!stmt.queryBlock.fields.isEmpty)
      "CREATE TABLE ... SELECT is not allowed."
    let n := match auditTableName stmt with
      | some t =>
        let n := if sv.checkMaxTableNameLength > 0 ∧ t.utf8ByteSize > sv.checkMaxTableNameLength
          then n.appendWarning ("Table name '" ++ t ++ "' length " ++ toString t.utf8ByteSize ++
            " exceeds max " ++ toString sv.checkMaxTableNameLength ++ ".")
          else n
        let n := n.rule sv.checkIdentifier (!isValidIdentifier t)
          ("Table name '" ++ t ++ "' should be lowercase letters, digits and underscores.")
        n.rule sv.checkIdentifierKeyword (env.isKeyword t)
          ("Table name '" ++ t ++ "' is a MySQL reserved keyword.")
      | none => n
    let n := if sv.checkMaxColumns > 0 ∧ ai.createList.length > sv.checkMaxColumns then
        n.appendWarning ("Table has " ++ toString ai.createList.length ++
          " columns, exceeds max " ++ toString sv.checkMaxColumns ++ ".")
      else n
    let n := ai.createList.foldl (fun n f => checkColumn env st.ctx f n) n
    if sv.checkMaxIndexes > 0 ∧ ai.keyList.length > sv.checkMaxIndexes then
      n.appendWarning ("Table has " ++ toString ai.keyList.length ++ " indexes, exceeds max " ++
        toString sv.checkMaxIndexes ++ ".")
    else n
  let st := ai.keyList.foldl (fun st key => checkIndex env key ai none st) st
  let st := st.withNode fun n =>
    if sv.checkMaxPrimaryKeyParts > 0 then
      ai.keyList.foldl (fun n key =>
        if key.keyType = .primary ∧ key.columns.length > sv.checkMaxPrimaryKeyParts then
          n.appendWarning ("PRIMARY KEY has " ++ toString key.columns.length ++
            " columns, exceeds max " ++ toString sv.checkMaxPrimaryKeyParts ++ ".")
        else n) n
    else n
  let st := if sv.checkDuplicateIndex > 0 then
      redundantIndexes sv.checkDuplicateIndex ai.keyList st
    else st
  st.withNode fun n =>
    let n := n.rule sv.checkPartition stmt.partitioned "Partitioned tables are not recommended."
    let n := if sv.checkMustHaveColumns > 0 ∧ knobSet sv.mustHaveColumns then
        checkMustHaveColumns sv ai.createList n
      else n
    n.rule sv.checkAutoincrementInitValue (ci.autoIncrementValue > 1)
      ("AUTO_INCREMENT initial value is " ++ toString ci.autoIncrementValue ++ ", should be 1.")

/-- The tracking block of `audit_create_table`: the table's key is bound to its lowercased
    columns, whatever the audit found. -/
def createTableTrack (st : AuditState) : AuditState :=
  match auditTarget env stmt with
  | some (db, table) =>
    let cols := (stmt.alterInfo.createList.map fun f => lowerName f.fieldName).toFinset
    { st with ctx := { st.ctx with batch := st.ctx.batch.setTable (batchTableKey db table) cols } }
  | none => st

/-- `audit_create_table`. -/
def auditCreateTable (st : AuditState) : AuditState :=
  createTableTrack env stmt (createTableRules env stmt (createTableExists env stmt st))

/-! ## 3. `CREATE DATABASE` and `DROP DATABASE` -/

/-- `audit_create_db`. -/
def auditCreateDb (st : AuditState) : AuditState :=
  let sv := env.sv
  let st := st.withNode fun n => { n with dbName := stmt.name.getD "" }
  let st := match stmt.name with
    | some db =>
      let r := st.remoteConn env.remote
      if r.2 then
        let e := r.1.remoteDbExists env.remote db
        if e.2 then (e.1.appendError ("Database '" ++ db ++
            "' already exists on remote server.")).noteExistence (.database db) true
        else e.1
      else r.1
    | none => st
  let st := st.withNode fun n =>
    match stmt.name with
    | some db =>
      let n := n.rule sv.checkIdentifier (!isValidIdentifier db)
        ("Database name '" ++ db ++ "' should be lowercase letters, digits and underscores.")
      if sv.checkMaxTableNameLength > 0 ∧ db.utf8ByteSize > sv.checkMaxTableNameLength then
        n.appendWarning ("Database name '" ++ db ++ "' length " ++ toString db.utf8ByteSize ++
          " exceeds max " ++ toString sv.checkMaxTableNameLength ++ ".")
      else n
    | none => n
  st.withNode (charsetWhitelist sv "Database" stmt.createInfo.defaultTableCharset)

/-- `audit_drop_db`: the dropped database is recorded in `batch_databases`. -/
def auditDropDb (st : AuditState) : AuditState :=
  let st := st.withNode fun n => { n with dbName := stmt.name.getD "" }
  let st := st.withNode (·.rule env.sv.checkDropDatabase true
    ("DROP DATABASE will permanently remove database '" ++ stmt.name.getD "(unknown)" ++ "'."))
  match stmt.name with
  | some db =>
    let r := st.remoteConn env.remote
    let st := if r.2 then
        let e := r.1.remoteDbExists env.remote db
        if e.2 then e.1
        else (e.1.appendWarning ("Database '" ++ db ++
          "' does not exist on remote server.")).noteExistence (.database db) false
      else r.1
    { st with ctx := { st.ctx with batch := { st.ctx.batch with
        batchDatabases := insert db st.ctx.batch.batchDatabases } } }
  | none => st

/-! ## 4. `ALTER TABLE` -/

section Alter

/- The clause loops share the table (`tgt`, when both names are known), whether it was created
   in the batch, and whether the audit connection is open. -/
variable (tgt : Option (String × String)) (inBatch remote : Bool)

/-- One column of the `ADD COLUMN` loop: the column rules, then a name already in the batch
    table is an error and the name is added to it; off the batch, a name found on the remote is
    an error. -/
def alterAddColumn (st : AuditState) (f : ColumnDef) : AuditState :=
  let st := st.withNode (checkColumn env st.ctx f)
  match tgt with
  | some (db, table) =>
    if inBatch then
      let st := if batchColumnExists st.ctx db table f.fieldName then
          st.appendError ("Column '" ++ f.fieldName ++ "' already exists in '" ++ db ++ "." ++
            table ++ "'.")
        else st
      st.batchAddColumn db table f.fieldName
    else if remote then
      let e := st.remoteColumnExists env.remote db table f.fieldName
      if e.2 then (e.1.appendError ("Column '" ++ f.fieldName ++ "' already exists in '" ++ db ++
          "." ++ table ++ "' on remote server.")).noteExistence (.column db table f.fieldName) true
      else e.1
    else st
  | none => st

/-- One entry of the `DROP COLUMN` loop: a warning, then a name missing from the batch table is an
    error and a present one is removed; off the batch, a name missing on the remote is an
    error. -/
def alterDropColumn (st : AuditState) (d : AlterDrop) : AuditState :=
  if d.kind = .column then
    let st := st.appendWarning ("Dropping column '" ++ d.name ++ "' is a high-risk operation.")
    match tgt with
    | some (db, table) =>
      if inBatch then
        if batchColumnExists st.ctx db table d.name then st.batchDropColumn db table d.name
        else st.appendError ("Column '" ++ d.name ++ "' does not exist in '" ++ db ++ "." ++
          table ++ "'.")
      else if remote then
        let e := st.remoteColumnExists env.remote db table d.name
        if e.2 then e.1
        else (e.1.appendError ("Column '" ++ d.name ++ "' does not exist in '" ++ db ++ "." ++
          table ++ "' on remote server.")).noteExistence (.column db table d.name) false
      else st
    | none => st
  else st

/-- The type-change checks of `MODIFY`/`CHANGE COLUMN` against the remote column's
    `information_schema` row: integer narrowing, string shortening and a `DECIMAL` change, each
    with its stricter TiDB twin.  (The width is a `size_t` cast to `int64_t`; parser widths are
    far below `2^63`.) -/
def typeChangeChecks (sv : Sysvars) (ctx : InceptionContext) (f : ColumnDef)
    (info : RemoteColumnInfo) (n : SqlCacheNode) : SqlCacheNode :=
  let tidb := ctx.dbType = .tidb
  let c := "'" ++ f.fieldName ++ "'"
  let oldRank := intTypeRankFromName info.dataType
  let newRank := intTypeRank f.sqlType
  let n := if oldRank > 0 ∧ newRank > 0 ∧ newRank < oldRank then
      let n := n.report sv.checkLossyTypeChange ("Column " ++ c ++ " type narrowing: " ++
        info.dataType ++ " -> " ++ typeDisplayName f.sqlType ++ ", may truncate data.")
      n.rule sv.checkTidbLossyTypeChange tidb ("TiDB does not support lossy type change: " ++ c ++
        " " ++ info.dataType ++ " -> " ++ typeDisplayName f.sqlType ++ ".")
    else n
  let n := if info.charMaxLength > 0 ∧ (f.sqlType = .varchar ∨ f.sqlType = .string) ∧
        (f.displayWidth : Int) < info.charMaxLength then
      let n := n.report sv.checkVarcharShrink ("Column " ++ c ++ " length reduced: " ++
        toString info.charMaxLength ++ " -> " ++ toString f.displayWidth ++
        ", may truncate data.")
      n.rule sv.checkTidbVarcharShrink (tidb && f.sqlType = .varchar)
        ("TiDB does not support shrinking VARCHAR length: " ++ c ++ " " ++
          toString info.charMaxLength ++ " -> " ++ toString f.displayWidth ++ ".")
    else n
  if eqCi info.dataType.data "decimal".data ∧ f.sqlType = .newdecimal ∧
      (info.numericPrecision ≥ 0 ∨ info.numericScale ≥ 0) then
    let n := n.report sv.checkDecimalChange ("Column " ++ c ++ " DECIMAL precision/scale changed.")
    n.rule sv.checkTidbDecimalChange tidb
      ("TiDB does not support changing DECIMAL precision/scale for column " ++ c ++ ".")
  else n

/-- One column of the `MODIFY`/`CHANGE COLUMN` loop: the column rules, then the (new) name must
    exist in the batch table, or on the remote, whose type row feeds the type-change checks. -/
def alterChangeColumn (st : AuditState) (f : ColumnDef) : AuditState :=
  let st := st.withNode (checkColumn env st.ctx f)
  match tgt with
  | some (db, table) =>
    if inBatch then
      if batchColumnExists st.ctx db table f.fieldName then st
      else st.appendError ("Column '" ++ f.fieldName ++ "' does not exist in '" ++ db ++ "." ++
        table ++ "'.")
    else if remote then
      let e := st.remoteColumnExists env.remote db table f.fieldName
      let st := if e.2 then e.1
        else (e.1.appendError ("Column '" ++ f.fieldName ++ "' does not exist in '" ++ db ++ "." ++
          table ++ "' on remote server.")).noteExistence (.column db table f.fieldName) false
      let r := st.remoteColumnInfo env.remote db table f.fieldName
      match r.2 with
      | some info => r.1.withNode (typeChangeChecks env.sv r.1.ctx f info)
      | none => r.1
    else st
  | none => st

/-- One entry of the `DROP INDEX` loop: off the batch, an index missing on the remote is an
    error. -/
def alterDropIndex (st : AuditState) (d : AlterDrop) : AuditState :=
  match tgt with
  | some (db, table) =>
    if d.kind = .key ∧ !inBatch ∧ remote then
      let e := st.remoteIndexExists env.remote db table d.name
      if e.2 then e.1
      else (e.1.appendError ("Index '" ++ d.name ++ "' does not exist in '" ++ db ++ "." ++ table ++
        "' on remote server.")).noteExistence (.index db table d.name) false
    else st
  | none => st

end Alter

/-- `in_batch` of `audit_alter_table`: both names known and the table created in the batch. -/
def targetInBatch (ctx : InceptionContext) : Bool :=
  match auditTarget env stmt with
  | some (db, table) => batchHas ctx db table
  | none => false

/-- The table block of `audit_alter_table`: off the batch and with the remote open, a table
    missing on the remote is an error, and `TABLE_ROWS` is the estimate. -/
def alterTableExists (inBatch remote : Bool) (st : AuditState) : AuditState :=
  match auditTarget env stmt with
  | some (db, table) =>
    if !inBatch ∧ remote then
      let e := st.remoteTableExists env.remote db table
      let st := if e.2 then e.1
        else (e.1.appendError ("Table '" ++ db ++ "." ++ table ++
          "' does not exist on remote server.")).noteExistence (.table db table) false
      let t := st.remoteTableRows env.remote db table
      if t.2 ≥ 0 then t.1.withNode fun n => { n with affectedRows := t.2 } else t.1
    else st
  | none => st

section Clauses

variable (inBatch remote : Bool)

/-- The `ADD COLUMN` block. -/
def alterAddColumns (st : AuditState) : AuditState :=
  let ai := stmt.alterInfo
  if ai.has .addColumn then
    ai.createList.foldl (alterAddColumn env (auditTarget env stmt) inBatch remote) st
  else st

/-- The `DROP COLUMN` block. -/
def alterDropColumns (st : AuditState) : AuditState :=
  let ai := stmt.alterInfo
  if ai.has .dropColumn then
    ai.dropList.foldl (alterDropColumn env (auditTarget env stmt) inBatch remote) st
  else st

/-- The `MODIFY`/`CHANGE COLUMN` block. -/
def alterChangeColumns (st : AuditState) : AuditState :=
  let ai := stmt.alterInfo
  if ai.has .changeColumn then
    ai.createList.foldl (alterChangeColumn env (auditTarget env stmt) inBatch remote) st
  else st

/-- The `ADD INDEX` block: `check_index` with the remote fallback off the batch. -/
def alterAddIndexes (st : AuditState) : AuditState :=
  let ai := stmt.alterInfo
  if ai.has .addIndex then
    ai.keyList.foldl (fun st key =>
      checkIndex env key ai (if inBatch ∨ !remote then none else auditTarget env stmt) st) st
  else st

/-- The `DROP INDEX` block. -/
def alterDropIndexes (st : AuditState) : AuditState :=
  let ai := stmt.alterInfo
  if ai.has .dropIndex then
    ai.dropList.foldl (alterDropIndex env (auditTarget env stmt) inBatch remote) st
  else st

/-- The clause blocks of `audit_alter_table`, in the source's order. -/
def alterClauses (st : AuditState) : AuditState :=
  alterDropIndexes env stmt inBatch remote (alterAddIndexes env stmt inBatch remote
    (alterChangeColumns env stmt inBatch remote (alterDropColumns env stmt inBatch remote
      (alterAddColumns env stmt inBatch remote st))))

end Clauses

/-- The closing blocks of `audit_alter_table`: the rename warning, the engine change, the merge
    tracking, TiDB's one-operation rule and the predicted algorithm. -/
def alterFinish (st : AuditState) : AuditState :=
  let sv := env.sv
  let ai := stmt.alterInfo
  let st := if ai.has .rename then
      st.appendWarning ("Renaming table '" ++ (auditDb env stmt).getD "" ++ "." ++
        (auditTableName stmt).getD "" ++ "' is a high-risk operation.")
    else st
  let st := st.withNode fun n =>
    match ai.has .options, stmt.createInfo.engine with
    | true, some e => n.rule sv.checkEngineInnodb (e ≠ innodbName)
        ("Changing engine to '" ++ e ++ "' is not allowed; must use InnoDB.")
    | _, _ => n
  let st := match auditTarget env stmt with
    | some (db, table) =>
      if sv.checkMergeAlterTable > 0 then
        let key := batchTableKey db table
        let st := st.withNode (·.rule sv.checkMergeAlterTable (key ∈ st.ctx.batch.alteredTables)
          ("Table '" ++ db ++ "." ++ table ++ "' has been altered before in this session; " ++
            "consider merging into a single ALTER TABLE statement."))
        { st with ctx := { st.ctx with batch := { st.ctx.batch with
            alteredTables := insert key st.ctx.batch.alteredTables } } }
      else st
    | none => st
  let tidb := st.ctx.dbType = .tidb
  let st := st.withNode fun n =>
    if tidb ∧ sv.checkTidbMergeAlter > 0 then
      let cats := ([AlterFlag.addColumn, .dropColumn, .changeColumn, .addIndex, .dropIndex,
        .rename, .options].filter ai.has).length
      let addCount := if ai.has .addColumn then ai.createList.length else 0
      n.rule sv.checkTidbMergeAlter (cats > 1 || addCount > 1)
        ("TiDB does not support multiple operations in a single ALTER TABLE; " ++
          "split into separate statements.")
    else n
  st.withNode fun n => { n with ddlAlgorithm := predictAlterAlgorithm ai stmt.createInfo st.ctx }

/-- `audit_alter_table`: the sub-type, the connection (only with both names known), whether the
    table was created in the batch, then the table block, the clause blocks and the closing
    blocks. -/
def auditAlterTable (st : AuditState) : AuditState :=
  let st := st.withNode fun n => { n with subType := resolveAlterSubType stmt.alterInfo }
  let r := if (auditTarget env stmt).isSome then st.remoteConn env.remote else (st, false)
  let inBatch := targetInBatch env stmt r.1.ctx
  alterFinish env stmt (alterClauses env stmt inBatch r.2 (alterTableExists env stmt inBatch r.2 r.1))

/-! ## 5. DML -/

/-- The duplicate-column loop of `audit_insert`: every name already seen (ignoring case) is
    reported. -/
def insertDuplicates (knob : Nat) : List String → List String → SqlCacheNode → SqlCacheNode
  | [], _, n => n
  | name :: names, seen, n =>
    if lowerName name ∈ seen then
      insertDuplicates knob names seen
        (n.report knob ("Duplicate column '" ++ name ++ "' in INSERT column list."))
    else insertDuplicates knob names (lowerName name :: seen) n

/-- `audit_insert` (also `REPLACE` and the `SELECT` forms). -/
def auditInsert (st : AuditState) : AuditState :=
  let sv := env.sv
  let st := checkTableExists env stmt st
  let st := st.withNode fun n =>
    match stmt.insertCmd with
    | some (cols, rows) =>
      let n := n.rule sv.checkInsertColumn cols.isEmpty
        "INSERT/REPLACE should specify an explicit column list."
      let n := if sv.checkInsertValuesMatch > 0 ∧ !cols.isEmpty then
          match rows.find? (· ≠ cols.length) with
          | some actual => n.report sv.checkInsertValuesMatch ("INSERT column count " ++
              toString cols.length ++ " does not match value count " ++ toString actual ++ ".")
          | none => n
        else n
      if sv.checkInsertDuplicateColumn > 0 ∧ !cols.isEmpty then
        insertDuplicates sv.checkInsertDuplicateColumn (cols.filterMap Item.itemName) [] n
      else n
    | none => n
  let st := st.withNode (·.rule sv.checkDmlWhere
    ((stmt.command = .insertSelect || stmt.command = .replaceSelect) &&
      stmt.queryBlock.whereCond.isNone)
    "INSERT ... SELECT without a WHERE clause on the SELECT.")
  match auditTarget env stmt with
  | some (db, table) =>
    if sv.checkColumnExists > 0 then
      let inBatch := batchHas st.ctx db table
      let r := if inBatch then (st, false) else st.remoteConn env.remote
      match stmt.insertCmd with
      | some (cols, _) =>
        (cols.filterMap Item.itemName).foldl (checkColumnName env db table inBatch r.2) r.1
      | none => r.1
    else st
  | none => st

/-- The `WHERE`, `LIMIT`, `ORDER BY` and `IN` rules of `audit_update` and `audit_delete`. -/
def dmlShapeRules (verb : String) (n : SqlCacheNode) : SqlCacheNode :=
  let sv := env.sv
  let qb := stmt.queryBlock
  let n := n.rule sv.checkDmlWhere qb.whereCond.isNone
    (verb ++ " without a WHERE clause is not allowed.")
  let n := n.rule sv.checkDmlLimit qb.hasLimit (verb ++ " with LIMIT is not recommended.")
  let n := n.rule sv.checkOrderbyInDml (!qb.orderBy.isEmpty)
    (verb ++ " with ORDER BY is not recommended.")
  checkInClauseOf sv qb.whereCond n

/-- `audit_update`. -/
def auditUpdate (st : AuditState) : AuditState :=
  let sv := env.sv
  let st := checkTableExists env stmt st
  let st := st.withNode (dmlShapeRules env stmt "UPDATE")
  let st := estimateRows env stmt "UPDATE" st
  match auditTarget env stmt with
  | some (db, table) =>
    if sv.checkColumnExists > 0 ∧ !stmt.queryBlock.fields.isEmpty then
      let inBatch := batchHas st.ctx db table
      let r := if inBatch then (st, false) else st.remoteConn env.remote
      (stmt.queryBlock.fields.filterMap fun si => si.item.itemName).foldl
        (checkColumnName env db table inBatch r.2) r.1
    else st
  | none => st

/-- `audit_delete`. -/
def auditDelete (st : AuditState) : AuditState :=
  let st := st.withNode (·.rule env.sv.checkDelete true
    "DELETE statement is restricted by audit policy.")
  let st := checkTableExists env stmt st
  let st := st.withNode (dmlShapeRules env stmt "DELETE")
  estimateRows env stmt "DELETE" st

/-- `audit_select`. -/
def auditSelect (st : AuditState) : AuditState :=
  let sv := env.sv
  let qb := stmt.queryBlock
  let isRand : Item → Bool
    | .func name _ _ => eqCi name.data "rand".data
    | _ => false
  st.withNode fun n =>
    let n := n.rule sv.checkSelectStar (qb.withWild > 0)
      "SELECT * is not recommended; specify columns."
    let n := n.rule sv.checkOrderbyRand (qb.orderBy.any isRand)
      "ORDER BY RAND() is not recommended; causes full table scan."
    checkInClauseOf sv qb.whereCond n

/-- `audit_drop_table`: a warning only; the batch schema is not touched. -/
def auditDropTable (st : AuditState) : AuditState :=
  st.withNode (·.rule env.sv.checkDropTable true "DROP TABLE will permanently remove the table.")

/-- `audit_truncate`. -/
def auditTruncate (st : AuditState) : AuditState :=
  let st := st.withNode (·.rule env.sv.checkTruncateTable true
    ("TRUNCATE TABLE will remove all data from '" ++ (auditDb env stmt).getD "" ++ "." ++
      (auditTableName stmt).getD "" ++ "'."))
  match auditTarget env stmt with
  | some (db, table) =>
    if batchHas st.ctx db table then st
    else
      let r := st.remoteConn env.remote
      if r.2 then
        let e := r.1.remoteTableExists env.remote db table
        if e.2 then
          let t := e.1.remoteTableRows env.remote db table
          if t.2 ≥ 0 then t.1.withNode fun n => { n with affectedRows := t.2 } else t.1
        else (e.1.appendError ("Table '" ++ db ++ "." ++ table ++
          "' does not exist on remote server.")).noteExistence (.table db table) false
      else r.1
  | none => st

/-! ## 6. `audit_statement` -/

/-- The handler `audit_statement` dispatches to. -/
def auditDispatch (st : AuditState) : AuditState :=
  match stmt.command with
  | .createDb => auditCreateDb env stmt st
  | .dropDb => auditDropDb env stmt st
  | .createTable => auditCreateTable env stmt st
  | .alterTable => auditAlterTable env stmt st
  | .insert | .insertSelect | .replace | .replaceSelect => auditInsert env stmt st
  | .update | .updateMulti => auditUpdate env stmt st
  | .delete | .deleteMulti => auditDelete env stmt st
  | .select => auditSelect env stmt st
  | .dropTable => auditDropTable env st
  | .truncate => auditTruncate env stmt st
  | _ => st

/-- The steps of `audit_statement` before it dispatches: mark the record checked, try the audit
    connection once (an error on every record once it has failed), and fill the database and
    table from the first table of the query block. -/
def auditPrepare (st : AuditState) : AuditState :=
  let st := st.withNode fun n => { n with stage := .checked, stageStatus := "Audit completed" }
  let st := if st.ctx.remoteConn.isNone ∧ !st.ctx.remoteConnFailed then
      (st.remoteConn env.remote).1 else st
  let st := if st.ctx.remoteConnFailed then
      st.appendError ("Cannot connect to remote server " ++ st.ctx.opts.host ++ ":" ++
        toString st.ctx.opts.port ++ " (" ++ st.ctx.remoteConnError ++ ").")
    else st
  match stmt.queryBlock.tables.head? with
  | some t => st.withNode fun n =>
    { n with dbName := t.db.getD n.dbName, tableName := t.tableName.getD n.tableName }
  | none => st

/-- `audit_statement`: prepare the record, dispatch, and store the digest's SHA1. -/
def auditStatement (st : AuditState) : AuditState :=
  let st := auditDispatch env stmt (auditPrepare env stmt st)
  match stmt.sqlsha1 with
  | some h => st.withNode fun n => { n with sqlsha1 := h }
  | none => st

end Handlers

end Inception
