import Inception.Audit.Handlers

/-!
# Effects — what an audit changes besides the record

Two facts about every block of `audit_statement`, proved together once per block and assembled
per handler, for any test `F` of forbidden queries that no probe template meets:

* the **context**: apart from the audit connection, only the batch schema changes, and exactly as
  `schemaEffect` computes it with set operations (a created table bound to its columns, an
  altered batch table `(cols ∪ added) \ dropped`, a dropped database added to
  `batch_databases`, an altered table added to `altered_tables`);
* the **queries sent**: the forbidden queries of the connection's log are those it had before;
  besides the probes, only the `UPDATE` and `DELETE` handlers send something, `EXPLAIN` of the
  record's own text, which therefore must not be forbidden.

Each block lemma is the conjunction of the two (`simp` uses both halves of a cited lemma as
rewrite rules).  The proofs push the projections through the handlers' conditionals (`ite_ctx`
and its siblings) and cite one lemma per block.
-/

namespace Inception

/-- The test that forbids nothing: with it a frame lemma speaks of the context alone. -/
def Forbidden.nothing : Forbidden := ⟨fun _ => false, fun _ _ => rfl⟩

/-- The commands whose audit estimates the rows with `EXPLAIN` of the statement's text. -/
def SqlCommand.explainsRows : SqlCommand → Bool
  | .update | .updateMulti | .delete | .deleteMulti => true
  | _ => false

@[simp] theorem AuditState.ite_ctx (c : Prop) [Decidable c] (a b : AuditState) :
    (if c then a else b).ctx = if c then a.ctx else b.ctx := apply_ite _ _ _ _

@[simp] theorem InceptionContext.ite_sansConn (c : Prop) [Decidable c] (a b : InceptionContext) :
    (if c then a else b).sansConn = if c then a.sansConn else b.sansConn := apply_ite _ _ _ _

@[simp] theorem InceptionContext.ite_auditLog (c : Prop) [Decidable c] (a b : InceptionContext) :
    (if c then a else b).auditLog = if c then a.auditLog else b.auditLog := apply_ite _ _ _ _

@[simp] theorem ite_filter {α : Type} (p : α → Bool) (c : Prop) [Decidable c] (a b : List α) :
    (if c then a else b).filter p = if c then a.filter p else b.filter p := apply_ite _ _ _ _

@[simp] theorem ite_fst {α β : Type} (c : Prop) [Decidable c] (a b : α × β) :
    (if c then a else b).1 = if c then a.1 else b.1 := apply_ite _ _ _ _

@[simp] theorem InceptionContext.sansConn_withBatch (c : InceptionContext) (b : BatchCache) :
    ({ c with batch := b }).sansConn = { c.sansConn with batch := b } := rfl

@[simp] theorem InceptionContext.auditLog_withBatch (c : InceptionContext) (b : BatchCache) :
    ({ c with batch := b }).auditLog = c.auditLog := rfl

@[simp] theorem InceptionContext.sansConn_with_batch (c : InceptionContext) :
    { c.sansConn with batch := c.batch } = c.sansConn := rfl

theorem InceptionContext.batch_eq_of_sansConn {a b : InceptionContext}
    (h : a.sansConn = b.sansConn) : a.batch = b.batch := by
  rw [← sansConn_batch, h, sansConn_batch]

/-- Binding a batch table to the set it already has changes nothing. -/
theorem BatchCache.setTable_self (b : BatchCache) (key : String) (cols : Finset String)
    (h : b.batchTables key = some cols) : b.setTable key cols = b := by
  simp only [setTable, ← h, Function.update_eq_self]

@[simp] theorem BatchCache.setTable_setTable (b : BatchCache) (key : String) (c c' : Finset String) :
    (b.setTable key c).setTable key c' = b.setTable key c' := by
  simp [setTable]

@[simp] theorem BatchCache.setTable_batchTables_self (b : BatchCache) (key : String)
    (c : Finset String) : (b.setTable key c).batchTables key = some c := by
  simp [setTable]

/-! ## 0. The batch schema, as set operations -/

/-- The columns of a `create_list`, lowercased. -/
def loweredColumns (cols : List ColumnDef) : Finset String :=
  (cols.map fun f => lowerName f.fieldName).toFinset

/-- The columns a drop list drops, lowercased. -/
def droppedColumns (drops : List AlterDrop) : Finset String :=
  ((drops.filter (·.kind = .column)).map fun d => lowerName d.name).toFinset

/-- The column set of a batch table after an `ALTER TABLE`: with the `ADD COLUMN` flag every
    column definition of the statement joins, a `CHANGE` or `MODIFY` definition's name as well;
    then, with the `DROP COLUMN` flag, the dropped columns leave.  A `CHANGE` never removes its
    old name. -/
def alterSchema (ai : AlterInfo) (cols : Finset String) : Finset String :=
  (cols ∪ if ai.has .addColumn then loweredColumns ai.createList else ∅) \
    if ai.has .dropColumn then droppedColumns ai.dropList else ∅

/-- What an audited `CREATE TABLE` does to the batch tracking: the table is bound to its
    lowercased columns, whatever its diagnostics. -/
def createTableEffect (env : AuditEnv) (stmt : Stmt) (b : BatchCache) : BatchCache :=
  match auditTarget env stmt with
  | some (db, table) => b.setTable (batchTableKey db table) (loweredColumns stmt.alterInfo.createList)
  | none => b

/-- What the clause blocks of an `ALTER TABLE` do to the batch tracking: a batch table's column set
    is updated by `alterSchema`. -/
def alterColumnsEffect (env : AuditEnv) (stmt : Stmt) (b : BatchCache) : BatchCache :=
  match auditTarget env stmt with
  | some (db, table) =>
    match b.batchTables (batchTableKey db table) with
    | some cols => b.setTable (batchTableKey db table) (alterSchema stmt.alterInfo cols)
    | none => b
  | none => b

/-- What the closing blocks of an `ALTER TABLE` do to the batch tracking: with the merge rule on,
    the table is recorded as altered. -/
def alterMergeEffect (env : AuditEnv) (stmt : Stmt) (b : BatchCache) : BatchCache :=
  match auditTarget env stmt with
  | some (db, table) =>
    if env.sv.checkMergeAlterTable > 0 then
      { b with alteredTables := insert (batchTableKey db table) b.alteredTables }
    else b
  | none => b

/-- What an audited `DROP DATABASE` does to the batch tracking: the database is recorded in
    `batch_databases`; no table is removed. -/
def dropDbEffect (stmt : Stmt) (b : BatchCache) : BatchCache :=
  match stmt.name with
  | some db => { b with batchDatabases := insert db b.batchDatabases }
  | none => b

/-- What an audited statement does to the batch tracking.  Nothing, in particular no
    `DROP TABLE`, `DROP DATABASE` or rename, removes a table. -/
def schemaEffect (env : AuditEnv) (stmt : Stmt) (b : BatchCache) : BatchCache :=
  match stmt.command with
  | .createTable => createTableEffect env stmt b
  | .alterTable => alterMergeEffect env stmt (alterColumnsEffect env stmt b)
  | .dropDb => dropDbEffect stmt b
  | _ => b

/-- `schemaEffect` changes the schema tracking only: the caches of statements, groups and trees,
    the next id and the `USE` database are those it was given. -/
theorem schemaEffect_tracking (env : AuditEnv) (stmt : Stmt) (b : BatchCache) :
    ∃ tables altered dbs, schemaEffect env stmt b =
      { b with batchTables := tables, alteredTables := altered, batchDatabases := dbs } := by
  unfold schemaEffect createTableEffect alterMergeEffect alterColumnsEffect dropDbEffect
    BatchCache.setTable
  repeat' split
  all_goals exact ⟨_, _, _, rfl⟩

/-- The context with its batch cache mapped by `f`. -/
def InceptionContext.mapBatch (f : BatchCache → BatchCache) (c : InceptionContext) :
    InceptionContext :=
  { c with batch := f c.batch }

@[simp] theorem InceptionContext.mapBatch_mapBatch (f g : BatchCache → BatchCache)
    (c : InceptionContext) : (c.mapBatch g).mapBatch f = c.mapBatch (fun b => f (g b)) := rfl

@[simp] theorem InceptionContext.mapBatch_batch (f : BatchCache → BatchCache)
    (c : InceptionContext) : (c.mapBatch f).batch = f c.batch := rfl

theorem InceptionContext.batch_eq_of_sansConn_mapBatch {a c : InceptionContext}
    {f : BatchCache → BatchCache} (h : a.sansConn = c.mapBatch f) : a.batch = f c.batch := by
  rw [← sansConn_batch, h, mapBatch_batch]

/-! ## 1. The record's text up to the row estimate

`EXPLAIN` sends the record's text as it is when `estimate_rows` runs; the blocks before it in the
`UPDATE` and `DELETE` handlers do not touch the text. -/

@[simp] theorem SqlCacheNode.rule_sqlText (n : SqlCacheNode) (knob : Nat) (cond : Bool)
    (msg : String) : (n.rule knob cond msg).sqlText = n.sqlText := by
  unfold SqlCacheNode.rule; split <;> simp

@[simp] theorem SqlCacheNode.appendError_sqlText (n : SqlCacheNode) (msg : String) :
    (n.appendError msg).sqlText = n.sqlText := rfl

@[simp] theorem SqlCacheNode.appendWarning_sqlText (n : SqlCacheNode) (msg : String) :
    (n.appendWarning msg).sqlText = n.sqlText := rfl

@[simp] theorem AuditState.withNode_node (st : AuditState) (f : SqlCacheNode → SqlCacheNode) :
    (st.withNode f).node = f st.node := rfl

@[simp] theorem AuditState.appendError_node (st : AuditState) (msg : String) :
    (st.appendError msg).node = st.node.appendError msg := rfl

@[simp] theorem AuditState.noteExistence_node (st : AuditState) (o : RemoteObject) (b : Bool) :
    (st.noteExistence o b).node = st.node := rfl

mutual

theorem checkInClause_sqlText (knob : Nat) :
    ∀ (i : Item) (n : SqlCacheNode), (checkInClause knob i n).sqlText = n.sqlText
  | .func _ _ args, n => by
    simp only [checkInClause, checkInClauseList_sqlText]; split <;> rfl
  | .cond args, n => by simp only [checkInClause, checkInClauseList_sqlText]
  | .field .., _ | .sum _, _ | .subselect _, _ | .row _, _ | .ref _, _ | .other, _ => rfl

theorem checkInClauseList_sqlText (knob : Nat) :
    ∀ (l : List Item) (n : SqlCacheNode), (checkInClauseList knob l n).sqlText = n.sqlText
  | [], _ => rfl
  | i :: is, n => by
    simp only [checkInClauseList, checkInClauseList_sqlText knob is, checkInClause_sqlText knob i]

end

theorem dmlShapeRules_sqlText (env : AuditEnv) (stmt : Stmt) (verb : String) (n : SqlCacheNode) :
    (dmlShapeRules env stmt verb n).sqlText = n.sqlText := by
  simp only [dmlShapeRules, checkInClauseOf]
  split
  · split
    · simp
    · simp [checkInClause_sqlText]
  · simp

theorem checkTableExists_sqlText (env : AuditEnv) (stmt : Stmt) (st : AuditState) :
    (checkTableExists env stmt st).node.sqlText = st.node.sqlText := by
  simp only [checkTableExists]
  repeat' split
  all_goals simp

section Blocks

variable (F : Forbidden) (env : AuditEnv) (stmt : Stmt) (st : AuditState)

/-! ## 2. The blocks -/

theorem blobPrefixPart_frame (key : KeySpec) (ai : AlterInfo) (probe : Option (String × String))
    (st : AuditState) (kp : KeyPart) :
    (blobPrefixPart env key ai probe st kp).ctx.sansConn = st.ctx.sansConn ∧
      (blobPrefixPart env key ai probe st kp).ctx.auditLog.filter F.bad =
        st.ctx.auditLog.filter F.bad := by
  simp only [blobPrefixPart]
  repeat' split
  all_goals simp

theorem keyLengthPart_frame (key : KeySpec) (ai : AlterInfo) (probe : Option (String × String))
    (acc : AuditState × Nat) (kp : KeyPart) :
    (keyLengthPart env key ai probe acc kp).1.ctx.sansConn = acc.1.ctx.sansConn ∧
      (keyLengthPart env key ai probe acc kp).1.ctx.auditLog.filter F.bad =
        acc.1.ctx.auditLog.filter F.bad := by
  simp only [keyLengthPart]
  repeat' split
  all_goals simp

theorem checkIndex_frame (key : KeySpec) (ai : AlterInfo) (probe : Option (String × String)) :
    (checkIndex env key ai probe st).ctx.sansConn = st.ctx.sansConn ∧
      (checkIndex env key ai probe st).ctx.auditLog.filter F.bad = st.ctx.auditLog.filter F.bad := by
  have hb := foldl_frame F (fun s : AuditState => s.ctx) _
    (blobPrefixPart_frame F env key ai probe) key.columns
  have hk := foldl_frame F (fun s : AuditState × Nat => s.1.ctx) _
    (keyLengthPart_frame F env key ai probe) key.columns
  simp only at hb hk
  simp [checkIndex, hb, hk]

theorem checkTableExists_frame :
    (checkTableExists env stmt st).ctx.sansConn = st.ctx.sansConn ∧
      (checkTableExists env stmt st).ctx.auditLog.filter F.bad = st.ctx.auditLog.filter F.bad := by
  simp only [checkTableExists]
  repeat' split
  all_goals simp

theorem checkColumnName_frame (db table : String) (inBatch remote : Bool) (st : AuditState)
    (name : String) :
    (checkColumnName env db table inBatch remote st name).ctx.sansConn = st.ctx.sansConn ∧
      (checkColumnName env db table inBatch remote st name).ctx.auditLog.filter F.bad =
        st.ctx.auditLog.filter F.bad := by
  simp only [checkColumnName]
  repeat' split
  all_goals simp

/-- The row estimate sends `EXPLAIN` of the record's text, besides probes. -/
theorem estimateRows_frame (verb : String) (hx : F.bad (.explain st.node.sqlText) = false) :
    (estimateRows env stmt verb st).ctx.sansConn = st.ctx.sansConn ∧
      (estimateRows env stmt verb st).ctx.auditLog.filter F.bad = st.ctx.auditLog.filter F.bad := by
  simp only [estimateRows]
  repeat' split
  all_goals simp [InceptionContext.explainRows_filter _ _ F _ _ _ hx]

theorem auditInsert_frame :
    (auditInsert env stmt st).ctx.sansConn = st.ctx.sansConn ∧
      (auditInsert env stmt st).ctx.auditLog.filter F.bad = st.ctx.auditLog.filter F.bad := by
  have hc := fun db table inBatch remote => foldl_frame F (fun s : AuditState => s.ctx) _
    (checkColumnName_frame F env db table inBatch remote)
  simp only at hc
  simp only [auditInsert]
  rcases auditTarget env stmt with _ | ⟨db, table⟩ <;>
    rcases stmt.insertCmd with _ | ⟨cols, rows⟩ <;> simp [hc, checkTableExists_frame F]

theorem auditUpdate_frame (hx : F.bad (.explain st.node.sqlText) = false) :
    (auditUpdate env stmt st).ctx.sansConn = st.ctx.sansConn ∧
      (auditUpdate env stmt st).ctx.auditLog.filter F.bad = st.ctx.auditLog.filter F.bad := by
  have hc := fun db table inBatch remote => foldl_frame F (fun s : AuditState => s.ctx) _
    (checkColumnName_frame F env db table inBatch remote)
  simp only at hc
  have he := estimateRows_frame F env stmt
    ((checkTableExists env stmt st).withNode (dmlShapeRules env stmt "UPDATE")) "UPDATE"
    (by simpa [dmlShapeRules_sqlText, checkTableExists_sqlText] using hx)
  simp only [auditUpdate]
  rcases auditTarget env stmt with _ | ⟨db, table⟩ <;>
    simp [hc, he, checkTableExists_frame F]

theorem auditDelete_frame (hx : F.bad (.explain st.node.sqlText) = false) :
    (auditDelete env stmt st).ctx.sansConn = st.ctx.sansConn ∧
      (auditDelete env stmt st).ctx.auditLog.filter F.bad = st.ctx.auditLog.filter F.bad := by
  have he := estimateRows_frame F env stmt
    ((checkTableExists env stmt (st.withNode (·.rule env.sv.checkDelete true
      "DELETE statement is restricted by audit policy."))).withNode
      (dmlShapeRules env stmt "DELETE")) "DELETE"
    (by simpa [dmlShapeRules_sqlText, checkTableExists_sqlText] using hx)
  simp [auditDelete, he, checkTableExists_frame F]

theorem auditTruncate_frame :
    (auditTruncate env stmt st).ctx.sansConn = st.ctx.sansConn ∧
      (auditTruncate env stmt st).ctx.auditLog.filter F.bad = st.ctx.auditLog.filter F.bad := by
  simp only [auditTruncate]
  repeat' split
  all_goals simp

theorem auditCreateDb_frame :
    (auditCreateDb env stmt st).ctx.sansConn = st.ctx.sansConn ∧
      (auditCreateDb env stmt st).ctx.auditLog.filter F.bad = st.ctx.auditLog.filter F.bad := by
  simp only [auditCreateDb]
  rcases stmt.name with _ | db
  · simp
  · simp only
    repeat' split
    all_goals simp

/-- The redundant-index detection only reports: the context and the existence notes stay. -/
theorem redundantIndexes_frame (knob : Nat) :
    ∀ (keys : List KeySpec) (st : AuditState),
      (redundantIndexes knob keys st).ctx = st.ctx ∧
        (redundantIndexes knob keys st).existence = st.existence
  | [], _ => ⟨rfl, rfl⟩
  | a :: rest, st => by
    have hp := foldl_keep (fun s : AuditState => (s.ctx, s.existence))
      (fun st b => redundantPair knob a b st)
      (fun st b => by simp only [redundantPair]; repeat' split
                      all_goals simp [AuditState.report]) rest
    simp only [Prod.ext_iff] at hp
    simp only [redundantIndexes, redundantIndexes_frame knob rest]
    split <;> simp [hp]

theorem createTableRules_frame :
    (createTableRules env stmt st).ctx.sansConn = st.ctx.sansConn ∧
      (createTableRules env stmt st).ctx.auditLog.filter F.bad = st.ctx.auditLog.filter F.bad := by
  have hi := foldl_frame F (fun s : AuditState => s.ctx) _
    (fun st key => checkIndex_frame F env st key stmt.alterInfo none) stmt.alterInfo.keyList
  simp only at hi
  simp [createTableRules, hi, redundantIndexes_frame]

theorem createTableExists_frame :
    (createTableExists env stmt st).ctx.sansConn = st.ctx.sansConn ∧
      (createTableExists env stmt st).ctx.auditLog.filter F.bad = st.ctx.auditLog.filter F.bad := by
  simp only [createTableExists]
  repeat' split
  all_goals simp

theorem auditCreateTable_frame :
    (auditCreateTable env stmt st).ctx.sansConn =
        st.ctx.sansConn.mapBatch (createTableEffect env stmt) ∧
      (auditCreateTable env stmt st).ctx.auditLog.filter F.bad = st.ctx.auditLog.filter F.bad := by
  have h := createTableRules_frame F env stmt (createTableExists env stmt st)
  rw [(createTableExists_frame F env stmt st).1, (createTableExists_frame F env stmt st).2] at h
  simp only [auditCreateTable, createTableTrack, InceptionContext.mapBatch, createTableEffect]
  rcases auditTarget env stmt with _ | ⟨db, table⟩
  · simpa using h
  · simp [h, InceptionContext.batch_eq_of_sansConn h.1, loweredColumns]

theorem auditDropDb_frame :
    (auditDropDb env stmt st).ctx.sansConn = st.ctx.sansConn.mapBatch (dropDbEffect stmt) ∧
      (auditDropDb env stmt st).ctx.auditLog.filter F.bad = st.ctx.auditLog.filter F.bad := by
  simp only [auditDropDb, InceptionContext.mapBatch, dropDbEffect]
  rcases stmt.name with _ | db
  · simp
  · simp only
    repeat' split
    all_goals simp

/-! ### `ALTER TABLE` -/

section Alter

variable (tgt : Option (String × String)) (inBatch remote : Bool)

theorem alterAddColumn_frame (f : ColumnDef) :
    (alterAddColumn env tgt inBatch remote st f).ctx.sansConn =
        (match tgt, inBatch with
        | some (db, table), true =>
          { st.ctx.sansConn with
            batch := st.ctx.batch.setTable (batchTableKey db table) (insert (lowerName f.fieldName)
              ((st.ctx.batch.batchTables (batchTableKey db table)).getD ∅)) }
        | _, _ => st.ctx.sansConn) ∧
      (alterAddColumn env tgt inBatch remote st f).ctx.auditLog.filter F.bad =
        st.ctx.auditLog.filter F.bad := by
  simp only [alterAddColumn]
  rcases tgt with _ | ⟨db, table⟩
  · simp
  · cases inBatch
    · simp only [Bool.false_eq_true, ite_false]
      repeat' split
      all_goals simp
    · simp only [ite_true]
      split <;> simp [AuditState.batchAddColumn]

theorem alterDropColumn_frame (d : AlterDrop) :
    (alterDropColumn env tgt inBatch remote st d).ctx.sansConn =
        (match tgt with
        | some (db, table) =>
          if inBatch ∧ d.kind = .column ∧ batchColumnExists st.ctx db table d.name then
            { st.ctx.sansConn with
              batch := st.ctx.batch.setTable (batchTableKey db table)
                (((st.ctx.batch.batchTables (batchTableKey db table)).getD ∅).erase
                  (lowerName d.name)) }
          else st.ctx.sansConn
        | none => st.ctx.sansConn) ∧
      (alterDropColumn env tgt inBatch remote st d).ctx.auditLog.filter F.bad =
        st.ctx.auditLog.filter F.bad := by
  simp only [alterDropColumn]
  by_cases hk : d.kind = .column
  · rcases tgt with _ | ⟨db, table⟩
    · simp [hk]
    · cases inBatch
      · simp only [hk, Bool.false_eq_true, ite_false, ite_true, false_and]
        repeat' split
        all_goals simp
      · by_cases he : batchColumnExists st.ctx db table d.name <;>
          simp [hk, he, AuditState.batchDropColumn]
  · rcases tgt with _ | ⟨db, table⟩ <;> simp [hk]

theorem alterChangeColumn_frame (f : ColumnDef) :
    (alterChangeColumn env tgt inBatch remote st f).ctx.sansConn = st.ctx.sansConn ∧
      (alterChangeColumn env tgt inBatch remote st f).ctx.auditLog.filter F.bad =
        st.ctx.auditLog.filter F.bad := by
  simp only [alterChangeColumn]
  repeat' split
  all_goals simp

theorem alterDropIndex_frame (d : AlterDrop) :
    (alterDropIndex env tgt inBatch remote st d).ctx.sansConn = st.ctx.sansConn ∧
      (alterDropIndex env tgt inBatch remote st d).ctx.auditLog.filter F.bad =
        st.ctx.auditLog.filter F.bad := by
  simp only [alterDropIndex]
  repeat' split
  all_goals simp

/-- The `ADD COLUMN` loop on a batch table joins the lowercased names to its column set. -/
theorem alterAdd_fold (db table : String) :
    ∀ (l : List ColumnDef) (st : AuditState) (S : Finset String),
      st.ctx.batch.batchTables (batchTableKey db table) = some S →
      (l.foldl (alterAddColumn env (some (db, table)) true remote) st).ctx.sansConn =
        { st.ctx.sansConn with
          batch := st.ctx.batch.setTable (batchTableKey db table) (S ∪ loweredColumns l) }
  | [], st, S, h => by
    simp only [List.foldl_nil, loweredColumns, List.map_nil, List.toFinset_nil, Finset.union_empty,
      BatchCache.setTable_self _ _ _ h]
    rfl
  | f :: l, st, S, h => by
    have hstep := (alterAddColumn_frame .nothing env st (some (db, table)) true remote f).1
    simp only [h, Option.getD_some] at hstep
    have hb : (alterAddColumn env (some (db, table)) true remote st f).ctx.batch =
        st.ctx.batch.setTable (batchTableKey db table) (insert (lowerName f.fieldName) S) :=
      congrArg InceptionContext.batch hstep
    rw [List.foldl_cons, alterAdd_fold db table l _ (insert (lowerName f.fieldName) S)
      (by rw [hb]; exact BatchCache.setTable_batchTables_self ..), hstep, hb]
    simp [loweredColumns, Finset.insert_union, Finset.union_insert]

/-- The `DROP COLUMN` loop on a batch table removes the lowercased dropped names. -/
theorem alterDrop_fold (db table : String) :
    ∀ (l : List AlterDrop) (st : AuditState) (S : Finset String),
      st.ctx.batch.batchTables (batchTableKey db table) = some S →
      (l.foldl (alterDropColumn env (some (db, table)) true remote) st).ctx.sansConn =
        { st.ctx.sansConn with
          batch := st.ctx.batch.setTable (batchTableKey db table) (S \ droppedColumns l) }
  | [], st, S, h => by
    simp only [List.foldl_nil, droppedColumns, List.filter_nil, List.map_nil, List.toFinset_nil,
      Finset.sdiff_empty, BatchCache.setTable_self _ _ _ h]
    rfl
  | d :: l, st, S, h => by
    have hstep := (alterDropColumn_frame .nothing env st (some (db, table)) true remote d).1
    simp only [h, Option.getD_some, true_and] at hstep
    have hex : batchColumnExists st.ctx db table d.name = decide (lowerName d.name ∈ S) := by
      simp [batchColumnExists, h]
    rw [List.foldl_cons]
    by_cases hk : d.kind = .column
    · have hdrop : droppedColumns (d :: l) = insert (lowerName d.name) (droppedColumns l) := by
        simp [droppedColumns, hk]
      by_cases hm : lowerName d.name ∈ S
      · simp only [hk, hex, hm, decide_True, and_self, ite_true] at hstep
        have hb : (alterDropColumn env (some (db, table)) true remote st d).ctx.batch =
            st.ctx.batch.setTable (batchTableKey db table) (S.erase (lowerName d.name)) :=
          congrArg InceptionContext.batch hstep
        rw [alterDrop_fold db table l _ (S.erase (lowerName d.name))
          (by rw [hb]; exact BatchCache.setTable_batchTables_self ..), hstep, hb, hdrop]
        simp [Finset.sdiff_insert, Finset.erase_sdiff_comm]
      · simp only [hk, hex, hm, decide_False, and_false, Bool.false_eq_true, ite_false] at hstep
        have hb := InceptionContext.batch_eq_of_sansConn hstep
        rw [alterDrop_fold db table l _ S (by rw [hb]; exact h), hstep, hb, hdrop,
          Finset.sdiff_insert, Finset.erase_eq_of_not_mem (fun hx => hm (Finset.mem_sdiff.1 hx).1)]
    · simp only [hk, false_and, and_false, ite_false] at hstep
      have hb := InceptionContext.batch_eq_of_sansConn hstep
      rw [alterDrop_fold db table l _ S (by rw [hb]; exact h), hstep, hb]
      simp [droppedColumns, hk]

end Alter

theorem alterTableExists_frame (inBatch remote : Bool) :
    (alterTableExists env stmt inBatch remote st).ctx.sansConn = st.ctx.sansConn ∧
      (alterTableExists env stmt inBatch remote st).ctx.auditLog.filter F.bad =
        st.ctx.auditLog.filter F.bad := by
  simp only [alterTableExists]
  repeat' split
  all_goals simp

section Clauses

variable (inBatch remote : Bool)

/-- The clause blocks send only probes. -/
theorem alterClauseBlocks_filter :
    (alterAddColumns env stmt inBatch remote st).ctx.auditLog.filter F.bad =
        st.ctx.auditLog.filter F.bad ∧
      (alterDropColumns env stmt inBatch remote st).ctx.auditLog.filter F.bad =
        st.ctx.auditLog.filter F.bad ∧
      (alterChangeColumns env stmt inBatch remote st).ctx.auditLog.filter F.bad =
        st.ctx.auditLog.filter F.bad ∧
      (alterAddIndexes env stmt inBatch remote st).ctx.auditLog.filter F.bad =
        st.ctx.auditLog.filter F.bad ∧
      (alterDropIndexes env stmt inBatch remote st).ctx.auditLog.filter F.bad =
        st.ctx.auditLog.filter F.bad := by
  have keep := fun {β : Type} (f : AuditState → β → AuditState)
      (h : ∀ st b, (f st b).ctx.auditLog.filter F.bad = st.ctx.auditLog.filter F.bad) l =>
    foldl_keep (fun s : AuditState => s.ctx.auditLog.filter F.bad) f h l st
  refine ⟨?_, ?_, ?_, ?_, ?_⟩
  · simp only [alterAddColumns]; split
    · exact keep _ (fun st f => (alterAddColumn_frame F env st _ _ _ f).2) _
    · rfl
  · simp only [alterDropColumns]; split
    · exact keep _ (fun st d => (alterDropColumn_frame F env st _ _ _ d).2) _
    · rfl
  · simp only [alterChangeColumns]; split
    · exact keep _ (fun st f => (alterChangeColumn_frame F env st _ _ _ f).2) _
    · rfl
  · simp only [alterAddIndexes]; split
    · exact keep _ (fun st key => (checkIndex_frame F env st key _ _).2) _
    · rfl
  · simp only [alterDropIndexes]; split
    · exact keep _ (fun st d => (alterDropIndex_frame F env st _ _ _ d).2) _
    · rfl

theorem alterChangeColumns_sansConn :
    (alterChangeColumns env stmt inBatch remote st).ctx.sansConn = st.ctx.sansConn := by
  simp only [alterChangeColumns]; split
  · exact foldl_keep (fun s : AuditState => s.ctx.sansConn) _
      (fun st f => (alterChangeColumn_frame .nothing env st _ _ _ f).1) _ st
  · rfl

theorem alterAddIndexes_sansConn :
    (alterAddIndexes env stmt inBatch remote st).ctx.sansConn = st.ctx.sansConn := by
  simp only [alterAddIndexes]; split
  · exact foldl_keep (fun s : AuditState => s.ctx.sansConn) _
      (fun st key => (checkIndex_frame .nothing env st key _ _).1) _ st
  · rfl

theorem alterDropIndexes_sansConn :
    (alterDropIndexes env stmt inBatch remote st).ctx.sansConn = st.ctx.sansConn := by
  simp only [alterDropIndexes]; split
  · exact foldl_keep (fun s : AuditState => s.ctx.sansConn) _
      (fun st d => (alterDropIndex_frame .nothing env st _ _ _ d).1) _ st
  · rfl

theorem alterAddColumns_untracked :
    (alterAddColumns env stmt false remote st).ctx.sansConn = st.ctx.sansConn := by
  simp only [alterAddColumns]; split
  · exact foldl_keep (fun s : AuditState => s.ctx.sansConn) _
      (fun st f => by simp [alterAddColumn_frame .nothing env st]) _ st
  · rfl

theorem alterDropColumns_untracked :
    (alterDropColumns env stmt false remote st).ctx.sansConn = st.ctx.sansConn := by
  simp only [alterDropColumns]; split
  · exact foldl_keep (fun s : AuditState => s.ctx.sansConn) _
      (fun st d => by
        simp only [(alterDropColumn_frame .nothing env st _ _ _ d).1]; split <;> simp) _ st
  · rfl

variable {db table : String} (ht : auditTarget env stmt = some (db, table)) {S : Finset String}
  (hS : st.ctx.batch.batchTables (batchTableKey db table) = some S)
include ht hS

/-- The `ADD COLUMN` block on a batch table joins the added columns to its set. -/
theorem alterAddColumns_tracked :
    (alterAddColumns env stmt true remote st).ctx.sansConn =
      { st.ctx.sansConn with
        batch := st.ctx.batch.setTable (batchTableKey db table)
          (S ∪ if stmt.alterInfo.has .addColumn then loweredColumns stmt.alterInfo.createList
            else ∅) } := by
  simp only [alterAddColumns, ht]
  by_cases hA : stmt.alterInfo.has .addColumn
  · simp only [hA, ite_true]; exact alterAdd_fold env remote db table _ st S hS
  · simp only [hA, Bool.false_eq_true, ite_false, Finset.union_empty,
      BatchCache.setTable_self _ _ _ hS]
    rfl

/-- The `DROP COLUMN` block on a batch table removes the dropped columns from its set. -/
theorem alterDropColumns_tracked :
    (alterDropColumns env stmt true remote st).ctx.sansConn =
      { st.ctx.sansConn with
        batch := st.ctx.batch.setTable (batchTableKey db table)
          (S \ if stmt.alterInfo.has .dropColumn then droppedColumns stmt.alterInfo.dropList
            else ∅) } := by
  simp only [alterDropColumns, ht]
  by_cases hD : stmt.alterInfo.has .dropColumn
  · simp only [hD, ite_true]; exact alterDrop_fold env remote db table _ st S hS
  · simp only [hD, Bool.false_eq_true, ite_false, Finset.sdiff_empty,
      BatchCache.setTable_self _ _ _ hS]
    rfl

end Clauses

/-- The clause blocks change the batch schema as `alterSchema` says, for a batch table, and
    leave it alone otherwise; they send only probes. -/
theorem alterClauses_frame (remote : Bool) (c : InceptionContext)
    (hc : c.batch = st.ctx.batch) :
    (alterClauses env stmt (targetInBatch env stmt c) remote st).ctx.sansConn =
        st.ctx.sansConn.mapBatch (alterColumnsEffect env stmt) ∧
      (alterClauses env stmt (targetInBatch env stmt c) remote st).ctx.auditLog.filter F.bad =
        st.ctx.auditLog.filter F.bad := by
  refine ⟨?_, by simp [alterClauses, alterClauseBlocks_filter F]⟩
  simp only [alterClauses, alterDropIndexes_sansConn, alterAddIndexes_sansConn,
    alterChangeColumns_sansConn, InceptionContext.mapBatch, alterColumnsEffect, targetInBatch,
    batchHas, hc]
  rcases ht : auditTarget env stmt with _ | ⟨db, table⟩
  · simp only [alterDropColumns_untracked, alterAddColumns_untracked]
  · rcases hk : st.ctx.batch.batchTables (batchTableKey db table) with _ | cols
    · simp only [hk, Option.isSome_none, InceptionContext.sansConn_batch,
        alterDropColumns_untracked, alterAddColumns_untracked]
      rfl
    · have hadd := alterAddColumns_tracked env stmt st remote ht hk
      have hbatch := congrArg InceptionContext.batch hadd
      simp only [InceptionContext.sansConn_batch] at hbatch
      have hdrop := alterDropColumns_tracked env stmt _ remote ht
        (by rw [hbatch]; exact BatchCache.setTable_batchTables_self ..)
      simp [hk, hdrop, hadd, hbatch, alterSchema]

theorem alterFinish_frame :
    (alterFinish env stmt st).ctx.sansConn = st.ctx.sansConn.mapBatch (alterMergeEffect env stmt) ∧
      (alterFinish env stmt st).ctx.auditLog.filter F.bad = st.ctx.auditLog.filter F.bad := by
  simp only [alterFinish, AuditState.withNode_ctx, InceptionContext.mapBatch, alterMergeEffect]
  rcases auditTarget env stmt with _ | ⟨db, table⟩ <;> simp
  split <;> simp

/-- `audit_alter_table` changes the context, apart from the connection, by the clause blocks'
    and the merge rule's effects, and sends only probes. -/
theorem auditAlterTable_frame :
    (auditAlterTable env stmt st).ctx.sansConn =
        st.ctx.sansConn.mapBatch (fun b => alterMergeEffect env stmt (alterColumnsEffect env stmt b)) ∧
      (auditAlterTable env stmt st).ctx.auditLog.filter F.bad = st.ctx.auditLog.filter F.bad := by
  simp only [auditAlterTable]
  rw [(alterFinish_frame F env stmt _).1, (alterFinish_frame F env stmt _).2,
    (alterClauses_frame F env stmt _ _ _ _).1, (alterClauses_frame F env stmt _ _ _ _).2,
    (alterTableExists_frame F env stmt _ _ _).1, (alterTableExists_frame F env stmt _ _ _).2]
  · constructor <;> split <;> simp
  all_goals exact (InceptionContext.batch_eq_of_sansConn (alterTableExists_frame F env stmt _ _ _).1).symm

/-! ## 3. `audit_statement` -/

/-- The dispatch of `audit_statement` changes the context, apart from the connection, by
    `schemaEffect`; besides probes it sends `EXPLAIN` of the record's text only for the commands
    that estimate rows. -/
theorem auditDispatch_frame
    (hx : stmt.command.explainsRows → F.bad (.explain st.node.sqlText) = false) :
    (auditDispatch env stmt st).ctx.sansConn = st.ctx.sansConn.mapBatch (schemaEffect env stmt) ∧
      (auditDispatch env stmt st).ctx.auditLog.filter F.bad = st.ctx.auditLog.filter F.bad := by
  simp only [auditDispatch]
  split
  all_goals first
    | simp [*, auditCreateDb_frame F, auditDropDb_frame F, auditCreateTable_frame F,
        auditAlterTable_frame F, auditInsert_frame F, auditSelect, auditDropTable,
        auditTruncate_frame F, InceptionContext.mapBatch, schemaEffect]; done
    | rename_i h
      have hx' := hx (by simp [h, SqlCommand.explainsRows])
      simp [h, auditUpdate_frame F env stmt st hx', auditDelete_frame F env stmt st hx',
        InceptionContext.mapBatch, schemaEffect]

/-- The steps before the dispatch change neither the context, apart from the connection, nor
    the log, nor the record's text. -/
theorem auditPrepare_frame :
    (auditPrepare env stmt st).ctx.sansConn = st.ctx.sansConn ∧
      (auditPrepare env stmt st).ctx.auditLog = st.ctx.auditLog ∧
      (auditPrepare env stmt st).node.sqlText = st.node.sqlText := by
  simp only [auditPrepare]
  split <;> simp [apply_ite AuditState.node, apply_ite SqlCacheNode.sqlText, AuditState.remoteConn]

/-- **The frame of an audit.**  `audit_statement` changes the context, apart from the audit
    connection, exactly by `schemaEffect`, and sends nothing forbidden as long as the `EXPLAIN`
    of the record's text is allowed for the commands that estimate rows. -/
theorem auditStatement_frame
    (hx : stmt.command.explainsRows → F.bad (.explain st.node.sqlText) = false) :
    (auditStatement env stmt st).ctx.sansConn = st.ctx.sansConn.mapBatch (schemaEffect env stmt) ∧
      (auditStatement env stmt st).ctx.auditLog.filter F.bad = st.ctx.auditLog.filter F.bad := by
  obtain ⟨hc, hl, ht⟩ := auditPrepare_frame env stmt st
  have hd := auditDispatch_frame F env stmt (auditPrepare env stmt st) (by rwa [ht])
  rw [hc, hl] at hd
  simp only [auditStatement]
  split <;> exact hd

/-- `audit_statement` changes the context, apart from the audit connection, exactly by
    `schemaEffect`. -/
theorem auditStatement_sansConn :
    (auditStatement env stmt st).ctx.sansConn = st.ctx.sansConn.mapBatch (schemaEffect env stmt) :=
  (auditStatement_frame .nothing env stmt st (fun _ => rfl)).1

end Blocks

end Inception
