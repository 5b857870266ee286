import Inception.Audit.Records
import Inception.Audit.Reports

/-!
# Columns — the column checks of `ALTER TABLE` on a table of the batch

`audit_alter_table` checks the columns of its clauses in three loops, in this order: the
`ADD COLUMN` loop over `create_list`, the `DROP COLUMN` loop over `drop_list`, and the
`MODIFY`/`CHANGE COLUMN` loop over `create_list` again.  The parser puts the definitions of added,
modified and changed columns alike into `create_list`, each under its new name, and the two loops
over it run on the statement's flags, not on each definition's clause.  On a table created in the
batch this makes both loops report on every definition:

* with an `ADD COLUMN`, every definition whose name the table has is reported as already existing,
  a modified column and a column the same statement drops included (§2);
* with `MODIFY`/`CHANGE` only, every definition whose new name the table lacks is reported as
  missing, so `CHANGE a b` reports `b` and never looks at `a` (§3).

Off the batch the `ADD COLUMN` loop asks the remote for each name and records none, so a name
added twice passes.

A reported diagnostic is one of those the audit appends to the record (§1).
-/

namespace Inception

/-! ## 1. A diagnostic among those appended -/

/-- `n'` is `n` after diagnostics appended (the growth of its ghost list), `d` among them. -/
def Reported (d : Nat × String) (n n' : SqlCacheNode) : Prop :=
  ∃ ds, Appends n n' ds ∧ d ∈ ds

namespace Reported

variable {d : Nat × String} {n m m' : SqlCacheNode}

theorem appendError (h : Amends n m) (msg : String) :
    Reported (errlevelError, msg) n (m.appendError msg) := by
  obtain ⟨ds, ha, -⟩ := h.diagnosed
  exact ⟨ds ++ [(errlevelError, msg)], ha.trans (.appendAt m _ msg), by simp⟩

/-- Later blocks that amend the record keep what was reported. -/
theorem amends (h : Reported d n m) (h' : Amends m m') : Reported d n m' := by
  obtain ⟨ds, ha, hd⟩ := h
  obtain ⟨ds', ha', -⟩ := h'.diagnosed
  exact ⟨ds ++ ds', ha.trans ha', List.mem_append_left _ hd⟩

theorem of_amends (h : Amends n m) (h' : Reported d m m') : Reported d n m' := by
  obtain ⟨ds, ha, -⟩ := h.diagnosed
  obtain ⟨ds', ha', hd⟩ := h'
  exact ⟨ds ++ ds', ha.trans ha', List.mem_append_right _ hd⟩

end Reported

/-- The error of the `ADD COLUMN` loop on a table of the batch. -/
def columnExistsMsg (name db table : String) : String :=
  "Column '" ++ name ++ "' already exists in '" ++ db ++ "." ++ table ++ "'."

/-- The error of the `DROP COLUMN` and `MODIFY`/`CHANGE COLUMN` loops on a table of the batch. -/
def columnMissingMsg (name db table : String) : String :=
  "Column '" ++ name ++ "' does not exist in '" ++ db ++ "." ++ table ++ "'."

/-! ## 2. The loops over `create_list` -/

section Loops

variable (env : AuditEnv) (remote : Bool) (db table : String)

/-- A step of the `ADD COLUMN` loop on a table of the batch that has the column reports it. -/
theorem alterAddColumn_reported (st : AuditState) (f : ColumnDef) {S : Finset String}
    (hS : st.ctx.batch.batchTables (batchTableKey db table) = some S)
    (hf : lowerName f.fieldName ∈ S) :
    Reported (errlevelError, columnExistsMsg f.fieldName db table) st.node
      (alterAddColumn env (some (db, table)) true remote st f).node := by
  have hb : batchColumnExists (st.withNode (checkColumn env st.ctx f)).ctx db table f.fieldName =
      true := by
    simp [batchColumnExists, hS, hf]
  simp only [alterAddColumn, hb, if_true, AuditState.batchAddColumn_node]
  exact Reported.appendError ((Amends.refl _).checkColumn env st.ctx f) _

/-- A step of the `ADD COLUMN` loop on a table of the batch adds the column to it. -/
theorem alterAddColumn_batchTables (st : AuditState) (f : ColumnDef) {S : Finset String}
    (hS : st.ctx.batch.batchTables (batchTableKey db table) = some S) :
    (alterAddColumn env (some (db, table)) true remote st f).ctx.batch.batchTables
      (batchTableKey db table) = some (insert (lowerName f.fieldName) S) := by
  have h := congrArg InceptionContext.batch
    (alterAddColumn_frame .nothing env st (some (db, table)) true remote f).1
  dsimp only at h
  rw [InceptionContext.sansConn_batch] at h
  rw [h, hS, Option.getD_some, BatchCache.setTable_batchTables_self]

/-- **The `ADD COLUMN` loop** on a table of the batch reports every definition of its list whose
    name the table had. -/
theorem alterAdd_fold_reported : ∀ (l : List ColumnDef) (st : AuditState) (S : Finset String),
    st.ctx.batch.batchTables (batchTableKey db table) = some S →
    ∀ f ∈ l, lowerName f.fieldName ∈ S →
      Reported (errlevelError, columnExistsMsg f.fieldName db table) st.node
        (l.foldl (alterAddColumn env (some (db, table)) true remote) st).node
  | [], _, _, _, _, hf, _ => by cases hf
  | f' :: l, st, S, hS, f, hf, hin => by
    rw [List.foldl_cons]
    rcases List.mem_cons.1 hf with rfl | hf
    · exact (alterAddColumn_reported env remote db table st f hS hin).amends
        (KeepsRecord.foldl (alterAddColumn_keepsRecord env _ true remote) l _)
    · exact Reported.of_amends (alterAddColumn_keepsRecord env _ true remote f' st)
        (alterAdd_fold_reported l _ _ (alterAddColumn_batchTables env remote db table st f' hS) f hf
          (Finset.mem_insert_of_mem hin))

/-- A step of the `MODIFY`/`CHANGE COLUMN` loop on a table of the batch that lacks the (new) name
    reports it. -/
theorem alterChangeColumn_reported (st : AuditState) (f : ColumnDef) {S : Finset String}
    (hS : st.ctx.batch.batchTables (batchTableKey db table) = some S)
    (hf : lowerName f.fieldName ∉ S) :
    Reported (errlevelError, columnMissingMsg f.fieldName db table) st.node
      (alterChangeColumn env (some (db, table)) true remote st f).node := by
  have hb : batchColumnExists (st.withNode (checkColumn env st.ctx f)).ctx db table f.fieldName =
      false := by
    simp [batchColumnExists, hS, hf]
  simp only [alterChangeColumn, hb, Bool.false_eq_true, if_false, if_true]
  exact Reported.appendError ((Amends.refl _).checkColumn env st.ctx f) _

/-- **The `MODIFY`/`CHANGE COLUMN` loop** on a table of the batch reports every definition of its
    list whose (new) name the table lacks. -/
theorem alterChange_fold_reported : ∀ (l : List ColumnDef) (st : AuditState) (S : Finset String),
    st.ctx.batch.batchTables (batchTableKey db table) = some S →
    ∀ f ∈ l, lowerName f.fieldName ∉ S →
      Reported (errlevelError, columnMissingMsg f.fieldName db table) st.node
        (l.foldl (alterChangeColumn env (some (db, table)) true remote) st).node
  | [], _, _, _, _, hf, _ => by cases hf
  | f' :: l, st, S, hS, f, hf, hout => by
    rw [List.foldl_cons]
    rcases List.mem_cons.1 hf with rfl | hf
    · exact (alterChangeColumn_reported env remote db table st f hS hout).amends
        (KeepsRecord.foldl (alterChangeColumn_keepsRecord env _ true remote) l _)
    · have hS' : (alterChangeColumn env (some (db, table)) true remote st f').ctx.batch.batchTables
          (batchTableKey db table) = some S := by
        rw [InceptionContext.batch_eq_of_sansConn
          (alterChangeColumn_frame .nothing env st (some (db, table)) true remote f').1, hS]
      exact Reported.of_amends (alterChangeColumn_keepsRecord env _ true remote f' st)
        (alterChange_fold_reported l _ _ hS' f hf hout)

end Loops

/-! ## 3. The audit of the statement -/

section Audit

variable {env : AuditEnv} {stmt : Stmt} {st : AuditState} {db table : String}

/-- On a table of the batch, `audit_statement` of an `ALTER TABLE` runs the clause blocks from a
    state with the batch it was given and the record amended, and the rest of the audit only
    amends the record. -/
theorem auditStatement_alter_inBatch (hcmd : stmt.command = .alterTable)
    (htgt : auditTarget env stmt = some (db, table))
    (hin : batchHas st.ctx db table = true) :
    ∃ (T : AuditState) (remote : Bool), Amends st.node T.node ∧ T.ctx.batch = st.ctx.batch ∧
      Amends (alterClauses env stmt true remote T).node (auditStatement env stmt st).node := by
  set P := auditPrepare env stmt st
  have hP : P.ctx.batch = st.ctx.batch :=
    InceptionContext.batch_eq_of_sansConn (auditPrepare_frame env stmt st).1
  set S := P.withNode fun n => { n with subType := resolveAlterSubType stmt.alterInfo }
  set r := if (auditTarget env stmt).isSome then S.remoteConn env.remote else (S, false)
  have hr : r.1.ctx.batch = st.ctx.batch := by
    rw [← hP]
    simp only [r, htgt, Option.isSome_some, if_true, AuditState.remoteConn, AuditState.probe]
    exact InceptionContext.batch_eq_of_sansConn (InceptionContext.getRemoteConn_sansConn _ _)
  have hrn : Amends st.node r.1.node :=
    (auditPrepare_keepsRecord env stmt st).trans (by
      simp only [r, htgt, Option.isSome_some, if_true, AuditState.remoteConn, AuditState.probe]
      exact (Amends.refl _).setSubType _)
  have hbatch : targetInBatch env stmt r.1.ctx = true := by
    simp only [targetInBatch, htgt, batchHas, hr]
    exact hin
  have ht : alterTableExists env stmt true r.2 r.1 = r.1 := by
    simp only [alterTableExists, htgt]
    rfl
  refine ⟨r.1, r.2, hrn, hr, ?_⟩
  have hdispatch : auditDispatch env stmt P = auditAlterTable env stmt P := by
    simp only [auditDispatch, hcmd]
  have halter : auditAlterTable env stmt P = alterFinish env stmt (alterClauses env stmt true r.2 r.1) := by
    show alterFinish env stmt (alterClauses env stmt (targetInBatch env stmt r.1.ctx) r.2
      (alterTableExists env stmt (targetInBatch env stmt r.1.ctx) r.2 r.1)) = _
    rw [hbatch, ht]
  have hf := alterFinish_keepsRecord env stmt (alterClauses env stmt true r.2 r.1)
  rw [← halter, ← hdispatch] at hf
  unfold auditStatement
  split
  · exact hf.setSqlsha1 _
  · exact hf

/-- A check-mode audit where the batch created `d.t` with the columns `a` and `y`. -/
def batchTableDT : AuditState :=
  { node := {}, ctx := { batch := { batchTables := fun k => if k = "d.t" then some {"a", "y"} else none } } }

/-- A commented `NOT NULL` integer column. -/
def commentedInt (name : String) : ColumnDef := { fieldName := name, comment := "c", isNullable := false }

/-- **An added column's check reports every definition the table has.**  For every `ALTER TABLE`
    with an `ADD COLUMN` clause on a table created in the batch, `audit_statement` reports
    `Column '…' already exists` for every definition of `create_list` whose name (compared
    lowercased) is a column of the table, whatever its clause: a `MODIFY` of an existing column,
    and an `ADD` of a column the same statement drops, are both reported. -/
theorem alter_add_reports_existing {S : Finset String} (hcmd : stmt.command = .alterTable)
    (htgt : auditTarget env stmt = some (db, table))
    (hS : st.ctx.batch.batchTables (batchTableKey db table) = some S)
    (hadd : stmt.alterInfo.has .addColumn = true) {f : ColumnDef}
    (hf : f ∈ stmt.alterInfo.createList) (hfS : lowerName f.fieldName ∈ S) :
    Reported (errlevelError, columnExistsMsg f.fieldName db table) st.node
      (auditStatement env stmt st).node := by
  obtain ⟨T, remote, hT, hTb, hrest⟩ :=
    auditStatement_alter_inBatch hcmd htgt (show batchHas st.ctx db table = true by simp [batchHas, hS])
  have hadd' : alterAddColumns env stmt true remote T =
      stmt.alterInfo.createList.foldl (alterAddColumn env (some (db, table)) true remote) T := by
    simp only [alterAddColumns, hadd, if_true, htgt]
  have hrep := alterAdd_fold_reported env remote db table _ T S (by rw [hTb, hS]) f hf hfS
  rw [← hadd'] at hrep
  have hclauses := ((((alterDropColumns_keepsRecord env stmt true remote).comp
    (alterChangeColumns_keepsRecord env stmt true remote)).comp
    (alterAddIndexes_keepsRecord env stmt true remote)).comp
    (alterDropIndexes_keepsRecord env stmt true remote)) (alterAddColumns env stmt true remote T)
  exact (Reported.of_amends hT (hrep.amends hclauses)).amends hrest

/-- `ALTER TABLE d.t ADD COLUMN x ..., MODIFY COLUMN y ...`. -/
def addXModifyY : Stmt := alterStmt [.addColumn (commentedInt "x"), .modifyColumn (commentedInt "y")]

theorem alter_add_reports_existing_modify :
    addXModifyY.command = .alterTable ∧
      auditTarget (catalogEnv fun _ _ => false) addXModifyY = some ("d", "t") ∧
      batchTableDT.ctx.batch.batchTables (batchTableKey "d" "t") = some {"a", "y"} ∧
      addXModifyY.alterInfo.has .addColumn = true ∧ commentedInt "y" ∈ addXModifyY.alterInfo.createList ∧
      lowerName (commentedInt "y").fieldName ∈ ({"a", "y"} : Finset String) ∧
      Reported (errlevelError, columnExistsMsg "y" "d" "t") batchTableDT.node
        (auditStatement (catalogEnv fun _ _ => false) addXModifyY batchTableDT).node :=
  ⟨rfl, by decide, by decide, by decide, by decide, by decide,
    @alter_add_reports_existing (catalogEnv fun _ _ => false) addXModifyY batchTableDT "d" "t"
      {"a", "y"} rfl (by decide) (by decide) (by decide) (commentedInt "y") (by decide) (by decide)⟩

/-- **A changed column is checked by its new name.**  For every `ALTER TABLE` whose column
    clauses are `MODIFY`/`CHANGE COLUMN` only (no `ADD` and no `DROP COLUMN`) on a table created
    in the batch, `audit_statement` reports `Column '…' does not exist` for every definition of
    `create_list` whose new name is not a column of the table: `CHANGE a b` on a table with `a`
    and without `b` is reported. -/
theorem alter_change_reports_new_name {S : Finset String} (hcmd : stmt.command = .alterTable)
    (htgt : auditTarget env stmt = some (db, table))
    (hS : st.ctx.batch.batchTables (batchTableKey db table) = some S)
    (hchange : stmt.alterInfo.has .changeColumn = true) (hadd : stmt.alterInfo.has .addColumn = false)
    (hdrop : stmt.alterInfo.has .dropColumn = false) {f : ColumnDef}
    (hf : f ∈ stmt.alterInfo.createList) (hfS : lowerName f.fieldName ∉ S) :
    Reported (errlevelError, columnMissingMsg f.fieldName db table) st.node
      (auditStatement env stmt st).node := by
  obtain ⟨T, remote, hT, hTb, hrest⟩ :=
    auditStatement_alter_inBatch hcmd htgt (show batchHas st.ctx db table = true by simp [batchHas, hS])
  have hchange' : alterChangeColumns env stmt true remote
      (alterDropColumns env stmt true remote (alterAddColumns env stmt true remote T)) =
      stmt.alterInfo.createList.foldl (alterChangeColumn env (some (db, table)) true remote) T := by
    simp only [alterChangeColumns, alterDropColumns, alterAddColumns, hchange, hadd, hdrop, htgt,
      if_true, Bool.false_eq_true, if_false]
  have hrep := alterChange_fold_reported env remote db table _ T S (by rw [hTb, hS]) f hf hfS
  rw [← hchange'] at hrep
  have hclauses := ((alterAddIndexes_keepsRecord env stmt true remote).comp
    (alterDropIndexes_keepsRecord env stmt true remote))
    (alterChangeColumns env stmt true remote
      (alterDropColumns env stmt true remote (alterAddColumns env stmt true remote T)))
  exact (Reported.of_amends hT (hrep.amends hclauses)).amends hrest

/-- `ALTER TABLE d.t CHANGE COLUMN a b ...`. -/
def changeAB : Stmt := alterStmt [.changeColumn "a" (commentedInt "b")]

theorem alter_change_reports_new_name_changeAB :
    changeAB.command = .alterTable ∧
      auditTarget (catalogEnv fun _ _ => false) changeAB = some ("d", "t") ∧
      batchTableDT.ctx.batch.batchTables (batchTableKey "d" "t") = some {"a", "y"} ∧
      changeAB.alterInfo.has .changeColumn = true ∧ changeAB.alterInfo.has .addColumn = false ∧
      changeAB.alterInfo.has .dropColumn = false ∧ commentedInt "b" ∈ changeAB.alterInfo.createList ∧
      lowerName (commentedInt "b").fieldName ∉ ({"a", "y"} : Finset String) ∧
      Reported (errlevelError, columnMissingMsg "b" "d" "t") batchTableDT.node
        (auditStatement (catalogEnv fun _ _ => false) changeAB batchTableDT).node :=
  ⟨rfl, by decide, by decide, by decide, by decide, by decide, by decide, by decide,
    @alter_change_reports_new_name (catalogEnv fun _ _ => false) changeAB batchTableDT "d" "t"
      {"a", "y"} rfl (by decide) (by decide) (by decide) (by decide) (by decide) (commentedInt "b")
      (by decide) (by decide)⟩

/-- Four column checks that misreport.  On `d.t` of the batch, with the columns `a` and `y`:
    `ADD x, MODIFY y` is told `y` already exists, `DROP a, ADD a` is told `a` already exists, and
    `CHANGE a b` is told `b` does not exist.  On the remote's `d.t`, which has neither, the
    repeated `ADD x, ADD x` passes. -/
theorem alter_column_checks_misreport :
    (auditStatement (catalogEnv fun _ _ => false)
        (alterStmt [.addColumn (commentedInt "x"), .modifyColumn (commentedInt "y")])
        batchTableDT).node.errmsg = "Column 'y' already exists in 'd.t'." ∧
      (auditStatement (catalogEnv fun _ _ => false)
        (alterStmt [.dropColumn "a", .addColumn (commentedInt "a")]) batchTableDT).node.errmsg =
        "Column 'a' already exists in 'd.t'.\nDropping column 'a' is a high-risk operation." ∧
      (auditStatement (catalogEnv fun _ _ => false)
        (alterStmt [.changeColumn "a" (commentedInt "b")]) batchTableDT).node.errmsg =
        "Column 'b' does not exist in 'd.t'." ∧
      (auditStatement (catalogEnv fun _ _ => false)
        (alterStmt [.addColumn (commentedInt "x"), .addColumn (commentedInt "x")])
        freshAudit).node.errlevel = errlevelOk := by
  decide

end Audit

end Inception
