import Inception.Diagnostics
import Inception.Audit.Effects

/-!
# Records — an audit only amends its record

Every rule of the audit writes its record through `report`, `append_error` and `append_warning`
with a message that starts with fixed text, and otherwise sets the stage, the names, the row
estimate, the sub-type, the algorithm and the digest.  So `audit_statement` leaves the record it
is given amended (`Amends`): the same id and text, with well-formed diagnostics appended.

The node-level rules come first (§1), then the blocks over the audit state (§2), each proved once
and composed as the handlers compose them.
-/

namespace Inception

/-! ## 1. The rules on a record -/

namespace Amends

variable {n m : SqlCacheNode}

theorem rule (h : Amends n m) (knob : Nat) (cond : Bool) {msg : String} (hm : msg ≠ "") :
    Amends n (m.rule knob cond msg) := by
  unfold SqlCacheNode.rule
  split
  · exact h.report knob hm
  · exact h

/-- A fold whose steps each amend the record they carry amends it. -/
theorem foldl_of {α β : Type} (π : α → SqlCacheNode) {f : α → β → α}
    (hf : ∀ a b, Amends (π a) (π (f a b))) :
    ∀ (l : List β) ⦃n : SqlCacheNode⦄ ⦃a : α⦄, Amends n (π a) → Amends n (π (l.foldl f a))
  | [], _, _, h => h
  | b :: l, _, _, h => foldl_of π hf l (h.trans (hf _ b))

/-- A diagnostic appended when `c` holds; the record is shared by both branches, so the chain
    below it is proved once. -/
theorem ite_appendWarning (h : Amends n m) {c : Prop} {_ : Decidable c} {msg : String}
    (hm : msg ≠ "") : Amends n (if c then m.appendWarning msg else m) :=
  Amends.ite (h.appendWarning hm) h

theorem foldl {β : Type} {f : SqlCacheNode → β → SqlCacheNode} (hf : ∀ m b, Amends m (f m b))
    (l : List β) ⦃n m : SqlCacheNode⦄ (h : Amends n m) : Amends n (l.foldl f m) :=
  foldl_of id hf l h

end Amends

section Rules

variable {n m : SqlCacheNode}

theorem Amends.checkColumn (h : Amends n m) (env : AuditEnv) (ctx : InceptionContext)
    (f : ColumnDef) : Amends n (checkColumn env ctx f m) := by
  unfold Inception.checkColumn
  dsimp only
  repeat' apply_rules -exfalso -symm [Amends.rule, Amends.ite_appendWarning, Amends.appendError,
    Amends.appendWarning, Amends.ite]
  all_goals simp

theorem Amends.charsetWhitelist (h : Amends n m) (sv : Sysvars) (what : String)
    (cs : Option String) : Amends n (charsetWhitelist sv what cs m) := by
  unfold Inception.charsetWhitelist
  split
  · exact Amends.ite (h.appendError (by simp)) h
  · exact h

theorem Amends.checkRequiredColumn (h : Amends n m) (knob : Nat) (cols : List ColumnDef)
    (req : RequiredColumn) : Amends n (checkRequiredColumn knob cols m req) := by
  unfold Inception.checkRequiredColumn
  split
  · exact h
  split
  · dsimp only
    repeat' apply_rules -exfalso -symm [Amends.report, Amends.ite]
    all_goals simp
  · exact h.report knob (by simp)

theorem Amends.checkMustHaveColumns (h : Amends n m) (sv : Sysvars) (cols : List ColumnDef) :
    Amends n (checkMustHaveColumns sv cols m) :=
  Amends.foldl (fun m req => (Amends.refl m).checkRequiredColumn _ cols req) _ h

mutual

theorem Amends.checkInClause (knob : Nat) :
    ∀ (i : Item) {n m : SqlCacheNode}, Amends n m → Amends n (checkInClause knob i m)
  | .func _ _ args, _, _, h => by
    simp only [Inception.checkInClause]
    exact Amends.checkInClauseList knob args (Amends.ite (h.appendWarning (by simp)) h)
  | .cond args, _, _, h => Amends.checkInClauseList knob args h
  | .field .., _, _, h | .sum _, _, _, h | .subselect _, _, _, h | .row _, _, _, h
  | .ref _, _, _, h | .other, _, _, h => h

theorem Amends.checkInClauseList (knob : Nat) :
    ∀ (l : List Item) {n m : SqlCacheNode}, Amends n m → Amends n (checkInClauseList knob l m)
  | [], _, _, h => h
  | i :: is, _, _, h => Amends.checkInClauseList knob is (Amends.checkInClause knob i h)

end

theorem Amends.checkInClauseOf (h : Amends n m) (sv : Sysvars) (item : Option Item) :
    Amends n (checkInClauseOf sv item m) := by
  unfold Inception.checkInClauseOf
  split
  · exact Amends.ite h (Amends.checkInClause _ _ h)
  · exact h

theorem Amends.dmlShapeRules (h : Amends n m) (env : AuditEnv) (stmt : Stmt) (verb : String) :
    Amends n (dmlShapeRules env stmt verb m) :=
  (((h.rule _ _ (by simp)).rule _ _ (by simp)).rule _ _ (by simp)).checkInClauseOf _ _

theorem Amends.insertDuplicates (knob : Nat) :
    ∀ (names seen : List String) {n m : SqlCacheNode}, Amends n m →
      Amends n (insertDuplicates knob names seen m)
  | [], _, _, _, h => h
  | name :: names, seen, _, _, h => by
    unfold Inception.insertDuplicates
    split
    · exact Amends.insertDuplicates knob names seen (h.report knob (by simp))
    · exact Amends.insertDuplicates knob names _ h

theorem Amends.typeChangeChecks (h : Amends n m) (sv : Sysvars) (ctx : InceptionContext)
    (f : ColumnDef) (info : RemoteColumnInfo) : Amends n (typeChangeChecks sv ctx f info m) := by
  unfold Inception.typeChangeChecks
  dsimp only
  repeat' apply_rules -exfalso -symm [Amends.rule, Amends.report, Amends.ite]
  all_goals simp

end Rules

/-! ## 2. The blocks -/

@[simp] theorem AuditState.report_node (st : AuditState) (lvl : Nat) (msg : String) :
    (st.report lvl msg).node = st.node.report lvl msg := rfl

@[simp] theorem AuditState.appendWarning_node (st : AuditState) (msg : String) :
    (st.appendWarning msg).node = st.node.appendWarning msg := rfl

@[simp] theorem AuditState.batchAddColumn_node (st : AuditState) (db table col : String) :
    (st.batchAddColumn db table col).node = st.node := rfl

@[simp] theorem AuditState.batchDropColumn_node (st : AuditState) (db table col : String) :
    (st.batchDropColumn db table col).node = st.node := rfl

/-- The block `f` leaves the record amended, from every state. -/
def KeepsRecord (f : AuditState → AuditState) : Prop := ∀ st, Amends st.node (f st).node

namespace KeepsRecord

variable {f g : AuditState → AuditState}

theorem comp (hf : KeepsRecord f) (hg : KeepsRecord g) : KeepsRecord fun st => g (f st) :=
  fun st => (hf st).trans (hg (f st))

/-- A fold whose steps keep the record keeps it. -/
theorem foldl {β : Type} {f : AuditState → β → AuditState} (hf : ∀ b, KeepsRecord (f · b))
    (l : List β) : KeepsRecord (l.foldl f ·) :=
  fun st => Amends.foldl_of AuditState.node (fun a b => hf b a) l (.refl st.node)

/-- A block that keeps the record, after steps that amended it. -/
theorem chain (hf : KeepsRecord f) ⦃n : SqlCacheNode⦄ ⦃st : AuditState⦄ (h : Amends n st.node) :
    Amends n (f st).node :=
  h.trans (hf st)

end KeepsRecord

/-! The free fields the audit sets. -/

namespace Amends

variable {n m : SqlCacheNode}

/-- Either branch of a conditional step amends the record. -/
theorem ite_state {c : Prop} {_ : Decidable c} {a b : AuditState} (ha : Amends n a.node)
    (hb : Amends n b.node) : Amends n (if c then a else b).node := by
  split
  · exact ha
  · exact hb

/-- A step taken only when `c` holds. -/
theorem ite_step {c : Prop} {_ : Decidable c} {a b : AuditState} (ha : Amends n a.node)
    (hb : Amends a.node b.node) : Amends n (if c then b else a).node :=
  ite_state (ha.trans hb) ha

theorem withNode {st : AuditState} {g : SqlCacheNode → SqlCacheNode} (h : Amends n st.node)
    (hg : ∀ x, Amends x (g x)) : Amends n (st.withNode g).node :=
  h.trans (hg st.node)

theorem ite_fst {α : Type} {c : Prop} {_ : Decidable c} {a b : AuditState × α}
    (ha : Amends n a.1.node) (hb : Amends n b.1.node) : Amends n (if c then a else b).1.node := by
  split
  · exact ha
  · exact hb

theorem setAffectedRows (h : Amends n m) (v : Int) : Amends n { m with affectedRows := v } :=
  h.trans (.of_eq rfl rfl rfl rfl rfl)

theorem setDbName (h : Amends n m) (db : String) : Amends n { m with dbName := db } :=
  h.trans (.of_eq rfl rfl rfl rfl rfl)

theorem setNames (h : Amends n m) (db table : String) :
    Amends n { m with dbName := db, tableName := table } :=
  h.trans (.of_eq rfl rfl rfl rfl rfl)

theorem setStage (h : Amends n m) (stage : Stage) (status : String) :
    Amends n { m with stage := stage, stageStatus := status } :=
  h.trans (.of_eq rfl rfl rfl rfl rfl)

theorem setSubType (h : Amends n m) (v : String) : Amends n { m with subType := v } :=
  h.trans (.of_eq rfl rfl rfl rfl rfl)

theorem setDdlAlgorithm (h : Amends n m) (v : String) : Amends n { m with ddlAlgorithm := v } :=
  h.trans (.of_eq rfl rfl rfl rfl rfl)

theorem setSqlsha1 (h : Amends n m) (v : String) : Amends n { m with sqlsha1 := v } :=
  h.trans (.of_eq rfl rfl rfl rfl rfl)

end Amends

section Blocks

variable (env : AuditEnv) (stmt : Stmt)

theorem checkTableExists_keepsRecord : KeepsRecord (checkTableExists env stmt) := by
  intro st
  unfold checkTableExists
  dsimp only
  repeat' split
  all_goals repeat' apply_rules -exfalso -symm [Amends.refl, Amends.appendError]
  all_goals simp

theorem checkColumnName_keepsRecord (db table : String) (inBatch remote : Bool) (name : String) :
    KeepsRecord (checkColumnName env db table inBatch remote · name) := by
  intro st
  unfold checkColumnName
  dsimp only
  repeat' split
  all_goals repeat' apply_rules -exfalso -symm [Amends.refl, Amends.report]
  all_goals simp

theorem estimateRows_keepsRecord (verb : String) : KeepsRecord (estimateRows env stmt verb) := by
  intro st
  unfold estimateRows
  dsimp only
  repeat' split
  all_goals repeat' apply_rules -exfalso -symm [Amends.refl, Amends.appendWarning,
    Amends.setAffectedRows]
  all_goals simp

/-! ### `CREATE TABLE` -/

theorem blobPrefixPart_keepsRecord (key : KeySpec) (ai : AlterInfo)
    (probe : Option (String × String)) (kp : KeyPart) :
    KeepsRecord (blobPrefixPart env key ai probe · kp) := by
  intro st
  unfold blobPrefixPart
  dsimp only
  repeat' split
  all_goals repeat' apply_rules -exfalso -symm [Amends.refl, Amends.appendError]
  all_goals simp

theorem keyLengthPart_amends (key : KeySpec) (ai : AlterInfo) (probe : Option (String × String))
    (acc : AuditState × Nat) (kp : KeyPart) :
    Amends acc.1.node (keyLengthPart env key ai probe acc kp).1.node := by
  unfold keyLengthPart
  dsimp only
  repeat' split
  all_goals repeat' apply_rules -exfalso -symm [Amends.refl, Amends.report]
  all_goals simp

theorem checkIndex_keepsRecord (key : KeySpec) (ai : AlterInfo)
    (probe : Option (String × String)) : KeepsRecord (checkIndex env key ai probe) := by
  intro st
  have hb := (KeepsRecord.foldl (blobPrefixPart_keepsRecord env key ai probe) key.columns).chain
  have hk := Amends.foldl_of (fun acc : AuditState × Nat => acc.1.node)
    (keyLengthPart_amends env key ai probe) key.columns
  unfold checkIndex
  dsimp only
  -- the closing blocks first, then the name-prefix rule that matches on the key
  repeat' apply_rules -exfalso -symm [Amends.ite_state, Amends.report, Amends.rule,
    Amends.appendWarning, Amends.ite, hb, hk]
  all_goals repeat' split
  all_goals repeat' apply_rules -exfalso -symm [Amends.refl, Amends.rule, Amends.appendWarning,
    Amends.ite]
  all_goals simp

theorem redundantPair_keepsRecord (knob : Nat) (a b : KeySpec) :
    KeepsRecord (redundantPair knob a b) := by
  intro st
  unfold redundantPair
  dsimp only
  repeat' split
  all_goals repeat' apply_rules -exfalso -symm [Amends.refl, Amends.report]
  all_goals simp

theorem redundantIndexes_keepsRecord (knob : Nat) :
    ∀ keys : List KeySpec, KeepsRecord (redundantIndexes knob keys)
  | [] => fun st => .refl st.node
  | a :: rest => fun st => by
    have hp := KeepsRecord.foldl (fun b => redundantPair_keepsRecord knob a b) rest st
    unfold redundantIndexes
    split
    · exact redundantIndexes_keepsRecord knob rest st
    · exact hp.trans (redundantIndexes_keepsRecord knob rest _)

theorem createTableExists_keepsRecord : KeepsRecord (createTableExists env stmt) := by
  intro st
  unfold createTableExists
  dsimp only
  repeat' split
  all_goals repeat' apply_rules -exfalso -symm [Amends.refl, Amends.appendError]
  all_goals simp

theorem createTableRules_keepsRecord : KeepsRecord (createTableRules env stmt) := by
  intro st
  have hi := KeepsRecord.foldl (fun key => checkIndex_keepsRecord env key stmt.alterInfo none)
    stmt.alterInfo.keyList
  have hc := Amends.foldl (fun m f => (Amends.refl m).checkColumn env st.ctx f)
    stmt.alterInfo.createList
  unfold createTableRules
  refine Amends.withNode (Amends.ite_step (Amends.withNode (hi.chain
    (Amends.withNode (.refl _) fun n => ?_)) fun n => ?_) (redundantIndexes_keepsRecord _ _ _))
    fun n => ?_
  · -- the table rules, then the column rules
    dsimp only
    rcases stmt.createInfo.engine with _ | e <;> rcases auditTableName stmt with _ | t <;>
      dsimp only <;>
      repeat' apply_rules -exfalso -symm [Amends.rule, Amends.appendWarning,
        Amends.charsetWhitelist, Amends.ite, Amends.refl]
    all_goals simp
  · -- the primary-key parts
    exact Amends.ite (Amends.foldl (fun m _ => Amends.ite ((Amends.refl m).appendWarning (by simp))
      (.refl m)) _ (.refl n)) (.refl n)
  · -- partitioning, the required columns, the `AUTO_INCREMENT` start
    dsimp only
    repeat' apply_rules -exfalso -symm [Amends.rule, Amends.checkMustHaveColumns, Amends.ite,
      Amends.refl]
    all_goals simp

theorem auditCreateTable_keepsRecord : KeepsRecord (auditCreateTable env stmt) := by
  intro st
  have ht : ∀ st', (createTableTrack env stmt st').node = st'.node := by
    intro st'
    unfold createTableTrack
    split <;> rfl
  rw [auditCreateTable, ht]
  exact (createTableExists_keepsRecord env stmt).comp (createTableRules_keepsRecord env stmt) st

theorem auditCreateDb_keepsRecord : KeepsRecord (auditCreateDb env stmt) := by
  intro st
  unfold auditCreateDb
  dsimp only
  repeat' split
  all_goals repeat' apply_rules -exfalso -symm [Amends.refl, Amends.rule, Amends.appendError,
    Amends.appendWarning, Amends.charsetWhitelist, Amends.setDbName, Amends.ite]
  all_goals simp

theorem auditDropDb_keepsRecord : KeepsRecord (auditDropDb env stmt) := by
  intro st
  unfold auditDropDb
  dsimp only
  repeat' split
  all_goals repeat' apply_rules -exfalso -symm [Amends.refl, Amends.rule, Amends.appendWarning,
    Amends.setDbName]
  all_goals simp

/-! ### `ALTER TABLE` -/

section Alter

variable (tgt : Option (String × String)) (inBatch remote : Bool)

theorem alterAddColumn_keepsRecord (f : ColumnDef) :
    KeepsRecord (alterAddColumn env tgt inBatch remote · f) := by
  intro st
  unfold alterAddColumn
  dsimp only
  repeat' split
  all_goals repeat' apply_rules -exfalso -symm [Amends.ite_state, Amends.appendError,
    Amends.checkColumn, Amends.refl]
  all_goals simp

theorem alterDropColumn_keepsRecord (d : AlterDrop) :
    KeepsRecord (alterDropColumn env tgt inBatch remote · d) := by
  intro st
  unfold alterDropColumn
  dsimp only
  repeat' split
  all_goals repeat' apply_rules -exfalso -symm [Amends.appendError, Amends.appendWarning,
    Amends.refl]
  all_goals simp

theorem alterChangeColumn_keepsRecord (f : ColumnDef) :
    KeepsRecord (alterChangeColumn env tgt inBatch remote · f) := by
  intro st
  unfold alterChangeColumn
  dsimp only
  repeat' split
  all_goals repeat' apply_rules -exfalso -symm [Amends.ite_state, Amends.appendError,
    Amends.typeChangeChecks, Amends.checkColumn, Amends.refl]
  all_goals simp

theorem alterDropIndex_keepsRecord (d : AlterDrop) :
    KeepsRecord (alterDropIndex env tgt inBatch remote · d) := by
  intro st
  unfold alterDropIndex
  dsimp only
  repeat' split
  all_goals repeat' apply_rules -exfalso -symm [Amends.appendError, Amends.refl]
  all_goals simp

end Alter

theorem alterTableExists_keepsRecord (inBatch remote : Bool) :
    KeepsRecord (alterTableExists env stmt inBatch remote) := by
  intro st
  unfold alterTableExists
  rcases auditTarget env stmt with _ | ⟨db, table⟩
  all_goals repeat' apply_rules -exfalso -symm [Amends.ite_state, Amends.appendError, Amends.refl,
    Amends.setAffectedRows]
  all_goals simp

/-- A block run only when its flag is set keeps the record when the block does. -/
theorem KeepsRecord.ite_self {g : AuditState → AuditState} (hg : KeepsRecord g) (c : Bool) :
    KeepsRecord fun st => if c then g st else st :=
  fun st => Amends.ite_step (.refl _) (hg st)

section Clauses

variable (inBatch remote : Bool)

theorem alterAddColumns_keepsRecord : KeepsRecord (alterAddColumns env stmt inBatch remote) :=
  (KeepsRecord.foldl (alterAddColumn_keepsRecord env _ inBatch remote) _).ite_self _

theorem alterDropColumns_keepsRecord : KeepsRecord (alterDropColumns env stmt inBatch remote) :=
  (KeepsRecord.foldl (alterDropColumn_keepsRecord env _ inBatch remote) _).ite_self _

theorem alterChangeColumns_keepsRecord : KeepsRecord (alterChangeColumns env stmt inBatch remote) :=
  (KeepsRecord.foldl (alterChangeColumn_keepsRecord env _ inBatch remote) _).ite_self _

theorem alterAddIndexes_keepsRecord : KeepsRecord (alterAddIndexes env stmt inBatch remote) :=
  (KeepsRecord.foldl (fun _ => checkIndex_keepsRecord env _ _ _) _).ite_self _

theorem alterDropIndexes_keepsRecord : KeepsRecord (alterDropIndexes env stmt inBatch remote) :=
  (KeepsRecord.foldl (alterDropIndex_keepsRecord env _ inBatch remote) _).ite_self _

theorem alterClauses_keepsRecord : KeepsRecord (alterClauses env stmt inBatch remote) :=
  ((((alterAddColumns_keepsRecord env stmt inBatch remote).comp
    (alterDropColumns_keepsRecord env stmt inBatch remote)).comp
    (alterChangeColumns_keepsRecord env stmt inBatch remote)).comp
    (alterAddIndexes_keepsRecord env stmt inBatch remote)).comp
    (alterDropIndexes_keepsRecord env stmt inBatch remote)

end Clauses

theorem alterFinish_keepsRecord : KeepsRecord (alterFinish env stmt) := by
  intro st
  unfold alterFinish
  dsimp only
  rcases stmt.createInfo.engine with _ | e <;> cases stmt.alterInfo.has .options <;>
    rcases auditTarget env stmt with _ | ⟨db, table⟩ <;> dsimp only
  all_goals repeat' apply_rules -exfalso -symm [Amends.ite_state, Amends.rule,
    Amends.appendWarning, Amends.ite, Amends.refl, Amends.setDdlAlgorithm]
  all_goals simp

theorem auditAlterTable_keepsRecord : KeepsRecord (auditAlterTable env stmt) :=
  fun _ => (alterFinish_keepsRecord env stmt).chain ((alterClauses_keepsRecord env stmt _ _).chain
    ((alterTableExists_keepsRecord env stmt _ _).chain
      (Amends.ite_fst ((Amends.refl _).setSubType _) ((Amends.refl _).setSubType _))))

/-! ### DML and the rest -/

theorem auditInsert_keepsRecord : KeepsRecord (auditInsert env stmt) := by
  intro st
  have hn := fun db table inBatch remote names =>
    (KeepsRecord.foldl (checkColumnName_keepsRecord env db table inBatch remote) names).chain
  have hc := (checkTableExists_keepsRecord env stmt).chain
  unfold auditInsert
  dsimp only
  rcases stmt.insertCmd with _ | ⟨cols, rows⟩ <;> dsimp only
  · rcases auditTarget env stmt with _ | ⟨db, table⟩ <;> dsimp only
    all_goals repeat' apply_rules -exfalso -symm [Amends.ite_state, Amends.rule, Amends.ite_fst,
      Amends.refl]
    all_goals simp
  · rcases rows.find? (· ≠ cols.length) with _ | actual <;>
      rcases auditTarget env stmt with _ | ⟨db, table⟩ <;> dsimp only
    all_goals repeat' apply_rules -exfalso -symm [Amends.ite_state, Amends.rule, Amends.report,
      Amends.insertDuplicates, Amends.ite_fst, Amends.ite, Amends.refl]
    all_goals simp

theorem auditUpdate_keepsRecord : KeepsRecord (auditUpdate env stmt) := by
  intro st
  have hn := fun db table inBatch remote names =>
    (KeepsRecord.foldl (checkColumnName_keepsRecord env db table inBatch remote) names).chain
  have hc := (checkTableExists_keepsRecord env stmt).chain
  have he := (estimateRows_keepsRecord env stmt "UPDATE").chain
  unfold auditUpdate
  dsimp only
  rcases auditTarget env stmt with _ | ⟨db, table⟩ <;> dsimp only
  all_goals repeat' apply_rules -exfalso -symm [Amends.ite_state, Amends.dmlShapeRules,
    Amends.ite_fst, Amends.refl]

theorem auditDelete_keepsRecord : KeepsRecord (auditDelete env stmt) :=
  fun st => (estimateRows_keepsRecord env stmt "DELETE").chain
    (((checkTableExists_keepsRecord env stmt).chain ((Amends.refl _).rule _ _ (by simp))).dmlShapeRules
      env stmt "DELETE")

theorem auditSelect_keepsRecord : KeepsRecord (auditSelect env stmt) := fun _ =>
  (((Amends.refl _).rule _ _ (by simp)).rule _ _ (by simp)).checkInClauseOf _ _

theorem auditDropTable_keepsRecord : KeepsRecord (auditDropTable env) := fun _ =>
  (Amends.refl _).rule _ _ (by simp)

theorem auditTruncate_keepsRecord : KeepsRecord (auditTruncate env stmt) := by
  intro st
  unfold auditTruncate
  dsimp only
  rcases auditTarget env stmt with _ | ⟨db, table⟩ <;> dsimp only
  all_goals repeat' apply_rules -exfalso -symm [Amends.ite_state, Amends.rule, Amends.appendError,
    Amends.refl, Amends.setAffectedRows]
  all_goals simp

theorem auditDispatch_keepsRecord : KeepsRecord (auditDispatch env stmt) := by
  intro st
  unfold auditDispatch
  split
  · exact auditCreateDb_keepsRecord env stmt st
  · exact auditDropDb_keepsRecord env stmt st
  · exact auditCreateTable_keepsRecord env stmt st
  · exact auditAlterTable_keepsRecord env stmt st
  all_goals first
    | exact auditInsert_keepsRecord env stmt st
    | exact auditUpdate_keepsRecord env stmt st
    | exact auditDelete_keepsRecord env stmt st
    | exact auditSelect_keepsRecord env stmt st
    | exact auditDropTable_keepsRecord env st
    | exact auditTruncate_keepsRecord env stmt st
    | exact .refl _

theorem auditPrepare_keepsRecord : KeepsRecord (auditPrepare env stmt) := by
  intro st
  unfold auditPrepare
  dsimp only
  rcases stmt.queryBlock.tables.head? with _ | t <;> dsimp only
  all_goals repeat' apply_rules -exfalso -symm [Amends.ite_state, Amends.appendError, Amends.refl,
    Amends.setNames, Amends.setStage]
  all_goals simp

/-- **An audit only amends its record**: `audit_statement` leaves the record it is given under
    the same id and text, with well-formed diagnostics appended. -/
theorem auditStatement_amends (st : AuditState) :
    Amends st.node (auditStatement env stmt st).node := by
  have hd := (auditDispatch_keepsRecord env stmt).chain ((auditPrepare_keepsRecord env stmt) st)
  unfold auditStatement
  split
  · exact hd.setSqlsha1 _
  · exact hd

end Blocks

end Inception
