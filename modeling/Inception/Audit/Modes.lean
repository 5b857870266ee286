import Mathlib.Tactic.LiftLets
import Inception.Audit.Handlers

/-!
# Modes — the audit does not read the operation mode

`audit_statement` and every block under it read the session's knobs, its batch tracking, its
profile and its audit connection, and never `ctx->mode`.  So auditing a statement in a context
whose mode was changed is auditing it in the original context and changing the mode after: the
record, the notes, the batch and the connection come out the same (`auditStatement_withMode`).

Every probe, every update of the record and every choice between two states moves the change of
mode from its argument to its result (§1), so that the change stands outermost.  Each block is
then proved one `let` of the source at a time, in the order the handlers compose them (§2).
-/

namespace Inception

/-- The context with its operation mode set to `m`. -/
def InceptionContext.withMode (c : InceptionContext) (m : OpMode) : InceptionContext :=
  { c with opts := { c.opts with mode := m } }

/-- The audit state with the context's operation mode set to `m`. -/
def AuditState.withMode (st : AuditState) (m : OpMode) : AuditState :=
  { st with ctx := st.ctx.withMode m }

/-! ## 1. What the blocks are built from -/

section Primitives

variable (c : InceptionContext) (st : AuditState) (m : OpMode) (remote : Remote)

@[simp] theorem InceptionContext.withMode_batch : (c.withMode m).batch = c.batch := rfl
@[simp] theorem InceptionContext.withMode_dbType : (c.withMode m).dbType = c.dbType := rfl
@[simp] theorem InceptionContext.withMode_remoteConn : (c.withMode m).remoteConn = c.remoteConn := rfl
@[simp] theorem InceptionContext.withMode_remoteConnFailed :
    (c.withMode m).remoteConnFailed = c.remoteConnFailed := rfl
@[simp] theorem InceptionContext.withMode_remoteConnError :
    (c.withMode m).remoteConnError = c.remoteConnError := rfl
@[simp] theorem InceptionContext.withMode_active : (c.withMode m).active = c.active := rfl
@[simp] theorem InceptionContext.withMode_dbVersionMajor :
    (c.withMode m).dbVersionMajor = c.dbVersionMajor := rfl
@[simp] theorem InceptionContext.withMode_dbVersionMinor :
    (c.withMode m).dbVersionMinor = c.dbVersionMinor := rfl
@[simp] theorem InceptionContext.withMode_killed : (c.withMode m).killed = c.killed := rfl
@[simp] theorem InceptionContext.withMode_remoteExecThreadId :
    (c.withMode m).remoteExecThreadId = c.remoteExecThreadId := rfl
@[simp] theorem InceptionContext.withMode_lastThreadsRunning :
    (c.withMode m).lastThreadsRunning = c.lastThreadsRunning := rfl
@[simp] theorem InceptionContext.withMode_lastReplDelay :
    (c.withMode m).lastReplDelay = c.lastReplDelay := rfl
/-- An update of the context's other fields keeps the mode: the form a structure update of
    `c.withMode m` takes once its fields are read. -/
@[simp] theorem InceptionContext.mk_withMode (a : Bool) (d : DbType) (v w : Nat) (k : Bool)
    (r t : Nat) (l : Int) (rc : Option AuditConn) (rf : Bool) (re : String) (b : BatchCache) :
    InceptionContext.mk a (c.withMode m).opts d v w k r t l rc rf re b =
      (InceptionContext.mk a c.opts d v w k r t l rc rf re b).withMode m := rfl
@[simp] theorem InceptionContext.withMode_host : (c.withMode m).opts.host = c.opts.host := rfl
@[simp] theorem InceptionContext.withMode_port : (c.withMode m).opts.port = c.opts.port := rfl

@[simp] theorem AuditState.withMode_node : (st.withMode m).node = st.node := rfl
@[simp] theorem AuditState.withMode_ctx : (st.withMode m).ctx = st.ctx.withMode m := rfl
@[simp] theorem AuditState.withMode_undefined : (st.withMode m).undefined = st.undefined := rfl
@[simp] theorem AuditState.withMode_existence : (st.withMode m).existence = st.existence := rfl
@[simp] theorem AuditState.mk_withMode (n : SqlCacheNode) (u : Bool) (e : List (RemoteObject × Bool)) :
    AuditState.mk n (c.withMode m) u e = (AuditState.mk n c u e).withMode m := rfl

@[simp] theorem AuditState.ite_withMode (p : Prop) [Decidable p] (a b : AuditState) :
    (if p then a.withMode m else b.withMode m) = (if p then a else b).withMode m := by
  split <;> rfl

@[simp] theorem AuditState.withNode_withMode (f : SqlCacheNode → SqlCacheNode) :
    (st.withMode m).withNode f = (st.withNode f).withMode m := rfl
@[simp] theorem AuditState.report_withMode (lvl : Nat) (msg : String) :
    (st.withMode m).report lvl msg = (st.report lvl msg).withMode m := rfl
@[simp] theorem AuditState.appendError_withMode (msg : String) :
    (st.withMode m).appendError msg = (st.appendError msg).withMode m := rfl
@[simp] theorem AuditState.appendWarning_withMode (msg : String) :
    (st.withMode m).appendWarning msg = (st.appendWarning msg).withMode m := rfl
@[simp] theorem AuditState.noteExistence_withMode (o : RemoteObject) (b : Bool) :
    (st.withMode m).noteExistence o b = (st.noteExistence o b).withMode m := rfl
@[simp] theorem AuditState.batchAddColumn_withMode (db table col : String) :
    (st.withMode m).batchAddColumn db table col = (st.batchAddColumn db table col).withMode m := rfl
@[simp] theorem AuditState.batchDropColumn_withMode (db table col : String) :
    (st.withMode m).batchDropColumn db table col = (st.batchDropColumn db table col).withMode m :=
  rfl

/-- A choice between two probe results whose states carry the mode is the choice between the
    results, with the mode set after. -/
@[simp] theorem AuditState.ite_pair_withMode {α : Type} (p : Prop) [Decidable p] (a b : AuditState)
    (x y : α) :
    (if p then (a.withMode m, x) else (b.withMode m, y)) =
      ((if p then (a, x) else (b, y)).1.withMode m, (if p then (a, x) else (b, y)).2) := by
  split <;> rfl

/-- A probe sends the same query and gets the same answer whatever the mode. -/
theorem InceptionContext.query_withMode (q : RemoteQuery) :
    (c.withMode m).query remote q = ((c.query remote q).1.withMode m, (c.query remote q).2) := by
  unfold InceptionContext.query
  rw [InceptionContext.withMode_remoteConn]
  cases c.remoteConn <;> rfl

@[simp] theorem getRemoteConn_withMode :
    getRemoteConn remote (c.withMode m) =
      ((getRemoteConn remote c).1.withMode m, (getRemoteConn remote c).2) := by
  unfold getRemoteConn
  rw [InceptionContext.withMode_remoteConn, InceptionContext.withMode_remoteConnFailed]
  rcases c.remoteConn with _ | _
  · cases c.remoteConnFailed <;> rcases remote.connect <;> rfl
  · rfl

@[simp] theorem InceptionContext.remoteDbExists_withMode (db : String) :
    (c.withMode m).remoteDbExists remote db =
      ((c.remoteDbExists remote db).1.withMode m, (c.remoteDbExists remote db).2) := by
  simp only [InceptionContext.remoteDbExists, InceptionContext.query_withMode]

@[simp] theorem InceptionContext.remoteTableExists_withMode (db table : String) :
    (c.withMode m).remoteTableExists remote db table =
      ((c.remoteTableExists remote db table).1.withMode m,
        (c.remoteTableExists remote db table).2) := by
  simp only [InceptionContext.remoteTableExists, InceptionContext.query_withMode]
  split <;> rfl

@[simp] theorem InceptionContext.remoteColumnExists_withMode (db table col : String) :
    (c.withMode m).remoteColumnExists remote db table col =
      ((c.remoteColumnExists remote db table col).1.withMode m,
        (c.remoteColumnExists remote db table col).2) := by
  simp only [InceptionContext.remoteColumnExists, InceptionContext.query_withMode]

@[simp] theorem InceptionContext.remoteIndexExists_withMode (db table index : String) :
    (c.withMode m).remoteIndexExists remote db table index =
      ((c.remoteIndexExists remote db table index).1.withMode m,
        (c.remoteIndexExists remote db table index).2) := by
  simp only [InceptionContext.remoteIndexExists, InceptionContext.query_withMode]

@[simp] theorem InceptionContext.remoteTableRows_withMode (db table : String) :
    (c.withMode m).remoteTableRows remote db table =
      ((c.remoteTableRows remote db table).1.withMode m, (c.remoteTableRows remote db table).2) := by
  simp only [InceptionContext.remoteTableRows, InceptionContext.query_withMode]

@[simp] theorem InceptionContext.explainRows_withMode (db sql : String) (isTidb : Bool) :
    (c.withMode m).explainRows remote db sql isTidb =
      ((c.explainRows remote db sql isTidb).1.withMode m,
        (c.explainRows remote db sql isTidb).2) := by
  simp only [InceptionContext.explainRows, InceptionContext.query_withMode]
  repeat' split
  all_goals rfl

@[simp] theorem InceptionContext.remoteColumnInfo_withMode (db table col : String) :
    (c.withMode m).remoteColumnInfo remote db table col =
      ((c.remoteColumnInfo remote db table col).1.withMode m,
        (c.remoteColumnInfo remote db table col).2) := by
  simp only [InceptionContext.remoteColumnInfo, InceptionContext.query_withMode]

@[simp] theorem AuditState.probe_withMode {α : Type} (r : InceptionContext × α) :
    (st.withMode m).probe (r.1.withMode m, r.2) = ((st.probe r).1.withMode m, (st.probe r).2) :=
  rfl

@[simp] theorem AuditState.remoteConn_withMode :
    (st.withMode m).remoteConn remote =
      ((st.remoteConn remote).1.withMode m, (st.remoteConn remote).2) := by
  simp only [AuditState.remoteConn, AuditState.withMode_ctx, getRemoteConn_withMode,
    AuditState.probe_withMode]

@[simp] theorem AuditState.remoteDbExists_withMode (db : String) :
    (st.withMode m).remoteDbExists remote db =
      ((st.remoteDbExists remote db).1.withMode m, (st.remoteDbExists remote db).2) := by
  simp only [AuditState.remoteDbExists, AuditState.withMode_ctx,
    InceptionContext.remoteDbExists_withMode, AuditState.probe_withMode]

@[simp] theorem AuditState.remoteTableExists_withMode (db table : String) :
    (st.withMode m).remoteTableExists remote db table =
      ((st.remoteTableExists remote db table).1.withMode m,
        (st.remoteTableExists remote db table).2) := by
  simp only [AuditState.remoteTableExists, AuditState.withMode_ctx,
    InceptionContext.remoteTableExists_withMode, AuditState.probe_withMode]

@[simp] theorem AuditState.remoteColumnExists_withMode (db table col : String) :
    (st.withMode m).remoteColumnExists remote db table col =
      ((st.remoteColumnExists remote db table col).1.withMode m,
        (st.remoteColumnExists remote db table col).2) := by
  simp only [AuditState.remoteColumnExists, AuditState.withMode_ctx,
    InceptionContext.remoteColumnExists_withMode, AuditState.probe_withMode]

@[simp] theorem AuditState.remoteIndexExists_withMode (db table index : String) :
    (st.withMode m).remoteIndexExists remote db table index =
      ((st.remoteIndexExists remote db table index).1.withMode m,
        (st.remoteIndexExists remote db table index).2) := by
  simp only [AuditState.remoteIndexExists, AuditState.withMode_ctx,
    InceptionContext.remoteIndexExists_withMode, AuditState.probe_withMode]

@[simp] theorem AuditState.remoteTableRows_withMode (db table : String) :
    (st.withMode m).remoteTableRows remote db table =
      ((st.remoteTableRows remote db table).1.withMode m,
        (st.remoteTableRows remote db table).2) := by
  simp only [AuditState.remoteTableRows, AuditState.withMode_ctx,
    InceptionContext.remoteTableRows_withMode, AuditState.probe_withMode]

@[simp] theorem AuditState.explainRows_withMode (db sql : String) (isTidb : Bool) :
    (st.withMode m).explainRows remote db sql isTidb =
      ((st.explainRows remote db sql isTidb).1.withMode m,
        (st.explainRows remote db sql isTidb).2) := by
  simp only [AuditState.explainRows, AuditState.withMode_ctx,
    InceptionContext.explainRows_withMode, AuditState.probe_withMode]

@[simp] theorem AuditState.remoteColumnInfo_withMode (db table col : String) :
    (st.withMode m).remoteColumnInfo remote db table col =
      ((st.remoteColumnInfo remote db table col).1.withMode m,
        (st.remoteColumnInfo remote db table col).2) := by
  simp only [AuditState.remoteColumnInfo, AuditState.withMode_ctx,
    InceptionContext.remoteColumnInfo_withMode, AuditState.probe_withMode]

/-! The rules on a record read the context only through fields the mode does not touch. -/

@[simp] theorem batchHas_withMode (db table : String) :
    batchHas (c.withMode m) db table = batchHas c db table := rfl
@[simp] theorem batchColumnExists_withMode (db table col : String) :
    batchColumnExists (c.withMode m) db table col = batchColumnExists c db table col := rfl
@[simp] theorem checkColumn_withMode (env : AuditEnv) (f : ColumnDef) :
    checkColumn env (c.withMode m) f = checkColumn env c f := rfl
@[simp] theorem typeChangeChecks_withMode (sv : Sysvars) (f : ColumnDef) :
    typeChangeChecks sv (c.withMode m) f = typeChangeChecks sv c f := rfl
@[simp] theorem predictAlterAlgorithm_withMode (ai : AlterInfo) (ci : CreateInfo) :
    predictAlterAlgorithm ai ci (c.withMode m) = predictAlterAlgorithm ai ci c := rfl
@[simp] theorem targetInBatch_withMode (env : AuditEnv) (stmt : Stmt) :
    targetInBatch env stmt (c.withMode m) = targetInBatch env stmt c := rfl

end Primitives

/-! ## 2. The blocks -/

section Blocks

variable (env : AuditEnv) (stmt : Stmt) (m : OpMode)

/-- A fold of blocks that each ignore the mode ignores it. -/
theorem foldl_withMode {α : Type} {f : AuditState → α → AuditState}
    (hf : ∀ st a, f (st.withMode m) a = (f st a).withMode m) :
    ∀ (l : List α) (st : AuditState), l.foldl f (st.withMode m) = (l.foldl f st).withMode m
  | [], _ => rfl
  | a :: l, st => by rw [List.foldl_cons, hf, foldl_withMode hf l, List.foldl_cons]

/-- The same for a fold that carries a number beside the state. -/
theorem foldl_withMode_fst {α : Type} {f : AuditState × Nat → α → AuditState × Nat}
    (hf : ∀ st n a, f (st.withMode m, n) a = ((f (st, n) a).1.withMode m, (f (st, n) a).2)) :
    ∀ (l : List α) (st : AuditState) (n : Nat),
      l.foldl f (st.withMode m, n) = ((l.foldl f (st, n)).1.withMode m, (l.foldl f (st, n)).2)
  | [], _, _ => rfl
  | a :: l, st, n => by rw [List.foldl_cons, hf, foldl_withMode_fst hf l, List.foldl_cons]

/-! ### `check_index` -/

theorem blobPrefixPart_withMode (key : KeySpec) (ai : AlterInfo) (probe : Option (String × String))
    (st : AuditState) (kp : KeyPart) :
    blobPrefixPart env key ai probe (st.withMode m) kp =
      (blobPrefixPart env key ai probe st kp).withMode m := by
  simp only [blobPrefixPart, AuditState.remoteColumnInfo_withMode, AuditState.appendError_withMode,
    AuditState.ite_withMode]
  repeat' split
  all_goals rfl

theorem keyLengthPart_withMode (key : KeySpec) (ai : AlterInfo) (probe : Option (String × String))
    (st : AuditState) (n : Nat) (kp : KeyPart) :
    keyLengthPart env key ai probe (st.withMode m, n) kp =
      ((keyLengthPart env key ai probe (st, n) kp).1.withMode m,
        (keyLengthPart env key ai probe (st, n) kp).2) := by
  unfold keyLengthPart
  split
  · rfl
  · lift_lets
    intro sv r s r' s'
    have hr : r = (r'.1.withMode m, r'.2) := by
      simp only [r, r', AuditState.remoteColumnInfo_withMode]
      repeat' split
      all_goals rfl
    simp only [s, s', hr, AuditState.report_withMode, AuditState.ite_withMode]

theorem checkIndex_withMode (key : KeySpec) (ai : AlterInfo) (probe : Option (String × String))
    (st : AuditState) :
    checkIndex env key ai probe (st.withMode m) = (checkIndex env key ai probe st).withMode m := by
  have hb := foldl_withMode m (blobPrefixPart_withMode env m key ai probe)
  have hk := foldl_withMode_fst m (keyLengthPart_withMode env m key ai probe)
  simp only [checkIndex, AuditState.withMode_node, AuditState.withMode_ctx,
    AuditState.withMode_undefined, AuditState.withMode_existence, InceptionContext.withMode_dbType,
    AuditState.mk_withMode, hb, hk, AuditState.report_withMode, AuditState.ite_withMode]

/-! ### The table and column checks of the handlers -/

theorem checkTableExists_withMode (st : AuditState) :
    checkTableExists env stmt (st.withMode m) = (checkTableExists env stmt st).withMode m := by
  unfold checkTableExists
  split
  · simp only [AuditState.withMode_ctx, batchHas_withMode, AuditState.remoteConn_withMode,
      AuditState.remoteTableExists_withMode, AuditState.appendError_withMode,
      AuditState.noteExistence_withMode, AuditState.ite_withMode]
  · rfl

theorem checkColumnName_withMode (db table : String) (inBatch remote : Bool) (st : AuditState)
    (name : String) :
    checkColumnName env db table inBatch remote (st.withMode m) name =
      (checkColumnName env db table inBatch remote st name).withMode m := by
  simp only [checkColumnName, AuditState.withMode_ctx, batchColumnExists_withMode,
    AuditState.report_withMode, AuditState.remoteColumnExists_withMode,
    AuditState.noteExistence_withMode, AuditState.ite_withMode]

theorem estimateRows_withMode (verb : String) (st : AuditState) :
    estimateRows env stmt verb (st.withMode m) = (estimateRows env stmt verb st).withMode m := by
  unfold estimateRows
  split
  · simp only [AuditState.remoteConn_withMode, AuditState.withMode_node, AuditState.withMode_ctx,
      InceptionContext.withMode_dbType, AuditState.explainRows_withMode,
      AuditState.remoteTableRows_withMode, AuditState.ite_pair_withMode, Prod.mk.eta,
      AuditState.withNode_withMode, AuditState.appendWarning_withMode, AuditState.ite_withMode]
  · rfl

/-! ### `CREATE TABLE`, `CREATE DATABASE`, `DROP DATABASE` -/

theorem redundantPair_withMode (knob : Nat) (a b : KeySpec) (st : AuditState) :
    redundantPair knob a b (st.withMode m) = (redundantPair knob a b st).withMode m := by
  simp only [redundantPair]
  repeat' split
  all_goals rfl

theorem redundantIndexes_withMode (knob : Nat) :
    ∀ (l : List KeySpec) (st : AuditState),
      redundantIndexes knob l (st.withMode m) = (redundantIndexes knob l st).withMode m
  | [], _ => rfl
  | a :: rest, st => by
    have hpairs := foldl_withMode m (f := fun st b => redundantPair knob a b st)
      fun st b => redundantPair_withMode m knob a b st
    simp only [redundantIndexes]
    rw [hpairs, AuditState.ite_withMode, redundantIndexes_withMode knob rest]

theorem createTableExists_withMode (st : AuditState) :
    createTableExists env stmt (st.withMode m) = (createTableExists env stmt st).withMode m := by
  unfold createTableExists
  split
  · simp only [AuditState.withMode_ctx, batchHas_withMode, AuditState.appendError_withMode,
      AuditState.remoteConn_withMode, AuditState.remoteTableExists_withMode,
      AuditState.noteExistence_withMode, AuditState.ite_withMode]
  · rfl

theorem createTableRules_withMode (st : AuditState) :
    createTableRules env stmt (st.withMode m) = (createTableRules env stmt st).withMode m := by
  have hidx := foldl_withMode m (f := fun st key => checkIndex env key stmt.alterInfo none st)
    fun st key => checkIndex_withMode env m key stmt.alterInfo none st
  simp only [createTableRules, AuditState.withMode_ctx, checkColumn_withMode,
    AuditState.withNode_withMode, hidx, redundantIndexes_withMode, AuditState.ite_withMode]

theorem createTableTrack_withMode (st : AuditState) :
    createTableTrack env stmt (st.withMode m) = (createTableTrack env stmt st).withMode m := by
  unfold createTableTrack
  split <;> rfl

theorem auditCreateTable_withMode (st : AuditState) :
    auditCreateTable env stmt (st.withMode m) = (auditCreateTable env stmt st).withMode m := by
  rw [auditCreateTable, createTableExists_withMode, createTableRules_withMode,
    createTableTrack_withMode, auditCreateTable]

theorem auditCreateDb_withMode (st : AuditState) :
    auditCreateDb env stmt (st.withMode m) = (auditCreateDb env stmt st).withMode m := by
  unfold auditCreateDb
  lift_lets
  intro sv s₁ r s₂ s₃ s₁' r' s₂' s₃'
  have h₁ : s₁ = s₁'.withMode m := by simp only [s₁, s₁', AuditState.withNode_withMode]
  have hr : r = (r'.1.withMode m, r'.2) := by simp only [r, r', h₁, AuditState.remoteConn_withMode]
  have h₂ : s₂ = s₂'.withMode m := by
    simp only [s₂, s₂', h₁, hr, AuditState.remoteDbExists_withMode, AuditState.appendError_withMode,
      AuditState.noteExistence_withMode, AuditState.ite_withMode]
    split <;> rfl
  simp only [s₃, s₃', h₂, AuditState.withNode_withMode]

theorem auditDropDb_withMode (st : AuditState) :
    auditDropDb env stmt (st.withMode m) = (auditDropDb env stmt st).withMode m := by
  unfold auditDropDb
  lift_lets
  intro s₁ s₂ r s₁' s₂' r'
  have h₂ : s₂ = s₂'.withMode m := by simp only [s₂, s₂', s₁, s₁', AuditState.withNode_withMode]
  have hr : r = (r'.1.withMode m, r'.2) := by simp only [r, r', h₂, AuditState.remoteConn_withMode]
  rw [h₂, hr]
  split
  · simp only [AuditState.remoteDbExists_withMode, AuditState.appendWarning_withMode,
      AuditState.noteExistence_withMode, AuditState.ite_withMode]
    rfl
  · rfl

/-! ### `ALTER TABLE` -/

section Alter

variable (tgt : Option (String × String)) (inBatch remote : Bool)

theorem alterAddColumn_withMode (st : AuditState) (f : ColumnDef) :
    alterAddColumn env tgt inBatch remote (st.withMode m) f =
      (alterAddColumn env tgt inBatch remote st f).withMode m := by
  unfold alterAddColumn
  simp only [AuditState.withMode_ctx, checkColumn_withMode, AuditState.withNode_withMode]
  split
  · simp only [AuditState.withMode_ctx, batchColumnExists_withMode, AuditState.appendError_withMode,
      AuditState.batchAddColumn_withMode, AuditState.remoteColumnExists_withMode,
      AuditState.noteExistence_withMode, AuditState.ite_withMode]
  · rfl

theorem alterDropColumn_withMode (st : AuditState) (d : AlterDrop) :
    alterDropColumn env tgt inBatch remote (st.withMode m) d =
      (alterDropColumn env tgt inBatch remote st d).withMode m := by
  unfold alterDropColumn
  simp only [AuditState.appendWarning_withMode]
  split
  · split
    · simp only [AuditState.withMode_ctx, batchColumnExists_withMode,
        AuditState.batchDropColumn_withMode, AuditState.appendError_withMode,
        AuditState.remoteColumnExists_withMode, AuditState.noteExistence_withMode,
        AuditState.ite_withMode]
    · rfl
  · rfl

theorem alterChangeColumn_withMode (st : AuditState) (f : ColumnDef) :
    alterChangeColumn env tgt inBatch remote (st.withMode m) f =
      (alterChangeColumn env tgt inBatch remote st f).withMode m := by
  simp only [alterChangeColumn, AuditState.withMode_ctx, checkColumn_withMode,
    AuditState.withNode_withMode, batchColumnExists_withMode, AuditState.appendError_withMode,
    AuditState.remoteColumnExists_withMode, AuditState.noteExistence_withMode,
    AuditState.ite_withMode, AuditState.remoteColumnInfo_withMode, typeChangeChecks_withMode]
  repeat' split
  all_goals rfl

theorem alterDropIndex_withMode (st : AuditState) (d : AlterDrop) :
    alterDropIndex env tgt inBatch remote (st.withMode m) d =
      (alterDropIndex env tgt inBatch remote st d).withMode m := by
  unfold alterDropIndex
  split
  · simp only [AuditState.remoteIndexExists_withMode, AuditState.appendError_withMode,
      AuditState.noteExistence_withMode, AuditState.ite_withMode]
  · rfl

end Alter

theorem alterTableExists_withMode (inBatch remote : Bool) (st : AuditState) :
    alterTableExists env stmt inBatch remote (st.withMode m) =
      (alterTableExists env stmt inBatch remote st).withMode m := by
  unfold alterTableExists
  split
  · simp only [AuditState.remoteTableExists_withMode, AuditState.appendError_withMode,
      AuditState.noteExistence_withMode, AuditState.ite_withMode,
      AuditState.remoteTableRows_withMode, AuditState.withNode_withMode]
  · rfl

theorem alterClauses_withMode (inBatch remote : Bool) (st : AuditState) :
    alterClauses env stmt inBatch remote (st.withMode m) =
      (alterClauses env stmt inBatch remote st).withMode m := by
  have hadd := foldl_withMode m fun st f => alterAddColumn_withMode env m
    (auditTarget env stmt) inBatch remote st f
  have hdrop := foldl_withMode m fun st d => alterDropColumn_withMode env m
    (auditTarget env stmt) inBatch remote st d
  have hchange := foldl_withMode m fun st f => alterChangeColumn_withMode env m
    (auditTarget env stmt) inBatch remote st f
  have hidx := foldl_withMode m (f := fun st key => checkIndex env key stmt.alterInfo
    (if inBatch ∨ !remote then none else auditTarget env stmt) st)
    fun st key => checkIndex_withMode env m key _ _ st
  have hdropIdx := foldl_withMode m fun st d => alterDropIndex_withMode env m
    (auditTarget env stmt) inBatch remote st d
  simp only [alterClauses, alterAddColumns, alterDropColumns, alterChangeColumns, alterAddIndexes,
    alterDropIndexes, hadd, hdrop, hchange, hidx, hdropIdx, AuditState.ite_withMode]

/-- The closing blocks, one `let` of the source at a time. -/
theorem alterFinish_withMode (st : AuditState) :
    alterFinish env stmt (st.withMode m) = (alterFinish env stmt st).withMode m := by
  unfold alterFinish
  lift_lets
  intro sv ai s₁ s₂ s₃ tidb cats addCount s₄ s₁' s₂' s₃' tidb' s₄'
  have h₁ : s₁ = s₁'.withMode m := by
    simp only [s₁, s₁', AuditState.appendWarning_withMode, AuditState.ite_withMode]
  have h₂ : s₂ = s₂'.withMode m := by simp only [s₂, s₂', h₁, AuditState.withNode_withMode]
  have h₃ : s₃ = s₃'.withMode m := by
    simp only [s₃, s₃']
    split
    · split
      · rw [h₂]; rfl
      · exact h₂
    · exact h₂
  have h₄ : s₄ = s₄'.withMode m := by
    simp only [s₄, s₄', tidb, tidb', h₃, AuditState.withNode_withMode, AuditState.withMode_ctx,
      InceptionContext.withMode_dbType]
  rw [h₄]
  rfl

theorem auditAlterTable_withMode (st : AuditState) :
    auditAlterTable env stmt (st.withMode m) = (auditAlterTable env stmt st).withMode m := by
  simp only [auditAlterTable]
  split <;> simp only [AuditState.withNode_withMode, AuditState.remoteConn_withMode,
    targetInBatch_withMode, alterTableExists_withMode, alterClauses_withMode, alterFinish_withMode,
    AuditState.withMode_ctx]

/-! ### DML -/

/-- The column loop of `audit_insert` and `audit_update`. -/
theorem checkColumnNames_withMode (db table : String) (inBatch remote : Bool) (names : List String)
    (st : AuditState) :
    names.foldl (checkColumnName env db table inBatch remote) (st.withMode m) =
      (names.foldl (checkColumnName env db table inBatch remote) st).withMode m :=
  foldl_withMode m (checkColumnName_withMode env m db table inBatch remote) names st

theorem auditInsert_withMode (st : AuditState) :
    auditInsert env stmt (st.withMode m) = (auditInsert env stmt st).withMode m := by
  unfold auditInsert
  lift_lets
  intro sv s₁ s₂ s₃ s₁' s₂' s₃'
  have h₃ : s₃ = s₃'.withMode m := by
    simp only [s₃, s₃', s₂, s₂', s₁, s₁', checkTableExists_withMode, AuditState.withNode_withMode]
  simp only [h₃, AuditState.withMode_ctx, batchHas_withMode, AuditState.remoteConn_withMode,
    AuditState.ite_pair_withMode, Prod.mk.eta, checkColumnNames_withMode]
  repeat' split
  all_goals rfl

theorem auditUpdate_withMode (st : AuditState) :
    auditUpdate env stmt (st.withMode m) = (auditUpdate env stmt st).withMode m := by
  unfold auditUpdate
  lift_lets
  intro sv s₁ s₂ s₃ s₁' s₂' s₃'
  have h₃ : s₃ = s₃'.withMode m := by
    simp only [s₃, s₃', s₂, s₂', s₁, s₁', checkTableExists_withMode, AuditState.withNode_withMode,
      estimateRows_withMode]
  simp only [h₃, AuditState.withMode_ctx, batchHas_withMode, AuditState.remoteConn_withMode,
    AuditState.ite_pair_withMode, Prod.mk.eta, checkColumnNames_withMode]
  repeat' split
  all_goals rfl

theorem auditDelete_withMode (st : AuditState) :
    auditDelete env stmt (st.withMode m) = (auditDelete env stmt st).withMode m := by
  simp only [auditDelete, AuditState.withNode_withMode, checkTableExists_withMode,
    estimateRows_withMode]

theorem auditTruncate_withMode (st : AuditState) :
    auditTruncate env stmt (st.withMode m) = (auditTruncate env stmt st).withMode m := by
  unfold auditTruncate
  lift_lets
  intro s₁ r s₁' r'
  have h₁ : s₁ = s₁'.withMode m := by simp only [s₁, s₁', AuditState.withNode_withMode]
  have hr : r = (r'.1.withMode m, r'.2) := by simp only [r, r', h₁, AuditState.remoteConn_withMode]
  rw [h₁, hr]
  split
  · simp only [AuditState.withMode_ctx, batchHas_withMode, AuditState.remoteTableExists_withMode,
      AuditState.remoteTableRows_withMode, AuditState.withNode_withMode,
      AuditState.appendError_withMode, AuditState.noteExistence_withMode, AuditState.ite_withMode]
  · rfl

/-! ### `audit_statement` -/

theorem auditDispatch_withMode (st : AuditState) :
    auditDispatch env stmt (st.withMode m) = (auditDispatch env stmt st).withMode m := by
  unfold auditDispatch
  split
  · exact auditCreateDb_withMode env stmt m st
  · exact auditDropDb_withMode env stmt m st
  · exact auditCreateTable_withMode env stmt m st
  · exact auditAlterTable_withMode env stmt m st
  all_goals first
    | exact auditInsert_withMode env stmt m st
    | exact auditUpdate_withMode env stmt m st
    | exact auditDelete_withMode env stmt m st
    | exact auditTruncate_withMode env stmt m st
    | rfl

theorem auditPrepare_withMode (st : AuditState) :
    auditPrepare env stmt (st.withMode m) = (auditPrepare env stmt st).withMode m := by
  unfold auditPrepare
  lift_lets
  intro s₁ s₂ s₃ s₁' s₂' s₃'
  have h₂ : s₂ = s₂'.withMode m := by
    simp only [s₂, s₂', s₁, s₁', AuditState.withNode_withMode, AuditState.withMode_ctx,
      InceptionContext.withMode_remoteConn, InceptionContext.withMode_remoteConnFailed,
      AuditState.remoteConn_withMode, AuditState.ite_withMode]
  have h₃ : s₃ = s₃'.withMode m := by
    simp only [s₃, s₃', h₂, AuditState.withMode_ctx, InceptionContext.withMode_remoteConnFailed,
      InceptionContext.withMode_host, InceptionContext.withMode_port,
      InceptionContext.withMode_remoteConnError, AuditState.appendError_withMode,
      AuditState.ite_withMode]
  rw [h₃]
  split <;> rfl

/-- Auditing a statement in a context whose operation mode was changed is auditing it in the
    original context and changing the mode after. -/
theorem auditStatement_withMode (st : AuditState) :
    auditStatement env stmt (st.withMode m) = (auditStatement env stmt st).withMode m := by
  simp only [auditStatement, auditPrepare_withMode, auditDispatch_withMode]
  split <;> rfl

end Blocks

end Inception
