import Inception.Context
import Inception.Text

/-!
# Remote — the audit connection and its probes

The remote helpers of `inception_audit.cc`: `get_remote_conn`, which opens the audit connection
at most once per batch, and the probes the audit sends on it.  The remote target is an oracle:
the outcome of opening a connection, and the answer to each query given the queries sent before
it on the same connection (so that a `USE` can decide what a later `SHOW TABLES` sees).

An audit step changes an `AuditState`: the record being audited and the session context.  The
queries sent are the growth of the open connection's log.
-/

namespace Inception

/-- The remote target as the audit connection sees it: the outcome of opening a connection (its
    server version, or the client library's error text) and the answer to each query given the
    connection's earlier queries (`error` when `mysql_real_query` or `mysql_store_result`
    fails). -/
structure Remote where
  connect : Except String String := .error ""
  answer : List RemoteQuery → RemoteQuery → Except String ResultSet := fun _ _ => .error ""

/-- `get_remote_conn`: the open connection, a remembered failure, or one new attempt. -/
def getRemoteConn (remote : Remote) (ctx : InceptionContext) : InceptionContext × Bool :=
  match ctx.remoteConn with
  | some _ => (ctx, true)
  | none =>
    if ctx.remoteConnFailed then (ctx, false)
    else match remote.connect with
      | .ok version => ({ ctx with remoteConn := some { version } }, true)
      | .error e => ({ ctx with remoteConnError := e, remoteConnFailed := true }, false)

/-- A probe's answer holds a row (`mysql_num_rows(res) > 0`); a failed query reads as no row. -/
def hasRows : Except String ResultSet → Bool
  | .ok r => !r.rows.isEmpty
  | .error _ => false

/-- A catalogue object of the remote that an existence diagnostic is about. -/
inductive RemoteObject
  | database (db : String)
  | table (db table : String)
  | column (db table column : String)
  | index (db table index : String)
  deriving DecidableEq, Repr

/-! ## The probes

Every probe is a function of the context: it may open the audit connection, and it appends what
it sends to the connection's log. -/

namespace InceptionContext

variable (ctx : InceptionContext) (remote : Remote)

/-- The queries sent on the open audit connection (none when it is closed). -/
def auditLog : List RemoteQuery :=
  match ctx.remoteConn with
  | some c => c.log
  | none => []

/-- Send one query on the audit connection.  The audit sends only on an open handle; without one
    nothing is sent. -/
def query (q : RemoteQuery) : InceptionContext × Except String ResultSet :=
  match ctx.remoteConn with
  | some c => ({ ctx with remoteConn := some { c with log := c.log ++ [q] } }, remote.answer c.log q)
  | none => (ctx, .error "")

/-- `remote_db_exists`. -/
def remoteDbExists (db : String) : InceptionContext × Bool :=
  let r := ctx.query remote (.showDatabasesLike db)
  (r.1, hasRows r.2)

/-- `remote_table_exists`: `USE` the database, then `SHOW TABLES LIKE`; a failed `USE` reads as
    absent. -/
def remoteTableExists (db table : String) : InceptionContext × Bool :=
  let u := ctx.query remote (.useDatabase db)
  match u.2 with
  | .error _ => (u.1, false)
  | .ok _ =>
    let r := u.1.query remote (.showTablesLike table)
    (r.1, hasRows r.2)

/-- `remote_column_exists`. -/
def remoteColumnExists (db table column : String) : InceptionContext × Bool :=
  let r := ctx.query remote (.checkColumnExists db table column)
  (r.1, hasRows r.2)

/-- `remote_index_exists`. -/
def remoteIndexExists (db table index : String) : InceptionContext × Bool :=
  let r := ctx.query remote (.checkIndexExists db table index)
  (r.1, hasRows r.2)

/-- `remote_table_rows`: `TABLE_ROWS` of the first row, `-1` on failure. -/
def remoteTableRows (db table : String) : InceptionContext × Int :=
  let r := ctx.query remote (.getTableRows db table)
  (r.1, match r.2 with
    | .ok res => match res.rows with
      | row :: _ => match row.col 0 with
        | some v => strtoll v.data
        | none => -1
      | [] => -1
    | .error _ => -1)

end InceptionContext

/-- The sum `explain_rows` takes over the rows of an `EXPLAIN`: the first non-`NULL` value, plus
    (off TiDB) every later one. -/
def explainTotal (idx : Nat) (isTidb : Bool) : List Row → Option Int → Int
  | [], total => total.getD 0
  | row :: rows, total =>
    match row.col idx with
    | some v =>
      let x := strtodTrunc v.data
      explainTotal idx isTidb rows (match total with
        | none => some x
        | some t => some (if isTidb then t else t + x))
    | none => explainTotal idx isTidb rows total

/-- The `information_schema.COLUMNS` row of a remote column. -/
structure RemoteColumnInfo where
  dataType : String
  charMaxLength : Int
  numericPrecision : Int
  numericScale : Int
  deriving DecidableEq, Repr

namespace InceptionContext

variable (ctx : InceptionContext) (remote : Remote)

/-- `explain_rows`: `USE` the database, then `EXPLAIN` the statement's text, and read the `rows`
    column (`estRows` on TiDB); `-1` on failure. -/
def explainRows (db sql : String) (isTidb : Bool) : InceptionContext × Int :=
  let u := ctx.query remote (.useDatabase db)
  match u.2 with
  | .error _ => (u.1, -1)
  | .ok _ =>
    let r := u.1.query remote (.explain sql)
    match r.2 with
    | .error _ => (r.1, -1)
    | .ok res =>
      let idx := if isTidb then 1 else 9
      if idx ≥ res.fields then (r.1, -1) else (r.1, explainTotal idx isTidb res.rows none)

/-- `remote_column_info`: the first row, if it has a `DATA_TYPE`. -/
def remoteColumnInfo (db table column : String) : InceptionContext × Option RemoteColumnInfo :=
  let r := ctx.query remote (.getColumnInfo db table column)
  (r.1, match r.2 with
    | .ok res => match res.rows with
      | row :: _ => (row.col 0).map fun dt =>
        { dataType := dt,
          charMaxLength := ((row.col 1).map (strtoll ·.data)).getD (-1),
          numericPrecision := ((row.col 2).map (strtoll ·.data)).getD (-1),
          numericScale := ((row.col 3).map (strtoll ·.data)).getD (-1) }
      | [] => none
    | .error _ => none)

end InceptionContext

/-! ## The audit's state -/

/-- What an audit step changes: the record being audited and the session context (the batch
    tracking and the audit connection).  `undefined` is set where the C++ has undefined
    behaviour (a null name handed to `strcasecmp`); what the model computes after that point is
    not the code's.  `existence` is ghost state: each diagnostic the audit appends from a remote
    existence probe, with the object it names and whether it says the object exists. -/
structure AuditState where
  node : SqlCacheNode
  ctx : InceptionContext
  undefined : Bool := false
  existence : List (RemoteObject × Bool) := []

namespace AuditState

variable (st : AuditState) (remote : Remote)

/-- Run a probe of the context on the state. -/
def probe {α : Type} (r : InceptionContext × α) : AuditState × α := ({ st with ctx := r.1 }, r.2)

/-- `get_remote_conn` on the state. -/
def remoteConn : AuditState × Bool := st.probe (getRemoteConn remote st.ctx)

def remoteDbExists (db : String) : AuditState × Bool := st.probe (st.ctx.remoteDbExists remote db)

def remoteTableExists (db table : String) : AuditState × Bool :=
  st.probe (st.ctx.remoteTableExists remote db table)

def remoteColumnExists (db table column : String) : AuditState × Bool :=
  st.probe (st.ctx.remoteColumnExists remote db table column)

def remoteIndexExists (db table index : String) : AuditState × Bool :=
  st.probe (st.ctx.remoteIndexExists remote db table index)

def remoteTableRows (db table : String) : AuditState × Int :=
  st.probe (st.ctx.remoteTableRows remote db table)

def explainRows (db sql : String) (isTidb : Bool) : AuditState × Int :=
  st.probe (st.ctx.explainRows remote db sql isTidb)

def remoteColumnInfo (db table column : String) : AuditState × Option RemoteColumnInfo :=
  st.probe (st.ctx.remoteColumnInfo remote db table column)

/-- Record, with the diagnostic just appended, what it says about a remote object. -/
def noteExistence (o : RemoteObject) (present : Bool) : AuditState :=
  { st with existence := st.existence ++ [(o, present)] }

def report (lvl : Nat) (msg : String) : AuditState := { st with node := st.node.report lvl msg }
def appendError (msg : String) : AuditState := { st with node := st.node.appendError msg }
def appendWarning (msg : String) : AuditState := { st with node := st.node.appendWarning msg }

end AuditState

/-! ## What the probes change

A probe changes only the audit connection: it may open it, and it appends to its log. -/

/-- The context without the audit connection: what `get_remote_conn` and the probes never
    change. -/
def InceptionContext.sansConn (ctx : InceptionContext) : InceptionContext :=
  { ctx with remoteConn := none, remoteConnFailed := false, remoteConnError := "" }

/-- A test on queries that no probe template meets: what an audit must not send. -/
structure Forbidden where
  bad : RemoteQuery → Bool
  probe_ok : ∀ q, q.isProbe → bad q = false

namespace InceptionContext

variable (ctx : InceptionContext) (remote : Remote)

@[simp] theorem sansConn_batch : ctx.sansConn.batch = ctx.batch := rfl

@[simp] theorem getRemoteConn_sansConn : (getRemoteConn remote ctx).1.sansConn = ctx.sansConn := by
  unfold getRemoteConn
  split
  · rfl
  · split
    · rfl
    · split <;> rfl

/-- Opening the connection sends nothing. -/
@[simp] theorem getRemoteConn_auditLog : (getRemoteConn remote ctx).1.auditLog = ctx.auditLog := by
  unfold getRemoteConn auditLog
  cases h : ctx.remoteConn
  · cases hc : remote.connect <;> by_cases hf : ctx.remoteConnFailed <;> simp [h, hc, hf]
  · simp [h]

@[simp] theorem query_sansConn (q : RemoteQuery) : (ctx.query remote q).1.sansConn = ctx.sansConn := by
  unfold query; split <;> rfl

/-- A query is appended to the log of an open connection. -/
theorem query_auditLog (q : RemoteQuery) :
    (ctx.query remote q).1.auditLog = ctx.auditLog ++ if ctx.remoteConn.isSome then [q] else [] := by
  cases h : ctx.remoteConn <;> simp [query, auditLog, h]

@[simp] theorem remoteDbExists_sansConn (db : String) :
    (ctx.remoteDbExists remote db).1.sansConn = ctx.sansConn := by
  simp [remoteDbExists]

@[simp] theorem remoteTableExists_sansConn (db table : String) :
    (ctx.remoteTableExists remote db table).1.sansConn = ctx.sansConn := by
  unfold remoteTableExists; dsimp only; split <;> simp

@[simp] theorem remoteColumnExists_sansConn (db table column : String) :
    (ctx.remoteColumnExists remote db table column).1.sansConn = ctx.sansConn := by
  simp [remoteColumnExists]

@[simp] theorem remoteIndexExists_sansConn (db table index : String) :
    (ctx.remoteIndexExists remote db table index).1.sansConn = ctx.sansConn := by
  simp [remoteIndexExists]

@[simp] theorem remoteTableRows_sansConn (db table : String) :
    (ctx.remoteTableRows remote db table).1.sansConn = ctx.sansConn := by
  simp [remoteTableRows]

@[simp] theorem explainRows_sansConn (db sql : String) (isTidb : Bool) :
    (ctx.explainRows remote db sql isTidb).1.sansConn = ctx.sansConn := by
  unfold explainRows; dsimp only; split
  · simp
  · split
    · simp
    · split <;> split <;> simp

@[simp] theorem remoteColumnInfo_sansConn (db table column : String) :
    (ctx.remoteColumnInfo remote db table column).1.sansConn = ctx.sansConn := by
  simp [remoteColumnInfo]

@[simp] theorem getRemoteConn_batch : (getRemoteConn remote ctx).1.batch = ctx.batch := by
  rw [← sansConn_batch, getRemoteConn_sansConn, sansConn_batch]

@[simp] theorem remoteDbExists_batch (db : String) :
    (ctx.remoteDbExists remote db).1.batch = ctx.batch := by
  rw [← sansConn_batch, remoteDbExists_sansConn, sansConn_batch]

@[simp] theorem remoteTableExists_batch (db table : String) :
    (ctx.remoteTableExists remote db table).1.batch = ctx.batch := by
  rw [← sansConn_batch, remoteTableExists_sansConn, sansConn_batch]

@[simp] theorem remoteColumnExists_batch (db table column : String) :
    (ctx.remoteColumnExists remote db table column).1.batch = ctx.batch := by
  rw [← sansConn_batch, remoteColumnExists_sansConn, sansConn_batch]

@[simp] theorem remoteIndexExists_batch (db table index : String) :
    (ctx.remoteIndexExists remote db table index).1.batch = ctx.batch := by
  rw [← sansConn_batch, remoteIndexExists_sansConn, sansConn_batch]

@[simp] theorem remoteTableRows_batch (db table : String) :
    (ctx.remoteTableRows remote db table).1.batch = ctx.batch := by
  rw [← sansConn_batch, remoteTableRows_sansConn, sansConn_batch]

@[simp] theorem remoteColumnInfo_batch (db table column : String) :
    (ctx.remoteColumnInfo remote db table column).1.batch = ctx.batch := by
  rw [← sansConn_batch, remoteColumnInfo_sansConn, sansConn_batch]

/-! What the probes send: for a test `F.bad` that no probe template meets, the forbidden queries of
the log are those it had before. -/

section Sends

variable (F : Forbidden)

theorem query_auditLog_filter (q : RemoteQuery) (hq : F.bad q = false) :
    (ctx.query remote q).1.auditLog.filter F.bad = ctx.auditLog.filter F.bad := by
  rw [query_auditLog]; split <;> simp [hq]

@[simp] theorem remoteDbExists_filter (db : String) :
    (ctx.remoteDbExists remote db).1.auditLog.filter F.bad = ctx.auditLog.filter F.bad :=
  query_auditLog_filter ctx remote F _ (F.probe_ok _ rfl)

@[simp] theorem remoteTableExists_filter (db table : String) :
    (ctx.remoteTableExists remote db table).1.auditLog.filter F.bad = ctx.auditLog.filter F.bad := by
  unfold remoteTableExists; dsimp only; split
  · exact query_auditLog_filter ctx remote F _ (F.probe_ok _ rfl)
  · rw [query_auditLog_filter _ remote F (.showTablesLike table) (F.probe_ok _ rfl),
      query_auditLog_filter ctx remote F (.useDatabase db) (F.probe_ok _ rfl)]

@[simp] theorem remoteColumnExists_filter (db table column : String) :
    (ctx.remoteColumnExists remote db table column).1.auditLog.filter F.bad =
      ctx.auditLog.filter F.bad :=
  query_auditLog_filter ctx remote F _ (F.probe_ok _ rfl)

@[simp] theorem remoteIndexExists_filter (db table index : String) :
    (ctx.remoteIndexExists remote db table index).1.auditLog.filter F.bad =
      ctx.auditLog.filter F.bad :=
  query_auditLog_filter ctx remote F _ (F.probe_ok _ rfl)

@[simp] theorem remoteTableRows_filter (db table : String) :
    (ctx.remoteTableRows remote db table).1.auditLog.filter F.bad = ctx.auditLog.filter F.bad :=
  query_auditLog_filter ctx remote F _ (F.probe_ok _ rfl)

@[simp] theorem remoteColumnInfo_filter (db table column : String) :
    (ctx.remoteColumnInfo remote db table column).1.auditLog.filter F.bad =
      ctx.auditLog.filter F.bad :=
  query_auditLog_filter ctx remote F _ (F.probe_ok _ rfl)

/-- `explain_rows` sends a probe and `EXPLAIN` of the text it is given. -/
theorem explainRows_filter (db sql : String) (isTidb : Bool) (hsql : F.bad (.explain sql) = false) :
    (ctx.explainRows remote db sql isTidb).1.auditLog.filter F.bad = ctx.auditLog.filter F.bad := by
  have huse := query_auditLog_filter ctx remote F (.useDatabase db) (F.probe_ok _ rfl)
  have hexp := fun c : InceptionContext => query_auditLog_filter c remote F (.explain sql) hsql
  unfold explainRows; dsimp only; split
  · exact huse
  · split
    · rw [hexp, huse]
    · split <;> split <;> rw [hexp, huse]

end Sends

end InceptionContext

/-- A fold whose step keeps `π` keeps it. -/
theorem foldl_keep {α β γ : Type} (π : α → γ) (f : α → β → α) (h : ∀ a b, π (f a b) = π a) :
    ∀ (l : List β) (a : α), π (l.foldl f a) = π a
  | [], _ => rfl
  | b :: l, a => (foldl_keep π f h l (f a b)).trans (h a b)

/-- A fold whose step keeps the context apart from the connection, and the forbidden queries of the
    log, keeps them. -/
theorem foldl_frame {α β : Type} (F : Forbidden) (π : α → InceptionContext) (f : α → β → α)
    (h : ∀ a b, (π (f a b)).sansConn = (π a).sansConn ∧
      (π (f a b)).auditLog.filter F.bad = (π a).auditLog.filter F.bad) (l : List β) (a : α) :
    (π (l.foldl f a)).sansConn = (π a).sansConn ∧
      (π (l.foldl f a)).auditLog.filter F.bad = (π a).auditLog.filter F.bad :=
  Prod.ext_iff.1 (foldl_keep (fun a => ((π a).sansConn, (π a).auditLog.filter F.bad)) f
    (fun a b => Prod.ext_iff.2 (h a b)) l a)

namespace AuditState

variable (st : AuditState) (remote : Remote)

attribute [simp] remoteConn remoteDbExists remoteTableExists remoteColumnExists remoteIndexExists
  remoteTableRows explainRows remoteColumnInfo

@[simp] theorem report_ctx (lvl : Nat) (msg : String) : (st.report lvl msg).ctx = st.ctx := rfl
@[simp] theorem appendError_ctx (msg : String) : (st.appendError msg).ctx = st.ctx := rfl
@[simp] theorem appendWarning_ctx (msg : String) : (st.appendWarning msg).ctx = st.ctx := rfl
@[simp] theorem noteExistence_ctx (o : RemoteObject) (present : Bool) :
    (st.noteExistence o present).ctx = st.ctx := rfl

@[simp] theorem probe_node {α : Type} (r : InceptionContext × α) : (st.probe r).1.node = st.node := rfl
@[simp] theorem probe_ctx {α : Type} (r : InceptionContext × α) : (st.probe r).1.ctx = r.1 := rfl
@[simp] theorem probe_snd {α : Type} (r : InceptionContext × α) : (st.probe r).2 = r.2 := rfl
@[simp] theorem probe_undefined {α : Type} (r : InceptionContext × α) :
    (st.probe r).1.undefined = st.undefined := rfl
@[simp] theorem probe_existence {α : Type} (r : InceptionContext × α) :
    (st.probe r).1.existence = st.existence := rfl

end AuditState

end Inception
