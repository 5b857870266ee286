import Inception.Audit.Effects

/-!
# Existence — what the existence diagnostics say about the remote catalogue

The audit decides that a remote object exists from the row count of a probe: `SHOW DATABASES
LIKE`, and `USE` then `SHOW TABLES LIKE`, for databases and tables; `information_schema` lookups
for columns and indexes.  Against a remote that serves a catalogue, with any pattern of failed
queries, every diagnostic the audit notes in its ghost `existence` list says what the probe
answered: "already exists" only when some name of the catalogue matches (a database or table name
read as a `LIKE` pattern), and "does not exist" only when nothing matches, provided no query
fails; a failed query, or a failed `USE`, reads as absent.

The proof is a small program logic over the audit's blocks.  `KeepsNotes P remote f` says that the
block `f` adds only notes `P` allows and keeps an open connection open, from any state whose
connection is open when the flag `remote` says so; it composes along a handler's blocks and along
its loops, and `ProbesAnswer` turns the remote's answers into `P` at each probe.
-/

namespace Inception

/-! ## 1. A remote that serves a catalogue -/

/-- Modelled from the spec: the catalogue of the remote server, every table in one of its
    databases. -/
structure Catalog where
  databases : List String
  tables : List (String × String)
  columns : List (String × String × String)
  indexes : List (String × String × String)
  tables_in_databases : ∀ e ∈ tables, e.1 ∈ databases

/-- Modelled from the spec: the server's `LIKE`, `%` matching any run of characters and `_` any
    one; the probes pass names unescaped, so the escape character is left out. -/
def likeMatch : List Char → List Char → Bool
  | [], s => s.isEmpty
  | '%' :: p, s => s.tails.any (likeMatch p)
  | '_' :: p, _ :: s => likeMatch p s
  | c :: p, x :: s => c == x && likeMatch p s
  | _ :: _, [] => false

/-- A result set of one column, one row per value. -/
def singleColumn (values : List String) : ResultSet :=
  { fields := 1, rows := values.map fun v => [some v] }

@[simp] theorem hasRows_singleColumn (values : List String) :
    hasRows (.ok (singleColumn values)) = !values.isEmpty := by
  cases values <;> rfl

@[simp] theorem hasRows_error (e : String) : hasRows (.error e) = false := rfl

theorem isEmpty_map {α β : Type} (l : List α) (f : α → β) : (l.map f).isEmpty = l.isEmpty := by
  cases l <;> rfl

theorem isEmpty_filter {α : Type} (l : List α) (p : α → Bool) : (l.filter p).isEmpty = !l.any p := by
  cases h : l.any p <;> simp_all [List.isEmpty_iff, List.filter_eq_nil_iff, List.any_eq_false]

namespace Catalog

section Server

/- The server compares identifiers with `same` and patterns with `like` (pattern first), and
   `fails log q` says that the query `q`, sent after `log`, fails. -/
variable (c : Catalog) (same like : String → String → Bool)
  (fails : List RemoteQuery → RemoteQuery → Bool)

/-- Whether the catalogue holds the object a probe asks about: a database or a table whose name
    matches the pattern, a column or an index by name. -/
def found : RemoteObject → Bool
  | .database db => c.databases.any (like db)
  | .table db table => c.tables.any fun e => same e.1 db && like table e.2
  | .column db table col => c.columns.any fun e => same e.1 db && same e.2.1 table && same e.2.2 col
  | .index db table idx => c.indexes.any fun e => same e.1 db && same e.2.1 table && same e.2.2 idx

/-- Whether `USE db` names a database of the catalogue. -/
def hasDatabase (db : String) : Bool := c.databases.any (same · db)

/-- The database the connection is in after the queries `qs`, sent after `pre` from `d`: a `USE`
    the server accepts switches it. -/
def currentDbFrom (pre : List RemoteQuery) (d : Option String) : List RemoteQuery → Option String
  | [] => d
  | q :: qs => currentDbFrom (pre ++ [q]) (match q with
      | .useDatabase db => if !fails pre q && c.hasDatabase same db then some db else d
      | _ => d) qs

/-- The database the connection is in after its log. -/
def currentDb (log : List RemoteQuery) : Option String := c.currentDbFrom same fails [] none log

/-- The server's answer to `q` after `log`; `other` answers the queries that are no existence
    probe. -/
def answer (other : List RemoteQuery → RemoteQuery → Except String ResultSet)
    (log : List RemoteQuery) (q : RemoteQuery) : Except String ResultSet :=
  if fails log q then .error "Lost connection to MySQL server during query"
  else match q with
    | .showDatabasesLike p => .ok (singleColumn (c.databases.filter (like p)))
    | .useDatabase db =>
      if c.hasDatabase same db then .ok {} else .error ("Unknown database '" ++ db ++ "'")
    | .showTablesLike p =>
      match c.currentDb same fails log with
      | some d => .ok (singleColumn ((c.tables.filter fun e => same e.1 d && like p e.2).map Prod.snd))
      | none => .error "No database selected"
    | .checkColumnExists db table col =>
      .ok (singleColumn (if c.found same like (.column db table col) then ["1"] else []))
    | .checkIndexExists db table idx =>
      .ok (singleColumn (if c.found same like (.index db table idx) then ["1"] else []))
    | q => other log q

/-- The remote target serving the catalogue. -/
def remote (other : List RemoteQuery → RemoteQuery → Except String ResultSet)
    (connect : Except String String) : Remote :=
  { connect, answer := c.answer same like fails other }

/-- What a diagnostic saying `b` of `o` should mean: "exists" only of an object found, and, when
    no query fails, "does not exist" only of one not found. -/
def Agrees (o : RemoteObject) (b : Bool) : Prop :=
  (b = true → c.found same like o = true) ∧
    ((∀ log q, fails log q = false) → c.found same like o = true → b = true)

theorem currentDbFrom_append_use (pre log : List RemoteQuery) (d : Option String) (db : String) :
    c.currentDbFrom same fails pre d (log ++ [.useDatabase db]) =
      if !fails (pre ++ log) (.useDatabase db) && c.hasDatabase same db then some db
      else c.currentDbFrom same fails pre d log := by
  induction log generalizing pre d with
  | nil => simp [currentDbFrom]
  | cons q log ih => simp [currentDbFrom, ih]

theorem hasDatabase_of_found {db table : String} (h : c.found same like (.table db table) = true) :
    c.hasDatabase same db = true := by
  obtain ⟨e, he, hm⟩ := List.any_eq_true.1 h
  exact List.any_eq_true.2 ⟨e.1, c.tables_in_databases e he, by simp_all⟩

/-- A probe that answers "found and no failure" agrees with the catalogue. -/
theorem agrees_of_eq {o : RemoteObject} (log : List RemoteQuery) (q : RemoteQuery) {b : Bool}
    (h : b = (!fails log q && c.found same like o)) : c.Agrees same like fails o b := by
  subst h
  exact ⟨fun h => by simp_all, fun hf ho => by simp [hf, ho]⟩

end Server

end Catalog

/-! ## 2. The probes' answers -/

/-- Every existence note of a list satisfies `P`. -/
def NotesAgree (P : RemoteObject → Bool → Prop) (notes : List (RemoteObject × Bool)) : Prop :=
  ∀ p ∈ notes, P p.1 p.2

@[simp] theorem notesAgree_append_singleton (P : RemoteObject → Bool → Prop)
    (notes : List (RemoteObject × Bool)) (o : RemoteObject) (b : Bool) :
    NotesAgree P (notes ++ [(o, b)]) ↔ NotesAgree P notes ∧ P o b := by
  simp [NotesAgree, or_imp, forall_and]

/-- What the remote's probes answer on an open connection, as a relation `P` between the object
    probed and the answer. -/
structure ProbesAnswer (remote : Remote) (P : RemoteObject → Bool → Prop) : Prop where
  database : ∀ (ctx : InceptionContext) db, ctx.remoteConn.isSome = true →
    P (.database db) (ctx.remoteDbExists remote db).2
  table : ∀ (ctx : InceptionContext) db table, ctx.remoteConn.isSome = true →
    P (.table db table) (ctx.remoteTableExists remote db table).2
  column : ∀ (ctx : InceptionContext) db table col, ctx.remoteConn.isSome = true →
    P (.column db table col) (ctx.remoteColumnExists remote db table col).2
  index : ∀ (ctx : InceptionContext) db table idx, ctx.remoteConn.isSome = true →
    P (.index db table idx) (ctx.remoteIndexExists remote db table idx).2

theorem ProbesAnswer.mono {remote : Remote} {P Q : RemoteObject → Bool → Prop}
    (h : ProbesAnswer remote P) (hPQ : ∀ o b, P o b → Q o b) : ProbesAnswer remote Q :=
  ⟨fun _ _ hc => hPQ _ _ (h.database _ _ hc), fun _ _ _ hc => hPQ _ _ (h.table _ _ _ hc),
    fun _ _ _ _ hc => hPQ _ _ (h.column _ _ _ _ hc), fun _ _ _ _ hc => hPQ _ _ (h.index _ _ _ _ hc)⟩

/-- **The catalogue's probes agree with it.**  On an open connection, each probe of a remote
    serving a catalogue answers "exists" only for an object found, and, when no query fails,
    answers "exists" for every object found. -/
theorem Catalog.probesAnswer (c : Catalog) (same like : String → String → Bool)
    (fails : List RemoteQuery → RemoteQuery → Bool)
    (other : List RemoteQuery → RemoteQuery → Except String ResultSet) (connect : Except String String) :
    ProbesAnswer (c.remote same like fails other connect) (c.Agrees same like fails) := by
  constructor
  · intro ctx db hc
    obtain ⟨conn, hconn⟩ := Option.isSome_iff_exists.1 hc
    refine c.agrees_of_eq same like fails conn.log (.showDatabasesLike db) ?_
    by_cases hf : fails conn.log (.showDatabasesLike db) <;>
      simp [InceptionContext.remoteDbExists, InceptionContext.query, hconn, Catalog.remote,
        Catalog.answer, Catalog.found, hf, isEmpty_map, isEmpty_filter]
  · intro ctx db table hc
    obtain ⟨conn, hconn⟩ := Option.isSome_iff_exists.1 hc
    simp only [InceptionContext.remoteTableExists, InceptionContext.query, hconn, Catalog.remote]
    by_cases hu : (!fails conn.log (.useDatabase db) && c.hasDatabase same db) = true
    · have hcur : c.currentDb same fails (conn.log ++ [.useDatabase db]) = some db := by
        simp [Catalog.currentDb, Catalog.currentDbFrom_append_use, hu]
      refine c.agrees_of_eq same like fails (conn.log ++ [.useDatabase db]) (.showTablesLike table) ?_
      simp only [Bool.and_eq_true, Bool.not_eq_true'] at hu
      by_cases hf : fails (conn.log ++ [.useDatabase db]) (.showTablesLike table) <;>
        simp [Catalog.answer, hu, hcur, hf, Catalog.found, isEmpty_map, isEmpty_filter]
    · have hno : (c.answer same like fails other conn.log (.useDatabase db)).toBool = false := by
        simp only [Bool.and_eq_true, Bool.not_eq_true'] at hu
        by_cases hf : fails conn.log (.useDatabase db) <;> simp_all [Catalog.answer, Except.toBool]
      refine ⟨fun h => ?_, fun hnf hfound => ?_⟩
      · revert h; split <;> simp_all [Except.toBool]
      · simp [hnf, c.hasDatabase_of_found same like hfound] at hu
  · intro ctx db table col hc
    obtain ⟨conn, hconn⟩ := Option.isSome_iff_exists.1 hc
    refine c.agrees_of_eq same like fails conn.log (.checkColumnExists db table col) ?_
    by_cases hf : fails conn.log (.checkColumnExists db table col) <;>
      simp [InceptionContext.remoteColumnExists, InceptionContext.query, hconn, Catalog.remote,
        Catalog.answer, hf, apply_ite]
  · intro ctx db table idx hc
    obtain ⟨conn, hconn⟩ := Option.isSome_iff_exists.1 hc
    refine c.agrees_of_eq same like fails conn.log (.checkIndexExists db table idx) ?_
    by_cases hf : fails conn.log (.checkIndexExists db table idx) <;>
      simp [InceptionContext.remoteIndexExists, InceptionContext.query, hconn, Catalog.remote,
        Catalog.answer, hf, apply_ite]

/-! ## 3. Blocks that keep the notes -/

namespace InceptionContext

variable (ctx : InceptionContext) (remote : Remote)

/-- What `get_remote_conn` answers is whether the connection is open after it. -/
@[simp] theorem getRemoteConn_isSome :
    (getRemoteConn remote ctx).1.remoteConn.isSome = (getRemoteConn remote ctx).2 := by
  unfold getRemoteConn
  split
  · simp_all
  · split
    · simp_all
    · split <;> simp_all

@[simp] theorem getRemoteConn_of_isSome (h : ctx.remoteConn.isSome = true) :
    (getRemoteConn remote ctx).2 = true := by
  obtain ⟨c, hc⟩ := Option.isSome_iff_exists.1 h
  simp [getRemoteConn, hc]

@[simp] theorem query_isSome (q : RemoteQuery) :
    (ctx.query remote q).1.remoteConn.isSome = ctx.remoteConn.isSome := by
  unfold query; split <;> simp_all

@[simp] theorem remoteDbExists_isSome (db : String) :
    (ctx.remoteDbExists remote db).1.remoteConn.isSome = ctx.remoteConn.isSome := by
  simp [remoteDbExists]

@[simp] theorem remoteTableExists_isSome (db table : String) :
    (ctx.remoteTableExists remote db table).1.remoteConn.isSome = ctx.remoteConn.isSome := by
  unfold remoteTableExists; dsimp only; split <;> simp

@[simp] theorem remoteColumnExists_isSome (db table column : String) :
    (ctx.remoteColumnExists remote db table column).1.remoteConn.isSome = ctx.remoteConn.isSome := by
  simp [remoteColumnExists]

@[simp] theorem remoteIndexExists_isSome (db table index : String) :
    (ctx.remoteIndexExists remote db table index).1.remoteConn.isSome = ctx.remoteConn.isSome := by
  simp [remoteIndexExists]

@[simp] theorem remoteTableRows_isSome (db table : String) :
    (ctx.remoteTableRows remote db table).1.remoteConn.isSome = ctx.remoteConn.isSome := by
  simp [remoteTableRows]

@[simp] theorem explainRows_isSome (db sql : String) (isTidb : Bool) :
    (ctx.explainRows remote db sql isTidb).1.remoteConn.isSome = ctx.remoteConn.isSome := by
  unfold explainRows; dsimp only; split
  · simp
  · split
    · simp
    · split <;> split <;> simp

@[simp] theorem remoteColumnInfo_isSome (db table column : String) :
    (ctx.remoteColumnInfo remote db table column).1.remoteConn.isSome = ctx.remoteConn.isSome := by
  simp [remoteColumnInfo]

end InceptionContext

namespace AuditState

variable (st : AuditState)

@[simp] theorem ite_existence (c : Prop) [Decidable c] (a b : AuditState) :
    (if c then a else b).existence = if c then a.existence else b.existence := apply_ite _ _ _ _
@[simp] theorem withNode_existence (f : SqlCacheNode → SqlCacheNode) :
    (st.withNode f).existence = st.existence := rfl
@[simp] theorem report_existence (lvl : Nat) (msg : String) :
    (st.report lvl msg).existence = st.existence := rfl
@[simp] theorem appendError_existence (msg : String) :
    (st.appendError msg).existence = st.existence := rfl
@[simp] theorem appendWarning_existence (msg : String) :
    (st.appendWarning msg).existence = st.existence := rfl
@[simp] theorem noteExistence_existence (o : RemoteObject) (b : Bool) :
    (st.noteExistence o b).existence = st.existence ++ [(o, b)] := rfl
@[simp] theorem batchAddColumn_existence (db table col : String) :
    (st.batchAddColumn db table col).existence = st.existence := rfl
@[simp] theorem batchDropColumn_existence (db table col : String) :
    (st.batchDropColumn db table col).existence = st.existence := rfl
@[simp] theorem batchAddColumn_remoteConn (db table col : String) :
    (st.batchAddColumn db table col).ctx.remoteConn = st.ctx.remoteConn := rfl
@[simp] theorem batchDropColumn_remoteConn (db table col : String) :
    (st.batchDropColumn db table col).ctx.remoteConn = st.ctx.remoteConn := rfl

end AuditState

section Logic

variable {P : RemoteObject → Bool → Prop} {remote : Bool}

/-- The block `f` adds only notes `P` allows and keeps an open audit connection open, from every
    state whose connection is open when `remote` says so. -/
def KeepsNotes (P : RemoteObject → Bool → Prop) (remote : Bool) (f : AuditState → AuditState) :
    Prop :=
  ∀ st, NotesAgree P st.existence → (remote = true → st.ctx.remoteConn.isSome = true) →
    NotesAgree P (f st).existence ∧
      (st.ctx.remoteConn.isSome = true → (f st).ctx.remoteConn.isSome = true)

theorem KeepsNotes.comp {f g : AuditState → AuditState} (hf : KeepsNotes P remote f)
    (hg : KeepsNotes P remote g) : KeepsNotes P remote (fun st => g (f st)) := by
  intro st hn ho
  obtain ⟨hn', ho'⟩ := hf st hn ho
  obtain ⟨hn'', ho''⟩ := hg (f st) hn' (fun h => ho' (ho h))
  exact ⟨hn'', fun h => ho'' (ho' h)⟩

theorem KeepsNotes.foldl {β : Type} {f : AuditState → β → AuditState}
    (h : ∀ b, KeepsNotes P remote (f · b)) : ∀ l : List β, KeepsNotes P remote (l.foldl f ·)
  | [] => fun _ hn _ => ⟨hn, id⟩
  | b :: l => (h b).comp (KeepsNotes.foldl h l)

/-- A block that notes nothing and keeps the connection's state keeps the notes. -/
theorem KeepsNotes.of_frame {f : AuditState → AuditState}
    (h : ∀ st, (f st).existence = st.existence ∧
      (f st).ctx.remoteConn.isSome = st.ctx.remoteConn.isSome) : KeepsNotes P remote f :=
  fun st hn _ => ⟨(h st).1 ▸ hn, fun ho => (h st).2 ▸ ho⟩

theorem KeepsNotes.of_false {f : AuditState → AuditState} (h : KeepsNotes P false f) :
    KeepsNotes P remote f :=
  fun st hn _ => h st hn nofun

theorem KeepsNotes.withNode (f : SqlCacheNode → SqlCacheNode) :
    KeepsNotes P remote (·.withNode f) :=
  KeepsNotes.of_frame fun _ => ⟨rfl, rfl⟩

/-- A fold whose step keeps the notes and whether the connection is open keeps them. -/
theorem foldl_notes {α β : Type} (π : α → AuditState) (f : α → β → α)
    (h : ∀ a b, (π (f a b)).existence = (π a).existence ∧
      (π (f a b)).ctx.remoteConn.isSome = (π a).ctx.remoteConn.isSome) (l : List β) (a : α) :
    (π (l.foldl f a)).existence = (π a).existence ∧
      (π (l.foldl f a)).ctx.remoteConn.isSome = (π a).ctx.remoteConn.isSome :=
  Prod.ext_iff.1 (foldl_keep (fun a => ((π a).existence, (π a).ctx.remoteConn.isSome)) f
    (fun a b => Prod.ext_iff.2 (h a b)) l a)

/-- The connection part of `KeepsNotes`, through an intermediate state. -/
theorem conn_chain {A : Prop} {st₀ st r : AuditState}
    (ho : st₀.ctx.remoteConn.isSome = true → st.ctx.remoteConn.isSome = true)
    (h : A ∧ (st.ctx.remoteConn.isSome = true → r.ctx.remoteConn.isSome = true)) :
    A ∧ (st₀.ctx.remoteConn.isSome = true → r.ctx.remoteConn.isSome = true) :=
  ⟨h.1, fun h0 => h.2 (ho h0)⟩

theorem KeepsNotes.ite (c : Prop) [Decidable c] {f : AuditState → AuditState}
    (h : KeepsNotes P remote f) : KeepsNotes P remote (fun st => if c then f st else st) := by
  by_cases hc : c
  · simpa only [hc, if_true] using h
  · simp only [hc, if_false]
    exact fun st hn _ => ⟨hn, id⟩

end Logic

/-! ## 4. The handlers -/

section Blocks

variable (env : AuditEnv) (stmt : Stmt) {P : RemoteObject → Bool → Prop}

/-- Testing the audit connection, unless `skip`, and then running a block that probes when the
    test found it open. -/
theorem KeepsNotes.connThen (R : Remote) (skip : Bool) {g : Bool → AuditState → AuditState}
    (hg : ∀ b, KeepsNotes P b (g b)) :
    KeepsNotes P false fun st =>
      g (if skip then (st, false) else st.remoteConn R).2
        (if skip then (st, false) else st.remoteConn R).1 := by
  intro st hn _
  cases skip
  · obtain ⟨hn', ho'⟩ := hg (st.remoteConn R).2 (st.remoteConn R).1 hn (by simp)
    exact ⟨hn', fun ho => ho' (by simp [ho])⟩
  · exact hg false st hn nofun

theorem checkTableExists_keeps (hP : ProbesAnswer env.remote P) :
    KeepsNotes P false (checkTableExists env stmt) := by
  intro st hn _
  unfold checkTableExists
  split
  · next db table _ =>
    split
    · exact ⟨hn, id⟩
    · have ha := hP.table (getRemoteConn env.remote st.ctx).1 db table
      dsimp only
      split <;> (try split) <;> simp_all
  · exact ⟨hn, id⟩

theorem checkColumnName_keeps (hP : ProbesAnswer env.remote P) (db table : String)
    (inBatch remote : Bool) (name : String) :
    KeepsNotes P remote (checkColumnName env db table inBatch remote · name) := by
  intro st hn ho
  unfold checkColumnName
  dsimp only
  split
  · split <;> simp_all
  · split
    · next hr =>
      have ha := hP.column st.ctx db table name (ho hr)
      split <;> simp_all
    · exact ⟨hn, id⟩

theorem estimateRows_keeps (verb : String) : KeepsNotes P false (estimateRows env stmt verb) := by
  intro st hn _
  unfold estimateRows
  dsimp only
  split
  · refine ⟨?_, fun ho => ?_⟩ <;> repeat' split
    all_goals simp_all
  · exact ⟨hn, id⟩

theorem auditInsert_keeps (hP : ProbesAnswer env.remote P) :
    KeepsNotes P false (auditInsert env stmt) := by
  intro st₀ hn₀ _
  obtain ⟨hn, ho⟩ := checkTableExists_keeps env stmt hP st₀ hn₀ nofun
  unfold auditInsert
  dsimp only
  generalize checkTableExists env stmt st₀ = st at hn ho
  refine conn_chain ho ?_
  split
  · next db table _ =>
    split
    · rcases stmt.insertCmd with _ | ⟨cols, _⟩ <;> dsimp only
      · refine KeepsNotes.connThen env.remote _ (g := fun _ st => st) (fun _ _ hn _ => ⟨hn, id⟩) _ ?_
          nofun
        simpa using hn
      · refine KeepsNotes.connThen env.remote _
          (fun b => KeepsNotes.foldl (checkColumnName_keeps env hP db table _ b) _) _ ?_ nofun
        simpa using hn
    · simp_all
  · simp_all

theorem auditUpdate_keeps (hP : ProbesAnswer env.remote P) :
    KeepsNotes P false (auditUpdate env stmt) := by
  intro st₀ hn₀ _
  obtain ⟨hn, ho⟩ := ((checkTableExists_keeps env stmt hP).comp
    ((KeepsNotes.withNode (dmlShapeRules env stmt "UPDATE")).comp
      (estimateRows_keeps env stmt "UPDATE"))) st₀ hn₀ nofun
  unfold auditUpdate
  dsimp only at hn ho ⊢
  generalize estimateRows env stmt "UPDATE" _ = st at hn ho
  refine conn_chain ho ?_
  split
  · next db table _ =>
    split
    · exact KeepsNotes.connThen env.remote _
        (fun b => KeepsNotes.foldl (checkColumnName_keeps env hP db table _ b) _) st hn nofun
    · exact ⟨hn, id⟩
  · exact ⟨hn, id⟩

theorem auditDelete_keeps (hP : ProbesAnswer env.remote P) :
    KeepsNotes P false (auditDelete env stmt) :=
  (((KeepsNotes.withNode _).comp (checkTableExists_keeps env stmt hP)).comp
    (KeepsNotes.withNode _)).comp (estimateRows_keeps env stmt "DELETE")

theorem auditTruncate_keeps (hP : ProbesAnswer env.remote P) :
    KeepsNotes P false (auditTruncate env stmt) := by
  intro st hn _
  unfold auditTruncate
  dsimp only
  split
  · next db table _ =>
    split
    · simp_all
    · have ha := hP.table (getRemoteConn env.remote st.ctx).1 db table
      repeat' split
      all_goals simp_all
  · simp_all

theorem createTableExists_keeps (hP : ProbesAnswer env.remote P) :
    KeepsNotes P false (createTableExists env stmt) := by
  intro st hn _
  unfold createTableExists
  dsimp only
  split
  · next db table _ =>
    split
    · simp_all
    · have ha := hP.table (getRemoteConn env.remote st.ctx).1 db table
      repeat' split
      all_goals simp_all
  · simp_all

theorem auditCreateDb_keeps (hP : ProbesAnswer env.remote P) :
    KeepsNotes P false (auditCreateDb env stmt) := by
  intro st hn _
  unfold auditCreateDb
  dsimp only
  split
  · next db _ =>
    have ha := hP.database (getRemoteConn env.remote st.ctx).1 db
    repeat' split
    all_goals simp_all
  · simp_all

theorem auditDropDb_keeps (hP : ProbesAnswer env.remote P) :
    KeepsNotes P false (auditDropDb env stmt) := by
  intro st hn _
  unfold auditDropDb
  dsimp only
  split
  · next db _ =>
    have ha := hP.database (getRemoteConn env.remote st.ctx).1 db
    repeat' split
    all_goals simp_all
  · simp_all

/-! ### `CREATE TABLE` -/

theorem blobPrefixPart_notes (key : KeySpec) (ai : AlterInfo) (probe : Option (String × String))
    (st : AuditState) (kp : KeyPart) :
    (blobPrefixPart env key ai probe st kp).existence = st.existence ∧
      (blobPrefixPart env key ai probe st kp).ctx.remoteConn.isSome = st.ctx.remoteConn.isSome := by
  simp only [blobPrefixPart]
  repeat' split
  all_goals simp

theorem keyLengthPart_notes (key : KeySpec) (ai : AlterInfo) (probe : Option (String × String))
    (acc : AuditState × Nat) (kp : KeyPart) :
    (keyLengthPart env key ai probe acc kp).1.existence = acc.1.existence ∧
      (keyLengthPart env key ai probe acc kp).1.ctx.remoteConn.isSome =
        acc.1.ctx.remoteConn.isSome := by
  simp only [keyLengthPart]
  repeat' split
  all_goals simp

/-- `check_index` notes nothing, and its probes leave the connection as it is. -/
theorem checkIndex_notes (key : KeySpec) (ai : AlterInfo) (probe : Option (String × String))
    (st : AuditState) :
    (checkIndex env key ai probe st).existence = st.existence ∧
      (checkIndex env key ai probe st).ctx.remoteConn.isSome = st.ctx.remoteConn.isSome := by
  have hb := foldl_notes (fun s => s) _ (blobPrefixPart_notes env key ai probe) key.columns
  have hk := foldl_notes Prod.fst _ (keyLengthPart_notes env key ai probe) key.columns
  simp only [checkIndex]
  split <;> simp [hb, hk]

theorem createTableRules_keeps : KeepsNotes P false (createTableRules env stmt) := by
  have hi := foldl_notes (fun s => s) _
    (fun st key => checkIndex_notes env key stmt.alterInfo none st) stmt.alterInfo.keyList
  exact KeepsNotes.of_frame fun st => by
    simp only [createTableRules]
    split <;> simp [hi, redundantIndexes_frame]

theorem auditCreateTable_keeps (hP : ProbesAnswer env.remote P) :
    KeepsNotes P false (auditCreateTable env stmt) :=
  ((createTableExists_keeps env stmt hP).comp (createTableRules_keeps env stmt)).comp
    (KeepsNotes.of_frame fun st => by unfold createTableTrack; split <;> simp)

/-! ### `ALTER TABLE` -/

section Alter

variable (tgt : Option (String × String)) (inBatch remote : Bool)

theorem alterAddColumn_keeps (hP : ProbesAnswer env.remote P) (f : ColumnDef) :
    KeepsNotes P remote (alterAddColumn env tgt inBatch remote · f) := by
  intro st hn ho
  unfold alterAddColumn
  dsimp only
  split
  · next db table =>
    split
    · simp_all
    · split
      · next hr =>
        have ha := hP.column st.ctx db table f.fieldName (ho hr)
        split <;> simp_all
      · simp_all
  · simp_all

theorem alterDropColumn_keeps (hP : ProbesAnswer env.remote P) (d : AlterDrop) :
    KeepsNotes P remote (alterDropColumn env tgt inBatch remote · d) := by
  intro st hn ho
  unfold alterDropColumn
  rcases tgt with _ | ⟨db, table⟩ <;> dsimp only
  · split <;> simp_all
  · split
    · split
      · split <;> simp_all
      · split
        · next hr =>
          have ha := hP.column st.ctx db table d.name (ho hr)
          split <;> simp_all
        · simp_all
    · simp_all

theorem alterChangeColumn_keeps (hP : ProbesAnswer env.remote P) (f : ColumnDef) :
    KeepsNotes P remote (alterChangeColumn env tgt inBatch remote · f) := by
  intro st hn ho
  unfold alterChangeColumn
  dsimp only
  split
  · next db table =>
    split
    · split <;> simp_all
    · split
      · next hr =>
        have ha := hP.column st.ctx db table f.fieldName (ho hr)
        repeat' split
        all_goals simp_all
      · simp_all
  · simp_all

theorem alterDropIndex_keeps (hP : ProbesAnswer env.remote P) (d : AlterDrop) :
    KeepsNotes P remote (alterDropIndex env tgt inBatch remote · d) := by
  intro st hn ho
  unfold alterDropIndex
  dsimp only
  split
  · next db table =>
    split
    · next hr =>
      have ha := hP.index st.ctx db table d.name (ho (by simp_all))
      split <;> simp_all
    · simp_all
  · simp_all

end Alter

theorem alterTableExists_keeps (hP : ProbesAnswer env.remote P) (inBatch remote : Bool) :
    KeepsNotes P remote (alterTableExists env stmt inBatch remote) := by
  intro st hn ho
  unfold alterTableExists
  dsimp only
  split
  · next db table _ =>
    split
    · next hr =>
      have ha := hP.table st.ctx db table (ho (by simp_all))
      repeat' split
      all_goals simp_all
    · simp_all
  · simp_all

theorem alterClauses_keeps (hP : ProbesAnswer env.remote P) (inBatch remote : Bool) :
    KeepsNotes P remote (alterClauses env stmt inBatch remote) :=
  (((KeepsNotes.ite _ (KeepsNotes.foldl (alterAddColumn_keeps env _ inBatch remote hP) _)).comp
    (KeepsNotes.ite _ (KeepsNotes.foldl (alterDropColumn_keeps env _ inBatch remote hP) _))).comp
    (KeepsNotes.ite _ (KeepsNotes.foldl (alterChangeColumn_keeps env _ inBatch remote hP) _))).comp
    ((KeepsNotes.ite _ (KeepsNotes.of_frame fun st =>
        foldl_notes (fun s => s) _ (fun st key => checkIndex_notes env key _ _ st) _ st)).comp
      (KeepsNotes.ite _ (KeepsNotes.foldl (alterDropIndex_keeps env _ inBatch remote hP) _)))

theorem alterFinish_keeps : KeepsNotes P false (alterFinish env stmt) :=
  KeepsNotes.of_frame fun st => by
    simp only [alterFinish]
    split <;> (try split) <;> simp

theorem auditAlterTable_keeps (hP : ProbesAnswer env.remote P) :
    KeepsNotes P false (auditAlterTable env stmt) := by
  intro st hn _
  have hk := fun ib => fun b => ((alterTableExists_keeps env stmt hP ib b).comp
    (alterClauses_keeps env stmt hP ib b)).comp (alterFinish_keeps env stmt).of_false
  unfold auditAlterTable
  dsimp only
  split
  · exact KeepsNotes.connThen env.remote false (hk _) _ hn nofun
  · exact (hk _ false) _ hn nofun

/-! ### `audit_statement` -/

theorem auditDispatch_keeps (hP : ProbesAnswer env.remote P) :
    KeepsNotes P false (auditDispatch env stmt) := by
  intro st hn _
  unfold auditDispatch
  split
  · exact auditCreateDb_keeps env stmt hP st hn nofun
  · exact auditDropDb_keeps env stmt hP st hn nofun
  · exact auditCreateTable_keeps env stmt hP st hn nofun
  · exact auditAlterTable_keeps env stmt hP st hn nofun
  all_goals first
    | exact auditInsert_keeps env stmt hP st hn nofun
    | exact auditUpdate_keeps env stmt hP st hn nofun
    | exact auditDelete_keeps env stmt hP st hn nofun
    | exact auditTruncate_keeps env stmt hP st hn nofun
    | exact (KeepsNotes.withNode _ : KeepsNotes P false _) st hn nofun
    | exact ⟨hn, id⟩

theorem auditPrepare_keeps : KeepsNotes P false (auditPrepare env stmt) := by
  intro st hn _
  unfold auditPrepare
  dsimp only
  refine ⟨?_, fun ho => ?_⟩ <;> repeat' split
  all_goals simp_all

theorem auditStatement_keeps (hP : ProbesAnswer env.remote P) :
    KeepsNotes P false (auditStatement env stmt) := by
  intro st hn _
  obtain ⟨hn', ho'⟩ := ((auditPrepare_keeps env stmt).comp (auditDispatch_keeps env stmt hP)) st hn
    nofun
  unfold auditStatement
  split <;> exact ⟨hn', ho'⟩

end Blocks

/-! ## 5. The diagnostics against the catalogue -/

/-- **Existence diagnostics against a catalogue.**  For every catalogue, identifier comparison,
    `LIKE`, failure pattern, other answers and connection outcome of the remote, each existence
    diagnostic `audit_statement` adds says "exists" only of an object the catalogue holds (a
    database or a table by `LIKE` match, a column or an index by name), and, when no query
    fails, "does not exist" only of an object it does not hold. -/
theorem audit_existence_matches_catalog (c : Catalog) (same like : String → String → Bool)
    (fails : List RemoteQuery → RemoteQuery → Bool)
    (other : List RemoteQuery → RemoteQuery → Except String ResultSet)
    (connect : Except String String) (env : AuditEnv) (stmt : Stmt) (st : AuditState)
    (hremote : env.remote = c.remote same like fails other connect) :
    ∀ p ∈ (auditStatement env stmt st).existence, p ∈ st.existence ∨
      (p.2 = true → c.found same like p.1 = true) ∧
        ((∀ log q, fails log q = false) → c.found same like p.1 = true → p.2 = true) := by
  have hP : ProbesAnswer env.remote fun o b => (o, b) ∈ st.existence ∨ c.Agrees same like fails o b := by
    rw [hremote]
    exact (c.probesAnswer same like fails other connect).mono fun _ _ => Or.inr
  exact (auditStatement_keeps env stmt hP st (fun p hp => Or.inl hp) nofun).1

/-- A catalogue whose database `d` holds the tables `user1info` and `t`. -/
def userCatalog : Catalog := ⟨["d"], [("d", "user1info"), ("d", "t")], [], [], by decide⟩

/-- `LIKE` on names. -/
def likeName (p n : String) : Bool := likeMatch p.data n.data

/-- The audit of a check-mode session on a remote serving `userCatalog` with exact identifier
    comparison, where the queries `fails` names fail. -/
def catalogEnv (fails : List RemoteQuery → RemoteQuery → Bool) : AuditEnv :=
  { sv := {}, remote := userCatalog.remote (· == ·) likeName fails (fun _ _ => .error "") (.ok "8.0.32"),
    thdDb := none, isKeyword := fun _ => false }

/-- `CREATE TABLE d.user_info`. -/
def createUserInfo : Stmt := { command := .createTable, queryTables := [.base (some "d") "user_info"] }

/-- `INSERT INTO d.t`. -/
def insertDT : Stmt := { command := .insert, queryTables := [.base (some "d") "t"] }

/-- The state of the first audit of a batch. -/
def freshAudit : AuditState := { node := {}, ctx := {} }

theorem audit_existence_matches_catalog_createUserInfo :
    (catalogEnv fun _ _ => false).remote =
        userCatalog.remote (· == ·) likeName (fun _ _ => false) (fun _ _ => .error "") (.ok "8.0.32") ∧
      ∀ p ∈ (auditStatement (catalogEnv fun _ _ => false) createUserInfo freshAudit).existence,
        p ∈ freshAudit.existence ∨
          (p.2 = true → userCatalog.found (· == ·) likeName p.1 = true) ∧
            ((∀ (log : List RemoteQuery) (q : RemoteQuery), (fun _ _ => false) log q = false) →
              userCatalog.found (· == ·) likeName p.1 = true → p.2 = true) :=
  ⟨rfl, audit_existence_matches_catalog userCatalog _ _ _ _ _ _ createUserInfo freshAudit rfl⟩

/-- Two diagnostics that misreport the catalogue.  `CREATE TABLE d.user_info`, where `d` holds
    `user1info` but no `user_info`, is told the table exists: `_` matches `1` under `LIKE`.
    `INSERT INTO d.t`, where `d` holds `t`, is told the table does not exist when the `USE d` of
    the probe fails. -/
theorem existence_diagnostics_misreport :
    (auditStatement (catalogEnv fun _ _ => false) createUserInfo freshAudit).existence =
        [(.table "d" "user_info", true)] ∧
      (auditStatement (catalogEnv fun _ _ => false) createUserInfo freshAudit).node.errmsg =
        "Table 'd.user_info' already exists on remote server.\nTable must have a PRIMARY KEY.\n" ++
          "Table must have a comment." ∧
      ("d", "user_info") ∉ userCatalog.tables ∧
      (auditStatement (catalogEnv fun _ q => q == .useDatabase "d") insertDT freshAudit).existence =
        [(.table "d" "t", false)] ∧
      (auditStatement (catalogEnv fun _ q => q == .useDatabase "d") insertDT freshAudit).node.errmsg =
        "Table 'd.t' does not exist on remote server." ∧
      ("d", "t") ∈ userCatalog.tables :=
  ⟨by decide, by decide, by decide, by decide, by decide, by decide⟩

end Inception
