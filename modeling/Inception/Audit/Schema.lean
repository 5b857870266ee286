import Inception.Audit.Effects

/-!
# Schema — the batch's virtual schema over a run of audits

The statements of one batch are audited one after another, each with a fresh record, against the
context the previous audits left.  `auditStatement_sansConn` says that one audit changes the
context, apart from the audit connection, by `schemaEffect`; so the batch cache at the end of a
run is the fold of `schemaEffect` over the run (`auditSteps_batch`), and everything below is an
induction over that fold with one step lemma per component of the cache.

What the tracking then records, for every run:

* a key `db.t` is in `batch_tables` exactly when it was there before or some `CREATE TABLE db.t`
  of the run was audited, with or without errors; no statement removes a key;
* its column set is the lowercased columns of the last such `CREATE`, updated by every later
  `ALTER TABLE` of the same key through `alterSchema` (under `ADD COLUMN` every column definition
  of the statement joins, `CHANGE` and `MODIFY` ones included; `DROP COLUMN` removes; a
  `CHANGE` never removes its old name);
* `batch_databases`, which `inception_context.h` describes as the databases created in the batch,
  gains the database of every `DROP DATABASE`, and nothing else: a `CREATE DATABASE` adds none.
-/

namespace Inception

/-- One audited statement of a batch: the environment it was audited in (the current database
    may change between statements), the statement, and its fresh record. -/
structure AuditStep where
  env : AuditEnv
  stmt : Stmt
  node : SqlCacheNode

/-- Audit the statements of a run in order, each with its own record, threading the context. -/
def auditSteps : List AuditStep → InceptionContext → InceptionContext
  | [], ctx => ctx
  | s :: rest, ctx => auditSteps rest (auditStatement s.env s.stmt { node := s.node, ctx }).ctx

/-- The batch key of the statement's target, when both names are known. -/
def targetKey (env : AuditEnv) (stmt : Stmt) : Option String :=
  (auditTarget env stmt).map fun (db, table) => batchTableKey db table

namespace AuditStep

/-- The step is a `CREATE TABLE` of the batch key `k`. -/
def creates (k : String) (s : AuditStep) : Bool :=
  s.stmt.command = .createTable && targetKey s.env s.stmt = some k

/-- The step is an `ALTER TABLE` of the batch key `k`. -/
def alters (k : String) (s : AuditStep) : Bool :=
  s.stmt.command = .alterTable && targetKey s.env s.stmt = some k

/-- The database a `DROP DATABASE` step names. -/
def droppedDb (s : AuditStep) : Option String :=
  if s.stmt.command = .dropDb then s.stmt.name else none

/-- The batch cache after the step, by `schemaEffect`. -/
def effect (s : AuditStep) (b : BatchCache) : BatchCache := schemaEffect s.env s.stmt b

end AuditStep

/-! ## 1. A run is the fold of `schemaEffect` -/

/-- **The run lemma.**  The batch cache after a run of audits is the fold of `schemaEffect`. -/
theorem auditSteps_batch :
    ∀ (steps : List AuditStep) (ctx : InceptionContext),
      (auditSteps steps ctx).batch = steps.foldl (fun b s => s.effect b) ctx.batch
  | [], _ => rfl
  | s :: rest, ctx => by
    have h := auditStatement_sansConn s.env s.stmt { node := s.node, ctx }
    rw [auditSteps, auditSteps_batch rest, InceptionContext.batch_eq_of_sansConn_mapBatch h]
    rfl

/-! ## 2. The step lemmas -/

section Step

variable (s : AuditStep) (b : BatchCache) (k : String)

theorem setTable_batchTables (key : String) (cols : Finset String) :
    (b.setTable key cols).batchTables k = if key = k then some cols else b.batchTables k := by
  by_cases h : key = k
  · subst h; simp
  · simp [BatchCache.setTable, Function.update_noteq (Ne.symm h), h]

section Effects

variable (env : AuditEnv) (stmt : Stmt)

theorem createTableEffect_batchTables :
    (createTableEffect env stmt b).batchTables k =
      if targetKey env stmt = some k then some (loweredColumns stmt.alterInfo.createList)
      else b.batchTables k := by
  simp only [createTableEffect, targetKey]
  split <;> simp [*, setTable_batchTables]

theorem alterColumnsEffect_batchTables :
    (alterColumnsEffect env stmt b).batchTables k =
      if targetKey env stmt = some k then (b.batchTables k).map (alterSchema stmt.alterInfo)
      else b.batchTables k := by
  simp only [alterColumnsEffect, targetKey]
  split
  · next db table ht =>
    by_cases h : batchTableKey db table = k
    · subst h; split <;> simp [*]
    · split <;> simp [*, setTable_batchTables]
  · simp [*]

theorem alterMergeEffect_batchTables :
    (alterMergeEffect env stmt b).batchTables k = b.batchTables k := by
  simp only [alterMergeEffect]; repeat' split
  all_goals rfl

theorem alterMergeEffect_batchDatabases :
    (alterMergeEffect env stmt b).batchDatabases = b.batchDatabases := by
  simp only [alterMergeEffect]; repeat' split
  all_goals rfl

theorem createTableEffect_batchDatabases :
    (createTableEffect env stmt b).batchDatabases = b.batchDatabases := by
  simp only [createTableEffect]; split <;> rfl

theorem alterColumnsEffect_batchDatabases :
    (alterColumnsEffect env stmt b).batchDatabases = b.batchDatabases := by
  simp only [alterColumnsEffect]; repeat' split
  all_goals rfl

end Effects

/-- **One step on `batch_tables`.**  A `CREATE TABLE` of `k` binds `k` to its lowercased columns,
    an `ALTER TABLE` of `k` maps its column set by `alterSchema`, and every other statement leaves
    `k` alone. -/
theorem effect_batchTables :
    (s.effect b).batchTables k =
      if s.creates k then some (loweredColumns s.stmt.alterInfo.createList)
      else if s.alters k then (b.batchTables k).map (alterSchema s.stmt.alterInfo)
      else b.batchTables k := by
  simp only [AuditStep.effect, AuditStep.creates, AuditStep.alters, schemaEffect]
  split
  · simp [*, createTableEffect_batchTables]
  · simp [*, alterColumnsEffect_batchTables, alterMergeEffect_batchTables]
  · simp only [dropDbEffect, *]; split <;> simp
  · next hc ha _ => simp [show ¬ _ from hc, show ¬ _ from ha]

/-- **One step on `batch_databases`.**  Only a `DROP DATABASE` adds, and it adds its database. -/
theorem effect_batchDatabases :
    (s.effect b).batchDatabases =
      match s.droppedDb with
      | some db => insert db b.batchDatabases
      | none => b.batchDatabases := by
  simp only [AuditStep.effect, AuditStep.droppedDb, schemaEffect]
  split
  · simp [*, createTableEffect_batchDatabases]
  · simp [*, alterColumnsEffect_batchDatabases, alterMergeEffect_batchDatabases]
  · simp only [dropDbEffect, *, ite_true]; cases s.stmt.name <;> rfl
  · next hd => simp [show ¬ _ from hd]

end Step

/-! ## 3. Over a run -/

section Run

variable (k : String)

/-- No step removes a key, and only a `CREATE TABLE` of it adds it. -/
theorem foldl_effect_isSome :
    ∀ (steps : List AuditStep) (b : BatchCache),
      ((steps.foldl (fun b s => s.effect b) b).batchTables k).isSome =
        ((b.batchTables k).isSome || steps.any (AuditStep.creates k))
  | [], _ => by simp
  | s :: rest, b => by
    rw [List.foldl_cons, foldl_effect_isSome rest, effect_batchTables]
    split
    · simp [*]
    · split <;> simp [*, Option.isSome_map]

/-- After a run with no `CREATE TABLE` of `k`, from a state where `k` is bound to `S`, `k` is
    bound to `S` updated by the run's `ALTER TABLE`s of `k`, in order. -/
theorem foldl_effect_tracked :
    ∀ (steps : List AuditStep) (b : BatchCache) (S : Finset String),
      b.batchTables k = some S → steps.any (AuditStep.creates k) = false →
      (steps.foldl (fun b s => s.effect b) b).batchTables k =
        some ((steps.filter (AuditStep.alters k)).foldl
          (fun S a => alterSchema a.stmt.alterInfo S) S)
  | [], _, _, h, _ => h
  | s :: rest, b, S, h, hc => by
    simp only [List.any_cons, Bool.or_eq_false_iff] at hc
    rw [List.foldl_cons]
    by_cases ha : s.alters k
    · rw [foldl_effect_tracked rest _ (alterSchema s.stmt.alterInfo S)
        (by simp [effect_batchTables, hc.1, ha, h]) hc.2]
      simp [List.filter_cons, ha]
    · rw [foldl_effect_tracked rest _ S (by simp [effect_batchTables, hc.1, ha, h]) hc.2]
      simp [List.filter_cons, ha]

theorem foldl_effect_batchDatabases :
    ∀ (steps : List AuditStep) (b : BatchCache),
      (steps.foldl (fun b s => s.effect b) b).batchDatabases =
        b.batchDatabases ∪ (steps.filterMap AuditStep.droppedDb).toFinset
  | [], _ => by simp
  | s :: rest, b => by
    rw [List.foldl_cons, foldl_effect_batchDatabases rest, effect_batchDatabases]
    rcases h : s.droppedDb with _ | db <;>
      simp [List.filterMap_cons, h, Finset.insert_union, Finset.union_insert]

end Run

/-! ## 4. The batch schema after a run -/

/-- **What the batch tracking records.**  After any run of audits: a key is in `batch_tables`
    exactly when it was there before or some `CREATE TABLE` of it was audited (no later statement
    removes it); after the last such `CREATE`, its column set is that statement's lowercased
    columns updated by the later `ALTER TABLE`s of the key through `alterSchema`; and
    `batch_databases` gains exactly the databases of the run's `DROP DATABASE`s. -/
theorem auditSteps_batch_schema (steps : List AuditStep) (ctx : InceptionContext) (k : String) :
    ((auditSteps steps ctx).batch.batchTables k).isSome =
        ((ctx.batch.batchTables k).isSome || steps.any (AuditStep.creates k)) ∧
      (∀ pre s post, steps = pre ++ s :: post → s.creates k →
        post.any (AuditStep.creates k) = false →
        (auditSteps steps ctx).batch.batchTables k =
          some ((post.filter (AuditStep.alters k)).foldl
            (fun S a => alterSchema a.stmt.alterInfo S) (loweredColumns s.stmt.alterInfo.createList))) ∧
      (auditSteps steps ctx).batch.batchDatabases =
        ctx.batch.batchDatabases ∪ (steps.filterMap AuditStep.droppedDb).toFinset := by
  refine ⟨?_, fun pre s post hsteps hc hpost => ?_, ?_⟩
  · rw [auditSteps_batch, foldl_effect_isSome]
  · rw [auditSteps_batch, hsteps, List.foldl_append, List.foldl_cons]
    exact foldl_effect_tracked k post _ _ (by rw [effect_batchTables, if_pos hc]) hpost
  · rw [auditSteps_batch, foldl_effect_batchDatabases]

/-- An environment whose current database is `d` and whose remote refuses every connection. -/
def envD : AuditEnv where
  sv := {}
  remote := {}
  thdDb := some "d"
  isKeyword _ := false

/-- `CREATE TABLE t (A INT, b INT)` under `d`. -/
def createT : AuditStep where
  env := envD
  stmt := { command := .createTable, queryTables := [.base none "t"],
            alterInfo := { createList := [{ fieldName := "A" }, { fieldName := "b" }] } }
  node := {}

/-- `ALTER TABLE t ADD COLUMN c INT, DROP COLUMN b` under `d`. -/
def alterT : AuditStep where
  env := envD
  stmt := { command := .alterTable, queryTables := [.base none "t"],
            alterInfo := { flags := [.addColumn, .dropColumn], createList := [{ fieldName := "c" }],
                           dropList := [{ kind := .column, name := "B" }] } }
  node := {}

/-- `DROP TABLE t` under `d`. -/
def dropT : AuditStep where
  env := envD
  stmt := { command := .dropTable, queryTables := [.base none "t"] }
  node := {}

theorem auditSteps_batch_schema_createAlter :
    (auditSteps [createT, alterT] {}).batch.batchTables "d.t" = some {"a", "c"} :=
  ((auditSteps_batch_schema [createT, alterT] {} "d.t").2.1 [] createT [alterT] rfl
    (by decide) (by decide)).trans (by decide)

/-- `CREATE DATABASE d` under `d`. -/
def createDbD : AuditStep where
  env := envD
  stmt := { command := .createDb, name := some "d" }
  node := {}

/-- `DROP DATABASE e` under `d`. -/
def dropDbE : AuditStep where
  env := envD
  stmt := { command := .dropDb, name := some "e" }
  node := {}

/-- The batch tracking against its description: after `CREATE DATABASE d; DROP DATABASE e`,
    `batch_databases` holds the dropped `e` and not the created `d`; and a `CREATE TABLE` audited
    with an error (the remote is unreachable) and then dropped leaves its key in
    `batch_tables`. -/
theorem batch_tracking_diverges :
    (auditSteps [createDbD, dropDbE] {}).batch.batchDatabases = {"e"} ∧
      (auditStatement createT.env createT.stmt { node := {}, ctx := {} }).node.errlevel = 2 ∧
      ((auditSteps [createT, dropT] {}).batch.batchTables "d.t").isSome = true := by
  refine ⟨?_, by decide, ?_⟩ <;> rw [auditSteps_batch] <;> decide

end Inception
