import Inception.Tree

/-!
# Coverage — what the query tree sees of a statement

`extract_tables` skips a derived table ("their inner tables are handled via subquery walk"), and
no walk of `inception_tree.cc` enters the derived table's query expression: `walk_item` reaches
subqueries only through `Item_subselect`, and the block walks read a table entry's name, alias
and join condition only.  So the extractor's output does not depend on what a derived table
selects from: emptying the query expression of every derived table, at every depth, changes
neither the JSON nor the context (§2–§4).  The tables and columns of a subquery in `FROM` never
reach the JSON.

`handle_insert` and `handle_update` also drop the tables their walks collect from subqueries
(`dummy`), and `handle_insert` skips every source table whose name is the target's, whatever its
database (§5).

Derived tables apart, the `SELECT` walk is complete: its tables array holds every base table of
every `UNION` branch and of every subquery of their clauses, at any depth (§6).
-/

namespace Inception

/-! ## 1. Emptying the derived tables -/

mutual

/-- An expression with the query expression of every derived table in it emptied. -/
def Item.eraseDerived : Item → Item
  | .field t n a => .field t n a
  | .func n isIn args => .func n isIn (eraseDerivedItems args)
  | .cond args => .cond (eraseDerivedItems args)
  | .sum args => .sum (eraseDerivedItems args)
  | .subselect (some u) => .subselect (some u.eraseDerived)
  | .subselect none => .subselect none
  | .row items => .row (eraseDerivedItems items)
  | .ref t => .ref (eraseDerivedOpt t)
  | .other => .other
termination_by structural i => i

def eraseDerivedItems : List Item → List Item
  | [] => []
  | i :: is => i.eraseDerived :: eraseDerivedItems is
termination_by structural l => l

def eraseDerivedOpt : Option Item → Option Item
  | some i => some i.eraseDerived
  | none => none
termination_by structural o => o

def eraseDerivedFields : List SelectItem → List SelectItem
  | [] => []
  | .mk h i :: fs => .mk h i.eraseDerived :: eraseDerivedFields fs
termination_by structural l => l

/-- A table entry with its derived query expression, if any, emptied (it stays derived), and its
    join condition erased. -/
def TableEntry.eraseDerived : TableEntry → TableEntry
  | .mk db n a d j => .mk db n a (d.map fun _ => .mk []) (eraseDerivedOpt j)
termination_by structural t => t

def eraseDerivedTables : List TableEntry → List TableEntry
  | [] => []
  | t :: ts => t.eraseDerived :: eraseDerivedTables ts
termination_by structural l => l

def QueryBlock.eraseDerived : QueryBlock → QueryBlock
  | .mk tables fields w h g o ww l db =>
    .mk (eraseDerivedTables tables) (eraseDerivedFields fields) (eraseDerivedOpt w)
      (eraseDerivedOpt h) (eraseDerivedItems g) (eraseDerivedItems o) ww l db
termination_by structural b => b

def eraseDerivedBlocks : List QueryBlock → List QueryBlock
  | [] => []
  | b :: bs => b.eraseDerived :: eraseDerivedBlocks bs
termination_by structural l => l

def QueryExpr.eraseDerived : QueryExpr → QueryExpr
  | .mk blocks => .mk (eraseDerivedBlocks blocks)
termination_by structural u => u

end

/-- A select-list entry with its expression erased. -/
def SelectItem.eraseDerived : SelectItem → SelectItem
  | .mk h i => .mk h i.eraseDerived

/-- A statement with the query expression of every derived table in it emptied. -/
def Stmt.eraseDerived (stmt : Stmt) : Stmt :=
  { stmt with
    queryBlock := stmt.queryBlock.eraseDerived
    unit := stmt.unit.map QueryExpr.eraseDerived
    queryTables := stmt.queryTables.map TableEntry.eraseDerived
    insertTableLeaf := stmt.insertTableLeaf.map TableEntry.eraseDerived
    insertCmd := stmt.insertCmd.map fun c => (c.1.map Item.eraseDerived, c.2)
    updateValues := stmt.updateValues.map (List.map Item.eraseDerived) }

theorem eraseDerivedItems_eq_map : ∀ l : List Item, eraseDerivedItems l = l.map Item.eraseDerived
  | [] => rfl
  | i :: l => by rw [eraseDerivedItems, eraseDerivedItems_eq_map l, List.map_cons]

theorem eraseDerivedOpt_eq_map : ∀ o : Option Item, eraseDerivedOpt o = o.map Item.eraseDerived
  | some _ | none => rfl

theorem eraseDerivedFields_eq_map :
    ∀ l : List SelectItem, eraseDerivedFields l = l.map SelectItem.eraseDerived
  | [] => rfl
  | .mk _ _ :: l => by rw [eraseDerivedFields, eraseDerivedFields_eq_map l]; rfl

theorem eraseDerivedTables_eq_map :
    ∀ l : List TableEntry, eraseDerivedTables l = l.map TableEntry.eraseDerived
  | [] => rfl
  | t :: l => by rw [eraseDerivedTables, eraseDerivedTables_eq_map l, List.map_cons]

theorem eraseDerivedBlocks_eq_map :
    ∀ l : List QueryBlock, eraseDerivedBlocks l = l.map QueryBlock.eraseDerived
  | [] => rfl
  | b :: l => by rw [eraseDerivedBlocks, eraseDerivedBlocks_eq_map l, List.map_cons]

namespace TableEntry

variable (t : TableEntry)

@[simp] theorem eraseDerived_db : t.eraseDerived.db = t.db := by cases t; rfl
@[simp] theorem eraseDerived_tableName : t.eraseDerived.tableName = t.tableName := by cases t; rfl
@[simp] theorem eraseDerived_aliasName : t.eraseDerived.aliasName = t.aliasName := by cases t; rfl
@[simp] theorem eraseDerived_joinCond :
    t.eraseDerived.joinCond = t.joinCond.map Item.eraseDerived := by
  cases t; simp [eraseDerived, joinCond, eraseDerivedOpt_eq_map]
@[simp] theorem eraseDerived_isDerived : t.eraseDerived.isDerived = t.isDerived := by
  cases t with | mk _ _ _ d _ => cases d <;> rfl
@[simp] theorem eraseDerived_dbOr (defaultDb : Option String) :
    t.eraseDerived.dbOr defaultDb = t.dbOr defaultDb := by
  simp [dbOr]

end TableEntry

namespace QueryBlock

variable (qb : QueryBlock)

@[simp] theorem eraseDerived_tables : qb.eraseDerived.tables = qb.tables.map TableEntry.eraseDerived := by
  cases qb; simp [eraseDerived, tables, eraseDerivedTables_eq_map]
@[simp] theorem eraseDerived_fields :
    qb.eraseDerived.fields = qb.fields.map SelectItem.eraseDerived := by
  cases qb; simp [eraseDerived, fields, eraseDerivedFields_eq_map]
@[simp] theorem eraseDerived_whereCond :
    qb.eraseDerived.whereCond = qb.whereCond.map Item.eraseDerived := by
  cases qb; simp [eraseDerived, whereCond, eraseDerivedOpt_eq_map]
@[simp] theorem eraseDerived_having : qb.eraseDerived.having = qb.having.map Item.eraseDerived := by
  cases qb; simp [eraseDerived, having, eraseDerivedOpt_eq_map]
@[simp] theorem eraseDerived_groupBy : qb.eraseDerived.groupBy = qb.groupBy.map Item.eraseDerived := by
  cases qb; simp [eraseDerived, groupBy, eraseDerivedItems_eq_map]
@[simp] theorem eraseDerived_orderBy : qb.eraseDerived.orderBy = qb.orderBy.map Item.eraseDerived := by
  cases qb; simp [eraseDerived, orderBy, eraseDerivedItems_eq_map]

end QueryBlock

@[simp] theorem QueryExpr.eraseDerived_blocks (u : QueryExpr) :
    u.eraseDerived.blocks = u.blocks.map QueryBlock.eraseDerived := by
  cases u; simp [QueryExpr.eraseDerived, QueryExpr.blocks, eraseDerivedBlocks_eq_map]

/-! ## 2. The names a walk reads

The walks read a block's table entries through their database, name, alias and `is_derived()`
only, which the erasure keeps. -/

section Names

variable (defaultDb : Option String)

theorem resolveTableAlias_eraseDerived (q : String) : ∀ ts : List TableEntry,
    resolveTableAlias defaultDb q (ts.map TableEntry.eraseDerived) = resolveTableAlias defaultDb q ts
  | [] => rfl
  | t :: ts => by simp [resolveTableAlias, resolveTableAlias_eraseDerived q ts]

theorem filter_not_derived_eraseDerived (ts : List TableEntry) :
    (ts.map TableEntry.eraseDerived).filter (!·.isDerived) =
      (ts.filter (!·.isDerived)).map TableEntry.eraseDerived := by
  simp [List.filter_map, Function.comp_def]

theorem singleTable_eraseDerived (ts : List TableEntry) :
    singleTable defaultDb (ts.map TableEntry.eraseDerived) = singleTable defaultDb ts := by
  unfold singleTable
  rw [filter_not_derived_eraseDerived]
  generalize ts.filter (!·.isDerived) = l
  rcases l with _ | ⟨t, _ | ⟨_, _⟩⟩ <;> simp

theorem extractTables_eraseDerived (w : Option String) (ts : List TableEntry) :
    extractTables defaultDb w (ts.map TableEntry.eraseDerived) = extractTables defaultDb w ts := by
  simp [extractTables, filter_not_derived_eraseDerived]

end Names

/-! ## 3. The walks do not see into derived tables -/

section Walks

variable (defaultDb : Option String)

mutual

theorem walkItem_eraseDerived (qb : QueryBlock) : ∀ i : Item,
    walkItem qb.eraseDerived defaultDb i.eraseDerived = walkItem qb defaultDb i
  | .field t _ _ => by
    cases t <;>
      simp only [Item.eraseDerived, walkItem, QueryBlock.eraseDerived_tables,
        resolveTableAlias_eraseDerived, singleTable_eraseDerived]
  | .func _ _ args => by
    simp only [Item.eraseDerived, walkItem]; exact walkItems_eraseDerived qb args
  | .cond args => by
    simp only [Item.eraseDerived, walkItem]; exact walkItems_eraseDerived qb args
  | .sum args => by
    simp only [Item.eraseDerived, walkItem]; exact walkItems_eraseDerived qb args
  | .subselect (some u) => by
    simp only [Item.eraseDerived, walkItem]; exact processSubquery_eraseDerived u
  | .subselect none => rfl
  | .row items => by
    simp only [Item.eraseDerived, walkItem]; exact walkItems_eraseDerived qb items
  | .ref t => by
    simp only [Item.eraseDerived, walkItem]; exact walkOpt_eraseDerived qb t
  | .other => rfl
termination_by structural i => i

theorem walkItems_eraseDerived (qb : QueryBlock) : ∀ l : List Item,
    walkItems qb.eraseDerived defaultDb (eraseDerivedItems l) = walkItems qb defaultDb l
  | [] => rfl
  | i :: l => by
    simp only [eraseDerivedItems, walkItems, walkItem_eraseDerived qb i,
      walkItems_eraseDerived qb l]
termination_by structural l => l

theorem walkOpt_eraseDerived (qb : QueryBlock) : ∀ o : Option Item,
    walkOpt qb.eraseDerived defaultDb (eraseDerivedOpt o) = walkOpt qb defaultDb o
  | some i => by simp only [eraseDerivedOpt, walkOpt, walkItem_eraseDerived qb i]
  | none => rfl
termination_by structural o => o

theorem walkFields_eraseDerived (qb : QueryBlock) : ∀ l : List SelectItem,
    walkFields qb.eraseDerived defaultDb (eraseDerivedFields l) = walkFields qb defaultDb l
  | [] => rfl
  | .mk h i :: l => by
    simp only [eraseDerivedFields, walkFields, walkItem_eraseDerived qb i,
      walkFields_eraseDerived qb l]
termination_by structural l => l

theorem walkJoins_eraseDerived (qb : QueryBlock) : ∀ l : List TableEntry,
    walkJoins qb.eraseDerived defaultDb (eraseDerivedTables l) = walkJoins qb defaultDb l
  | [] => rfl
  | .mk _ _ _ _ j :: l => by
    simp only [eraseDerivedTables, TableEntry.eraseDerived, walkJoins, walkOpt_eraseDerived qb j,
      walkJoins_eraseDerived qb l]
termination_by structural l => l

theorem processSubquery_eraseDerived : ∀ u : QueryExpr,
    processSubquery defaultDb u.eraseDerived = processSubquery defaultDb u
  | .mk blocks => by
    simp only [QueryExpr.eraseDerived, processSubquery]; exact processSubBlocks_eraseDerived blocks
termination_by structural u => u

theorem processSubBlocks_eraseDerived : ∀ l : List QueryBlock,
    processSubBlocks defaultDb (eraseDerivedBlocks l) = processSubBlocks defaultDb l
  | [] => rfl
  | b :: l => by
    simp only [eraseDerivedBlocks, processSubBlocks, processSubBlock_eraseDerived b,
      processSubBlocks_eraseDerived l]
termination_by structural l => l

theorem processSubBlock_eraseDerived : ∀ b : QueryBlock,
    processSubBlock defaultDb b.eraseDerived = processSubBlock defaultDb b
  | .mk tables fields w h g o ww l db => by
    let qb := QueryBlock.mk tables fields w h g o ww l db
    have hw := walkOpt_eraseDerived qb w
    have hf := walkFields_eraseDerived qb fields
    have hj := walkJoins_eraseDerived qb tables
    have hg := walkItems_eraseDerived qb g
    have ho := walkItems_eraseDerived qb o
    have hh := walkOpt_eraseDerived qb h
    simp only [qb, QueryBlock.eraseDerived] at hw hf hj hg ho hh
    simp only [processSubBlock, QueryBlock.eraseDerived, hw, hf, hj, hg, ho, hh]
    rw [eraseDerivedTables_eq_map, extractTables_eraseDerived]
termination_by structural b => b

end

/-- The walks over lists and options, as the top-level blocks call them. -/
@[simp] theorem walkItems_map_eraseDerived (qb : QueryBlock) (l : List Item) :
    walkItems qb.eraseDerived defaultDb (l.map Item.eraseDerived) = walkItems qb defaultDb l := by
  rw [← eraseDerivedItems_eq_map, walkItems_eraseDerived]

@[simp] theorem walkFields_map_eraseDerived (qb : QueryBlock) (l : List SelectItem) :
    walkFields qb.eraseDerived defaultDb (l.map SelectItem.eraseDerived) =
      walkFields qb defaultDb l := by
  rw [← eraseDerivedFields_eq_map, walkFields_eraseDerived]

@[simp] theorem walkJoins_map_eraseDerived (qb : QueryBlock) (l : List TableEntry) :
    walkJoins qb.eraseDerived defaultDb (l.map TableEntry.eraseDerived) =
      walkJoins qb defaultDb l := by
  rw [← eraseDerivedTables_eq_map, walkJoins_eraseDerived]

end Walks

/-! ## 4. The handlers do not see into derived tables -/

namespace Stmt

variable (stmt : Stmt)

@[simp] theorem eraseDerived_command : stmt.eraseDerived.command = stmt.command := rfl
@[simp] theorem eraseDerived_queryBlock : stmt.eraseDerived.queryBlock = stmt.queryBlock.eraseDerived :=
  rfl
@[simp] theorem eraseDerived_unit : stmt.eraseDerived.unit = stmt.unit.map QueryExpr.eraseDerived :=
  rfl
@[simp] theorem eraseDerived_insertTableLeaf :
    stmt.eraseDerived.insertTableLeaf = stmt.insertTableLeaf.map TableEntry.eraseDerived := rfl
@[simp] theorem eraseDerived_insertCmd :
    stmt.eraseDerived.insertCmd = stmt.insertCmd.map fun c => (c.1.map Item.eraseDerived, c.2) :=
  rfl
@[simp] theorem eraseDerived_updateValues :
    stmt.eraseDerived.updateValues = stmt.updateValues.map (List.map Item.eraseDerived) := rfl
@[simp] theorem eraseDerived_queryTable :
    stmt.eraseDerived.queryTable = stmt.queryTable.map TableEntry.eraseDerived :=
  List.head?_map _ _

end Stmt

section Handlers

variable (remote : Remote) (defaultDb : Option String)

theorem selectItem_eraseDerived (qb : QueryBlock) (acc : TreeAcc) :
    ∀ si : SelectItem, selectItem remote defaultDb qb.eraseDerived acc si.eraseDerived =
      selectItem remote defaultDb qb acc si
  | .mk true _ => rfl
  | .mk false i => by
    have h := walkItem_eraseDerived defaultDb qb i
    cases i with
    | field t n a =>
      cases a <;> cases t <;>
        simp [selectItem, SelectItem.eraseDerived, Item.eraseDerived, walkItem,
          resolveTableAlias_eraseDerived, filter_not_derived_eraseDerived, List.foldl_map,
          singleTable_eraseDerived]
    | subselect u =>
      cases u <;> simp only [SelectItem.eraseDerived, Item.eraseDerived] at h ⊢ <;>
        simp only [selectItem, h]
    | _ =>
      simp only [SelectItem.eraseDerived, Item.eraseDerived] at h ⊢
      simp only [selectItem, h]

theorem processQueryBlock_eraseDerived (qb : QueryBlock) (acc : TreeAcc) :
    processQueryBlock remote defaultDb qb.eraseDerived acc =
      processQueryBlock remote defaultDb qb acc := by
  have he (l : List Item) : (l.map Item.eraseDerived).isEmpty = l.isEmpty := by cases l <;> rfl
  simp only [processQueryBlock, he, QueryBlock.eraseDerived_tables, extractTables_eraseDerived,
    QueryBlock.eraseDerived_fields, List.foldl_map, selectItem_eraseDerived,
    walkJoins_map_eraseDerived, QueryBlock.eraseDerived_whereCond, QueryBlock.eraseDerived_having,
    QueryBlock.eraseDerived_groupBy, QueryBlock.eraseDerived_orderBy, walkItems_map_eraseDerived]
  cases qb.whereCond <;> cases qb.having <;> simp [walkItem_eraseDerived]

theorem handleSelect_eraseDerived (stmt : Stmt) (ctx : InceptionContext) :
    handleSelect remote defaultDb stmt.eraseDerived ctx = handleSelect remote defaultDb stmt ctx := by
  simp only [handleSelect, Stmt.eraseDerived_unit]
  cases stmt.unit <;> simp [List.foldl_map, processQueryBlock_eraseDerived]

theorem insertSelectBlock_eraseDerived (target : Option TableEntry) (acc : List TableRef × ColumnMap)
    (qb : QueryBlock) :
    insertSelectBlock defaultDb (target.map TableEntry.eraseDerived) acc qb.eraseDerived =
      insertSelectBlock defaultDb target acc qb := by
  cases target <;> cases hw : qb.whereCond <;>
    simp only [insertSelectBlock, hw, QueryBlock.eraseDerived_whereCond, Option.map_some',
      Option.map_none', walkItem_eraseDerived, QueryBlock.eraseDerived_fields,
      walkFields_map_eraseDerived, QueryBlock.eraseDerived_tables, List.foldl_map,
      TableEntry.eraseDerived_joinCond, List.filter_map, List.map_map, Function.comp_def,
      TableEntry.eraseDerived_isDerived, TableEntry.eraseDerived_tableName,
      TableEntry.eraseDerived_aliasName, TableEntry.eraseDerived_dbOr, Option.some_bind] <;>
    refine congrArg _ (List.foldl_ext _ _ _ fun cols t _ => ?_) <;>
    cases t.joinCond <;> simp only [Option.map_some', Option.map_none', walkItem_eraseDerived]

theorem handleInsert_eraseDerived (stmt : Stmt) :
    handleInsert defaultDb stmt.eraseDerived = handleInsert defaultDb stmt := by
  have ht : (stmt.insertTableLeaf.map TableEntry.eraseDerived <|>
      stmt.queryTable.map TableEntry.eraseDerived) =
      (stmt.insertTableLeaf <|> stmt.queryTable).map TableEntry.eraseDerived := by
    cases stmt.insertTableLeaf <;> rfl
  simp only [handleInsert, Stmt.eraseDerived_command, Stmt.eraseDerived_insertTableLeaf,
    Stmt.eraseDerived_queryTable, ht, Stmt.eraseDerived_unit, Stmt.eraseDerived_insertCmd,
    Stmt.eraseDerived_queryBlock]
  generalize (stmt.insertTableLeaf <|> stmt.queryTable) = target
  cases stmt.insertCmd <;> cases stmt.unit <;>
    simp only [Option.map_some', Option.map_none', QueryExpr.eraseDerived_blocks, Option.getD_some,
      List.foldl_map, insertSelectBlock_eraseDerived, walkItem_eraseDerived] <;>
    cases target <;> simp

theorem whereAndJoins_eraseDerived (stmt : Stmt) (acc : List TableRef × ColumnMap) :
    whereAndJoins defaultDb stmt.eraseDerived acc = whereAndJoins defaultDb stmt acc := by
  cases hw : stmt.queryBlock.whereCond <;> simp [whereAndJoins, hw, walkItem_eraseDerived]

theorem handleUpdate_eraseDerived (stmt : Stmt) :
    handleUpdate defaultDb stmt.eraseDerived = handleUpdate defaultDb stmt := by
  have hw : writeTable stmt.eraseDerived = writeTable stmt := by
    simp [writeTable, Option.bind_map, Function.comp_def]
  simp only [handleUpdate, hw, whereAndJoins_eraseDerived, Stmt.eraseDerived_queryBlock,
    QueryBlock.eraseDerived_tables, extractTables_eraseDerived, QueryBlock.eraseDerived_fields,
    walkFields_map_eraseDerived, Stmt.eraseDerived_updateValues]
  cases stmt.updateValues <;> simp

theorem handleDelete_eraseDerived (stmt : Stmt) :
    handleDelete defaultDb stmt.eraseDerived = handleDelete defaultDb stmt := by
  have hw : writeTable stmt.eraseDerived = writeTable stmt := by
    simp [writeTable, Option.bind_map, Function.comp_def]
  simp only [handleDelete, hw, whereAndJoins_eraseDerived, Stmt.eraseDerived_queryBlock,
    QueryBlock.eraseDerived_tables, extractTables_eraseDerived]

theorem handleOther_eraseDerived (stmt : Stmt) :
    handleOther defaultDb stmt.eraseDerived = handleOther defaultDb stmt := by
  simp only [handleOther, Stmt.eraseDerived_queryTable, Stmt.eraseDerived_command]
  cases stmt.queryTable <;> simp

/-- **Derived tables are opaque to the query tree.**  For every statement, emptying the query
    expression of every derived table in it, at every depth of nesting (in `FROM`, in the
    subqueries of any clause, in the `UNION` branches), leaves the extractor's context and JSON
    as they were: nothing a subquery in `FROM` selects from, and none of its columns, is seen. -/
theorem extractQueryTree_eraseDerived (stmt : Stmt) (ctx : InceptionContext) :
    extractQueryTree remote defaultDb stmt.eraseDerived ctx = extractQueryTree remote defaultDb stmt ctx := by
  unfold extractQueryTree
  rw [Stmt.eraseDerived_command]
  split
  · exact handleSelect_eraseDerived remote defaultDb stmt ctx
  all_goals simp only [handleInsert_eraseDerived, handleUpdate_eraseDerived, handleDelete_eraseDerived,
    handleOther_eraseDerived]

end Handlers

/-! ## 5. Four statements whose tables the JSON misses -/

/-- An unqualified column. -/
def plainColumn (name : String) : Item := .field none (some name) false

/-- `SELECT cols FROM tables [WHERE cond]`. -/
def simpleBlock (tables : List TableEntry) (cols : List Item) (whereCond : Option Item) : QueryBlock :=
  .mk tables (cols.map (.mk false)) whereCond none [] [] 0 false none

/-- `SELECT * FROM (SELECT a FROM t) AS d`. -/
def selectFromDerived : Stmt :=
  { command := .select,
    unit := some (.mk [simpleBlock
      [.mk none none (some "d") (some (.mk [simpleBlock [.base none "t"] [plainColumn "a"] none])) none]
      [.field none none true] none]) }

/-- `INSERT INTO t SELECT a FROM u WHERE a IN (SELECT b FROM v)`; the block's tables start with
    the target.  The parser makes the condition an `Item_in_subselect`, a `SUBSELECT_ITEM` whose
    left expression `a` the walk does not read. -/
def insertSelectIn : Stmt :=
  { command := .insertSelect, queryTables := [.base none "t"], insertCmd := some ([], []),
    unit := some (.mk [simpleBlock [.base none "t", .base none "u"] [plainColumn "a"]
      (some (.subselect (some (.mk [simpleBlock [.base none "v"] [plainColumn "b"] none]))))]) }

/-- `UPDATE t SET a = (SELECT b FROM u)`. -/
def updateSetSubquery : Stmt :=
  { command := .update, queryTables := [.base none "t"],
    queryBlock := simpleBlock [.base none "t"] [plainColumn "a"] none,
    updateValues := some [.subselect (some (.mk [simpleBlock [.base none "u"] [plainColumn "b"] none]))] }

/-- `INSERT INTO d1.t SELECT c FROM d2.t`. -/
def insertSameName : Stmt :=
  { command := .insertSelect, queryTables := [.base (some "d1") "t"], insertCmd := some ([], []),
    unit := some (.mk [simpleBlock [.base (some "d1") "t", .base (some "d2") "t"] [plainColumn "c"] none]) }

/-- Four statements whose base tables the JSON misses, whatever the remote and the context: `t`
    and its column `a` inside a derived table; `v` in a subquery of `INSERT ... SELECT`'s `WHERE`
    and `u` in a subquery of a `SET` value (their columns are kept, their tables dropped); and
    the source `d2.t` of an `INSERT` into `d1.t`. -/
theorem query_tree_misses_tables (remote : Remote) (ctx : InceptionContext) :
    (extractQueryTree remote none selectFromDerived ctx).2 =
      buildJson "SELECT" [] [("join", []), ("select", [])] ∧
    (extractQueryTree remote none insertSelectIn ctx).2 =
      buildJson "INSERT" [{ table := "t", type := "write" }, { table := "u", type := "read" }]
        [("insert_columns", []), ("select", [{ column := "a" }]),
          ("where", [{ table := "v", column := "b" }])] ∧
    (extractQueryTree remote none updateSetSubquery ctx).2 =
      buildJson "UPDATE" [{ table := "t", type := "write" }]
        [("join", []), ("set", [{ table := "t", column := "a" }]),
          ("set_values", [{ table := "u", column := "b" }])] ∧
    (extractQueryTree remote none insertSameName ctx).2 =
      buildJson "INSERT" [{ db := "d1", table := "t", type := "write" }]
        [("insert_columns", []), ("select", [{ column := "c" }])] :=
  ⟨rfl, rfl, rfl, rfl⟩

/-! ## 6. What a `SELECT` does list

Outside derived tables the `SELECT` walk is complete: every base table that a block, or a
subquery of any of its clauses at any depth, selects from is in the tables array.  Hidden
select-list items are the resolver's copies of `GROUP BY` and `ORDER BY` expressions, which are
walked in their own clause. -/

mutual

/-- The base tables an expression's subqueries select from, at every depth, derived tables not
    entered. -/
def Item.baseTables : Item → List TableEntry
  | .field .. => []
  | .func _ _ args => baseTablesItems args
  | .cond args => baseTablesItems args
  | .sum args => baseTablesItems args
  | .subselect (some u) => u.baseTables
  | .subselect none => []
  | .row items => baseTablesItems items
  | .ref t => baseTablesOpt t
  | .other => []
termination_by structural i => i

def baseTablesItems : List Item → List TableEntry
  | [] => []
  | i :: is => i.baseTables ++ baseTablesItems is
termination_by structural l => l

def baseTablesOpt : Option Item → List TableEntry
  | some i => i.baseTables
  | none => []
termination_by structural o => o

def baseTablesFields : List SelectItem → List TableEntry
  | [] => []
  | .mk hidden i :: fs => (if hidden then [] else i.baseTables) ++ baseTablesFields fs
termination_by structural l => l

def baseTablesJoins : List TableEntry → List TableEntry
  | [] => []
  | .mk _ _ _ _ j :: ts => baseTablesOpt j ++ baseTablesJoins ts
termination_by structural l => l

/-- The base tables of a block: those of its `FROM` list, then those its clauses' subqueries
    select from. -/
def QueryBlock.baseTables : QueryBlock → List TableEntry
  | .mk tables fields w h g o _ _ _ =>
    tables.filter (!·.isDerived) ++ baseTablesFields fields ++ baseTablesOpt w ++
      baseTablesJoins tables ++ baseTablesItems g ++ baseTablesItems o ++ baseTablesOpt h
termination_by structural b => b

def baseTablesBlocks : List QueryBlock → List TableEntry
  | [] => []
  | b :: bs => b.baseTables ++ baseTablesBlocks bs
termination_by structural l => l

/-- The base tables of a query expression: those of its `UNION` branches. -/
def QueryExpr.baseTables : QueryExpr → List TableEntry
  | .mk blocks => baseTablesBlocks blocks
termination_by structural u => u

end

/-- A table as the tables array names it: its database (the default one when unqualified) and
    its name. -/
def TableEntry.key (defaultDb : Option String) (t : TableEntry) : String × String :=
  (t.dbOr defaultDb, t.tableName.getD "")

/-- An entry of the tables array by its database and name. -/
def TableRef.key (r : TableRef) : String × String := (r.db, r.table)

section Lists

variable (defaultDb : Option String)

theorem key_mem_extractTables (w : Option String) {ts : List TableEntry} {t : TableEntry}
    (ht : t ∈ ts.filter (!·.isDerived)) :
    t.key defaultDb ∈ (extractTables defaultDb w ts).map TableRef.key := by
  simp only [extractTables, List.map_map]
  exact List.mem_map.2 ⟨t, ht, rfl⟩

mutual

theorem walkItem_lists (qb : QueryBlock) : ∀ i : Item, ∀ t ∈ i.baseTables,
    t.key defaultDb ∈ (walkItem qb defaultDb i).2.map TableRef.key
  | .field .. => nofun
  | .func _ _ args => by simp only [Item.baseTables, walkItem]; exact walkItems_lists qb args
  | .cond args => by simp only [Item.baseTables, walkItem]; exact walkItems_lists qb args
  | .sum args => by simp only [Item.baseTables, walkItem]; exact walkItems_lists qb args
  | .subselect (some u) => by
    simp only [Item.baseTables, walkItem]; exact processSubquery_lists u
  | .subselect none => nofun
  | .row items => by simp only [Item.baseTables, walkItem]; exact walkItems_lists qb items
  | .ref t => by simp only [Item.baseTables, walkItem]; exact walkOpt_lists qb t
  | .other => nofun
termination_by structural i => i

theorem walkItems_lists (qb : QueryBlock) : ∀ l : List Item, ∀ t ∈ baseTablesItems l,
    t.key defaultDb ∈ (walkItems qb defaultDb l).2.map TableRef.key
  | [] => nofun
  | i :: l => fun t ht => by
    simp only [baseTablesItems, List.mem_append] at ht
    simp only [walkItems, List.map_append, List.mem_append]
    exact ht.imp (walkItem_lists qb i t) (walkItems_lists qb l t)
termination_by structural l => l

theorem walkOpt_lists (qb : QueryBlock) : ∀ o : Option Item, ∀ t ∈ baseTablesOpt o,
    t.key defaultDb ∈ (walkOpt qb defaultDb o).2.map TableRef.key
  | some i => walkItem_lists qb i
  | none => nofun
termination_by structural o => o

theorem walkFields_lists (qb : QueryBlock) : ∀ l : List SelectItem, ∀ t ∈ baseTablesFields l,
    t.key defaultDb ∈ (walkFields qb defaultDb l).2.map TableRef.key
  | [] => nofun
  | .mk hidden i :: l => fun t ht => by
    simp only [baseTablesFields, List.mem_append] at ht
    simp only [walkFields, List.map_append, List.mem_append]
    refine ht.imp (fun h => ?_) (walkFields_lists qb l t)
    cases hidden
    · exact walkItem_lists qb i t h
    · cases h
termination_by structural l => l

theorem walkJoins_lists (qb : QueryBlock) : ∀ l : List TableEntry, ∀ t ∈ baseTablesJoins l,
    t.key defaultDb ∈ (walkJoins qb defaultDb l).2.map TableRef.key
  | [] => nofun
  | .mk _ _ _ _ j :: l => fun t ht => by
    simp only [baseTablesJoins, List.mem_append] at ht
    simp only [walkJoins, List.map_append, List.mem_append]
    exact ht.imp (walkOpt_lists qb j t) (walkJoins_lists qb l t)
termination_by structural l => l

theorem processSubquery_lists : ∀ u : QueryExpr, ∀ t ∈ u.baseTables,
    t.key defaultDb ∈ (processSubquery defaultDb u).2.map TableRef.key
  | .mk blocks => by
    simp only [QueryExpr.baseTables, processSubquery]; exact processSubBlocks_lists blocks
termination_by structural u => u

theorem processSubBlocks_lists : ∀ l : List QueryBlock, ∀ t ∈ baseTablesBlocks l,
    t.key defaultDb ∈ (processSubBlocks defaultDb l).2.map TableRef.key
  | [] => nofun
  | b :: l => fun t ht => by
    simp only [baseTablesBlocks, List.mem_append] at ht
    simp only [processSubBlocks, List.map_append, List.mem_append]
    exact ht.imp (processSubBlock_lists b t) (processSubBlocks_lists l t)
termination_by structural l => l

/-- **A subquery's block lists its base tables**: its `FROM` list's, and those of every subquery
    of its clauses. -/
theorem processSubBlock_lists : ∀ b : QueryBlock, ∀ t ∈ b.baseTables,
    t.key defaultDb ∈ (processSubBlock defaultDb b).2.map TableRef.key
  | .mk tables fields w h g o ww l db => fun t ht => by
    let qb := QueryBlock.mk tables fields w h g o ww l db
    simp only [QueryBlock.baseTables, List.mem_append] at ht
    simp only [processSubBlock, List.map_append, List.mem_append]
    rcases ht with ((((((ht | ht) | ht) | ht) | ht) | ht) | ht)
    · exact .inl (.inl (.inl (.inl (.inl (.inl (key_mem_extractTables defaultDb none ht))))))
    · exact .inl (.inl (.inl (.inl (.inr (walkFields_lists qb fields t ht)))))
    · exact .inl (.inl (.inl (.inl (.inl (.inr (walkOpt_lists qb w t ht))))))
    · exact .inl (.inl (.inl (.inr (walkJoins_lists qb tables t ht))))
    · exact .inl (.inl (.inr (walkItems_lists qb g t ht)))
    · exact .inl (.inr (walkItems_lists qb o t ht))
    · exact .inr (walkOpt_lists qb h t ht)
termination_by structural b => b

end

end Lists

section TopLists

variable (remote : Remote) (defaultDb : Option String) (qb : QueryBlock)

@[simp] theorem starRef_tables (acc : TreeAcc) (db table : String) :
    (starRef remote acc db table).2.1 = acc.2.1 := rfl

theorem foldl_starRef_tables (f : TableEntry → String × String) :
    ∀ (l : List TableEntry) (acc : TreeAcc),
      (l.foldl (fun acc t => starRef remote acc (f t).1 (f t).2) acc).2.1 = acc.2.1
  | [], _ => rfl
  | _ :: l, acc => (foldl_starRef_tables f l _).trans (starRef_tables remote acc _ _)

/-- A select-list entry adds the tables its walk collects; a `*` adds none. -/
theorem selectItem_tables (acc : TreeAcc) :
    ∀ si : SelectItem, (selectItem remote defaultDb qb acc si).2.1 =
      acc.2.1 ++ (if si.hidden then [] else (walkItem qb defaultDb si.item).2)
  | .mk true _ => (List.append_nil _).symm
  | .mk false (.field (some _) _ true) => (List.append_nil _).symm
  | .mk false (.field none _ true) =>
    (foldl_starRef_tables remote (fun t => (t.dbOr defaultDb, t.tableName.getD "")) _ _).trans
      (List.append_nil _).symm
  | .mk false (.field (some _) _ false) | .mk false (.field none _ false) | .mk false (.func ..)
  | .mk false (.cond _)
  | .mk false (.sum _) | .mk false (.subselect _) | .mk false (.row _) | .mk false (.ref _)
  | .mk false .other => rfl

theorem foldl_selectItem_tables : ∀ (l : List SelectItem) (acc : TreeAcc),
    (l.foldl (selectItem remote defaultDb qb) acc).2.1 = acc.2.1 ++ (walkFields qb defaultDb l).2
  | [], acc => (List.append_nil _).symm
  | .mk hidden i :: l, acc => by
    rw [List.foldl_cons, foldl_selectItem_tables l, selectItem_tables]
    cases hidden <;> simp [walkFields, SelectItem.hidden, SelectItem.item]

@[simp] theorem walkInto_tables (key : String) (w : List ColumnRef × List TableRef) (acc : TreeAcc) :
    (walkInto key w acc).2.1 = acc.2.1 ++ w.2 := rfl

/-- A clause walked only when it is not empty adds the tables of its walk. -/
theorem walkInto_ite_tables (key : String) (l : List Item) (acc : TreeAcc) :
    (if l.isEmpty then acc else walkInto key (walkItems qb defaultDb l) acc).2.1 =
      acc.2.1 ++ (walkItems qb defaultDb l).2 := by
  cases l
  · exact (List.append_nil _).symm
  · rfl

/-- The tables a top-level block adds: its `FROM` list's, then those of the subqueries of its
    select list, `WHERE`, `JOIN`, `GROUP BY`, `ORDER BY` and `HAVING`. -/
theorem processQueryBlock_tables (acc : TreeAcc) :
    (processQueryBlock remote defaultDb qb acc).2.1 =
      acc.2.1 ++ extractTables defaultDb none qb.tables ++ (walkFields qb defaultDb qb.fields).2 ++
        (walkOpt qb defaultDb qb.whereCond).2 ++ (walkJoins qb defaultDb qb.tables).2 ++
        (walkItems qb defaultDb qb.groupBy).2 ++ (walkItems qb defaultDb qb.orderBy).2 ++
        (walkOpt qb defaultDb qb.having).2 := by
  simp only [processQueryBlock]
  rcases qb.whereCond with _ | w <;> rcases qb.having with _ | h <;>
    simp only [walkInto_tables, walkInto_ite_tables, foldl_selectItem_tables, walkOpt,
      List.append_nil, List.append_assoc]

/-- A top-level block lists at least what the same block lists as a subquery. -/
theorem processSubBlock_subset (acc : TreeAcc) :
    (processSubBlock defaultDb qb).2 ⊆ (processQueryBlock remote defaultDb qb acc).2.1 := by
  intro r hr
  rw [processQueryBlock_tables]
  cases qb
  simp only [processSubBlock, List.mem_append] at hr
  simp only [QueryBlock.tables, QueryBlock.fields, QueryBlock.whereCond, QueryBlock.groupBy,
    QueryBlock.orderBy, QueryBlock.having, List.mem_append]
  tauto

theorem foldl_processQueryBlock_lists : ∀ (blocks : List QueryBlock) (acc : TreeAcc),
    acc.2.1 ⊆ (blocks.foldl (fun acc qb => processQueryBlock remote defaultDb qb acc) acc).2.1 ∧
      ∀ t ∈ baseTablesBlocks blocks, t.key defaultDb ∈
        (blocks.foldl (fun acc qb => processQueryBlock remote defaultDb qb acc) acc).2.1.map
          TableRef.key
  | [], _ => ⟨List.Subset.refl _, nofun⟩
  | b :: bs, acc => by
    obtain ⟨hsub, hlist⟩ := foldl_processQueryBlock_lists bs (processQueryBlock remote defaultDb b acc)
    have hacc : acc.2.1 ⊆ (processQueryBlock remote defaultDb b acc).2.1 := by
      rw [processQueryBlock_tables]
      exact fun r hr => by simp [hr]
    refine ⟨hacc.trans hsub, fun t ht => ?_⟩
    rcases List.mem_append.1 ht with ht | ht
    · exact List.map_subset _ ((processSubBlock_subset remote defaultDb b acc).trans hsub)
        (processSubBlock_lists defaultDb b t ht)
    · exact hlist t ht

/-- **A `SELECT`'s JSON lists every base table outside derived tables.**  For every `SELECT`, with
    any remote and context, the JSON is built from a tables array that holds, by database and
    name, every base table that a `UNION` branch, or a subquery of any of its clauses at any
    depth, selects from, derived tables not entered. -/
theorem select_tree_lists_base_tables (stmt : Stmt) (ctx : InceptionContext)
    (hsel : stmt.command = .select) :
    ∃ tables columns,
      (extractQueryTree remote defaultDb stmt ctx).2 = buildJson "SELECT" tables columns ∧
        ∀ u ∈ stmt.unit, ∀ t ∈ u.baseTables, t.key defaultDb ∈ tables.map TableRef.key := by
  simp only [extractQueryTree, hsel, handleSelect]
  refine ⟨_, _, rfl, fun u hu t ht => ?_⟩
  rw [Option.mem_def.1 hu]
  cases u
  exact (foldl_processQueryBlock_lists remote defaultDb _ _).2 t ht

end TopLists

/-- `SELECT a FROM t WHERE b IN (SELECT c FROM u)`. -/
def selectWithSubquery : Stmt :=
  { command := .select,
    unit := some (.mk [simpleBlock [.base none "t"] [plainColumn "a"]
      (some (.subselect (some (.mk [simpleBlock [.base none "u"] [plainColumn "c"] none]))))]) }

theorem select_tree_lists_base_tables_subquery :
    selectWithSubquery.command = .select ∧
      ∃ tables columns,
        (extractQueryTree {} none selectWithSubquery {}).2 = buildJson "SELECT" tables columns ∧
          ∀ u ∈ selectWithSubquery.unit, ∀ t ∈ u.baseTables, t.key none ∈ tables.map TableRef.key :=
  ⟨rfl, select_tree_lists_base_tables {} none selectWithSubquery {} rfl⟩

end Inception
