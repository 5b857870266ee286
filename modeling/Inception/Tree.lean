import Mathlib.Data.List.Chain
import Inception.Remote
import Inception.Ast

/-!
# Tree — the query-tree extractor

`inception_tree.cc`: in query-tree mode each statement becomes a JSON document with its
statement type, the tables it references (each `read` or `write`) and the column references of
each clause.  The expression walk (`walk_item`) and the subquery walk (`process_subquery`) read
the statement only; the one remote access is the `SELECT *` expansion of a top-level query block
(`expand_star_columns`), which asks the audit connection for the table's columns.  So the
extractor threads the context through the top-level blocks and nowhere else.

The column map is `std::map<std::string, std::vector<ColumnRef>>`: `ColumnMap` keeps its entries
in key order, and `columns[key]` creates an empty entry, which then shows in the JSON.
-/

namespace Inception

/-- `ColumnRef`. -/
structure ColumnRef where
  db : String := ""
  table : String := ""
  column : String := ""
  expanded : List String := []
  deriving DecidableEq, Repr

/-- `TableRef`; `type` is `read` or `write`. -/
structure TableRef where
  db : String := ""
  table : String := ""
  aliasName : String := ""
  type : String := ""
  deriving DecidableEq, Repr

/-- `std::map<std::string, std::vector<ColumnRef>>`, its entries in key order. -/
abbrev ColumnMap := List (String × List ColumnRef)

/-- `std::less<std::string>`, the key order of the map: lexicographic on characters. -/
def charsLt : List Char → List Char → Bool
  | [], [] => false
  | [], _ :: _ => true
  | _ :: _, [] => false
  | a :: as, b :: bs => decide (a < b) || (decide (a = b) && charsLt as bs)

/-- Apply `f` to the entry of `key`, creating it empty first (`columns[key]`). -/
def ColumnMap.modify (key : String) (f : List ColumnRef → List ColumnRef) : ColumnMap → ColumnMap
  | [] => [(key, f [])]
  | (k, v) :: rest =>
    if key = k then (k, f v) :: rest
    else if charsLt key.data k.data then (key, f []) :: (k, v) :: rest
    else (k, v) :: modify key f rest

/-- `columns[key]` pushed onto: the references appended to the entry of `key`. -/
def ColumnMap.push (key : String) (refs : List ColumnRef) (m : ColumnMap) : ColumnMap :=
  ColumnMap.modify key (· ++ refs) m

/-! ## 1. Names -/

/-- `tbl->db ? tbl->db : (default_db ? default_db : "")`. -/
def TableEntry.dbOr (t : TableEntry) (defaultDb : Option String) : String :=
  t.db.getD (defaultDb.getD "")

/-- `resolve_table_alias`: the first table of the block whose alias, or else whose real name,
    equals the qualifier ignoring case (alias and name tested entry by entry). -/
def resolveTableAlias (defaultDb : Option String) (q : String) : List TableEntry →
    Option (String × String)
  | [] => none
  | t :: ts =>
    if (t.aliasName.map fun a => eqCi a.data q.data) = some true then
      some (t.dbOr defaultDb, t.tableName.getD "")
    else if (t.tableName.map fun n => eqCi n.data q.data) = some true then
      some (t.dbOr defaultDb, t.tableName.getD "")
    else resolveTableAlias defaultDb q ts

/-- The table an unqualified column is attributed to: the only non-derived table of the block,
    if there is exactly one. -/
def singleTable (defaultDb : Option String) (tables : List TableEntry) : String × String :=
  match tables.filter (!·.isDerived) with
  | [t] => (t.dbOr defaultDb, t.tableName.getD "")
  | _ => ("", "")

/-- `extract_tables`: every non-derived table of the block, its alias dropped when it equals the
    name, `write` when its name equals `write_table` ignoring case. -/
def extractTables (defaultDb : Option String) (writeTable : Option String)
    (tables : List TableEntry) : List TableRef :=
  (tables.filter (!·.isDerived)).map fun t =>
    let table := t.tableName.getD ""
    let aliasName := t.aliasName.getD ""
    { db := t.dbOr defaultDb, table,
      aliasName := if aliasName = table then "" else aliasName,
      type := match writeTable, t.tableName with
        | some w, some n => if eqCi n.data w.data then "write" else "read"
        | _, _ => "read" }

/-! ## 2. The walks

Each walk returns what it appends: the column references, then the tables of the subqueries it
meets. -/

mutual

/-- `walk_item`: the column references of an expression, and the tables of its subqueries. -/
def walkItem (qb : QueryBlock) (defaultDb : Option String) :
    Item → List ColumnRef × List TableRef
  | .field table name _ =>
    let (db, tbl) := match table with
      | some t => (resolveTableAlias defaultDb t qb.tables).getD ("", "")
      | none => singleTable defaultDb qb.tables
    ([{ db := if db = "" then defaultDb.getD "" else db, table := tbl,
        column := name.getD "" }], [])
  | .func _ _ args => walkItems qb defaultDb args
  | .cond args => walkItems qb defaultDb args
  | .sum args => walkItems qb defaultDb args
  | .subselect (some u) => processSubquery defaultDb u
  | .subselect none => ([], [])
  | .row items => walkItems qb defaultDb items
  | .ref target => walkOpt qb defaultDb target
  | .other => ([], [])
termination_by structural i => i

def walkItems (qb : QueryBlock) (defaultDb : Option String) :
    List Item → List ColumnRef × List TableRef
  | [] => ([], [])
  | i :: is =>
    let a := walkItem qb defaultDb i
    let b := walkItems qb defaultDb is
    (a.1 ++ b.1, a.2 ++ b.2)
termination_by structural l => l

def walkOpt (qb : QueryBlock) (defaultDb : Option String) :
    Option Item → List ColumnRef × List TableRef
  | some i => walkItem qb defaultDb i
  | none => ([], [])
termination_by structural o => o

/-- The select list of a block, hidden items skipped. -/
def walkFields (qb : QueryBlock) (defaultDb : Option String) :
    List SelectItem → List ColumnRef × List TableRef
  | [] => ([], [])
  | .mk hidden i :: fs =>
    let a := if hidden then ([], []) else walkItem qb defaultDb i
    let b := walkFields qb defaultDb fs
    (a.1 ++ b.1, a.2 ++ b.2)
termination_by structural l => l

/-- The `JOIN ... ON` conditions of a block's tables. -/
def walkJoins (qb : QueryBlock) (defaultDb : Option String) :
    List TableEntry → List ColumnRef × List TableRef
  | [] => ([], [])
  | .mk _ _ _ _ j :: ts =>
    let a := walkOpt qb defaultDb j
    let b := walkJoins qb defaultDb ts
    (a.1 ++ b.1, a.2 ++ b.2)
termination_by structural l => l

/-- `process_subquery`: every block of a subquery's query expression. -/
def processSubquery (defaultDb : Option String) : QueryExpr → List ColumnRef × List TableRef
  | .mk blocks => processSubBlocks defaultDb blocks
termination_by structural u => u

def processSubBlocks (defaultDb : Option String) :
    List QueryBlock → List ColumnRef × List TableRef
  | [] => ([], [])
  | b :: bs =>
    let a := processSubBlock defaultDb b
    let c := processSubBlocks defaultDb bs
    (a.1 ++ c.1, a.2 ++ c.2)
termination_by structural l => l

/-- One block of a subquery: its tables, then `WHERE`, the select list, the `JOIN` conditions,
    `GROUP BY`, `ORDER BY` and `HAVING`, all into one column list. -/
def processSubBlock (defaultDb : Option String) : QueryBlock → List ColumnRef × List TableRef
  | qb@(.mk tables fields whereCond having groupBy orderBy _ _ _) =>
    let w := walkOpt qb defaultDb whereCond
    let s := walkFields qb defaultDb fields
    let j := walkJoins qb defaultDb tables
    let g := walkItems qb defaultDb groupBy
    let o := walkItems qb defaultDb orderBy
    let h := walkOpt qb defaultDb having
    (w.1 ++ s.1 ++ j.1 ++ g.1 ++ o.1 ++ h.1,
      extractTables defaultDb none tables ++ w.2 ++ s.2 ++ j.2 ++ g.2 ++ o.2 ++ h.2)
termination_by structural b => b

end

/-! ## 3. `SELECT *` and the top-level blocks -/

/-- `expand_star_columns`: the column names of a table, from the audit connection (opened if
    needed); none when the connection or the query fails. -/
def expandStarColumns (remote : Remote) (ctx : InceptionContext) (db table : String) :
    InceptionContext × List String :=
  let r := getRemoteConn remote ctx
  if r.2 then
    let q := r.1.query remote (.getTableColumns db table)
    match q.2 with
    | .ok res => (q.1, res.rows.filterMap (·.col 0))
    | .error _ => (q.1, [])
  else (r.1, [])

/-- What `process_query_block` accumulates: the context, the tables and the column map. -/
abbrev TreeAcc := InceptionContext × List TableRef × ColumnMap

section TopLevel

variable (remote : Remote) (defaultDb : Option String) (qb : QueryBlock)

/-- A `*` reference for one table, with its expansion. -/
def starRef (acc : TreeAcc) (db table : String) : TreeAcc :=
  let e := expandStarColumns remote acc.1 db table
  (e.1, acc.2.1, ColumnMap.push "select" [{ db, table, column := "*", expanded := e.2 }] acc.2.2)

/-- One entry of a top-level select list: `t.*` and `*` are expanded, anything else is walked. -/
def selectItem (acc : TreeAcc) : SelectItem → TreeAcc
  | .mk true _ => acc
  | .mk false (.field (some t) _ true) =>
    let (db, table) := (resolveTableAlias defaultDb t qb.tables).getD ("", "")
    starRef remote acc (if db = "" then defaultDb.getD "" else db) table
  | .mk false (.field none _ true) =>
    (qb.tables.filter (!·.isDerived)).foldl
      (fun acc t => starRef remote acc (t.dbOr defaultDb) (t.tableName.getD "")) acc
  | .mk false i =>
    let w := walkItem qb defaultDb i
    (acc.1, acc.2.1 ++ w.2, ColumnMap.push "select" w.1 acc.2.2)

/-- Walk a clause into the entry `key` of the map, its subquery tables into the table list. -/
def walkInto (key : String) (w : List ColumnRef × List TableRef) (acc : TreeAcc) : TreeAcc :=
  (acc.1, acc.2.1 ++ w.2, ColumnMap.push key w.1 acc.2.2)

/-- `process_query_block`: the tables, then the select list, `WHERE`, `JOIN`, `GROUP BY`,
    `ORDER BY` and `HAVING`, each into its own entry. -/
def processQueryBlock (acc : TreeAcc) : TreeAcc :=
  let acc := (acc.1, acc.2.1 ++ extractTables defaultDb none qb.tables,
    ColumnMap.modify "select" id acc.2.2)
  let acc := qb.fields.foldl (selectItem remote defaultDb qb) acc
  let acc := match qb.whereCond with
    | some w => walkInto "where" (walkItem qb defaultDb w) acc
    | none => acc
  let acc := walkInto "join" (walkJoins qb defaultDb qb.tables) acc
  let acc := if qb.groupBy.isEmpty then acc
    else walkInto "group_by" (walkItems qb defaultDb qb.groupBy) acc
  let acc := if qb.orderBy.isEmpty then acc
    else walkInto "order_by" (walkItems qb defaultDb qb.orderBy) acc
  match qb.having with
  | some h => walkInto "having" (walkItem qb defaultDb h) acc
  | none => acc

end TopLevel

/-! ## 4. JSON -/

/-- The two lowercase hex digits of a byte below `0x20`. -/
def hexDigit (n : Nat) : Char := if n < 10 then Char.ofNat (48 + n) else Char.ofNat (87 + n)

/-- `json_escape` of one character: the five named escapes, `\u00XX` for the other control
    characters, the character itself otherwise (a multi-byte UTF-8 character's bytes are all
    `≥ 0x80`, so the byte loop copies them). -/
def jsonEscapeChar : Char → List Char
  | '"' => ['\\', '"']
  | '\\' => ['\\', '\\']
  | '\n' => ['\\', 'n']
  | '\r' => ['\\', 'r']
  | '\t' => ['\\', 't']
  | c => if c.toNat < 0x20 then ['\\', 'u', '0', '0', hexDigit (c.toNat / 16), hexDigit (c.toNat % 16)]
    else [c]

/-- `json_escape`. -/
def jsonEscape (s : String) : String := ⟨s.data.flatMap jsonEscapeChar⟩

/-- `json_str`. -/
def jsonStr (s : String) : String := "\"" ++ jsonEscape s ++ "\""

/-- The elements of a JSON array or object, comma-separated. -/
def commaJoin : List String → String
  | [] => ""
  | [s] => s
  | s :: ss => s ++ "," ++ commaJoin ss

/-- `column_ref_to_json`. -/
def columnRefToJson (c : ColumnRef) : String :=
  "\x7b\"db\":" ++ jsonStr c.db ++ ",\"table\":" ++ jsonStr c.table ++ ",\"column\":" ++
    jsonStr c.column ++
    (if c.expanded = [] then "" else ",\"expanded\":[" ++ commaJoin (c.expanded.map jsonStr) ++ "]") ++
    "\x7d"

/-- `table_ref_to_json`. -/
def tableRefToJson (t : TableRef) : String :=
  "\x7b\"db\":" ++ jsonStr t.db ++ ",\"table\":" ++ jsonStr t.table ++ ",\"alias\":" ++
    jsonStr t.aliasName ++ ",\"type\":" ++ jsonStr t.type ++ "\x7d"

/-- `build_json`. -/
def buildJson (sqlType : String) (tables : List TableRef) (columns : ColumnMap) : String :=
  "\x7b\"sql_type\":" ++ jsonStr sqlType ++ ",\"tables\":[" ++
    commaJoin (tables.map tableRefToJson) ++ "],\"columns\":\x7b" ++
    commaJoin (columns.map fun (k, v) => jsonStr k ++ ":[" ++ commaJoin (v.map columnRefToJson) ++ "]") ++
    "\x7d\x7d"

/-! ## 5. The statement handlers -/

/-- `sql_command_name`. -/
def sqlCommandName : SqlCommand → String
  | .select => "SELECT"
  | .insert => "INSERT"
  | .insertSelect => "INSERT_SELECT"
  | .replace => "REPLACE"
  | .replaceSelect => "REPLACE_SELECT"
  | .update | .updateMulti => "UPDATE"
  | .delete | .deleteMulti => "DELETE"
  | .createTable => "CREATE_TABLE"
  | .alterTable => "ALTER_TABLE"
  | .dropTable => "DROP_TABLE"
  | .truncate => "TRUNCATE"
  | .createIndex => "CREATE_INDEX"
  | .dropIndex => "DROP_INDEX"
  | .createDb => "CREATE_DATABASE"
  | .dropDb => "DROP_DATABASE"
  | .createView => "CREATE_VIEW"
  | .dropView => "DROP_VIEW"
  | _ => "OTHER"

section Handlers

variable (remote : Remote) (defaultDb : Option String) (stmt : Stmt)

/-- `handle_select`: every block of `lex->unit`, the context threaded through. -/
def handleSelect (ctx : InceptionContext) : InceptionContext × String :=
  let blocks := (stmt.unit.map QueryExpr.blocks).getD []
  let acc := blocks.foldl (fun acc qb => processQueryBlock remote defaultDb qb acc) (ctx, [], [])
  (acc.1, buildJson "SELECT" acc.2.1 acc.2.2)

/-- The `INSERT ... SELECT` part of `handle_insert` for one block: its tables but the target,
    and its select list, `WHERE` and `JOIN` columns (their subquery tables dropped). -/
def insertSelectBlock (target : Option TableEntry) (acc : List TableRef × ColumnMap)
    (qb : QueryBlock) : List TableRef × ColumnMap :=
  let isTarget (t : TableEntry) : Bool := match t.tableName, target.bind TableEntry.tableName with
    | some n, some m => eqCi n.data m.data
    | _, _ => false
  let tables := (qb.tables.filter fun t => !t.isDerived && !isTarget t).map fun t =>
    { db := t.dbOr defaultDb, table := t.tableName.getD "", type := "read",
      aliasName := match t.aliasName, t.tableName with
        | some a, some n => if eqCi a.data n.data then "" else a
        | _, _ => "" : TableRef }
  let cols := ColumnMap.push "select" (walkFields qb defaultDb qb.fields).1 acc.2
  let cols := match qb.whereCond with
    | some w => ColumnMap.push "where" (walkItem qb defaultDb w).1 cols
    | none => cols
  let cols := qb.tables.foldl (fun cols t => match t.joinCond with
    | some j => ColumnMap.push "join" (walkItem qb defaultDb j).1 cols
    | none => cols) cols
  (acc.1 ++ tables, cols)

/-- `handle_insert` (also `REPLACE`). -/
def handleInsert : String :=
  let isReplace := stmt.command = .replace || stmt.command = .replaceSelect
  let target := stmt.insertTableLeaf <|> stmt.queryTable
  let tables : List TableRef := match target with
    | some t => [{ db := t.dbOr defaultDb, table := t.tableName.getD "", type := "write" }]
    | none => []
  let cols : ColumnMap := match stmt.insertCmd with
    | some (fields, _) =>
      fields.foldl
        (fun cols i => ColumnMap.push "insert_columns" (walkItem stmt.queryBlock defaultDb i).1 cols)
        (ColumnMap.modify "insert_columns" id [])
    | none => []
  let isSelect := stmt.command = .insertSelect || stmt.command = .replaceSelect
  let acc := if isSelect then
      ((stmt.unit.map QueryExpr.blocks).getD []).foldl (insertSelectBlock defaultDb target)
        (tables, cols)
    else (tables, cols)
  buildJson (if isReplace then "REPLACE" else "INSERT") acc.1 acc.2

/-- The first table's name: the write target of `handle_update` and `handle_delete`. -/
def writeTable : Option String := stmt.queryTable.bind TableEntry.tableName

/-- The `WHERE` and `JOIN` part shared by `handle_update` and `handle_delete`. -/
def whereAndJoins (acc : List TableRef × ColumnMap) : List TableRef × ColumnMap :=
  let qb := stmt.queryBlock
  let acc := match qb.whereCond with
    | some w =>
      let r := walkItem qb defaultDb w
      (acc.1 ++ r.2, ColumnMap.push "where" r.1 acc.2)
    | none => acc
  let r := walkJoins qb defaultDb qb.tables
  (acc.1 ++ r.2, ColumnMap.push "join" r.1 acc.2)

/-- `handle_update`: the tables (the first one written), the `SET` targets and values, `WHERE`
    and `JOIN`. -/
def handleUpdate : String :=
  let qb := stmt.queryBlock
  let tables := extractTables defaultDb (writeTable stmt) qb.tables
  let cols := ColumnMap.push "set" (walkFields qb defaultDb qb.fields).1 []
  let cols := match stmt.updateValues with
    | some vals => ColumnMap.push "set_values" (walkItems qb defaultDb vals).1 cols
    | none => cols
  let acc := whereAndJoins defaultDb stmt (tables, cols)
  buildJson "UPDATE" acc.1 acc.2

/-- `handle_delete`. -/
def handleDelete : String :=
  let acc := whereAndJoins defaultDb stmt
    (extractTables defaultDb (writeTable stmt) stmt.queryBlock.tables, [])
  buildJson "DELETE" acc.1 acc.2

/-- `handle_other`: the statement type and its first table, written. -/
def handleOther : String :=
  let tables : List TableRef := match stmt.queryTable with
    | some t => [{ db := t.dbOr defaultDb, table := t.tableName.getD "", type := "write" }]
    | none => []
  buildJson (sqlCommandName stmt.command) tables []

/-- `extract_query_tree`: dispatch on the command; only `SELECT` touches the context. -/
def extractQueryTree (ctx : InceptionContext) : InceptionContext × String :=
  match stmt.command with
  | .select => handleSelect remote defaultDb stmt ctx
  | .insert | .insertSelect | .replace | .replaceSelect => (ctx, handleInsert defaultDb stmt)
  | .update | .updateMulti => (ctx, handleUpdate defaultDb stmt)
  | .delete | .deleteMulti => (ctx, handleDelete defaultDb stmt)
  | _ => (ctx, handleOther defaultDb stmt)

end Handlers

/-! ## 6. What the extractor sends

Only the `SELECT *` expansions reach the remote, each with the `information_schema` probe for a
table's columns: the context keeps everything but its connection, and no query of a test `F`
that spares the probes joins the log. -/

section Sends

variable (F : Forbidden) (remote : Remote) (defaultDb : Option String)

@[simp] theorem walkInto_fst (key : String) (w : List ColumnRef × List TableRef) (acc : TreeAcc) :
    (walkInto key w acc).1 = acc.1 := rfl

theorem expandStarColumns_frame (ctx : InceptionContext) (db table : String) :
    (expandStarColumns remote ctx db table).1.sansConn = ctx.sansConn ∧
      (expandStarColumns remote ctx db table).1.auditLog.filter F.bad =
        ctx.auditLog.filter F.bad := by
  have hq := fun c : InceptionContext =>
    c.query_auditLog_filter remote F (.getTableColumns db table) (F.probe_ok _ rfl)
  unfold expandStarColumns; dsimp only
  split
  · split <;> simp [hq]
  · simp

theorem selectItem_frame (qb : QueryBlock) (acc : TreeAcc) (i : SelectItem) :
    (selectItem remote defaultDb qb acc i).1.sansConn = acc.1.sansConn ∧
      (selectItem remote defaultDb qb acc i).1.auditLog.filter F.bad =
        acc.1.auditLog.filter F.bad := by
  have hstar (acc : TreeAcc) (db table : String) := expandStarColumns_frame F remote acc.1 db table
  unfold selectItem
  split
  · simp
  · split; exact hstar ..
  · exact foldl_frame F Prod.fst _ (fun acc _ => hstar ..) _ acc
  · simp

theorem processQueryBlock_frame (qb : QueryBlock) (acc : TreeAcc) :
    (processQueryBlock remote defaultDb qb acc).1.sansConn = acc.1.sansConn ∧
      (processQueryBlock remote defaultDb qb acc).1.auditLog.filter F.bad =
        acc.1.auditLog.filter F.bad := by
  have h := foldl_frame F Prod.fst _ (selectItem_frame F remote defaultDb qb) qb.fields
    (acc.1, acc.2.1 ++ extractTables defaultDb none qb.tables, ColumnMap.modify "select" id acc.2.2)
  simp only [processQueryBlock]
  split <;> split <;> split <;> split <;> simpa using h

/-- **The extractor sends only probes**: it changes the context only in its connection, and the
    forbidden queries of the log are those it had. -/
theorem extractQueryTree_frame (stmt : Stmt) (ctx : InceptionContext) :
    (extractQueryTree remote defaultDb stmt ctx).1.sansConn = ctx.sansConn ∧
      (extractQueryTree remote defaultDb stmt ctx).1.auditLog.filter F.bad =
        ctx.auditLog.filter F.bad := by
  unfold extractQueryTree handleSelect
  split
  · exact foldl_frame F Prod.fst _ (fun acc qb => processQueryBlock_frame F remote defaultDb qb acc) _ _
  all_goals exact ⟨rfl, rfl⟩

end Sends

/-! ## 7. Qualified columns

`resolve_table_alias` tests a table's alias and then its real name before it moves on to the next
table, so it attributes a qualified column to the first table that answers to the qualifier either
way, where the spec's rule (`resolveAliasFirst`) matches the aliases of the whole list first.  A
qualifier that is one table's alias and an earlier table's real name goes to the earlier table. -/

/-- Whether a table's alias is `q`, ignoring case. -/
def TableEntry.aliasIs (q : String) (t : TableEntry) : Bool :=
  t.aliasName.any fun a => eqCi a.data q.data

/-- Whether a table's real name is `q`, ignoring case. -/
def TableEntry.nameIs (q : String) (t : TableEntry) : Bool :=
  t.tableName.any fun n => eqCi n.data q.data

/-- The database and table a reference resolved to `t` gets. -/
def TableEntry.resolved (defaultDb : Option String) (t : TableEntry) : String × String :=
  (t.dbOr defaultDb, t.tableName.getD "")

/-- The spec's rule: the aliases of the whole list first, the real names only when no alias
    matches. -/
def resolveAliasFirst (defaultDb : Option String) (q : String) (ts : List TableEntry) :
    Option (String × String) :=
  ((ts.find? (TableEntry.aliasIs q)).orElse fun _ => ts.find? (TableEntry.nameIs q)).map
    (TableEntry.resolved defaultDb)

/-- `a AS x JOIN b AS a`. -/
def aliasClashBlock : QueryBlock :=
  .mk [.mk none (some "a") (some "x") none none, .mk none (some "b") (some "a") none none]
    [] none none [] [] 0 false none

/-- In `SELECT a.c FROM a AS x JOIN b AS a` the column `a.c` is attributed to the table `a`,
    aliased `x`, where the alias `a` names `b`. -/
theorem qualified_column_takes_earlier_name :
    walkItem aliasClashBlock none (.field (some "a") (some "c") false) =
        ([{ db := "", table := "a", column := "c" }], []) ∧
      resolveAliasFirst none "a" aliasClashBlock.tables = some ("", "b") := by
  decide

/-! ## 8. The column map's key order

`std::map` holds one entry per key and iterates them in key order.  `ColumnMap.modify` keeps the
keys strictly ascending for `std::less<std::string>` (`charsLt`), so every column map the
extractor builds from an empty one has one entry per key, in key order. -/

theorem char_lt_of_not_lt {x y : Char} (h1 : ¬ x < y) (h2 : x ≠ y) : y < x := by
  have hne : x.val.toNat ≠ y.val.toNat := fun e => h2 (Char.ext (UInt32.toNat.inj e))
  have hnlt : ¬ x.val.toNat < y.val.toNat := h1
  show y.val.toNat < x.val.toNat
  omega

theorem charsLt_total : ∀ {a b : List Char}, a ≠ b → charsLt a b = false → charsLt b a = true
  | [], [], hne, _ => absurd rfl hne
  | [], _ :: _, _, h => by simp [charsLt] at h
  | _ :: _, [], _, _ => rfl
  | x :: xs, y :: ys, hne, h => by
    simp only [charsLt, Bool.or_eq_false_iff, decide_eq_false_iff_not, Bool.and_eq_false_iff,
      decide_eq_true_eq] at h
    simp only [charsLt, Bool.or_eq_true, decide_eq_true_eq, Bool.and_eq_true]
    by_cases hxy : x = y
    · subst hxy
      have hxs : xs ≠ ys := fun e => hne (e ▸ rfl)
      exact .inr ⟨rfl, charsLt_total hxs (h.2.resolve_left (by simp))⟩
    · exact .inl (char_lt_of_not_lt h.1 hxy)

/-- The map's invariant: its keys strictly ascend. -/
def ColumnMap.Sorted (m : ColumnMap) : Prop :=
  (m.map fun e => e.1.data).Chain' fun a b => charsLt a b = true

/-- The first key after `modify` is the new key or the first key before. -/
theorem ColumnMap.modify_head (key : String) (f : List ColumnRef → List ColumnRef) :
    ∀ m : ColumnMap, ((m.modify key f).map fun e => e.1.data).head? = some key.data ∨
      ((m.modify key f).map fun e => e.1.data).head? = (m.map fun e => e.1.data).head?
  | [] => .inl rfl
  | (k, v) :: rest => by
    unfold ColumnMap.modify
    split_ifs <;> simp

theorem ColumnMap.Sorted.modify (key : String) (f : List ColumnRef → List ColumnRef) :
    ∀ {m : ColumnMap}, m.Sorted → (m.modify key f).Sorted
  | [], _ => List.chain'_singleton _
  | (k, v) :: rest, h => by
    unfold ColumnMap.Sorted at h ⊢
    rw [List.map_cons, List.chain'_cons'] at h
    unfold ColumnMap.modify
    split_ifs with h1 h2
    · rw [List.map_cons, List.chain'_cons']
      exact h
    · rw [List.map_cons, List.map_cons, List.chain'_cons, List.chain'_cons']
      exact ⟨h2, h⟩
    · have hk : charsLt k.data key.data = true :=
        charsLt_total (fun e => h1 (String.ext e)) (by simpa using h2)
      rw [List.map_cons, List.chain'_cons']
      refine ⟨fun y hy => ?_, ColumnMap.Sorted.modify key f h.2⟩
      rcases ColumnMap.modify_head key f rest with e | e
      · rw [e, Option.mem_some_iff] at hy
        exact hy ▸ hk
      · exact h.1 y (e ▸ hy)

theorem ColumnMap.Sorted.push (key : String) (refs : List ColumnRef) {m : ColumnMap}
    (h : m.Sorted) : (m.push key refs).Sorted :=
  h.modify key _

end Inception
