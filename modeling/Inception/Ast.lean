import Inception.Context

/-!
# Ast — what the MySQL parser hands the module

The module reads the parser's `LEX` for each statement: the command, the table lists, the query
blocks with their expression trees, and for DDL the `Alter_info` and `HA_CREATE_INFO`.  The parser
is the server's, so its output is an input of the model: `Stmt` holds exactly the parts of `LEX`
that the interceptor, the audit and the query-tree extractor read.  A `const char*` that may be
null is an `Option String`.
-/

namespace Inception

/-- `enum_field_types`. -/
inductive FieldType
  | decimal | tiny | short | long | float | double | null | timestamp | longlong | int24
  | date | time | datetime | year | newdate | varchar | bit | timestamp2 | datetime2 | time2
  | typedArray | bool | json | newdecimal | enum | set | tinyBlob | mediumBlob | longBlob | blob
  | varString | string | geometry
  deriving DecidableEq, Repr

/-- A character set: `csname` and `mbmaxlen`. -/
structure Charset where
  csname : String
  mbmaxlen : Nat
  deriving DecidableEq, Repr

/-- `Create_field`: one column definition of a `CREATE TABLE` or `ALTER TABLE`. -/
structure ColumnDef where
  fieldName : String
  sqlType : FieldType := .long
  isNullable : Bool := true
  /-- `auto_flags & Field::NEXT_NUMBER` (`AUTO_INCREMENT`). -/
  nextNumber : Bool := false
  /-- `auto_flags & Field::DEFAULT_NOW`. -/
  defaultNow : Bool := false
  /-- `auto_flags & Field::GENERATED_FROM_EXPRESSION`. -/
  generatedFromExpression : Bool := false
  /-- `constant_default != nullptr`. -/
  constantDefault : Bool := false
  /-- `m_default_val_expr != nullptr`. -/
  defaultValExpr : Bool := false
  comment : String := ""
  /-- `flags & UNSIGNED_FLAG`. -/
  unsignedFlag : Bool := false
  charset : Option Charset := none
  isExplicitCollation : Bool := false
  /-- `max_display_width_in_codepoints()`. -/
  displayWidth : Nat := 0
  deriving DecidableEq, Repr

/-- `keytype`. -/
inductive KeyType
  | primary | unique | multiple | fulltext | spatial | foreign
  deriving DecidableEq, Repr

/-- `Key_part_spec`: a column name (none for a functional key part) and a prefix length. -/
structure KeyPart where
  fieldName : Option String
  prefixLength : Nat := 0
  deriving DecidableEq, Repr

/-- `Key_spec`. -/
structure KeySpec where
  name : Option String
  keyType : KeyType := .multiple
  columns : List KeyPart := []
  deriving DecidableEq, Repr

/-- `Alter_drop::drop_type`. -/
inductive AlterDropKind
  | key | column | foreignKey | checkConstraint
  deriving DecidableEq, Repr

/-- `Alter_drop`. -/
structure AlterDrop where
  kind : AlterDropKind
  name : String
  deriving DecidableEq, Repr

/-- The `Alter_info::flags` bits the module tests. -/
inductive AlterFlag
  | addColumn | dropColumn | changeColumn | changeColumnDefault | columnOrder | addIndex
  | dropIndex | renameIndex | indexVisibility | rename | order | options | keysOnoff | recreate
  | addPartition | dropPartition | coalescePartition | reorganizePartition | exchangePartition
  | truncatePartition | removePartitioning | discardTablespace | importTablespace
  | columnVisibility
  deriving DecidableEq, Repr

/-- `Alter_info`: the flags set, the column definitions (`create_list`), the keys and the drops. -/
structure AlterInfo where
  flags : List AlterFlag := []
  createList : List ColumnDef := []
  keyList : List KeySpec := []
  dropList : List AlterDrop := []
  deriving DecidableEq, Repr

/-- `alter_info->flags & f`. -/
def AlterInfo.has (a : AlterInfo) (f : AlterFlag) : Bool := f ∈ a.flags

/-- `HA_CREATE_INFO`: the table comment, the engine (`none` when not given), the default
    character set, `AUTO_INCREMENT`, and whether `ENGINE=` was used. -/
structure CreateInfo where
  comment : String := ""
  engine : Option String := none
  defaultTableCharset : Option String := none
  autoIncrementValue : Nat := 0
  usedEngine : Bool := false
  deriving DecidableEq, Repr

/-- The name of InnoDB's handlerton. -/
def innodbName : String := "InnoDB"

mutual

/-- The expression tree (`Item`), as far as the module walks it. -/
inductive Item
  /-- `Item_field`: its qualifier, its name, and whether it is `*` or `t.*`. -/
  | field (table : Option String) (name : Option String) (asterisk : Bool)
  /-- `Item_func`: its name, whether it is `IN`, and its arguments. -/
  | func (name : String) (isIn : Bool) (args : List Item)
  /-- `Item_cond` (`AND`, `OR`). -/
  | cond (args : List Item)
  /-- `Item_sum`. -/
  | sum (args : List Item)
  /-- `Item_subselect` and its query expression. -/
  | subselect (unit : Option QueryExpr)
  /-- `Item_row`. -/
  | row (items : List Item)
  /-- `Item_ref` and what it refers to. -/
  | ref (target : Option Item)
  /-- Literals, parameters and the rest. -/
  | other

/-- An entry of a select list, with its `hidden` flag. -/
inductive SelectItem
  | mk (hidden : Bool) (item : Item)

/-- `TABLE_LIST`: the database, table name and alias, the derived table's query expression (for
    a subquery in `FROM`), and the join condition. -/
inductive TableEntry
  | mk (db : Option String) (tableName : Option String) (aliasName : Option String)
      (derived : Option QueryExpr) (joinCond : Option Item)

/-- `Query_block`: its table list, select list, `WHERE`, `HAVING`, `GROUP BY` and `ORDER BY`
    items, `with_wild`, whether it has a `LIMIT`, and `db` (the target of `USE`). -/
inductive QueryBlock
  | mk (tables : List TableEntry) (fields : List SelectItem) (whereCond : Option Item)
      (having : Option Item) (groupBy : List Item) (orderBy : List Item) (withWild : Nat)
      (hasLimit : Bool) (db : Option String)

/-- `Query_expression`: its query blocks (the `UNION` branches), in order. -/
inductive QueryExpr
  | mk (blocks : List QueryBlock)

end

def SelectItem.hidden : SelectItem → Bool | mk h _ => h
def SelectItem.item : SelectItem → Item | mk _ i => i

namespace TableEntry

def db : TableEntry → Option String | mk d .. => d
def tableName : TableEntry → Option String | mk _ t .. => t
def aliasName : TableEntry → Option String | mk _ _ a .. => a
def derived : TableEntry → Option QueryExpr | mk _ _ _ d _ => d
def joinCond : TableEntry → Option Item | mk _ _ _ _ j => j

/-- `is_derived()`. -/
def isDerived (t : TableEntry) : Bool := t.derived.isSome

/-- A base table with the given database and name. -/
def base (db : Option String) (name : String) : TableEntry := mk db (some name) none none none

end TableEntry

namespace QueryBlock

def tables : QueryBlock → List TableEntry | mk t .. => t
def fields : QueryBlock → List SelectItem | mk _ f .. => f
def whereCond : QueryBlock → Option Item | mk _ _ w .. => w
def having : QueryBlock → Option Item | mk _ _ _ h .. => h
def groupBy : QueryBlock → List Item | mk _ _ _ _ g .. => g
def orderBy : QueryBlock → List Item | mk _ _ _ _ _ o .. => o
def withWild : QueryBlock → Nat | mk _ _ _ _ _ _ w .. => w
def hasLimit : QueryBlock → Bool | mk _ _ _ _ _ _ _ l _ => l
def db : QueryBlock → Option String | mk _ _ _ _ _ _ _ _ d => d

/-- The empty query block. -/
def empty : QueryBlock := mk [] [] none none [] [] 0 false none

end QueryBlock

def QueryExpr.blocks : QueryExpr → List QueryBlock | mk b => b

/-- `LEX`, as far as the module reads it. -/
structure Stmt where
  command : SqlCommand
  /-- `lex->query_block`. -/
  queryBlock : QueryBlock := .empty
  /-- `lex->unit`: the query blocks of a `SELECT` or of the `SELECT` part of an `INSERT`. -/
  unit : Option QueryExpr := none
  /-- `lex->query_tables`, in order (the first is the statement's target). -/
  queryTables : List TableEntry := []
  /-- `lex->insert_table_leaf`. -/
  insertTableLeaf : Option TableEntry := none
  /-- `lex->name`: the database of `CREATE`/`DROP`/`ALTER DATABASE`. -/
  name : Option String := none
  alterInfo : AlterInfo := {}
  createInfo : CreateInfo := {}
  /-- `lex->part_info != nullptr`. -/
  partitioned : Bool := false
  /-- The `Sql_cmd_insert_base` of an `INSERT`/`REPLACE`: its column list and the lengths of its
      value rows. -/
  insertCmd : Option (List Item × List Nat) := none
  /-- `Sql_cmd_update::update_value_list`. -/
  updateValues : Option (List Item) := none
  /-- The SHA1 of the statement's digest text as 40 hex characters, when the digest is not
      empty (`compute_sqlsha1`). -/
  sqlsha1 : Option String := none

/-- `lex->query_tables` as the handlers read it: the first entry, if any. -/
def Stmt.queryTable (stmt : Stmt) : Option TableEntry := stmt.queryTables.head?

end Inception
