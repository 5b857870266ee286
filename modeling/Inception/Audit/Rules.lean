import Inception.Ast
import Inception.Remote
import Inception.Sysvars

/-!
# Rules — the rule helpers of the audit

The helpers of `inception_audit.cc` that the handlers share: the batch-schema lookups, the
identifier test, `check_column` (the column rules of `CREATE TABLE` and `ALTER TABLE`), the type
ranks, `check_index` (which may ask the remote for an existing column's type), the
must-have-columns check with its small parser, the `IN`-list check, and the two classifiers of an
`ALTER TABLE`.  Almost every rule has one shape: a knob of `0` turns it off, and otherwise the knob
is the level `report` raises the record to (`SqlCacheNode.rule`).

Names from the parser hold no NUL character (MySQL rejects U+0000 in identifiers), so the C string
functions see whole names; `strlen` is `String.utf8ByteSize`.
-/

namespace Inception

/-- What the audit reads besides the statement and its state: the rule knobs, the remote target,
    the session's current database (`thd->db()`), and MySQL's reserved-word table (`is_keyword`,
    which belongs to the server's lexer). -/
structure AuditEnv where
  sv : Sysvars
  remote : Remote
  thdDb : Option String
  isKeyword : String → Bool

/-- The shape of a configurable rule: with its knob set and its condition true, `report` at the
    knob's level. -/
def SqlCacheNode.rule (node : SqlCacheNode) (knob : Nat) (cond : Bool) (msg : String) :
    SqlCacheNode :=
  if knob > 0 ∧ cond then node.report knob msg else node

/-! ## 1. The batch schema -/

/-- `batch_table_key`: `"db.table"`. -/
def batchTableKey (db table : String) : String := db ++ "." ++ table

/-- A name lowercased as the batch tracking stores it (`tolower` of the C locale). -/
def lowerName (s : String) : String := ⟨s.data.map Char.toLower⟩

/-- `batch_tables.count(key) > 0`. -/
def batchHas (ctx : InceptionContext) (db table : String) : Bool :=
  (ctx.batch.batchTables (batchTableKey db table)).isSome

/-- `batch_column_exists`. -/
def batchColumnExists (ctx : InceptionContext) (db table col : String) : Bool :=
  match ctx.batch.batchTables (batchTableKey db table) with
  | some cols => lowerName col ∈ cols
  | none => false

/-- `batch_tables[key] = cols`. -/
def BatchCache.setTable (b : BatchCache) (key : String) (cols : Finset String) : BatchCache :=
  { b with batchTables := Function.update b.batchTables key (some cols) }

/-! ## 2. Identifiers and column types -/

/-- `c >= 'a' && c <= 'z'`. -/
def isLowerAlpha (c : Char) : Bool := 'a' ≤ c && c ≤ 'z'

/-- `is_valid_identifier`: `[a-z_][a-z0-9_]*`, not empty. -/
def isValidIdentifier (name : String) : Bool :=
  match name.data with
  | [] => false
  | c :: cs => (isLowerAlpha c || c = '_') && cs.all fun c => isLowerAlpha c || c.isDigit || c = '_'

/-- `is_blob_type`: the four BLOB/TEXT types. -/
def isBlobType : FieldType → Bool
  | .tinyBlob | .blob | .mediumBlob | .longBlob => true
  | _ => false

/-- The types the nullable and default rules skip: JSON and the BLOB/TEXT types. -/
def jsonOrBlob (t : FieldType) : Bool := t = .json || isBlobType t

/-- `is_blob_type_name`: a remote `DATA_TYPE` that is BLOB or TEXT. -/
def isBlobTypeName (name : String) : Bool :=
  ["tinyblob", "blob", "mediumblob", "longblob", "tinytext", "text", "mediumtext",
    "longtext"].any fun k => eqCi name.data k.data

/-- `int_type_rank`: 1 (`TINYINT`) to 5 (`BIGINT`), 0 for a non-integer type. -/
def intTypeRank : FieldType → Nat
  | .tiny => 1
  | .short => 2
  | .int24 => 3
  | .long => 4
  | .longlong => 5
  | _ => 0

/-- `int_type_rank_from_name`: the same rank for a remote `DATA_TYPE`. -/
def intTypeRankFromName (name : String) : Nat :=
  if eqCi name.data "tinyint".data then 1
  else if eqCi name.data "smallint".data then 2
  else if eqCi name.data "mediumint".data then 3
  else if eqCi name.data "int".data then 4
  else if eqCi name.data "bigint".data then 5
  else 0

/-- `map_type_name`: a type name of the must-have-columns setting; `null` when unrecognised. -/
def mapTypeName (s : List Char) : FieldType :=
  let eq (k : String) := eqCi s k.data
  if eq "tinyint" then .tiny
  else if eq "smallint" then .short
  else if eq "mediumint" then .int24
  else if eq "int" || eq "integer" then .long
  else if eq "bigint" then .longlong
  else if eq "float" then .float
  else if eq "double" then .double
  else if eq "decimal" then .newdecimal
  else if eq "char" then .string
  else if eq "varchar" then .varchar
  else if eq "tinytext" then .tinyBlob
  else if eq "text" then .blob
  else if eq "mediumtext" then .mediumBlob
  else if eq "longtext" then .longBlob
  else if eq "blob" then .blob
  else if eq "date" then .date
  else if eq "time" then .time2
  else if eq "datetime" then .datetime2
  else if eq "timestamp" then .timestamp2
  else if eq "json" then .json
  else .null

/-- `type_display_name`. -/
def typeDisplayName : FieldType → String
  | .tiny => "TINYINT"
  | .short => "SMALLINT"
  | .int24 => "MEDIUMINT"
  | .long => "INT"
  | .longlong => "BIGINT"
  | .float => "FLOAT"
  | .double => "DOUBLE"
  | .newdecimal => "DECIMAL"
  | .string => "CHAR"
  | .varchar => "VARCHAR"
  | .tinyBlob => "TINYTEXT"
  | .blob => "TEXT"
  | .mediumBlob => "MEDIUMTEXT"
  | .longBlob => "LONGTEXT"
  | .date | .newdate => "DATE"
  | .time | .time2 => "TIME"
  | .datetime | .datetime2 => "DATETIME"
  | .timestamp | .timestamp2 => "TIMESTAMP"
  | .json => "JSON"
  | _ => "UNKNOWN"

/-- `type_compatible`: equal, or the old and new encodings of one temporal type. -/
def typeCompatible (a b : FieldType) : Bool :=
  a = b ||
    ((a = .datetime || a = .datetime2) && (b = .datetime || b = .datetime2)) ||
    ((a = .timestamp || a = .timestamp2) && (b = .timestamp || b = .timestamp2)) ||
    ((a = .time || a = .time2) && (b = .time || b = .time2)) ||
    ((a = .date || a = .newdate) && (b = .date || b = .newdate))

/-! ## 3. `check_column` -/

/-- `check_column`: the column rules, in the source's order. -/
def checkColumn (env : AuditEnv) (ctx : InceptionContext) (f : ColumnDef) (node : SqlCacheNode) :
    SqlCacheNode :=
  let sv := env.sv
  let c := "Column '" ++ f.fieldName ++ "'"
  let len := f.fieldName.utf8ByteSize
  let node := if sv.checkMaxColumnNameLength > 0 ∧ len > sv.checkMaxColumnNameLength then
      node.appendWarning (c ++ " name length " ++ toString len ++ " exceeds max " ++
        toString sv.checkMaxColumnNameLength ++ ".")
    else node
  let node := node.rule sv.checkIdentifier (!isValidIdentifier f.fieldName)
    (c ++ " name should be lowercase letters, digits and underscores.")
  let node := node.rule sv.checkColumnComment (f.comment = "") (c ++ " must have a comment.")
  let node := node.rule sv.checkNullable (f.isNullable && !jsonOrBlob f.sqlType)
    (c ++ " is nullable; consider NOT NULL with a default.")
  let noDefault := !f.nextNumber && !f.constantDefault && !f.defaultNow && !jsonOrBlob f.sqlType
  let node := node.rule sv.checkNotNullDefault (!f.isNullable && noDefault)
    (c ++ " is NOT NULL but has no DEFAULT value.")
  let explicitDefault :=
    f.constantDefault || f.defaultNow || f.generatedFromExpression || f.defaultValExpr
  let node := node.rule sv.checkJsonBlobTextDefault
    (jsonOrBlob f.sqlType && explicitDefault && (ctx.dbType = .mysql || ctx.dbType = .tidb))
    (c ++ ": explicit DEFAULT on JSON/BLOB/TEXT is not allowed.")
  let node := node.rule sv.checkBlobType (isBlobType f.sqlType) (c ++ " uses BLOB/TEXT type.")
  let node := node.rule sv.checkEnumType (f.sqlType = .enum) (c ++ " uses ENUM type, not recommended.")
  let node := node.rule sv.checkSetType (f.sqlType = .set) (c ++ " uses SET type, not recommended.")
  let node := node.rule sv.checkBitType (f.sqlType = .bit) (c ++ " uses BIT type, not recommended.")
  let node :=
    if f.sqlType = .json then
      if ctx.dbType = .mysql ∧ ctx.dbVersionMajor = 5 ∧ ctx.dbVersionMinor < 7 then
        node.appendError (c ++ ": JSON type is not supported in MySQL " ++
          toString ctx.dbVersionMajor ++ "." ++ toString ctx.dbVersionMinor ++ ".")
      else node.rule sv.checkJsonType true (c ++ " uses JSON type.")
    else node
  let node :=
    if sv.checkMaxCharLength > 0 ∧ f.sqlType = .string ∧ f.displayWidth > sv.checkMaxCharLength then
      node.appendWarning (c ++ " CHAR(" ++ toString f.displayWidth ++ ") exceeds max " ++
        toString sv.checkMaxCharLength ++ "; consider VARCHAR.")
    else node
  let a := "Auto-increment column '" ++ f.fieldName ++ "'"
  let node :=
    if f.nextNumber then
      let node := node.rule sv.checkAutoincrement (!f.unsignedFlag) (a ++ " should be UNSIGNED.")
      let node := node.rule sv.checkAutoincrement (!(f.sqlType = .long || f.sqlType = .longlong))
        (a ++ " should be INT or BIGINT.")
      node.rule sv.checkAutoincrementName (!eqCi f.fieldName.data "id".data)
        (a ++ " should be named 'id'.")
    else node
  let node := node.rule sv.checkTimestampDefault
    ((f.sqlType = .timestamp || f.sqlType = .timestamp2) && !f.constantDefault && !f.defaultNow)
    ("TIMESTAMP column '" ++ f.fieldName ++ "' must have a DEFAULT value.")
  let node := node.rule sv.checkColumnCharset
    (f.charset.isSome && !isBlobType f.sqlType && f.isExplicitCollation)
    (c ++ " specifies a character set; use table default instead.")
  let node := node.rule sv.checkColumnDefaultValue noDefault (c ++ " must have a DEFAULT value.")
  node.rule sv.checkIdentifierKeyword (env.isKeyword f.fieldName)
    ("Column name '" ++ f.fieldName ++ "' is a MySQL reserved keyword.")

/-! ## 4. `check_index` -/

/-- The first column of a `create_list` with the given name, ignoring case. -/
def findColumn (cols : List ColumnDef) (name : String) : Option ColumnDef :=
  cols.find? fun f => eqCi f.fieldName.data name.data

/-- The key bytes `check_index` gives a non-string column, by type. -/
def fixedKeyBytes : FieldType → Nat
  | .tiny => 1
  | .short => 2
  | .int24 => 3
  | .long => 4
  | .longlong => 8
  | .float => 4
  | .double => 8
  | .date | .newdate => 3
  | .time | .time2 => 3
  | .datetime | .datetime2 => 8
  | .timestamp | .timestamp2 => 4
  | .bit => 8
  | _ => 8

/-- The key bytes of a column of the statement's own `create_list`: a prefix times `mbmaxlen`
    (a product of two `uint`s, so modulo `2^32`), a string width times `mbmaxlen` (a `size_t`
    product), or the fixed size of the type.  A column with no character set counts 4 bytes a
    character (utf8mb4). -/
def localKeyBytes (f : ColumnDef) (prefixLen : Nat) : Nat :=
  let mbmaxlen := (f.charset.map (·.mbmaxlen)).getD 4
  if prefixLen > 0 then prefixLen * mbmaxlen % 2 ^ 32
  else if f.sqlType = .varchar || f.sqlType = .string || f.sqlType = .varString then
    f.displayWidth * mbmaxlen % 2 ^ 64
  else fixedKeyBytes f.sqlType

/-- The key bytes of an existing remote column: the prefix times 4 (`uint`), else its
    `CHARACTER_MAXIMUM_LENGTH` times 4 when positive, else 0. -/
def remoteKeyBytes (info : RemoteColumnInfo) (prefixLen : Nat) : Nat :=
  if prefixLen > 0 then prefixLen * 4 % 2 ^ 32
  else if info.charMaxLength > 0 then info.charMaxLength.toNat * 4 % 2 ^ 64
  else 0

section CheckIndex

variable (env : AuditEnv) (key : KeySpec) (alterInfo : AlterInfo)
  (probe : Option (String × String))

/-- `key->name.str ? key->name.str : "(unnamed)"`. -/
def KeySpec.displayName (key : KeySpec) : String := key.name.getD "(unnamed)"

/-- One key part of the BLOB/TEXT prefix loop: a column of the statement, or else (with a remote
    to ask, `probe` holding the database and table) a remote column, that is BLOB/TEXT and has no
    prefix length is an error. -/
def blobPrefixPart (st : AuditState) (kp : KeyPart) : AuditState :=
  match kp.fieldName with
  | none => st
  | some col =>
    let msg := "Index '" ++ key.displayName ++ "' on BLOB/TEXT column '" ++ col ++
      "' must specify a prefix length."
    if kp.prefixLength ≠ 0 then st
    else match findColumn alterInfo.createList col with
      | some f => if isBlobType f.sqlType then st.appendError msg else st
      | none => match probe with
        | some (db, table) =>
          let r := st.remoteColumnInfo env.remote db table col
          match r.2 with
          | some info => if isBlobTypeName info.dataType then r.1.appendError msg else r.1
          | none => r.1
        | none => st

/-- One key part of the key-length loop: its bytes, checked against the per-column limit and
    added (as a `size_t`) to the running total. -/
def keyLengthPart (acc : AuditState × Nat) (kp : KeyPart) : AuditState × Nat :=
  match kp.fieldName with
  | none => acc
  | some col =>
    let sv := env.sv
    let r : AuditState × Nat := match findColumn alterInfo.createList col with
      | some f => (acc.1, localKeyBytes f kp.prefixLength)
      | none => match probe with
        | some (db, table) =>
          let r := acc.1.remoteColumnInfo env.remote db table col
          (r.1, match r.2 with
            | some info => remoteKeyBytes info kp.prefixLength
            | none => 0)
        | none => (acc.1, 0)
    let st := if sv.checkIndexColumnMaxBytes > 0 ∧ r.2 > sv.checkIndexColumnMaxBytes then
        r.1.report sv.checkIndexLength ("Index '" ++ key.displayName ++ "' column '" ++ col ++
          "' key length " ++ toString r.2 ++ " bytes exceeds max " ++
          toString sv.checkIndexColumnMaxBytes ++ ".")
      else r.1
    (st, (acc.2 + r.2) % 2 ^ 64)

/-- `check_index`: the part-count limit, the name prefixes, the foreign-key bans, the BLOB/TEXT
    prefix loop and the key-length loop.  `probe` is the remote fallback (`remote && db &&
    table_name`): `none` for `CREATE TABLE` and for a table created in the batch. -/
def checkIndex (st : AuditState) : AuditState :=
  let sv := env.sv
  let node := st.node
  let node := if sv.checkMaxIndexParts > 0 ∧ key.columns.length > sv.checkMaxIndexParts then
      node.appendWarning ("Index '" ++ key.displayName ++ "' has " ++
        toString key.columns.length ++ " columns, exceeds max " ++
        toString sv.checkMaxIndexParts ++ ".")
    else node
  let node := match key.name with
    | some n =>
      if sv.checkIndexPrefix > 0 then
        match key.keyType with
        | .unique => node.rule sv.checkIndexPrefix (!prefixCi "uniq_".data n.data)
            ("Unique index '" ++ n ++ "' should have 'uniq_' prefix.")
        | .multiple => node.rule sv.checkIndexPrefix (!prefixCi "idx_".data n.data)
            ("Index '" ++ n ++ "' should have 'idx_' prefix.")
        | _ => node
      else node
    | none => node
  let node := node.rule sv.checkForeignKey (key.keyType = .foreign) "Foreign keys are not allowed."
  let node := node.rule sv.checkTidbForeignKey (st.ctx.dbType = .tidb && key.keyType = .foreign)
    "TiDB does not support FOREIGN KEY constraints."
  let st := key.columns.foldl (blobPrefixPart env key alterInfo probe) { st with node }
  if sv.checkIndexLength > 0 then
    let r := key.columns.foldl (keyLengthPart env key alterInfo probe) (st, 0)
    if sv.checkIndexTotalMaxBytes > 0 ∧ r.2 > sv.checkIndexTotalMaxBytes then
      r.1.report sv.checkIndexLength ("Index '" ++ key.displayName ++ "' total key length " ++
        toString r.2 ++ " bytes exceeds max " ++ toString sv.checkIndexTotalMaxBytes ++ ".")
    else r.1
  else st

end CheckIndex

/-! ## 5. Must-have columns -/

/-- `' '` or `'\t'`. -/
def isBlankTab (c : Char) : Bool := c = ' ' || c = '\t'

/-- `has_keyword` from one position on, `prev` the character before it: a case-insensitive match
    of `kw` with a blank (or the start) before it and a blank, `;`, NUL or the end after it. -/
def hasKeywordFrom (kw : List Char) : Option Char → List Char → Bool
  | prev, s =>
    (prev.all isBlankTab && prefixCi kw s &&
        match s.drop kw.length with
        | [] => true
        | c :: _ => isBlankTab c || c = ';' || c = '\x00') ||
      match s with
      | [] => false
      | c :: cs => hasKeywordFrom kw (some c) cs

/-- `has_keyword`. -/
def hasKeyword (spec : List Char) (kw : String) : Bool := hasKeywordFrom kw.data none spec

/-- `RequiredColumn`: the name, the type (`null` when not given or not recognised) and the four
    flags. -/
structure RequiredColumn where
  name : String
  sqlType : FieldType
  needUnsigned : Bool
  needNotNull : Bool
  needAutoIncrement : Bool
  needComment : Bool
  deriving DecidableEq, Repr

/-- `parse_required_column`: trim blanks, take the first token as the name (cut to the 127 bytes
    of `char name[128]`; the model cuts at 127 characters, the same for ASCII names), the second
    as the type, and look for the keywords anywhere in the spec. -/
def parseRequiredColumn (spec : List Char) : RequiredColumn :=
  let spec := ((spec.dropWhile isBlankTab).reverse.dropWhile isBlankTab).reverse
  if spec = [] then ⟨"", .null, false, false, false, false⟩
  else
    let nameTok := spec.takeWhile (!isBlankTab ·)
    let rest := (spec.drop nameTok.length).dropWhile isBlankTab
    { name := ⟨nameTok.take 127⟩,
      sqlType := if rest = [] then .null else mapTypeName (rest.takeWhile (!isBlankTab ·)),
      needUnsigned := hasKeyword spec "UNSIGNED",
      needNotNull := hasKeyword spec "NOT NULL",
      needAutoIncrement := hasKeyword spec "AUTO_INCREMENT",
      needComment := hasKeyword spec "COMMENT" }

/-- The characters `check_must_have_columns` skips between specs. -/
def isSpecSep (c : Char) : Bool := c = ' ' || c = '\t' || c = '\n' || c = ';'

/-- The specs of the setting: the `;`-separated pieces, leading separators dropped, empty pieces
    skipped. -/
def mustHaveSpecs (setting : String) : List (List Char) :=
  ((setting.data.splitOn ';').map (·.dropWhile isSpecSep)).filter (· ≠ [])

/-- The text `check_must_have_columns` prints for a missing column: the name and what was
    required. -/
def RequiredColumn.describe (req : RequiredColumn) : String :=
  req.name ++ (if req.sqlType ≠ .null then " " ++ typeDisplayName req.sqlType else "") ++
    (if req.needUnsigned then " UNSIGNED" else "") ++
    (if req.needNotNull then " NOT NULL" else "") ++
    (if req.needAutoIncrement then " AUTO_INCREMENT" else "") ++
    (if req.needComment then " COMMENT" else "")

/-- One required column against the `create_list`. -/
def checkRequiredColumn (knob : Nat) (cols : List ColumnDef) (node : SqlCacheNode)
    (req : RequiredColumn) : SqlCacheNode :=
  if req.name = "" then node
  else match findColumn cols req.name with
    | some f =>
      let r := "Required column '" ++ req.name ++ "' must "
      let node := if req.sqlType ≠ .null ∧ !typeCompatible f.sqlType req.sqlType then
          node.report knob (r ++ "be " ++ typeDisplayName req.sqlType ++ ", but found " ++
            typeDisplayName f.sqlType ++ ".")
        else node
      let node := if req.needUnsigned ∧ !f.unsignedFlag then node.report knob (r ++ "be UNSIGNED.")
        else node
      let node := if req.needNotNull ∧ f.isNullable then node.report knob (r ++ "be NOT NULL.")
        else node
      let node := if req.needAutoIncrement ∧ !f.nextNumber then
          node.report knob (r ++ "be AUTO_INCREMENT.")
        else node
      if req.needComment ∧ f.comment = "" then node.report knob (r ++ "have a COMMENT.") else node
    | none => node.report knob ("Required column is missing: " ++ req.describe ++ ".")

/-- `check_must_have_columns`. -/
def checkMustHaveColumns (sv : Sysvars) (cols : List ColumnDef) (node : SqlCacheNode) :
    SqlCacheNode :=
  ((mustHaveSpecs (sv.mustHaveColumns.getD "")).map parseRequiredColumn).foldl
    (checkRequiredColumn sv.checkMustHaveColumns cols) node

/-! ## 6. Expressions and `ALTER TABLE` -/

mutual

/-- `check_in_clause` below its null and knob test: an `IN` with more than `knob` items warns
    (`arg_count - 1` as a `uint`), and the walk goes down function and condition arguments. -/
def checkInClause (knob : Nat) : Item → SqlCacheNode → SqlCacheNode
  | .func _ isIn args, node =>
    let inCount := (args.length + 2 ^ 32 - 1) % 2 ^ 32
    let node := if isIn ∧ inCount > knob then
        node.appendWarning ("IN clause has " ++ toString inCount ++ " items, exceeds max " ++
          toString knob ++ ".")
      else node
    checkInClauseList knob args node
  | .cond args, node => checkInClauseList knob args node
  | _, node => node

def checkInClauseList (knob : Nat) : List Item → SqlCacheNode → SqlCacheNode
  | [], node => node
  | i :: is, node => checkInClauseList knob is (checkInClause knob i node)

end

/-- `check_in_clause(item, node)`. -/
def checkInClauseOf (sv : Sysvars) (item : Option Item) (node : SqlCacheNode) : SqlCacheNode :=
  match item with
  | some i => if sv.checkInCount = 0 then node else checkInClause sv.checkInCount i node
  | none => node

/-- The table of `resolve_alter_sub_type`. -/
def alterSubTypeNames : List (AlterFlag × String) :=
  [(.addColumn, "ADD_COLUMN"), (.dropColumn, "DROP_COLUMN"), (.changeColumn, "MODIFY_COLUMN"),
   (.changeColumnDefault, "CHANGE_DEFAULT"), (.columnOrder, "COLUMN_ORDER"),
   (.addIndex, "ADD_INDEX"), (.dropIndex, "DROP_INDEX"), (.renameIndex, "RENAME_INDEX"),
   (.indexVisibility, "INDEX_VISIBILITY"), (.rename, "RENAME"), (.order, "ORDER"),
   (.options, "OPTIONS"), (.keysOnoff, "KEYS_ONOFF"), (.recreate, "FORCE"),
   (.addPartition, "ADD_PARTITION"), (.dropPartition, "DROP_PARTITION"),
   (.coalescePartition, "COALESCE_PARTITION"), (.reorganizePartition, "REORGANIZE_PARTITION"),
   (.exchangePartition, "EXCHANGE_PARTITION"), (.truncatePartition, "TRUNCATE_PARTITION"),
   (.removePartitioning, "REMOVE_PARTITIONING"), (.discardTablespace, "DISCARD_TABLESPACE"),
   (.importTablespace, "IMPORT_TABLESPACE"), (.columnVisibility, "COLUMN_VISIBILITY")]

/-- `resolve_alter_sub_type`: the names of the flags set, comma-separated, or `OTHER`. -/
def resolveAlterSubType (ai : AlterInfo) : String :=
  match (alterSubTypeNames.filter fun e => ai.has e.1).map (·.2) with
  | [] => "OTHER"
  | names => ",".intercalate names

/-- `predict_alter_algorithm`: the most expensive algorithm (0 `INSTANT`, 1 `INPLACE`, 2 `COPY`)
    any operation of the statement needs. -/
def predictAlterAlgorithm (ai : AlterInfo) (ci : CreateInfo) (ctx : InceptionContext) : String :=
  let is80 := ctx.dbVersionMajor ≥ 8
  let levels : List (Bool × Nat) :=
    [(ai.has .addColumn, if is80 then 0 else 1), (ai.has .dropColumn, 1),
     (ai.has .changeColumn, 2), (ai.has .changeColumnDefault, 0), (ai.has .columnOrder, 1),
     (ai.has .addIndex, 1), (ai.has .dropIndex, 1), (ai.has .renameIndex, 1),
     (ai.has .indexVisibility, 1), (ai.has .rename, 0), (ai.has .order, 2),
     (ai.has .options, if ci.usedEngine then 2 else 0), (ai.has .keysOnoff, 1),
     (ai.has .recreate, 2),
     (ai.has .addPartition || ai.has .dropPartition || ai.has .coalescePartition ||
       ai.has .reorganizePartition || ai.has .exchangePartition || ai.has .truncatePartition ||
       ai.has .removePartitioning, 2),
     (ai.has .discardTablespace || ai.has .importTablespace, 1),
     (ai.has .columnVisibility, 0)]
  match levels.foldl (fun worst l => if l.1 ∧ l.2 > worst then l.2 else worst) 0 with
  | 0 => "INSTANT"
  | 1 => "INPLACE"
  | _ => "COPY"

end Inception
