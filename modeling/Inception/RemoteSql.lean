/-!
# RemoteSql — the queries the module sends to the remote target

`inception_remote_sql.h`: every query sent to the remote is a value of `RemoteQuery`, one
constructor per SQL template (with its arguments), `EXPLAIN` of a cached statement, a cached
statement itself, and `KILL`; `RemoteQuery.text` renders the template, and `RemoteQuery.sent` is
what reaches the remote once `snprintf` has cut the text to the caller's buffer.  A result set is
its column count and its rows of nullable values.
-/

namespace Inception

/-- A fetched row: nullable column values. -/
abbrev Row := List (Option String)

/-- `row[i]`, `none` for SQL `NULL` or a missing column. -/
def Row.col (row : Row) (i : Nat) : Option String := (row.get? i).join

/-- A stored result: its column count and its rows. -/
structure ResultSet where
  fields : Nat := 0
  rows : List Row := []
  deriving DecidableEq, Repr

/-- The queries sent to the remote: the templates of `inception_remote_sql.h` with their
    arguments, `EXPLAIN` of a cached statement, a cached statement itself, and `KILL`. -/
inductive RemoteQuery
  | showDatabasesLike (db : String)
  | useDatabase (db : String)
  | showTablesLike (table : String)
  | checkColumnExists (db table column : String)
  | checkIndexExists (db table index : String)
  | getTableRows (db table : String)
  | getColumnInfo (db table column : String)
  | explain (sql : String)
  | getTableColumns (db table : String)
  | showWarnings
  | showThreadsRunning
  | showSlaveStatus
  | showGlobalReadOnly
  | statement (text : String)
  | killThread (tid : Nat)
  deriving DecidableEq, Repr

/-- The SQL text of a query, before `snprintf` cuts it to the caller's buffer. -/
def RemoteQuery.text : RemoteQuery → String
  | .showDatabasesLike db => "SHOW DATABASES LIKE '" ++ db ++ "'"
  | .useDatabase db => "USE `" ++ db ++ "`"
  | .showTablesLike t => "SHOW TABLES LIKE '" ++ t ++ "'"
  | .checkColumnExists db t c =>
    "SELECT 1 FROM information_schema.COLUMNS WHERE TABLE_SCHEMA='" ++ db ++ "' AND TABLE_NAME='" ++
      t ++ "' AND COLUMN_NAME='" ++ c ++ "'"
  | .checkIndexExists db t i =>
    "SELECT 1 FROM information_schema.STATISTICS WHERE TABLE_SCHEMA='" ++ db ++
      "' AND TABLE_NAME='" ++ t ++ "' AND INDEX_NAME='" ++ i ++ "' LIMIT 1"
  | .getTableRows db t =>
    "SELECT TABLE_ROWS FROM information_schema.TABLES WHERE TABLE_SCHEMA='" ++ db ++
      "' AND TABLE_NAME='" ++ t ++ "'"
  | .getColumnInfo db t c =>
    "SELECT DATA_TYPE, CHARACTER_MAXIMUM_LENGTH, NUMERIC_PRECISION, NUMERIC_SCALE FROM " ++
      "information_schema.COLUMNS WHERE TABLE_SCHEMA='" ++ db ++ "' AND TABLE_NAME='" ++ t ++
      "' AND COLUMN_NAME='" ++ c ++ "'"
  | .explain sql => "EXPLAIN " ++ sql
  | .getTableColumns db t =>
    "SELECT COLUMN_NAME FROM information_schema.COLUMNS WHERE TABLE_SCHEMA='" ++ db ++
      "' AND TABLE_NAME='" ++ t ++ "' ORDER BY ORDINAL_POSITION"
  | .showWarnings => "SHOW WARNINGS"
  | .showThreadsRunning => "SHOW GLOBAL STATUS LIKE 'Threads_running'"
  | .showSlaveStatus => "SHOW SLAVE STATUS"
  | .showGlobalReadOnly => "SELECT @@GLOBAL.read_only"
  | .statement text => text
  | .killThread tid => "KILL " ++ toString tid

/-- The buffer the caller formats a query into with `snprintf`: 256 bytes for `SHOW DATABASES LIKE`,
    `USE` and `SHOW TABLES LIKE`, 512 for the `information_schema` selects, 64 for `KILL`; `none`
    for a query sent from a constant or from the statement's own string. -/
def RemoteQuery.bufSize : RemoteQuery → Option Nat
  | .showDatabasesLike _ | .useDatabase _ | .showTablesLike _ => some 256
  | .checkColumnExists .. | .checkIndexExists .. | .getTableRows .. | .getColumnInfo .. |
    .getTableColumns .. => some 512
  | .killThread _ => some 64
  | _ => none

/-- The text's UTF-8 bytes. -/
def RemoteQuery.bytes (q : RemoteQuery) : List UInt8 := q.text.data.flatMap String.utf8EncodeChar

/-- The bytes `mysql_real_query` sends: the text's, which `snprintf` cuts to one byte less than
    the buffer. -/
def RemoteQuery.sent (q : RemoteQuery) : List UInt8 :=
  match q.bufSize with
  | some n => q.bytes.take (n - 1)
  | none => q.bytes

/-- Whether the text fits its buffer, with the terminating zero. -/
def RemoteQuery.fits (q : RemoteQuery) : Bool :=
  match q.bufSize with
  | some n => q.bytes.length < n
  | none => true

/-- The read-only catalogue probes of the audit and query-tree phases: `SHOW ... LIKE`, `USE`
    and the `information_schema` selects. -/
def RemoteQuery.isProbe : RemoteQuery → Bool
  | .showDatabasesLike _ | .useDatabase _ | .showTablesLike _ | .checkColumnExists .. |
    .checkIndexExists .. | .getTableRows .. | .getColumnInfo .. | .getTableColumns .. => true
  | _ => false

end Inception
