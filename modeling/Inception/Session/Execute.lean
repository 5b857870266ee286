import Inception.Session.Split

/-!
# Execute — the database each executed statement runs under

In execute mode every statement of the batch is audited under the session's current database
(`thd->db()`, which `USE` statements, `COM_INIT_DB` and the client's initial database set), and
cached.  At the commit the cached statements run in order on a connection `connect_remote`
opens with no default database, so a statement runs under the database of the last `USE`
statement run before it, unless a `DROP DATABASE` of that database ran since: the server then
leaves the connection in none.

The batch, as the execution runs it, is a program of the lines of `Split` (§1): a `USE` line per
`USE` statement, and a line per other statement carrying the database it was audited under.  The
two databases stay in step (§2) as long as they agree at the start, no `COM_INIT_DB` comes and no
`DROP DATABASE` drops the current database: the `USE` statements move both, and nothing else
moves either of them.
-/

namespace Inception

/-! ## 1. The batch as the execution runs it -/

end Inception
