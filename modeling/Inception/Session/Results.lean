import Inception.Audit.Records
import Inception.Session.Commit
import Inception.Session.Split

/-!
# Results — what the statements of a batch become

A client sends a batch as texts holding one or more statements.  The server's parser reads a
text one statement at a time (§1): after a statement it goes on where the statement's `;` left it
(`found_semicolon`); after a parse error in an active session, `handle_parse_error` records the
failed statement, cut at its first `;`, and points the loop just past the first `;` at or after
where the lexer stopped.  That `;` is the failed statement's own when no `;` of it lies in a
string, an identifier or a comment after that point; otherwise the loop resumes inside the
statement.
-/

namespace Inception

/-! ## 1. A multi-statement text, statement by statement -/

/-- The record `add_sql` makes. -/
def freshNode (ctx : InceptionContext) (sql : String) (cmd : SqlCommand) : SqlCacheNode :=
  (ctx.addSql sql cmd).2

/-- Writing back the record `add_sql` made appends it under the next id. -/
theorem setLastNode_addSql (ctx : InceptionContext) (sql : String) (cmd : SqlCommand)
    (n : SqlCacheNode) : (ctx.addSql sql cmd).1.setLastNode n = { ctx with batch := { ctx.batch with
      cacheNodes := ctx.batch.cacheNodes ++ [n], nextId := ctx.batch.nextId + 1 } } := by
  simp [InceptionContext.addSql, InceptionContext.setLastNode]

/-- `handle_parse_error` in a session caches the failed statement, cut at its first `;`. -/
theorem handleParseError_caches (s : Session) (hs : s.ctx.active = true) (text msg : String) :
    ∃ node, Amends (freshNode s.ctx ⟨(stripInceptionComment text.data).takeWhile (· ≠ ';')⟩ .sqlEnd)
        node ∧
      handleParseError s text msg = some { s with ctx := { s.ctx with batch := { s.ctx.batch with
        cacheNodes := s.ctx.batch.cacheNodes ++ [node], nextId := s.ctx.batch.nextId + 1 } } } := by
  refine ⟨{ freshNode s.ctx ⟨(stripInceptionComment text.data).takeWhile (· ≠ ';')⟩ .sqlEnd with
    stage := .checked, stageStatus := "Audit completed" }.appendError ("SQL parse error: " ++ msg),
    ((Amends.refl _).setStage _ _).appendError (by simp), ?_⟩
  simp [handleParseError, hs, freshNode, setLastNode_addSql]

/-- The audit's context is the one it was given, but for the audit connection and the schema
    tracking. -/
theorem auditStatement_ctx (aenv : AuditEnv) (stmt : Stmt) (st : AuditState) :
    (auditStatement aenv stmt st).ctx.active = st.ctx.active ∧
      (auditStatement aenv stmt st).ctx.opts = st.ctx.opts ∧
      ∃ tables altered dbs, (auditStatement aenv stmt st).ctx.batch =
        { st.ctx.batch with batchTables := tables, alteredTables := altered, batchDatabases := dbs } := by
  have hc := (auditStatement_frame Forbidden.nothing aenv stmt st fun _ => rfl).1
  obtain ⟨tables, altered, dbs, he⟩ := schemaEffect_tracking aenv stmt st.ctx.batch
  refine ⟨(congrArg InceptionContext.active hc :), (congrArg InceptionContext.opts hc :), tables,
    altered, dbs, ?_⟩
  rw [InceptionContext.batch_eq_of_sansConn_mapBatch hc, InceptionContext.sansConn_batch, he]

/-- The audit of check and execute mode caches the statement, its leading comment stripped, under
    the next id, amended by the audit; the other caches are as they were. -/
theorem auditIntercept_caches (env : SessionEnv) (s : Session) (text : String) (stmt : Stmt) :
    ∃ node, Amends (freshNode s.ctx ⟨stripInceptionComment text.data⟩ stmt.command) node ∧
      (auditIntercept env s text stmt).ctx.active = s.ctx.active ∧
      (auditIntercept env s text stmt).ctx.opts = s.ctx.opts ∧
      (auditIntercept env s text stmt).ctx.batch.cacheNodes = s.ctx.batch.cacheNodes ++ [node] ∧
      (auditIntercept env s text stmt).ctx.batch.nextId = s.ctx.batch.nextId + 1 ∧
      (auditIntercept env s text stmt).ctx.batch.treeNodes = s.ctx.batch.treeNodes := by
  let st₀ : AuditState :=
    { node := freshNode s.ctx ⟨stripInceptionComment text.data⟩ stmt.command,
      ctx := (s.ctx.addSql ⟨stripInceptionComment text.data⟩ stmt.command).1 }
  have hi : (auditIntercept env s text stmt).ctx =
      (auditStatement (env.auditEnv s) stmt st₀).ctx.setLastNode
        (auditStatement (env.auditEnv s) stmt st₀).node := rfl
  obtain ⟨ha, ho, tables, altered, dbs, hb⟩ := auditStatement_ctx (env.auditEnv s) stmt st₀
  refine ⟨_, auditStatement_amends (env.auditEnv s) stmt st₀, ?_⟩
  simp only [hi, InceptionContext.setLastNode, hb, ha, ho]
  simp [st₀, InceptionContext.addSql]

/-- A tree's id and text. -/
def treeIdText (n : QueryTreeNode) : Nat × String := (n.id, n.sqlText)

/-- Whether split and query-tree mode list a statement: any but `USE` and `SET`. -/
def Stmt.grouped (stmt : Stmt) : Bool := !(stmt.command == .changeDb || stmt.command == .setOption)

/-- The query-tree handler gives a statement other than `USE` and `SET` a tree under the next id;
    the record cache and the split groups are as they were. -/
theorem treeStatement_caches (env : SessionEnv) (s : Session) (text : String) (stmt : Stmt) :
    (treeStatement env s text stmt).ctx.active = s.ctx.active ∧
      (treeStatement env s text stmt).ctx.opts = s.ctx.opts ∧
      (treeStatement env s text stmt).ctx.batch.cacheNodes = s.ctx.batch.cacheNodes ∧
      (treeStatement env s text stmt).ctx.batch.splitNodes = s.ctx.batch.splitNodes ∧
      (treeStatement env s text stmt).ctx.batch.treeNodes.map treeIdText =
        s.ctx.batch.treeNodes.map treeIdText ++
          (if stmt.grouped then [(s.ctx.batch.nextId, ⟨stripInceptionComment text.data⟩)] else []) ∧
      (treeStatement env s text stmt).ctx.batch.nextId =
        s.ctx.batch.nextId + if stmt.grouped then 1 else 0 := by
  by_cases hc : stmt.command = .changeDb
  · simp only [treeStatement, hc, if_true, useStatement]
    split <;> simp [Stmt.grouped, hc]
  by_cases hs : stmt.command = .setOption
  · simp [treeStatement, hs, Stmt.grouped]
  have hc' := (extractQueryTree_frame Forbidden.nothing (env.remote s.ctx.opts) s.thdDb stmt
    { s.ctx with batch := { s.ctx.batch with nextId := s.ctx.batch.nextId + 1 } }).1
  have hb := InceptionContext.batch_eq_of_sansConn hc'
  simp only [treeStatement, hc, hs, if_false, Stmt.grouped]
  refine ⟨(congrArg InceptionContext.active hc' :), (congrArg InceptionContext.opts hc' :), ?_⟩
  simp [hb, hc, hs, treeIdText]

/-! ## 3. The rows of a commit

A batch is the stream of statements between its markers, each parsed or failing to parse.
`before_parse` lets each through; one that fails to parse is recorded by `handle_parse_error`,
whatever the mode, and one that parses goes to `intercept_statement` (§3.1).  So check and execute
mode answer with a row per statement the client does not leave to the server, numbered 1, 2, …
in stream order (§3.2); query-tree mode numbers the same way the statements other than `USE` and
`SET`, failed ones included, but gives a failed one no tree (§3.3); and split mode's groups hold
the parsed ones only (§3.4). -/

/-! ### 3.1 A statement's hooks -/

/-- Modelled from the spec: a statement of a batch, its text and what the parser makes of it. -/
structure StreamStmt where
  text : String
  parsed : Except String Stmt

/-- What `intercept_statement` leaves to the server: an empty query, or the client's
    `SELECT DATABASE()`. -/
def toServer (text : String) (stmt : Stmt) : Bool :=
  stmt.command == .emptyQuery ||
    (stmt.command == .select && prefixCi "SELECT DATABASE()".data text.data)

/-- The modes that audit each statement and cache its record. -/
def OpMode.audits : OpMode → Bool
  | .check | .execute => true
  | .split | .queryTree => false

namespace StreamStmt

/-- The request a statement is. -/
def request (x : StreamStmt) : Request := .query x.text x.parsed

/-- No marker and no admin command: `before_parse` lets the statement through. -/
def plain (x : StreamStmt) : Bool :=
  !isInceptionCommit x.text && !isInceptionStart x.text && (parseInceptionCommand x.text.data).isNone

/-- Whether the statement fails to parse. -/
def failed (x : StreamStmt) : Bool :=
  match x.parsed with
  | .error _ => true
  | .ok _ => false

/-- The statements a commit in mode `m` is to list: all but those left to the server, and in
    split and query-tree mode but `USE` and `SET`. -/
def listed (m : OpMode) (x : StreamStmt) : Bool :=
  match x.parsed with
  | .error _ => true
  | .ok stmt => !toServer x.text stmt && (m.audits || stmt.grouped)

/-- The text a statement's row holds: its leading comment stripped, and when it fails to parse,
    cut at its first `;`. -/
def rowText (x : StreamStmt) : String :=
  match x.parsed with
  | .error _ => ⟨(stripInceptionComment x.text.data).takeWhile (· ≠ ';')⟩
  | .ok _ => ⟨stripInceptionComment x.text.data⟩

/-- The hooks a statement reaches once `before_parse` lets it by: `handle_parse_error`, or
    `intercept_statement` and, when that declines it, the server. -/
def hook (env : SessionEnv) (x : StreamStmt) (s : Session) : Session :=
  match x.parsed with
  | .error msg => (handleParseError s x.text msg).getD s
  | .ok stmt => (interceptStatement env s x.text stmt).getD (serverExecute s stmt)

/-- The split-mode event of a parsed statement `intercept_statement` takes. -/
def splitEvent? (x : StreamStmt) : Option SplitEvent :=
  match x.parsed with
  | .error _ => none
  | .ok stmt => if toServer x.text stmt then none else some (SplitEvent.stmt x.text stmt)

end StreamStmt

/-- The session after a stream. -/
def streamRun (env : SessionEnv) (s : Session) : List StreamStmt → Session
  | [] => s
  | x :: xs => streamRun env (handleRequest env s x.request).1 xs

section Hook

variable (env : SessionEnv) {s : Session} (x : StreamStmt)

theorem beforeParse_plain (hx : x.plain = true) : beforeParse env s x.text = (s, none) := by
  simp only [StreamStmt.plain, Bool.and_eq_true, Bool.not_eq_true', Option.isNone_iff_eq_none] at hx
  simp [beforeParse, hx]

/-- A statement `before_parse` lets by reaches the hooks. -/
theorem handleRequest_query {text : String} {s₁ : Session} (h : beforeParse env s text = (s₁, none))
    (parsed : Except String Stmt) :
    (handleRequest env s (.query text parsed)).1 = StreamStmt.hook env ⟨text, parsed⟩ s₁ := by
  cases parsed with
  | error msg =>
    simp only [StreamStmt.hook, handleRequest, h]
    cases handleParseError s₁ text msg <;> rfl
  | ok stmt =>
    simp only [StreamStmt.hook, handleRequest, h]
    cases interceptStatement env s₁ text stmt <;> rfl

theorem handleRequest_plain (hx : x.plain = true) : (handleRequest env s x.request).1 = x.hook env s :=
  handleRequest_query env (beforeParse_plain env x hx) x.parsed

/-- A statement left to the server is no `USE`, so the server's execution changes nothing. -/
theorem serverExecute_toServer {text : String} {stmt : Stmt} (h : toServer text stmt = true) :
    serverExecute s stmt = s := by
  have hc : stmt.command ≠ .changeDb := by
    simp only [toServer, Bool.or_eq_true, beq_iff_eq, Bool.and_eq_true] at h
    rcases h with h | ⟨h, -⟩ <;> rw [h] <;> decide
  simp [serverExecute, hc]

/-- **What a statement's hooks do** in a session: a failed statement is recorded; a statement left
    to the server changes nothing; any other reaches the handler of the session's mode. -/
theorem hook_cases (ha : s.ctx.active = true) :
    (∃ msg node, x.parsed = .error msg ∧ Amends (freshNode s.ctx x.rowText .sqlEnd) node ∧
      x.hook env s = { s with ctx := { s.ctx with batch := { s.ctx.batch with
        cacheNodes := s.ctx.batch.cacheNodes ++ [node], nextId := s.ctx.batch.nextId + 1 } } }) ∨
    (∃ stmt, x.parsed = .ok stmt ∧ toServer x.text stmt = true ∧ x.hook env s = s) ∨
    (∃ stmt, x.parsed = .ok stmt ∧ toServer x.text stmt = false ∧ s.ctx.opts.mode = .split ∧
      x.hook env s = splitStatement s x.text stmt) ∨
    (∃ stmt, x.parsed = .ok stmt ∧ toServer x.text stmt = false ∧ s.ctx.opts.mode = .queryTree ∧
      x.hook env s = treeStatement env s x.text stmt) ∨
    (∃ stmt, x.parsed = .ok stmt ∧ toServer x.text stmt = false ∧ s.ctx.opts.mode.audits = true ∧
      x.hook env s = auditIntercept env s x.text stmt) := by
  rcases x with ⟨text, msg | stmt⟩
  · obtain ⟨node, hn, he⟩ := handleParseError_caches s ha text msg
    exact .inl ⟨msg, node, rfl, hn, by simp [StreamStmt.hook, he]⟩
  · cases ht : toServer text stmt
    · have he : stmt.command ≠ .emptyQuery := by simp_all [toServer]
      have hp : ¬(stmt.command = .select ∧ prefixCi "SELECT DATABASE()".data text.data = true) := by
        simp_all [toServer]
      cases hm : s.ctx.opts.mode <;>
        simp [StreamStmt.hook, interceptStatement, ha, he, hp, hm, ht, OpMode.audits]
    · have hs := serverExecute_toServer (s := s) ht
      simp only [toServer, Bool.or_eq_true, beq_iff_eq, Bool.and_eq_true] at ht
      rcases ht with h | h <;> simp [StreamStmt.hook, interceptStatement, h, hs, toServer]

end Hook

/-! ### 3.2 One statement -/

/-- Split mode's handler keeps the record cache, the id and the trees. -/
theorem splitStatement_caches (s : Session) (text : String) (stmt : Stmt) :
    (splitStatement s text stmt).ctx.batch.cacheNodes = s.ctx.batch.cacheNodes ∧
      (splitStatement s text stmt).ctx.batch.nextId = s.ctx.batch.nextId ∧
      (splitStatement s text stmt).ctx.batch.treeNodes = s.ctx.batch.treeNodes := by
  unfold splitStatement useStatement
  split_ifs <;> (try split) <;> exact ⟨rfl, rfl, rfl⟩

theorem StreamStmt.listed_of_failed {x : StreamStmt} (h : x.failed = true) (m : OpMode) :
    x.listed m = true := by
  rcases x with ⟨_, _ | _⟩ <;> simp_all [StreamStmt.failed, StreamStmt.listed]

section Step

variable (env : SessionEnv) {s : Session} (x : StreamStmt) (ha : s.ctx.active = true)
include ha

/-- A statement keeps the session active in its mode. -/
theorem hook_active_opts : (x.hook env s).ctx.active = true ∧ (x.hook env s).ctx.opts = s.ctx.opts := by
  rcases hook_cases env x ha with ⟨_, _, -, -, h⟩ | ⟨_, -, -, h⟩ | ⟨stmt, -, -, -, h⟩ | ⟨stmt, -, -, -, h⟩ |
    ⟨stmt, -, -, -, h⟩ <;> rw [h]
  · exact ⟨ha, rfl⟩
  · exact ⟨ha, rfl⟩
  · exact ⟨(SplitEvent.apply_opts (.stmt x.text stmt) s).1.trans ha,
      (SplitEvent.apply_opts (.stmt x.text stmt) s).2⟩
  · exact ⟨(treeStatement_caches env s x.text stmt).1.trans ha, (treeStatement_caches env s x.text stmt).2.1⟩
  · obtain ⟨_, -, h1, h2, -⟩ := auditIntercept_caches env s x.text stmt
    exact ⟨h1.trans ha, h2⟩

/-- **The step on the record cache**: a statement appends at most one record, amended from the
    one `add_sql` made of its row under the next id; it appends one exactly when it failed to
    parse, or is listed and audited. -/
theorem hook_cacheNodes :
    ∃ new, (x.hook env s).ctx.batch.cacheNodes = s.ctx.batch.cacheNodes ++ new ∧
      new.map idText = (if x.failed || s.ctx.opts.mode.audits && x.listed s.ctx.opts.mode then
        [(s.ctx.batch.nextId, x.rowText)] else []) ∧
      ∀ n ∈ new, ∃ n₀, n₀.errlevel = errlevelOk ∧ n₀.errmsg = "" ∧ n₀.diagnostics = [] ∧
        Amends n₀ n := by
  rcases hook_cases env x ha with ⟨msg, node, hp, hn, h⟩ | ⟨stmt, hp, ht, h⟩ | ⟨stmt, hp, ht, hm, h⟩ |
    ⟨stmt, hp, ht, hm, h⟩ | ⟨stmt, hp, ht, hm, h⟩
  · refine ⟨[node], by rw [h], ?_, by simpa using ⟨_, rfl, rfl, rfl, hn⟩⟩
    simp [StreamStmt.failed, StreamStmt.rowText, hp, idText, hn.id_eq, hn.sqlText_eq, freshNode]
  · refine ⟨[], by rw [h, List.append_nil], ?_, List.forall_mem_nil _⟩
    simp [StreamStmt.failed, StreamStmt.listed, hp, ht]
  · refine ⟨[], by rw [h, (splitStatement_caches s x.text stmt).1, List.append_nil], ?_,
      List.forall_mem_nil _⟩
    simp [StreamStmt.failed, hp, hm, OpMode.audits]
  · refine ⟨[], by rw [h, (treeStatement_caches env s x.text stmt).2.2.1, List.append_nil], ?_,
      List.forall_mem_nil _⟩
    simp [StreamStmt.failed, hp, hm, OpMode.audits]
  · obtain ⟨node, hn, -, -, he, -⟩ := auditIntercept_caches env s x.text stmt
    refine ⟨[node], by rw [h, he], ?_, by simpa using ⟨_, rfl, rfl, rfl, hn⟩⟩
    simp [StreamStmt.listed, StreamStmt.rowText, hp, ht, hm, idText, hn.id_eq, hn.sqlText_eq,
      freshNode]

/-- Outside split mode, a statement takes the next id exactly when it is listed. -/
theorem hook_nextId (hs : s.ctx.opts.mode ≠ .split) :
    (x.hook env s).ctx.batch.nextId =
      s.ctx.batch.nextId + if x.listed s.ctx.opts.mode then 1 else 0 := by
  rcases hook_cases env x ha with ⟨msg, node, hp, -, h⟩ | ⟨stmt, hp, ht, h⟩ | ⟨stmt, hp, ht, hm, h⟩ |
    ⟨stmt, hp, ht, hm, h⟩ | ⟨stmt, hp, ht, hm, h⟩
  · simp [h, StreamStmt.listed, hp]
  · simp [h, StreamStmt.listed, hp, ht]
  · exact absurd hm hs
  · rw [h, (treeStatement_caches env s x.text stmt).2.2.2.2.2]
    simp [StreamStmt.listed, hp, ht, hm, OpMode.audits]
  · obtain ⟨-, -, -, -, -, he, -⟩ := auditIntercept_caches env s x.text stmt
    simp [h, he, StreamStmt.listed, hp, ht, hm]

/-- In query-tree mode, a parsed statement that is listed gets a tree under the next id. -/
theorem hook_treeNodes (hq : s.ctx.opts.mode = .queryTree) :
    (x.hook env s).ctx.batch.treeNodes.map treeIdText = s.ctx.batch.treeNodes.map treeIdText ++
      (if x.listed .queryTree && !x.failed then [(s.ctx.batch.nextId, x.rowText)] else []) := by
  rcases hook_cases env x ha with ⟨msg, node, hp, -, h⟩ | ⟨stmt, hp, ht, h⟩ | ⟨stmt, hp, ht, hm, h⟩ |
    ⟨stmt, hp, ht, hm, h⟩ | ⟨stmt, hp, ht, hm, h⟩
  · simp [h, StreamStmt.failed, hp]
  · simp [h, StreamStmt.listed, hp, ht]
  · simp [hq] at hm
  · rw [h, (treeStatement_caches env s x.text stmt).2.2.2.2.1]
    simp [StreamStmt.listed, StreamStmt.failed, StreamStmt.rowText, hp, ht, OpMode.audits]
  · simp [hq, OpMode.audits] at hm

end Step

/-- Two sessions agree on what split mode reads and writes: the groups, the batch's `USE` database
    and the session's database. -/
structure SameSplit (s t : Session) : Prop where
  splitNodes : s.ctx.batch.splitNodes = t.ctx.batch.splitNodes
  currentUsedb : s.ctx.batch.currentUsedb = t.ctx.batch.currentUsedb
  thdDb : s.thdDb = t.thdDb

/-- Split mode's handler reads nothing else. -/
theorem SplitEvent.apply_sameSplit {s t : Session} (h : SameSplit s t) (e : SplitEvent) :
    SameSplit (e.apply s) (e.apply t) := by
  obtain ⟨h1, h2, h3⟩ := h
  cases e with
  | initDb db => exact ⟨h1, h2, rfl⟩
  | stmt text stmt =>
    simp only [SplitEvent.apply, splitStatement, useStatement]
    split_ifs
    · rcases stmt.useDb with _ | db
      · exact ⟨h1, h2, h3⟩
      · exact ⟨h1, rfl, rfl⟩
    · exact ⟨h1, h2, h3⟩
    · exact ⟨by simp only [h1, h2, h3], h2, h3⟩

/-- In split mode, a statement moves what split mode reads as its event does. -/
theorem hook_sameSplit (env : SessionEnv) {s t : Session} (x : StreamStmt) (ha : s.ctx.active = true)
    (hs : s.ctx.opts.mode = .split) (hst : SameSplit s t) :
    SameSplit (x.hook env s) (splitRun t x.splitEvent?.toList) := by
  rcases hook_cases env x ha with ⟨msg, node, hp, -, h⟩ | ⟨stmt, hp, ht, h⟩ | ⟨stmt, hp, ht, hm, h⟩ |
    ⟨stmt, hp, ht, hm, h⟩ | ⟨stmt, hp, ht, hm, h⟩
  · rw [h, show x.splitEvent? = none by simp [StreamStmt.splitEvent?, hp]]
    exact ⟨hst.1, hst.2, hst.3⟩
  · rw [h, show x.splitEvent? = none by simp [StreamStmt.splitEvent?, hp, ht]]
    exact hst
  · rw [h, show x.splitEvent? = some (.stmt x.text stmt) by simp [StreamStmt.splitEvent?, hp, ht]]
    exact SplitEvent.apply_sameSplit hst (.stmt x.text stmt)
  · simp [hs] at hm
  · simp [hs, OpMode.audits] at hm

/-! ### 3.3 A stream -/

/-- The statements a commit in mode `m` lists, numbered from `i` in stream order. -/
def numbered (m : OpMode) (i : Nat) (xs : List StreamStmt) : List (Nat × StreamStmt) :=
  (xs.filter (StreamStmt.listed m)).enumFrom i

/-- A numbered statement's row: its number and its text. -/
def numberedRow (p : Nat × StreamStmt) : Nat × String := (p.1, p.2.rowText)

theorem numbered_cons (m : OpMode) (i : Nat) (x : StreamStmt) (xs : List StreamStmt) :
    numbered m i (x :: xs) =
      if x.listed m then (i, x) :: numbered m (i + 1) xs else numbered m i xs := by
  unfold numbered
  rw [List.filter_cons]
  split <;> rfl

section Run

variable (env : SessionEnv)

theorem streamRun_cons (s : Session) {x : StreamStmt} (xs : List StreamStmt) (hx : x.plain = true) :
    streamRun env s (x :: xs) = streamRun env (x.hook env s) xs := by
  rw [streamRun, handleRequest_plain env x hx]

/-- A stream keeps the session active in its mode. -/
theorem streamRun_active_opts (xs : List StreamStmt) :
    ∀ s : Session, s.ctx.active = true → (∀ x ∈ xs, x.plain = true) →
      (streamRun env s xs).ctx.active = true ∧ (streamRun env s xs).ctx.opts = s.ctx.opts := by
  induction xs with
  | nil => exact fun s ha _ => ⟨ha, rfl⟩
  | cons x xs ih =>
    intro s ha hp
    obtain ⟨ha', ho'⟩ := hook_active_opts env x ha
    obtain ⟨h1, h2⟩ := ih _ ha' fun y hy => hp y (.tail _ hy)
    rw [streamRun_cons env s xs (hp x (.head _))]
    exact ⟨h1, h2.trans ho'⟩

/-- **Check and execute mode**: a stream appends a record per listed statement, numbered on from
    the id. -/
theorem streamRun_records (xs : List StreamStmt) :
    ∀ s : Session, s.ctx.active = true → s.ctx.opts.mode.audits = true →
      (∀ x ∈ xs, x.plain = true) →
      (streamRun env s xs).ctx.batch.cacheNodes.map idText =
        s.ctx.batch.cacheNodes.map idText ++
          (numbered s.ctx.opts.mode s.ctx.batch.nextId xs).map numberedRow := by
  induction xs with
  | nil => simp [streamRun, numbered]
  | cons x xs ih =>
    intro s ha hm hp
    obtain ⟨ha', ho'⟩ := hook_active_opts env x ha
    obtain ⟨new, hc, hmap, -⟩ := hook_cacheNodes env x ha
    have hn := hook_nextId env x ha (by intro h; simp [h, OpMode.audits] at hm)
    have hcond : (x.failed || s.ctx.opts.mode.audits && x.listed s.ctx.opts.mode) =
        x.listed s.ctx.opts.mode := by
      cases hf : x.failed
      · simp [hm]
      · simp [StreamStmt.listed_of_failed hf]
    rw [streamRun_cons env s xs (hp x (.head _)), ih _ ha' (by rwa [ho']) fun y hy => hp y (.tail _ hy),
      hc, List.map_append, hmap, hcond, ho', hn, numbered_cons]
    by_cases hl : x.listed s.ctx.opts.mode <;> simp [hl, numberedRow]

/-- **Query-tree mode**: a stream appends a tree per listed statement that parses, under its
    number among the listed ones. -/
theorem streamRun_trees (xs : List StreamStmt) :
    ∀ s : Session, s.ctx.active = true → s.ctx.opts.mode = .queryTree →
      (∀ x ∈ xs, x.plain = true) →
      (streamRun env s xs).ctx.batch.treeNodes.map treeIdText =
        s.ctx.batch.treeNodes.map treeIdText ++
          ((numbered .queryTree s.ctx.batch.nextId xs).filter fun p => !p.2.failed).map numberedRow := by
  induction xs with
  | nil => simp [streamRun, numbered]
  | cons x xs ih =>
    intro s ha hq hp
    obtain ⟨ha', ho'⟩ := hook_active_opts env x ha
    have hn := hook_nextId env x ha (by simp [hq])
    rw [streamRun_cons env s xs (hp x (.head _)), ih _ ha' (by rw [ho', hq]) fun y hy => hp y (.tail _ hy),
      hook_treeNodes env x ha hq, hn, hq, numbered_cons]
    by_cases hl : x.listed .queryTree <;> cases hf : x.failed <;> simp [hl, hf, numberedRow]

/-- **Split mode**: the session after a stream agrees, on what split mode reads, with the one
    after the stream's events. -/
theorem streamRun_sameSplit (xs : List StreamStmt) :
    ∀ s t : Session, s.ctx.active = true → s.ctx.opts.mode = .split → (∀ x ∈ xs, x.plain = true) →
      SameSplit s t → SameSplit (streamRun env s xs) (splitRun t (xs.filterMap StreamStmt.splitEvent?)) := by
  induction xs with
  | nil => exact fun _ _ _ _ _ h => h
  | cons x xs ih =>
    intro s t ha hs hp hst
    obtain ⟨ha', ho'⟩ := hook_active_opts env x ha
    have h := hook_sameSplit env x ha hs hst
    rw [streamRun_cons env s xs (hp x (.head _)), List.filterMap_cons]
    have ih' := ih _ _ ha' (by rw [ho', hs]) (fun y hy => hp y (.tail _ hy)) h
    cases he : x.splitEvent? <;> simp only [he] at ih' ⊢ <;> exact ih'

end Run

/-- A statement's event adds its row's text to the groups exactly when it is listed and parses. -/
theorem StreamStmt.splitEvent_groupedText (x : StreamStmt) :
    x.splitEvent?.bind SplitEvent.groupedText? =
      if x.listed .split && !x.failed then some x.rowText else none := by
  rcases x with ⟨text, msg | stmt⟩
  · rfl
  · cases ht : toServer text stmt
    · by_cases hc : stmt.command = .changeDb <;> by_cases hs : stmt.command = .setOption <;>
        simp [StreamStmt.splitEvent?, StreamStmt.listed, StreamStmt.failed, StreamStmt.rowText,
          SplitEvent.groupedText?, Stmt.grouped, OpMode.audits, ht, hc, hs]
    · simp [StreamStmt.splitEvent?, StreamStmt.listed, ht]

/-- Split mode's groups hold the parsed statements that are listed. -/
theorem splitEvent_groupedText (xs : List StreamStmt) :
    (xs.filterMap StreamStmt.splitEvent?).filterMap SplitEvent.groupedText? =
      (xs.filter fun x => x.listed .split && !x.failed).map StreamStmt.rowText := by
  rw [List.filterMap_filterMap]
  induction xs with
  | nil => rfl
  | cons x xs ih =>
    rw [List.filterMap_cons, x.splitEvent_groupedText, List.filter_cons]
    by_cases hc : (x.listed .split && !x.failed) = true <;> simp [hc, ih]

/-! ### 3.4 The commit -/

/-- **The rows of a commit.**  For a batch of statements between the markers, each parsed or
    failing to parse, the commit answers, in stream order: in check and execute mode, with a row
    per listed statement, numbered 1, 2, … and holding its text; in query-tree mode, with a row
    per listed statement that parses, under its number among the listed ones, failed ones
    included; in split mode, with groups whose texts are, one by one, blocks of a program whose
    statements are the listed ones that parse. -/
theorem commit_rows (env : SessionEnv) (s : Session) (xs : List StreamStmt)
    (hactive : s.ctx.active = true) (hbatch : s.ctx.batch = {})
    (hplain : ∀ x ∈ xs, x.plain = true) :
    (s.ctx.opts.mode.audits = true → ∃ nodes,
      (doInceptionCommit env (streamRun env s xs)).2.reply = .results nodes ∧
        nodes.map idText = (numbered s.ctx.opts.mode 1 xs).map numberedRow) ∧
    (s.ctx.opts.mode = .queryTree → ∃ nodes,
      (doInceptionCommit env (streamRun env s xs)).2.reply = .treeResults nodes ∧
        nodes.map treeIdText =
          ((numbered .queryTree 1 xs).filter fun p => !p.2.failed).map numberedRow) ∧
    (s.ctx.opts.mode = .split → ∃ nodes, ∃ blocks : List (List ProgramLine),
      (doInceptionCommit env (streamRun env s xs)).2.reply = .splitResults nodes ∧
        nodes.map (fun n => n.sqlText.data) = blocks.map render ∧
        blocks.flatten.filterMap ProgramLine.stmtText? =
          (xs.filter fun x => x.listed .split && !x.failed).map StreamStmt.rowText) := by
  obtain ⟨ha, ho⟩ := streamRun_active_opts env xs s hactive hplain
  refine ⟨fun hm => ?_, fun hq => ?_, fun hs => ?_⟩
  · have hr := streamRun_records env xs s hactive hm hplain
    simp only [hbatch, List.map_nil, List.nil_append] at hr
    cases h : s.ctx.opts.mode <;> simp [h, OpMode.audits] at hm <;>
      simp only [doInceptionCommit, ha, ho, h, Bool.not_true, Bool.false_eq_true, if_false]
    · exact ⟨_, rfl, by rw [hr, h]⟩
    · have hinv := ExecInv.reachable (reachable_runMoves (.init (streamRun env s xs).ctx env.threadId)
        (env.execMoves (streamRun env s xs).ctx))
      exact ⟨_, rfl, by rw [hinv.records, hr, h]⟩
  · have hr := streamRun_trees env xs s hactive hq hplain
    simp only [hbatch, List.map_nil, List.nil_append] at hr
    simp only [doInceptionCommit, ha, ho, hq, Bool.not_true, Bool.false_eq_true, if_false]
    exact ⟨_, rfl, hr⟩
  · obtain ⟨h1, -, -⟩ := streamRun_sameSplit env xs s s hactive hs hplain ⟨rfl, rfl, rfl⟩
    obtain ⟨blocks, hmap, hflat⟩ := splitRun_spells (xs.filterMap StreamStmt.splitEvent?) s []
      ⟨[], by simp [hbatch], rfl⟩
    simp only [doInceptionCommit, ha, ho, hs, Bool.not_true, Bool.false_eq_true, if_false]
    refine ⟨_, blocks, rfl, by rw [h1, hmap], ?_⟩
    rw [hflat, List.nil_append, splitProgram_stmtText, splitEvent_groupedText]

/-- `SELECT 1`, then a statement that fails to parse. -/
def selectThenFailed : List StreamStmt :=
  [⟨"SELECT 1", .ok { command := .select }⟩, ⟨"INSRT 2", .error "syntax error"⟩]

theorem commit_rows_selectThenFailed :
    checkSession.ctx.active = true ∧ checkSession.ctx.batch = {} ∧
      (∀ x ∈ selectThenFailed, x.plain = true) ∧ ∃ nodes,
        (doInceptionCommit offlineEnv (streamRun offlineEnv checkSession selectThenFailed)).2.reply =
          .results nodes ∧ nodes.map idText = (numbered .check 1 selectThenFailed).map numberedRow :=
  ⟨rfl, rfl, by decide,
    (commit_rows offlineEnv checkSession selectThenFailed rfl rfl (by decide)).1 rfl⟩

example : (numbered .check 1 selectThenFailed).map numberedRow = [(1, "SELECT 1"), (2, "INSRT 2")] := by
  decide

/-- A query-tree session. -/
def treeSession : Session := { ctx := { active := true, opts := { mode := .queryTree } } }

/-- A statement that fails to parse, then `SELECT 1`. -/
def failedThenSelect : List StreamStmt :=
  [⟨"SELEC 1", .error "syntax error"⟩, ⟨"SELECT 1", .ok { command := .select }⟩]

/-- A statement that fails to parse has no row in query-tree mode, where `SELECT 1` gets the id 2,
    and it is in no group in split mode. -/
theorem failed_statement_missing_from_tree_and_split :
    (match (doInceptionCommit offlineEnv (streamRun offlineEnv treeSession failedThenSelect)).2.reply with
      | .treeResults nodes => nodes.map treeIdText
      | _ => []) = [(2, "SELECT 1")] ∧
    (match (doInceptionCommit offlineEnv (streamRun offlineEnv splitSession failedThenSelect)).2.reply with
      | .splitResults nodes => nodes.map SplitNode.sqlText
      | _ => []) = ["SELECT 1;\n"] := by
  decide

end Inception
