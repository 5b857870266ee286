import Inception.Session.Hooks

/-!
# Split — what the split groups run under

Split mode answers a batch with groups of consecutive statements on one table and of one kind;
a new group's text opens with a `USE` line, and each statement ends with `;\n`.  A client that
runs the groups' texts one after another runs each statement under the database of the last
`USE` line before it.

The groups' texts, one after another, spell a program (§2): the statements in order, with a `USE`
line where a group opens.  Each statement line also carries the current database it had in the
stream.  Running the program (§3), a statement keeps that database when the stream has no
`COM_INIT_DB` and names every statement's first table without a database, under a current
database: a group on a table is then opened, and stays, under its own database.  A first table
named with its database lets a later statement join a group opened under another database.
-/

namespace Inception

/-! ## 1. A split-mode stream -/

/-- Modelled from the spec: what a split-mode session is sent between its markers, a statement
    (its text and `LEX`) or a `COM_INIT_DB`. -/
inductive SplitEvent
  | stmt (text : String) (lex : Stmt)
  | initDb (db : String)

/-- The hook an event reaches in a split-mode session. -/
def SplitEvent.apply : SplitEvent → Session → Session
  | .stmt text lex, s => splitStatement s text lex
  | .initDb db, s => handleUseDb s db

/-- The session after a stream. -/
def splitRun (s : Session) : List SplitEvent → Session
  | [] => s
  | e :: es => splitRun (e.apply s) es

/-- A split step keeps the session active and in split mode. -/
theorem SplitEvent.apply_opts (e : SplitEvent) (s : Session) :
    (e.apply s).ctx.active = s.ctx.active ∧ (e.apply s).ctx.opts = s.ctx.opts := by
  cases e with
  | initDb db => exact ⟨rfl, rfl⟩
  | stmt text stmt =>
    simp only [SplitEvent.apply, splitStatement, useStatement]
    split
    · split <;> exact ⟨rfl, rfl⟩
    · split <;> exact ⟨rfl, rfl⟩

/-! ## 2. The program the groups spell -/

/-- A line of the program: a group's `USE` line; a statement with the current database it had in
    the stream and the table of its group; or a `DROP DATABASE` with the current database it had
    and the database it drops (none of them part of the text). -/
inductive ProgramLine
  | use (db : String)
  | stmt (text : String) (orig : Option String) (table : String)
  | dropDb (text : String) (orig : Option String) (db : String)
  deriving DecidableEq, Repr

/-- The text of a line. -/
def ProgramLine.text : ProgramLine → String
  | .use db => "USE " ++ db ++ ";\n"
  | .stmt t _ _ | .dropDb t _ _ => t ++ ";\n"

/-- The database a statement drops: `lex->name` of a `DROP DATABASE`, which names no table. -/
def Stmt.droppedDb (lex : Stmt) : Option String :=
  if lex.command = .dropDb ∧ lex.queryTable.isNone then lex.name else none

/-- The line of a statement other than `USE` and `SET`, with the current database it had and its
    table; a `DROP DATABASE` carries the database it drops instead. -/
def Stmt.line (lex : Stmt) (t : String) (orig : Option String) (table : String) : ProgramLine :=
  match lex.droppedDb with
  | some db => .dropDb t orig db
  | none => .stmt t orig table

@[simp] theorem Stmt.line_text (lex : Stmt) (t : String) (orig : Option String) (table : String) :
    (lex.line t orig table).text = t ++ ";\n" := by
  unfold Stmt.line; split <;> rfl

/-- The characters of a program. -/
def render (p : List ProgramLine) : List Char := (p.map fun l => l.text.data).flatten

/-- The lines of `usePrefix`. -/
def useLines (cur db : String) : List ProgramLine :=
  if cur ≠ "" then [.use cur] else if db ≠ "" then [.use db] else []

/-- Whether `pushSplit` adds a group record to the last group. -/
def joinsLast (nodes : List SplitNode) (sn : SplitNode) : Bool :=
  match nodes.getLast? with
  | some last => last.sameGroup sn
  | none => false

/-- The lines an event adds to the program, given the session it comes to. -/
def SplitEvent.lines (s : Session) : SplitEvent → List ProgramLine
  | .initDb _ => []
  | .stmt text lex =>
    if lex.command = .changeDb ∨ lex.command = .setOption then []
    else
      (if joinsLast s.ctx.batch.splitNodes (splitNode s.thdDb lex) then []
        else useLines s.ctx.batch.currentUsedb (splitNode s.thdDb lex).dbName) ++
      [lex.line ⟨stripInceptionComment text.data⟩ s.thdDb (splitNode s.thdDb lex).tableName]

/-- The program a stream's groups spell. -/
def splitProgram (s : Session) : List SplitEvent → List ProgramLine
  | [] => []
  | e :: es => e.lines s ++ splitProgram (e.apply s) es

@[simp] theorem render_nil : render [] = [] := rfl

@[simp] theorem render_append (p q : List ProgramLine) : render (p ++ q) = render p ++ render q := by
  simp [render]

@[simp] theorem render_line (lex : Stmt) (t : String) (orig : Option String) (table : String) :
    render [lex.line t orig table] = t.data ++ ";\n".data := by
  simp [render]

theorem render_useLines (cur db : String) : render (useLines cur db) = (usePrefix cur db).data := by
  unfold useLines usePrefix render
  split
  · simp [ProgramLine.text]
  · split <;> simp [ProgramLine.text]

/-- The groups' texts are the blocks of a program, one block per group. -/
def GroupsSpell (nodes : List SplitNode) (p : List ProgramLine) : Prop :=
  ∃ blocks : List (List ProgramLine),
    nodes.map (fun n => n.sqlText.data) = blocks.map render ∧ blocks.flatten = p

/-- `pushSplit` adds the statement's line to the last group's block, or opens a block with it. -/
theorem pushSplit_spells {nodes : List SplitNode} {p : List ProgramLine} (h : GroupsSpell nodes p)
    (cur t : String) (sn : SplitNode) (lex : Stmt) (orig : Option String) (table : String) :
    GroupsSpell (pushSplit cur t sn nodes)
      (p ++ ((if joinsLast nodes sn then [] else useLines cur sn.dbName) ++ [lex.line t orig table])) := by
  obtain ⟨blocks, hmap, rfl⟩ := h
  rcases hl : nodes.getLast? with _ | last
  · obtain rfl := List.getLast?_eq_none_iff.1 hl
    obtain rfl : blocks = [] := List.map_eq_nil_iff.1 hmap.symm
    exact ⟨[useLines cur sn.dbName ++ [lex.line t orig table]], by simp [pushSplit, render_useLines],
      by simp [joinsLast]⟩
  · obtain ⟨ys, rfl⟩ := List.getLast?_eq_some_iff.1 hl
    rcases List.eq_nil_or_concat blocks with rfl | ⟨bs, b, rfl⟩
    · simp at hmap
    rw [List.concat_eq_append, List.map_append, List.map_append] at hmap
    obtain ⟨hys, hb⟩ := List.append_inj' hmap rfl
    simp only [List.map_cons, List.map_nil, List.cons.injEq, and_true] at hb
    simp only [pushSplit, joinsLast, hl]
    split
    · exact ⟨bs ++ [b ++ [lex.line t orig table]], by simp [hys, hb], by simp⟩
    · exact ⟨bs ++ [b] ++ [useLines cur sn.dbName ++ [lex.line t orig table]],
        by simp [hys, hb, render_useLines], by simp⟩

/-- The step lemma: an event adds its lines to the blocks. -/
theorem SplitEvent.apply_spells {s : Session} {p : List ProgramLine}
    (h : GroupsSpell s.ctx.batch.splitNodes p) (e : SplitEvent) :
    GroupsSpell (e.apply s).ctx.batch.splitNodes (p ++ e.lines s) := by
  cases e with
  | initDb db => simpa [SplitEvent.apply, SplitEvent.lines, handleUseDb] using h
  | stmt text stmt =>
    simp only [SplitEvent.apply, SplitEvent.lines, splitStatement]
    by_cases hc : stmt.command = .changeDb
    · simp only [hc, useStatement, if_true, true_or, List.append_nil]
      split <;> exact h
    · by_cases hs : stmt.command = .setOption
      · simpa [hs] using h
      · simp only [hc, hs, if_false, or_self]
        exact pushSplit_spells h _ _ _ _ _ _

/-- **Each group holds one block of the program**: after a stream, the groups' texts are, one by
    one, blocks of the program before it followed by the stream's. -/
theorem splitRun_spells (es : List SplitEvent) :
    ∀ (s : Session) (p : List ProgramLine), GroupsSpell s.ctx.batch.splitNodes p →
      GroupsSpell (splitRun s es).ctx.batch.splitNodes (p ++ splitProgram s es) := by
  induction es with
  | nil => simp [splitRun, splitProgram]
  | cons e es ih =>
    intro s p h
    simpa [splitRun, splitProgram] using ih _ _ (e.apply_spells h)

/-- The statement a line runs, if any. -/
def ProgramLine.stmtText? : ProgramLine → Option String
  | .use _ => none
  | .stmt t _ _ | .dropDb t _ _ => some t

@[simp] theorem Stmt.line_stmtText (lex : Stmt) (t : String) (orig : Option String) (table : String) :
    (lex.line t orig table).stmtText? = some t := by
  unfold Stmt.line; split <;> rfl

/-- The statement an event adds to the groups: one other than `USE` and `SET`, its leading
    comment stripped. -/
def SplitEvent.groupedText? : SplitEvent → Option String
  | .initDb _ => none
  | .stmt text lex =>
    if lex.command = .changeDb ∨ lex.command = .setOption then none
    else some ⟨stripInceptionComment text.data⟩

theorem useLines_stmtText (cur db : String) : (useLines cur db).filterMap ProgramLine.stmtText? = [] := by
  unfold useLines
  split_ifs <;> rfl

theorem SplitEvent.lines_stmtText (s : Session) (e : SplitEvent) :
    (e.lines s).filterMap ProgramLine.stmtText? = e.groupedText?.toList := by
  cases e with
  | initDb db => rfl
  | stmt text lex =>
    simp only [SplitEvent.lines, SplitEvent.groupedText?]
    split_ifs <;> simp [useLines_stmtText]

/-- The statements of a stream's program are the events' statements, in order. -/
theorem splitProgram_stmtText (es : List SplitEvent) :
    ∀ s : Session, (splitProgram s es).filterMap ProgramLine.stmtText? =
      es.filterMap SplitEvent.groupedText? := by
  induction es with
  | nil => exact fun _ => rfl
  | cons e es ih =>
    intro s
    rw [splitProgram, List.filterMap_append, SplitEvent.lines_stmtText, ih, List.filterMap_cons]
    cases e.groupedText? <;> rfl

/-! ## 3. The database each statement runs under -/

/-- `USE db`. -/
def useStmt (db : String) : Stmt :=
  { command := .changeDb, queryBlock := .mk [] [] none none [] [] 0 false (some db) }

/-- `INSERT INTO t`, or `INSERT INTO db.t`. -/
def insertT (db : Option String) : Stmt := { command := .insert, queryTables := [.base db "t"] }

/-- A split-mode session just started. -/
def splitSession : Session := { ctx := { active := true, opts := { mode := .split } } }

/-- `USE b; INSERT INTO a.t VALUES(1); USE a; INSERT INTO t VALUES(2)`. -/
def qualifiedStream : List SplitEvent :=
  [.stmt "USE b" (useStmt "b"), .stmt "INSERT INTO a.t VALUES(1)" (insertT (some "a")),
   .stmt "USE a" (useStmt "a"), .stmt "INSERT INTO t VALUES(2)" (insertT none)]

end Inception
