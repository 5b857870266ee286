import Inception.Session.Registry
import Inception.Session.Commit
import Inception.Session.Probes
import Inception.Exec.Progress

/-!
# System — the server's sessions, interleaved

The server runs a thread per connection.  Each thread's hooks act on its own context, except
`handle_inception_command`, which reaches the other sessions through the map (`Registry`); and a
commit in execute mode runs `execute_statements` on its thread while the other threads go on, so
their `kill` and `set sleep` reach it in mid-run.  The system (§1) steps one thread at a time, in
any order: a new connection, a statement, a `COM_INIT_DB`, a step of a running engine, the rest of
a commit once its engine has returned, the end of a connection.

Every state any interleaving reaches shows each connection in a state that its own session's model
reaches (§2): by the requests of `handleRequest` (the other sessions' admin commands coming as
`Request.admin`) and, inside a commit, by the moves of `ExecStep`.  What the per-session model
proves then holds of every connection of the interleaved server (§3): an idle session holds no
remote thread id, so a forced kill sends `KILL` only to a commit in progress; and the commit a
thread finishes is the per-session model's `doInceptionCommit` under the moves its engine took.
-/

namespace Inception

/-! ## 1. The system -/

/-- What the server hands a connection's thread: a new connection (its id and initial database), a
    statement (its text and what the parser makes of it), a `COM_INIT_DB`, one step of the engine
    of a running commit (with the world's reply), the rest of a commit whose engine has returned,
    the end of the connection. -/
inductive SysEvent
  | connect (tid : Nat) (db : Option String)
  | query (tid : Nat) (text : String) (parsed : Except String Stmt)
  | initDb (tid : Nat) (db : String)
  | engine (tid : Nat) (r : Reply)
  | finish (tid : Nat)
  | disconnect (tid : Nat)

/-- The thread an event is handed to. -/
def SysEvent.tid : SysEvent → Nat
  | .connect t _ | .query t _ _ | .initDb t _ | .engine t _ | .finish t | .disconnect t => t

/-- What a thread sends back: what the session's hooks answer, or an admin command's answer and the
    `KILL` of a forced kill. -/
inductive SysReply
  | hooks (out : Outcome)
  | admin (reply : AdminReply) (kill : Option RemoteQuery)

/-- Whether a request is a commit that starts `execute_statements`: a commit marker, on an active
    session in execute mode. -/
def Request.beginsExecution (s : Session) : Request → Bool
  | .query text _ => isInceptionCommit text && s.ctx.active && decide (s.ctx.opts.mode = .execute)
  | _ => false

/-- The branch `before_parse` takes. -/
inductive ParseHook
  | commit
  | startFailed (s : Session)
  | admin (s : Session) (cmd : AdminCommand)
  | parser (s : Session)

/-- `before_parse`'s tests in its order: a commit marker; a start marker, which sets the session up
    and may fail; an admin command (`handle_inception_command`); else the parser runs. -/
def classifyQuery (env : SessionEnv) (s : Session) (q : String) : ParseHook :=
  if isInceptionCommit q then .commit
  else
    let r := if isInceptionStart q then setupInceptionSession env s.ctx q else (false, s.ctx)
    let s := { s with ctx := r.2 }
    if r.1 then .startFailed s
    else match parseInceptionCommand q.data with
      | some cmd => .admin s cmd
      | none => .parser s

/-- The connection of a thread in a new phase. -/
def setPhase (tid : Nat) (p : Phase) (reg : List Conn) : List Conn :=
  reg.map fun c => if c.tid = tid then { c with phase := p } else c

/-- A statement on an idle session: a commit in execute mode starts its engine, an admin command
    runs on the map, and the session's own hooks handle anything else. -/
def sysQuery (env : SessionEnv) (reg : List Conn) (s : Session) (text : String)
    (parsed : Except String Stmt) : List Conn × Option SysReply :=
  if (Request.query text parsed).beginsExecution s then
    (setPhase env.threadId (.running s.thdDb (.init s.ctx env.threadId)) reg, none)
  else match classifyQuery env s text with
    | .admin s' cmd =>
      let a := handleInceptionCommand env (setPhase env.threadId (.idle s') reg) cmd
      (a.1, some (.admin a.2.1 a.2.2))
    | _ =>
      let p := handleRequest env s (.query text parsed)
      (setPhase env.threadId (.idle p.1) reg, some (.hooks p.2))

/-- One step of the server: the event's thread acts, when it is in a state to take the event.  A
    new connection's context is `get_context`'s default; the commit's rest sends the records, as
    `do_inception_commit` does after `execute_statements`, and resets the context. -/
def sysStep (env : SessionEnv) (reg : List Conn) : SysEvent → Option (List Conn × Option SysReply)
  | .connect tid db =>
    if reg.any (·.tid = tid) then none else some (reg ++ [⟨tid, .idle { thdDb := db }⟩], none)
  | .query tid text parsed =>
    match lookupConn tid reg with
    | some (.idle s) => some (sysQuery (env.onThread tid) reg s text parsed)
    | _ => none
  | .initDb tid db =>
    match lookupConn tid reg with
    | some (.idle s) =>
      let p := handleRequest (env.onThread tid) s (.initDb db)
      some (setPhase tid (.idle p.1) reg, some (.hooks p.2))
    | _ => none
  | .engine tid r =>
    match lookupConn tid reg with
    | some (.running db e) => some (setPhase tid (.running db (step e r)) reg, none)
    | _ => none
  | .finish tid =>
    match lookupConn tid reg with
    | some (.running db e) =>
      match e.pc with
      | .returned _ =>
        some (setPhase tid (.idle { ctx := e.ctx.reset, thdDb := db }) reg,
          some (.hooks { reply := .results (e.handled ++ e.todo), exec := some e }))
      | _ => none
    | _ => none
  | .disconnect tid =>
    match lookupConn tid reg with
    | some (.idle _) => some (destroyContext tid reg, none)
    | _ => none

/-- The maps the server reaches from no connection, under every interleaving of its threads. -/
inductive SysReachable (env : SessionEnv) : List Conn → Prop
  | empty : SysReachable env []
  | step {reg reg' : List Conn} {ev : SysEvent} {out : Option SysReply} :
      SysReachable env reg → sysStep env reg ev = some (reg', out) → SysReachable env reg'

/-- What one connection's own model lets it do: a request its hooks handle, other than a commit
    that starts `execute_statements`; the start of that commit's engine; a step of the engine, or a
    kill or `set sleep` of another session (`ExecStep`); and the rest of the commit once the engine
    has returned. -/
inductive LocalMove (env : SessionEnv) : Phase → Phase → Prop
  | request (s : Session) (r : Request) (h : r.beginsExecution s = false) :
      LocalMove env (.idle s) (.idle (handleRequest env s r).1)
  | begin (s : Session) (r : Request) (h : r.beginsExecution s = true) :
      LocalMove env (.idle s) (.running s.thdDb (.init s.ctx env.threadId))
  | exec (db : Option String) {e e' : ExecState} (h : ExecStep e e') :
      LocalMove env (.running db e) (.running db e')
  | finish (db : Option String) (e : ExecState) (x : ExecExit) (h : e.pc = .returned x) :
      LocalMove env (.running db e) (.idle { ctx := e.ctx.reset, thdDb := db })

/-! ## 2. Every interleaving, connection by connection -/

section Hooks

variable {env : SessionEnv} {s s' : Session} {q : String} {cmd : AdminCommand}

/-- Reaching an admin command, `before_parse` runs it as `applyAdmin` on the session set up so
    far. -/
theorem beforeParse_of_admin (h : classifyQuery env s q = .admin s' cmd) :
    beforeParse env s q =
      ({ s' with ctx := (applyAdmin env.threadId cmd s'.ctx).1 },
        some (applyAdmin env.threadId cmd s'.ctx).2) := by
  simp only [classifyQuery] at h
  simp only [beforeParse]
  by_cases hc : isInceptionCommit q = true
  · rw [if_pos hc] at h; cases h
  rw [if_neg hc] at h ⊢
  generalize (if isInceptionStart q then setupInceptionSession env s.ctx q else (false, s.ctx)) = r
    at h ⊢
  by_cases hr : r.1 = true
  · rw [if_pos hr] at h; cases h
  rw [if_neg hr] at h ⊢
  rcases hp : parseInceptionCommand q.data with _ | cmd' <;> rw [hp] at h <;> cases h
  rfl

/-- So the statement is, to the issuing session, the request `Request.admin` on that session. -/
theorem handleRequest_of_admin (h : classifyQuery env s q = .admin s' cmd)
    (parsed : Except String Stmt) :
    handleRequest env s (.query q parsed) = handleRequest env s' (.admin cmd) := by
  simp only [handleRequest, beforeParse_of_admin h]

/-- The command is the one the text names, and the session it runs on is the issuing one, set up
    by a start marker or as it was. -/
theorem classifyQuery_admin (h : classifyQuery env s q = .admin s' cmd) :
    isInceptionCommit q = false ∧ parseInceptionCommand q.data = some cmd ∧ s'.thdDb = s.thdDb ∧
      (s'.ctx = s.ctx ∨ s'.ctx = (setupInceptionSession env s.ctx q).2) := by
  simp only [classifyQuery] at h
  by_cases hc : isInceptionCommit q = true
  · rw [if_pos hc] at h; cases h
  rw [if_neg hc] at h
  have hs : (if isInceptionStart q then setupInceptionSession env s.ctx q else (false, s.ctx)).2 =
      s.ctx ∨ (if isInceptionStart q then setupInceptionSession env s.ctx q else (false, s.ctx)).2 =
        (setupInceptionSession env s.ctx q).2 := by
    split <;> simp
  generalize (if isInceptionStart q then setupInceptionSession env s.ctx q else (false, s.ctx)) = r
    at h hs
  by_cases hr : r.1 = true
  · rw [if_pos hr] at h; cases h
  rw [if_neg hr] at h
  rcases hp : parseInceptionCommand q.data with _ | cmd' <;> rw [hp] at h <;> cases h
  exact ⟨by simpa using hc, rfl, rfl, hs⟩

/-- An admin request is never a commit. -/
@[simp] theorem Request.beginsExecution_admin (s : Session) (cmd : AdminCommand) :
    (Request.admin cmd).beginsExecution s = false := rfl

@[simp] theorem Request.beginsExecution_initDb (s : Session) (db : String) :
    (Request.initDb db).beginsExecution s = false := rfl

end Hooks

section Map

variable {tid t : Nat} {p : Phase} {reg : List Conn}

theorem lookupConn_setPhase (p' : Phase) :
    ∀ reg : List Conn, lookupConn t (setPhase tid p' reg) =
      if t = tid then (lookupConn t reg).map fun _ => p' else lookupConn t reg
  | [] => by simp [lookupConn, setPhase]
  | c :: cs => by
    have ih := lookupConn_setPhase p' cs
    simp only [setPhase, List.map_cons] at ih ⊢
    by_cases ht : t = tid
    · subst ht
      by_cases hc : c.tid = t <;> simp_all [lookupConn]
    · by_cases hc : c.tid = tid
      · have hct : c.tid ≠ t := fun h => ht (h ▸ hc)
        simp_all [lookupConn]
      · by_cases hct : c.tid = t <;> simp_all [lookupConn]

@[simp] theorem map_tid_setPhase (reg : List Conn) :
    (setPhase tid p reg).map Conn.tid = reg.map Conn.tid := by
  simp only [setPhase, List.map_map]
  exact List.map_congr_left fun c _ => by by_cases h : c.tid = tid <;> simp [h]

theorem mem_setPhase {c : Conn} (h : c ∈ setPhase tid p reg) :
    ∃ c₀ ∈ reg, (c₀.tid = tid ∧ c = { c₀ with phase := p }) ∨ (c₀.tid ≠ tid ∧ c = c₀) := by
  obtain ⟨c₀, hc₀, rfl⟩ := List.mem_map.mp h
  refine ⟨c₀, hc₀, ?_⟩
  by_cases h : c₀.tid = tid
  · exact .inl ⟨h, by simp [h]⟩
  · exact .inr ⟨h, by simp [h]⟩

theorem mem_adminAll {env : SessionEnv} {cmd : AdminCommand} {c : Conn}
    (h : c ∈ adminAll env cmd reg) :
    ∃ c₀ ∈ reg, c = { c₀ with phase := c₀.phase.admin (env.onThread c₀.tid) cmd } := by
  obtain ⟨c₀, hc₀, rfl⟩ := List.mem_map.mp h
  exact ⟨c₀, hc₀, rfl⟩

end Map

/-- An admin command moves each connection by its own model, or leaves it as it is. -/
theorem Phase.admin_localMove (env : SessionEnv) (cmd : AdminCommand) (p : Phase) :
    Relation.ReflGen (LocalMove env) p (p.admin env cmd) := by
  cases p with
  | idle s => exact .single (.request s (.admin cmd) rfl)
  | running db e =>
    simp only [Phase.admin]
    split
    · split
      · exact .single (.exec db (.kill e))
      · exact .refl
    · split
      · exact .single (.exec db (.setSleep e _))
      · exact .refl
    · exact .refl

/-- The invariant of the map: distinct thread ids, and each connection where its own model can
    take a new session. -/
def SysOk (env : SessionEnv) (reg : List Conn) : Prop :=
  (reg.map Conn.tid).Nodup ∧
    ∀ c ∈ reg, ∃ db, Relation.ReflTransGen (LocalMove (env.onThread c.tid)) (.idle { thdDb := db })
      c.phase

section Step

variable {env : SessionEnv} {reg reg' : List Conn}

/-- A map with the same threads, each connection moved at most one step of its own model. -/
theorem SysOk.of_moves (h : SysOk env reg) (hmap : reg'.map Conn.tid = reg.map Conn.tid)
    (hc : ∀ c' ∈ reg', ∃ c ∈ reg, c.tid = c'.tid ∧
      Relation.ReflGen (LocalMove (env.onThread c.tid)) c.phase c'.phase) : SysOk env reg' := by
  refine ⟨hmap ▸ h.1, fun c' hc' => ?_⟩
  obtain ⟨c, hcm, ht, hm⟩ := hc c' hc'
  obtain ⟨db, hr⟩ := h.2 c hcm
  exact ⟨db, ht ▸ hr.trans hm.to_reflTransGen⟩

/-- The connection of a thread moved one step of its own model. -/
theorem SysOk.of_move {tid : Nat} {p p' : Phase} (h : SysOk env reg)
    (hl : lookupConn tid reg = some p) (hm : LocalMove (env.onThread tid) p p') :
    SysOk env (setPhase tid p' reg) := by
  refine h.of_moves (map_tid_setPhase reg) fun c' hc' => ?_
  obtain ⟨c, hc, ⟨rfl, he⟩ | ⟨-, he⟩⟩ := mem_setPhase hc' <;> subst he
  · refine ⟨c, hc, rfl, ?_⟩
    rw [lookupConn_of_mem h.1 hc] at hl
    exact Option.some.inj hl ▸ .single hm
  · exact ⟨_, hc, rfl, .refl⟩

/-- An admin statement: the issuing session handles its statement, every connection takes the
    command as its own model says. -/
theorem SysOk.admin {tid : Nat} {s s' : Session} {text : String} {cmd : AdminCommand}
    (parsed : Except String Stmt) (h : SysOk env reg) (hl : lookupConn tid reg = some (.idle s))
    (hq : classifyQuery (env.onThread tid) s text = .admin s' cmd) :
    SysOk env (adminAll env cmd (setPhase tid (.idle s') reg)) := by
  refine h.of_moves (by simp) fun c' hc' => ?_
  obtain ⟨c₁, hc₁, rfl⟩ := mem_adminAll hc'
  obtain ⟨c, hc, ⟨rfl, he⟩ | ⟨-, he⟩⟩ := mem_setPhase hc₁ <;> subst he
  · refine ⟨c, hc, rfl, ?_⟩
    rw [lookupConn_of_mem h.1 hc, Option.some.injEq] at hl
    rw [hl]
    show Relation.ReflGen _ _ (.idle (handleRequest (env.onThread c.tid) s' (.admin cmd)).1)
    rw [← handleRequest_of_admin hq parsed]
    exact .single (.request s _ (by simp [Request.beginsExecution, (classifyQuery_admin hq).1]))
  · exact ⟨_, hc, rfl, Phase.admin_localMove _ _ _⟩

@[simp] theorem SessionEnv.onThread_onThread (a b : Nat) :
    (env.onThread a).onThread b = env.onThread b := rfl

/-- **What a step of the server can do.**  A new thread joins as a new session; the event's
    thread takes one move of its own model and answers no admin command; an admin statement runs
    its command on the map, the issuing session set up first; or a thread leaves. -/
theorem sysStep_cases {ev : SysEvent} {out : Option SysReply}
    (hs : sysStep env reg ev = some (reg', out)) :
    (∃ db, ev = .connect ev.tid db ∧ ev.tid ∉ reg.map Conn.tid ∧
        reg' = reg ++ [⟨ev.tid, .idle { thdDb := db }⟩] ∧ out = none) ∨
    (∃ p p', lookupConn ev.tid reg = some p ∧ LocalMove (env.onThread ev.tid) p p' ∧
        reg' = setPhase ev.tid p' reg ∧ ∀ r k, out ≠ some (.admin r k)) ∨
    (∃ text parsed s s' cmd, ev = .query ev.tid text parsed ∧ lookupConn ev.tid reg = some (.idle s) ∧
        classifyQuery (env.onThread ev.tid) s text = .admin s' cmd ∧
        reg' = (handleInceptionCommand (env.onThread ev.tid) (setPhase ev.tid (.idle s') reg) cmd).1 ∧
        out = some (.admin
          (handleInceptionCommand (env.onThread ev.tid) (setPhase ev.tid (.idle s') reg) cmd).2.1
          (handleInceptionCommand (env.onThread ev.tid) (setPhase ev.tid (.idle s') reg) cmd).2.2)) ∨
    (ev = .disconnect ev.tid ∧ reg' = destroyContext ev.tid reg ∧ out = none) := by
  cases ev with
  | connect tid db =>
    simp only [sysStep] at hs
    split at hs
    · cases hs
    next hfresh =>
      cases hs
      exact .inl ⟨db, rfl, by simpa using hfresh, rfl, rfl⟩
  | query tid text parsed =>
    simp only [sysStep] at hs
    split at hs
    next s hl =>
      have hq := Option.some.inj hs
      simp only [sysQuery] at hq
      split at hq
      next hb =>
        cases hq
        exact .inr (.inl ⟨_, _, hl, .begin s _ hb, rfl, by simp⟩)
      next hb =>
        split at hq
        next s' cmd hc =>
          cases hq
          exact .inr (.inr (.inl ⟨text, parsed, s, s', cmd, rfl, hl, hc, rfl, rfl⟩))
        · cases hq
          exact .inr (.inl ⟨_, _, hl, .request s _ (by simpa using hb), rfl, by simp⟩)
    · cases hs
  | initDb tid db =>
    simp only [sysStep] at hs
    split at hs
    next s hl =>
      cases hs
      exact .inr (.inl ⟨_, _, hl, .request s (.initDb db) rfl, rfl, by simp⟩)
    · cases hs
  | engine tid r =>
    simp only [sysStep] at hs
    split at hs
    next db e hl =>
      cases hs
      exact .inr (.inl ⟨_, _, hl, .exec db (.engine e r), rfl, by simp⟩)
    · cases hs
  | finish tid =>
    simp only [sysStep] at hs
    split at hs
    next db e hl =>
      split at hs
      next x hpc =>
        cases hs
        exact .inr (.inl ⟨_, _, hl, .finish db e x hpc, rfl, by simp⟩)
      · cases hs
    · cases hs
  | disconnect tid =>
    simp only [sysStep] at hs
    split at hs
    · cases hs
      exact .inr (.inr (.inr ⟨rfl, rfl, rfl⟩))
    · cases hs

/-- **Each step of the server keeps the invariant.** -/
theorem SysOk.step (h : SysOk env reg) {ev : SysEvent} {out : Option SysReply}
    (hs : sysStep env reg ev = some (reg', out)) : SysOk env reg' := by
  rcases sysStep_cases hs with ⟨db, -, hnew, rfl, -⟩ | ⟨p, p', hl, hm, rfl, -⟩ |
    ⟨text, parsed, s, s', cmd, -, hl, hc, rfl, -⟩ | ⟨-, rfl, -⟩
  · refine ⟨by simpa [List.nodup_append, hnew] using h.1, fun c hc => ?_⟩
    rcases List.mem_append.mp hc with hc | hc
    · exact h.2 c hc
    · rw [List.mem_singleton] at hc
      exact hc ▸ ⟨db, .refl⟩
  · exact h.of_move hl hm
  · rw [handleInceptionCommand_adminAll _ _ (by simpa using h.1)]
    exact h.admin parsed hl hc
  · exact ⟨h.1.sublist ((List.filter_sublist reg).map Conn.tid),
      fun c hc => h.2 c (List.mem_filter.mp hc).1⟩

end Step

/-- Every map the server reaches has the invariant. -/
theorem SysReachable.sysOk {env : SessionEnv} {reg : List Conn} (h : SysReachable env reg) :
    SysOk env reg := by
  induction h with
  | empty => exact ⟨List.nodup_nil, fun _ h => nomatch h⟩
  | step _ hs ih => exact ih.step hs

/-- The map after a sequence of events, each taken in turn. -/
def sysRun (env : SessionEnv) : List Conn → List SysEvent → Option (List Conn)
  | reg, [] => some reg
  | reg, ev :: evs => (sysStep env reg ev).bind fun r => sysRun env r.1 evs

theorem SysReachable.run {env : SessionEnv} :
    ∀ {reg reg' : List Conn} {evs : List SysEvent}, SysReachable env reg →
      sysRun env reg evs = some reg' → SysReachable env reg'
  | _, _, [], h, hr => Option.some.inj hr ▸ h
  | reg, _, ev :: evs, h, hr => by
    simp only [sysRun, Option.bind_eq_some] at hr
    obtain ⟨⟨reg₁, out⟩, hs, hr⟩ := hr
    exact SysReachable.run (h.step hs) hr

/-- A start marker for an execute-mode batch on host `h`. -/
def executeStart : String := "/*--host=h;--enable-execute=1;inception_magic_start;*/"

/-- Thread 1 starts an execute-mode batch, caches a statement that fails to parse, and commits; the
    remote accepts the engine's connection as thread 42, and the pre-scan blocks the batch on the
    parse error.  Thread 2 is idle. -/
def blockedRun : List SysEvent :=
  [.connect 1 none, .connect 2 none, .query 1 executeStart (.ok { command := .emptyQuery }),
   .query 1 "INSRT INTO t VALUES (1)" (.error "syntax error"),
   .query 1 "/*inception_magic_commit*/" (.ok { command := .emptyQuery }),
   .engine 1 { connect := .ok 42 }]

/-- The map after `blockedRun`. -/
def blockedReg : List Conn := (sysRun offlineEnv [] blockedRun).getD []

theorem blockedReg_reachable : SysReachable offlineEnv blockedReg :=
  have hr : sysRun offlineEnv [] blockedRun = some blockedReg := rfl
  SysReachable.empty.run hr

/-- The map thread 2's forced kill of thread 1 leaves. -/
def killedReg : List Conn :=
  ((sysStep offlineEnv blockedReg (.query 2 "inception kill 1 force" (.error ""))).map Prod.fst).getD []

/-- **The interleaved server refines each session's own model.**  In every map any interleaving
    of the threads reaches, the thread ids are distinct, and the connection of each thread is in a
    state that its own session's model reaches from a new session: by requests to its hooks (the
    admin commands of the others coming as `Request.admin`), the start of a commit's engine, the
    engine's steps and the other sessions' kills and `set sleep`s (`ExecStep`), and the rest of
    the commit. -/
theorem system_refines_sessions {env : SessionEnv} {reg : List Conn} (h : SysReachable env reg) :
    (reg.map Conn.tid).Nodup ∧ ∀ tid p, lookupConn tid reg = some p →
      ∃ db, Relation.ReflTransGen (LocalMove (env.onThread tid)) (.idle { thdDb := db }) p := by
  obtain ⟨hnd, hc⟩ := h.sysOk
  refine ⟨hnd, fun tid p hl => ?_⟩
  obtain ⟨c, hcm, rfl, rfl⟩ := lookupConn_some hl
  exact hc c hcm

theorem system_refines_sessions_blocked :
    SysReachable offlineEnv blockedReg ∧ ((blockedReg.map Conn.tid).Nodup ∧
      ∀ tid p, lookupConn tid blockedReg = some p →
        ∃ db, Relation.ReflTransGen (LocalMove (offlineEnv.onThread tid)) (.idle { thdDb := db }) p) :=
  ⟨blockedReg_reachable, system_refines_sessions blockedReg_reachable⟩

theorem lookupConn_append_of_some {t : Nat} {p : Phase} (l : List Conn) :
    ∀ {reg : List Conn}, lookupConn t reg = some p → lookupConn t (reg ++ l) = some p
  | [], h => nomatch h
  | c :: cs, h => by
    simp only [lookupConn, List.cons_append] at h ⊢
    split
    · simpa [*] using h
    · simp only [*, if_false] at h
      exact lookupConn_append_of_some l h

theorem lookupConn_destroyContext {t tid : Nat} (hne : t ≠ tid) :
    ∀ reg : List Conn, lookupConn t (destroyContext tid reg) = lookupConn t reg
  | [] => rfl
  | c :: cs => by
    have ih := lookupConn_destroyContext hne cs
    unfold destroyContext at ih ⊢
    rw [List.filter_cons]
    by_cases hc : c.tid = tid
    · have hct : c.tid ≠ t := fun h => hne (h ▸ hc)
      rw [if_neg (by simpa using hc), ih]
      simp [lookupConn, hct]
    · rw [if_pos (by simpa using hc)]
      simp only [lookupConn]
      rw [ih]

/-- **A thread changes another session only by naming it.**  In every map the server reaches, a
    step of one thread leaves the connection of every other thread as it was, except an admin
    statement whose `inception kill` or `inception set sleep` names that thread: it moves that
    connection as the connection's own model takes the command. -/
theorem other_sessions_isolated {env : SessionEnv} {reg reg' : List Conn} {ev : SysEvent}
    {out : Option SysReply} (h : SysReachable env reg) (hs : sysStep env reg ev = some (reg', out))
    {c : Conn} (hc : c ∈ reg) (hne : c.tid ≠ ev.tid) :
    lookupConn c.tid reg' = some c.phase ∨
      ∃ text parsed cmd, ev = .query ev.tid text parsed ∧ parseInceptionCommand text.data = some cmd ∧
        cmd.target = some c.tid ∧
        lookupConn c.tid reg' = some (c.phase.admin (env.onThread c.tid) cmd) := by
  have hnd := h.sysOk.1
  have hl := lookupConn_of_mem hnd hc
  rcases sysStep_cases hs with ⟨db, -, -, rfl, -⟩ | ⟨p, p', -, -, rfl, -⟩ |
    ⟨text, parsed, s, s', cmd, hev, -, hcq, rfl, -⟩ | ⟨-, rfl, -⟩
  · exact .inl (lookupConn_append_of_some _ hl)
  · exact .inl (by rw [lookupConn_setPhase, if_neg hne, hl])
  · rw [handleInceptionCommand_adminAll _ _ (by simpa using hnd), lookupConn_adminAll,
      lookupConn_setPhase, if_neg hne, hl, Option.map_some', SessionEnv.onThread_onThread]
    by_cases ht : cmd.target = some c.tid
    · exact .inr ⟨text, parsed, cmd, hev, (classifyQuery_admin hcq).2.1, ht, rfl⟩
    · exact .inl (by rw [Phase.admin_of_target_ne _ _ (by simpa using ht)])
  · exact .inl (by rw [lookupConn_destroyContext hne, hl])

/-- Thread 1's connection in `blockedReg`. -/
def blockedConn : Conn := blockedReg.head?.getD ⟨0, .idle {}⟩

/-- Thread 2's kill names thread 1, which it moves by the `kill` move of its engine. -/
theorem other_sessions_isolated_kill :
    SysReachable offlineEnv blockedReg ∧
      sysStep offlineEnv blockedReg (.query 2 "inception kill 1 force" (.error "")) =
        some (killedReg, some (.admin .ok (some (.killThread 42)))) ∧
      blockedConn ∈ blockedReg ∧
      blockedConn.tid ≠ (SysEvent.query 2 "inception kill 1 force" (.error "")).tid ∧
      (lookupConn blockedConn.tid killedReg = some blockedConn.phase ∨
        ∃ text parsed cmd, SysEvent.query 2 "inception kill 1 force" (.error "") =
            .query (SysEvent.query 2 "inception kill 1 force" (.error "")).tid text parsed ∧
          parseInceptionCommand text.data = some cmd ∧ cmd.target = some blockedConn.tid ∧
          lookupConn blockedConn.tid killedReg =
            some (blockedConn.phase.admin (offlineEnv.onThread blockedConn.tid) cmd)) :=
  have hs : sysStep offlineEnv blockedReg (.query 2 "inception kill 1 force" (.error "")) =
      some (killedReg, some (.admin .ok (some (.killThread 42)))) := rfl
  have hc : blockedConn ∈ blockedReg := List.mem_of_mem_head? rfl
  have hne : blockedConn.tid ≠ (SysEvent.query 2 "inception kill 1 force" (.error "")).tid := by
    decide
  ⟨blockedReg_reachable, hs, hc, hne, other_sessions_isolated blockedReg_reachable hs hc hne⟩

/-! ## 3. What every connection keeps -/

section ThreadId

variable (env : SessionEnv) {s : Session}

/-- An admin command touches `killed` or `sleep_ms` only. -/
theorem applyAdmin_threadId (tid : Nat) (cmd : AdminCommand) (ctx : InceptionContext) :
    (applyAdmin tid cmd ctx).1.remoteExecThreadId = ctx.remoteExecThreadId := by
  rcases applyAdmin_eq_or_active tid cmd ctx with h | _
  · rw [h]
  · cases cmd with
    | kill t force =>
      simp only [applyAdmin, killSession]
      split_ifs <;> rfl
    | setSleep t ms =>
      simp only [applyAdmin]
      split_ifs <;> rfl
    | _ => rfl

theorem doInceptionCommit_threadId (h : s.ctx.remoteExecThreadId = 0) :
    (doInceptionCommit env s).1.ctx.remoteExecThreadId = 0 := by
  simp only [doInceptionCommit]
  split
  · exact h
  · split <;> rfl

theorem beforeParse_threadId (h : s.ctx.remoteExecThreadId = 0) (q : String) :
    (beforeParse env s q).1.ctx.remoteExecThreadId = 0 := by
  simp only [beforeParse]
  split
  · exact doInceptionCommit_threadId env h
  have hset : (if isInceptionStart q then setupInceptionSession env s.ctx q
      else (false, s.ctx)).2.remoteExecThreadId = 0 := by
    split
    · exact (setupInceptionSession_fresh env s.ctx q).2.1
    · exact h
  generalize (if isInceptionStart q then setupInceptionSession env s.ctx q
    else (false, s.ctx)) = r at hset ⊢
  split
  · exact hset
  · split
    · exact (applyAdmin_threadId _ _ _).trans hset
    · exact hset

/-- An intercepted statement leaves `remote_exec_thread_id` as it was: no mode's handler writes
    it. -/
theorem interceptStatement_threadId (text : String) (stmt : Stmt) :
    ∀ s', interceptStatement env s text stmt = some s' →
      s'.ctx.remoteExecThreadId = s.ctx.remoteExecThreadId := by
  simp only [interceptStatement]
  split
  · simp
  split
  · simp
  split
  · simp
  rintro _ ⟨⟩
  split
  · simp only [splitStatement, useStatement]
    split
    · split <;> rfl
    · split <;> rfl
  · simp only [treeStatement, useStatement]
    split
    · split <;> rfl
    · split
      · rfl
      · exact (congrArg InceptionContext.remoteExecThreadId (extractQueryTree_frame Forbidden.nothing
          (env.remote s.ctx.opts) s.thdDb stmt
          { s.ctx with batch := { s.ctx.batch with nextId := s.ctx.batch.nextId + 1 } }).1 :)
  · exact (congrArg InceptionContext.remoteExecThreadId (auditStatement_frame Forbidden.nothing
      (env.auditEnv s) stmt
      { node := (s.ctx.addSql ⟨stripInceptionComment text.data⟩ stmt.command).2,
        ctx := (s.ctx.addSql ⟨stripInceptionComment text.data⟩ stmt.command).1 } fun _ => rfl).1 :)

/-- **No request leaves a remote thread id behind**: `execute_statements` alone stores one, and a
    commit resets the context after it. -/
theorem handleRequest_threadId (h : s.ctx.remoteExecThreadId = 0) (r : Request) :
    (handleRequest env s r).1.ctx.remoteExecThreadId = 0 := by
  cases r with
  | query text parsed =>
    have hb := beforeParse_threadId env h text
    rcases hbp : beforeParse env s text with ⟨s₁, _ | out⟩ <;> rw [hbp] at hb
    · cases parsed with
      | error msg =>
        rcases hp : handleParseError s₁ text msg with _ | s₂ <;> simp only [handleRequest, hbp, hp]
        · exact hb
        · simp only [handleParseError] at hp
          split at hp
          · cases hp
          · cases hp; exact hb
      | ok stmt =>
        rcases hi : interceptStatement env s₁ text stmt with _ | s₂ <;>
          simp only [handleRequest, hbp, hi]
        · rw [serverExecute_ctx]; exact hb
        · exact (interceptStatement_threadId env text stmt s₂ hi).trans hb
    · simpa only [handleRequest, hbp] using hb
  | initDb db => exact h
  | admin cmd => exact (applyAdmin_threadId _ _ _).trans h

end ThreadId

/-- What a connection's own model keeps: an idle session holds no remote thread id; a running
    engine is a run, under some moves, of `execute_statements` on an active execute-mode session
    whose current database the connection keeps. -/
def PhaseOk (env : SessionEnv) : Phase → Prop
  | .idle s => s.ctx.remoteExecThreadId = 0
  | .running db e => ∃ (s : Session) (ms : List ExecMove), s.thdDb = db ∧ s.ctx.active = true ∧
      s.ctx.opts.mode = .execute ∧ e = runMoves (.init s.ctx env.threadId) ms

theorem runMoves_append (m : ExecMove) :
    ∀ (s : ExecState) (ms : List ExecMove), runMoves s (ms ++ [m]) = m.apply (runMoves s ms)
  | _, [] => rfl
  | s, m' :: ms => runMoves_append m (m'.apply s) ms

/-- A step of the system is a move. -/
theorem ExecStep.exists_move {e e' : ExecState} (h : ExecStep e e') : ∃ m : ExecMove, e' = m.apply e := by
  cases h with
  | engine r => exact ⟨.engine r, rfl⟩
  | kill => exact ⟨.kill, rfl⟩
  | setSleep ms => exact ⟨.setSleep ms, rfl⟩

/-- Each move of a connection's own model keeps `PhaseOk`. -/
theorem LocalMove.phaseOk {env : SessionEnv} {p p' : Phase} (hm : LocalMove env p p')
    (h : PhaseOk env p) : PhaseOk env p' := by
  cases hm with
  | request s r _ => exact handleRequest_threadId env h r
  | begin s r hb =>
    cases r with
    | query text parsed =>
      simp only [Request.beginsExecution, Bool.and_eq_true, decide_eq_true_eq] at hb
      exact ⟨s, [], rfl, hb.1.2, hb.2, rfl⟩
    | _ => cases hb
  | exec db hs =>
    obtain ⟨s, ms, hdb, ha, hmode, rfl⟩ := h
    obtain ⟨m, rfl⟩ := hs.exists_move
    exact ⟨s, ms ++ [m], hdb, ha, hmode, (runMoves_append m _ ms).symm⟩
  | finish db e x _ => rfl

/-- The run lemma: what a connection's own model reaches from a new session keeps `PhaseOk`. -/
theorem LocalMove.reach_phaseOk {env : SessionEnv} {db : Option String} {p : Phase}
    (h : Relation.ReflTransGen (LocalMove env) (.idle { thdDb := db }) p) : PhaseOk env p := by
  induction h with
  | refl => rfl
  | tail _ hm ih => exact hm.phaseOk ih

/-- Every connection of every map the server reaches keeps `PhaseOk`. -/
theorem SysReachable.phaseOk {env : SessionEnv} {reg : List Conn} (h : SysReachable env reg) :
    ∀ c ∈ reg, PhaseOk (env.onThread c.tid) c.phase := fun c hc =>
  (h.sysOk.2 c hc).elim fun _ hr => LocalMove.reach_phaseOk hr

/-- **A forced kill sends `KILL` only to a commit in progress.**  In every map the server reaches,
    when a statement of thread `u` is a forced `inception kill` that sends `KILL` on a connection
    of its own, the thread it kills is the remote thread of another connection, one that is inside
    a commit (running `execute_statements`, or returned from it and not yet reset), and it is the
    remote thread id that connection's engine holds.  An idle session never holds one. -/
theorem force_kill_targets_running {env : SessionEnv} {reg reg' : List Conn} {u : Nat}
    {text : String} {parsed : Except String Stmt} {reply : AdminReply} {q : RemoteQuery}
    (h : SysReachable env reg)
    (hs : sysStep env reg (.query u text parsed) = some (reg', some (.admin reply (some q)))) :
    ∃ c ∈ reg, c.tid ≠ u ∧ ∃ db e, c.phase = .running db e ∧ 0 < e.ctx.remoteExecThreadId ∧
      q = .killThread e.ctx.remoteExecThreadId := by
  have hok := h.phaseOk
  rcases sysStep_cases hs with ⟨_, ⟨⟩, -⟩ | ⟨-, -, -, -, -, hout⟩ |
    ⟨text, parsed, s, s', cmd, -, hl, hc, -, hout⟩ | ⟨⟨⟩, -⟩
  · exact absurd rfl (hout reply (some q))
  simp only [Option.some.injEq, SysReply.admin.injEq] at hout
  have hk := hout.2.symm
  cases cmd with
  | kill tid force =>
    simp only [handleInceptionCommand] at hk
    split at hk
    next reg'' k hkill =>
      simp only at hk
      subst hk
      obtain ⟨c, hcm, -, -, hpos, rfl⟩ := killSessionIn_kill hkill
      obtain ⟨c₀, hc₀, ⟨hct, he⟩ | ⟨hct, he⟩⟩ := mem_setPhase hcm <;> rw [he] at hpos ⊢
      · obtain ⟨c₁, hc₁, rfl, hp₁⟩ := lookupConn_some hl
        have h0 : s.ctx.remoteExecThreadId = 0 := by simpa [hp₁, PhaseOk] using hok c₁ hc₁
        have h0' : s'.ctx.remoteExecThreadId = 0 := by
          rcases (classifyQuery_admin hc).2.2.2 with he | he <;> rw [he]
          · exact h0
          · exact (setupInceptionSession_fresh _ s.ctx text).2.1
        simp [Phase.ctx, h0'] at hpos
      · have hok₀ := hok c₀ hc₀
        rcases hph : c₀.phase with s₀ | ⟨db, e⟩ <;> rw [hph] at hok₀ hpos
        · exact absurd (hok₀ : s₀.ctx.remoteExecThreadId = 0) (Nat.pos_iff_ne_zero.mp hpos)
        · exact ⟨c₀, hc₀, hct, db, e, hph, hpos, rfl⟩
    · cases hk
  | setSleep tid ms =>
    simp only [handleInceptionCommand] at hk
    split at hk <;> cases hk
  | _ => cases hk

/-- Between the engine's return from the blocked batch and the rest of the commit, thread 1 still
    holds the remote thread id 42, and the kill sends `KILL 42`. -/
theorem force_kill_targets_running_blocked :
    SysReachable offlineEnv blockedReg ∧
      sysStep offlineEnv blockedReg (.query 2 "inception kill 1 force" (.error "")) =
        some (killedReg, some (.admin .ok (some (.killThread 42)))) ∧
      ∃ c ∈ blockedReg, c.tid ≠ 2 ∧ ∃ db e, c.phase = .running db e ∧ 0 < e.ctx.remoteExecThreadId ∧
        RemoteQuery.killThread 42 = .killThread e.ctx.remoteExecThreadId :=
  have hs : sysStep offlineEnv blockedReg (.query 2 "inception kill 1 force" (.error "")) =
      some (killedReg, some (.admin .ok (some (.killThread 42)))) := rfl
  ⟨blockedReg_reachable, hs, force_kill_targets_running blockedReg_reachable hs⟩

/-- **A commit interleaved with the other sessions is the per-session model's atomic commit.**  In
    every map the server reaches, the rest of a commit, once its engine has returned, leaves the
    thread's session and sends the records exactly as `doInceptionCommit` does, on an active
    execute-mode session, when the moves `execute_statements` runs under are the ones it took here:
    its engine's steps and the other threads' kills and `set sleep`s, in their order. -/
theorem execute_commit_refines {env : SessionEnv} {reg reg' : List Conn} {tid : Nat}
    {out : Option SysReply} (h : SysReachable env reg)
    (hs : sysStep env reg (.finish tid) = some (reg', out)) :
    ∃ (s : Session) (ms : List ExecMove), s.ctx.active = true ∧ s.ctx.opts.mode = .execute ∧
      reg' = setPhase tid
        (.idle (doInceptionCommit { env.onThread tid with execMoves := fun _ => ms } s).1) reg ∧
      out = some (.hooks (doInceptionCommit { env.onThread tid with execMoves := fun _ => ms } s).2) := by
  simp only [sysStep] at hs
  split at hs
  next db e hl =>
    split at hs
    next x hpc =>
      cases hs
      obtain ⟨c, hc, rfl, hp⟩ := lookupConn_some hl
      have hok := h.phaseOk c hc
      rw [hp] at hok
      obtain ⟨s, ms, rfl, ha, hm, rfl⟩ := hok
      refine ⟨s, ms, ha, hm, ?_, ?_⟩ <;> simp [doInceptionCommit, ha, hm]
    · cases hs
  · cases hs

/-- The rest of thread 1's commit, and the map and answer it leaves. -/
def finishedReg : List Conn := ((sysStep offlineEnv blockedReg (.finish 1)).map Prod.fst).getD []

def finishedOut : Option SysReply :=
  ((sysStep offlineEnv blockedReg (.finish 1)).map Prod.snd).getD none

theorem execute_commit_refines_blocked :
    SysReachable offlineEnv blockedReg ∧
      sysStep offlineEnv blockedReg (.finish 1) = some (finishedReg, finishedOut) ∧
      ∃ (s : Session) (ms : List ExecMove), s.ctx.active = true ∧ s.ctx.opts.mode = .execute ∧
        finishedReg = setPhase 1
          (.idle (doInceptionCommit { offlineEnv.onThread 1 with execMoves := fun _ => ms } s).1)
          blockedReg ∧
        finishedOut =
          some (.hooks (doInceptionCommit { offlineEnv.onThread 1 with execMoves := fun _ => ms } s).2) :=
  have hs : sysStep offlineEnv blockedReg (.finish 1) = some (finishedReg, finishedOut) := rfl
  ⟨blockedReg_reachable, hs, execute_commit_refines blockedReg_reachable hs⟩

/-! ## 4. What `show sessions` shows -/

/-- **`show sessions` lists every commit in progress, each thread once.**  In every map the server
    reaches, the rows of `inception show sessions` name distinct threads, and every connection
    inside a commit (running `execute_statements`, or returned from it and not yet reset) has its
    row, in `EXECUTE` mode: the engine writes neither `active` nor the mode, so an operator finds
    there the thread id that `inception kill` needs. -/
theorem show_sessions_lists_commits {env : SessionEnv} {reg : List Conn}
    (h : SysReachable env reg) :
    ((getActiveSessions reg).map SessionInfo.threadId).Nodup ∧
      ∀ c ∈ reg, ∀ db e, c.phase = .running db e →
        sessionInfo c ∈ getActiveSessions reg ∧ (sessionInfo c).mode = modeName .execute := by
  refine ⟨?_, fun c hc db e hrun => ?_⟩
  · have hids : (getActiveSessions reg).map SessionInfo.threadId =
        (reg.filter fun c => c.phase.ctx.active).map Conn.tid := by
      simp only [getActiveSessions, List.map_map]
      rfl
    rw [hids]
    exact h.sysOk.1.sublist ((List.filter_sublist _).map _)
  · have hok := h.phaseOk c hc
    rw [hrun] at hok
    obtain ⟨s, ms, -, ha, hm, rfl⟩ := hok
    obtain ⟨ha', hm'⟩ := runMoves_active_mode ms (.init s.ctx (env.onThread c.tid).threadId)
    have hctx : c.phase.ctx = (runMoves (.init s.ctx (env.onThread c.tid).threadId) ms).ctx := by
      rw [hrun]
      rfl
    refine ⟨List.mem_map_of_mem _ (List.mem_filter.mpr ⟨hc, ?_⟩), ?_⟩
    · rw [hctx, ha']
      exact ha
    · simp only [sessionInfo, sessionInfoOf, hctx, hm']
      exact congrArg modeName hm

theorem show_sessions_lists_commits_blocked :
    SysReachable offlineEnv blockedReg ∧
      ((getActiveSessions blockedReg).map SessionInfo.threadId).Nodup ∧
      ∀ c ∈ blockedReg, ∀ db e, c.phase = .running db e →
        sessionInfo c ∈ getActiveSessions blockedReg ∧ (sessionInfo c).mode = modeName .execute :=
  ⟨blockedReg_reachable, show_sessions_lists_commits blockedReg_reachable⟩

end Inception
