import Inception.Session.Results

/-!
# Levels — a record's level and message, in every session and every run of the engine

`append_error`, `append_warning` and `report` are the only writers of a record's level and
message (`Diagnostics`).  `add_sql` makes a record at level 0 with no message, and the audit only
amends it (`Audit/Records`).  In a session no request but a commit or a start marker, which empty
the cache, touches a cached record (§1); and `execute_statements` amends each record in place,
under every interleaving of the other sessions' commands (§2).  So every record, cached or sent
back by a commit, has the highest level of the diagnostics appended to it since `add_sql`, is at
level 0, 1 or 2, and has a message exactly when its level is not 0 (§3).
-/

namespace Inception

/-! ## 1. Records in a session -/

/-- A record as the diagnostics appended to it since `add_sql` leave it: every diagnostic its
    ghost list records is well-formed, and its level and message are those the list leaves on a
    record at level 0 with no message. -/
structure Recorded (n : SqlCacheNode) : Prop where
  wellFormed : ∀ d ∈ n.diagnostics, WellFormed d
  appends : Appends {} n n.diagnostics

namespace Recorded

variable {n m : SqlCacheNode}

/-- The level is the highest of the diagnostics recorded, 0 for none. -/
theorem errlevel_eq (h : Recorded n) :
    n.errlevel = n.diagnostics.foldl (fun l d => max l d.1) errlevelOk := by
  rw [h.appends.errlevel, SqlCacheNode.appendAll_errlevel]

/-- A record at level 0 with no message and no diagnostic, amended. -/
theorem of_amends {n₀ : SqlCacheNode} (h : Amends n₀ n) (hl : n₀.errlevel = errlevelOk)
    (hm : n₀.errmsg = "") (hd : n₀.diagnostics = []) : Recorded n := by
  obtain ⟨ds, ha, hw⟩ := h.diagnosed
  have hds : n.diagnostics = ds := by rw [ha.diagnostics, hd, List.nil_append]
  subst hds
  obtain ⟨hl', hm'⟩ := SqlCacheNode.appendAll_congr n.diagnostics (a := n₀) (b := {}) hl hm
  exact ⟨hw, ⟨ha.errlevel.trans hl', ha.errmsg.trans hm', (List.nil_append _).symm⟩⟩

theorem amends (h : Recorded n) (h' : Amends n m) : Recorded m := by
  obtain ⟨ds, ha, hw⟩ := h'.diagnosed
  have hds : m.diagnostics = n.diagnostics ++ ds := ha.diagnostics
  refine ⟨fun d hd => ?_, hds ▸ h.appends.trans ha⟩
  rcases List.mem_append.1 (hds ▸ hd) with hd | hd
  · exact h.wellFormed d hd
  · exact hw d hd

theorem recordOk (h : Recorded n) : RecordOk n :=
  Diagnosed.recordOk ⟨_, h.appends, h.wellFormed⟩ (Diagnosed.recordOk_of_clean rfl rfl)

end Recorded

/-- Every cached record of a session is as its diagnostics leave it. -/
def RecordsOk (s : Session) : Prop := ∀ n ∈ s.ctx.batch.cacheNodes, Recorded n

/-- Every record a reply sends back is as its diagnostics leave it. -/
def RepliesOk (out : Outcome) : Prop :=
  ∀ nodes, out.reply = .results nodes → ∀ n ∈ nodes, Recorded n

section Session

variable (env : SessionEnv) {s : Session}

theorem applyAdmin_batch (tid : Nat) (cmd : AdminCommand) (ctx : InceptionContext) :
    (applyAdmin tid cmd ctx).1.batch = ctx.batch := by
  cases cmd with
  | kill t force =>
    simp only [applyAdmin, killSession]
    split_ifs <;> rfl
  | setSleep t ms =>
    simp only [applyAdmin]
    split_ifs <;> rfl
  | _ => rfl

theorem applyAdmin_repliesOk (tid : Nat) (cmd : AdminCommand) (ctx : InceptionContext) :
    RepliesOk (applyAdmin tid cmd ctx).2 := by
  intro nodes hr
  cases cmd <;> simp only [applyAdmin] at hr <;> (try split_ifs at hr) <;> (try split at hr) <;>
    cases hr

theorem setupInceptionSession_batch (ctx : InceptionContext) (q : String) :
    (setupInceptionSession env ctx q).2.batch = {} := by
  have hb := (parseInceptionStart_fresh env.sv env.cipher q ctx).1
  rcases hp : parseInceptionStart env.sv env.cipher q ctx with ⟨_ | _, c⟩ <;>
    simp only [setupInceptionSession, hp] at hb ⊢ <;> simp [hb]

/-- `before_parse` empties the cache (a commit, a start marker) or leaves it. -/
theorem beforeParse_cacheNodes (q : String) :
    (beforeParse env s q).1.ctx.batch.cacheNodes = s.ctx.batch.cacheNodes ∨
      (beforeParse env s q).1.ctx.batch.cacheNodes = [] := by
  unfold beforeParse
  split
  · unfold doInceptionCommit
    split
    · exact .inl rfl
    · dsimp only
      split <;> exact .inr rfl
  have hr : (if isInceptionStart q then setupInceptionSession env s.ctx q
      else (false, s.ctx)).2.batch.cacheNodes = s.ctx.batch.cacheNodes ∨
      (if isInceptionStart q then setupInceptionSession env s.ctx q
        else (false, s.ctx)).2.batch.cacheNodes = [] := by
    split
    · exact .inr (by rw [setupInceptionSession_batch])
    · exact .inl rfl
  generalize (if isInceptionStart q then setupInceptionSession env s.ctx q
    else (false, s.ctx)) = r at hr ⊢
  dsimp only
  split
  · exact hr
  · split
    · simpa only [applyAdmin_batch] using hr
    · exact hr

/-- A commit sends back the cached records, in execute mode as the engine left them. -/
theorem doInceptionCommit_repliesOk (h : RecordsOk s)
    (hexec : ∀ e, ExecReachable (.init s.ctx env.threadId) e → ∀ n ∈ e.handled ++ e.todo, Recorded n) :
    RepliesOk (doInceptionCommit env s).2 := by
  intro nodes hr
  unfold doInceptionCommit at hr
  split at hr
  · cases hr
  · dsimp only at hr
    split at hr <;> cases hr
    · exact hexec _ (reachable_runMoves _ _)
    · exact h

/-- A request other than a commit answers with no records. -/
theorem beforeParse_repliesOk (q : String) (hc : isInceptionCommit q = false) {out : Outcome}
    (hout : (beforeParse env s q).2 = some out) : RepliesOk out := by
  simp only [beforeParse, hc, Bool.false_eq_true, if_false] at hout
  generalize (if isInceptionStart q then setupInceptionSession env s.ctx q
    else (false, s.ctx)) = r at hout
  split at hout
  · cases Option.some.inj hout
    nofun
  · split at hout
    · cases Option.some.inj hout
      exact applyAdmin_repliesOk _ _ _
    · cases hout

/-- The hooks keep every cached record as its diagnostics leave it. -/
theorem hook_recordsOk (h : RecordsOk s) (x : StreamStmt) : RecordsOk (x.hook env s) := by
  cases ha : s.ctx.active
  · have hc : (x.hook env s).ctx = s.ctx := by
      rcases x with ⟨text, msg | stmt⟩ <;>
        simp [StreamStmt.hook, handleParseError, interceptStatement, ha]
    intro n hn
    rw [hc] at hn
    exact h n hn
  · obtain ⟨new, hc, -, hnew⟩ := hook_cacheNodes env x ha
    intro n hn
    rw [hc] at hn
    rcases List.mem_append.1 hn with hn | hn
    · exact h n hn
    · obtain ⟨n₀, hl, hm, hd, hn₀⟩ := hnew n hn
      exact .of_amends hn₀ hl hm hd

end Session

/-! ## 2. Records in the engine

Each step of `execute_statements` replaces the record at the head of `todo` by an amended one
and moves it to `handled`, or amends every record left (`markAll`), or leaves the records as they
are; a kill or a `set sleep` of another session touches none. -/

section Engine

theorem forall₂_amends_trans {a b c : List SqlCacheNode} (h : List.Forall₂ Amends a b)
    (h' : List.Forall₂ Amends b c) : List.Forall₂ Amends a c := by
  induction h generalizing c with
  | nil => exact h'
  | cons hab _ ih =>
    cases h' with
    | cons hbc h' => exact .cons (hab.trans hbc) (ih h')

theorem forall₂_amends_refl (l : List SqlCacheNode) : List.Forall₂ Amends l l :=
  List.forall₂_same.2 fun n _ => Amends.refl n

theorem forall₂_amends_mem {l l' : List SqlCacheNode} (h : List.Forall₂ Amends l l')
    {n : SqlCacheNode} (hn : n ∈ l') : ∃ m ∈ l, Amends m n := by
  induction h with
  | nil => cases hn
  | cons hab _ ih =>
    rcases List.mem_cons.1 hn with rfl | hn
    · exact ⟨_, .head _, hab⟩
    · obtain ⟨m, hm, h⟩ := ih hn
      exact ⟨m, .tail _ hm, h⟩

/-- The head of `todo` handled, amended. -/
theorem forall₂_amends_head (handled rest : List SqlCacheNode) {node node' : SqlCacheNode}
    (h : Amends node node') :
    List.Forall₂ Amends (handled ++ node :: rest) (handled ++ [node'] ++ rest) := by
  rw [List.append_assoc]
  exact List.rel_append (forall₂_amends_refl handled) (.cons h (forall₂_amends_refl rest))

/-- A change of the free fields of a record amended keeps it amended. -/
theorem Amends.with_free {n m : SqlCacheNode} (h : Amends n m) (stage : Stage) (status : String) :
    Amends n { m with stage, stageStatus := status } :=
  h.trans (.of_eq rfl rfl rfl rfl rfl)

theorem snprintfBuf_512_ne_empty (a b : String) (ha : a ≠ "") : snprintfBuf 512 (a ++ b) ≠ "" :=
  Diagnosed.snprintfBuf_ne_empty (by simp [ha]) (by decide)

theorem markAll_amends (f : SqlCacheNode → SqlCacheNode) (hf : ∀ n, Amends n (f n)) (s : ExecState)
    (exit : ExecExit) :
    List.Forall₂ Amends (s.handled ++ s.todo) ((markAll f s exit).handled ++ (markAll f s exit).todo) := by
  simp only [markAll, List.append_nil]
  exact List.rel_append (forall₂_amends_refl _)
    (List.forall₂_map_right_iff.2 (List.forall₂_same.2 fun n _ => hf n))

theorem collectRemoteWarnings_amends {n m : SqlCacheNode} (h : Amends n m) (rows : List Row) :
    Amends n (collectRemoteWarnings rows m) :=
  Amends.foldl (fun m _ => Amends.ite ((Amends.refl m).appendError (by simp))
    ((Amends.refl m).appendWarning (by simp))) rows h

theorem executeOne_amends (node : SqlCacheNode) (r : Reply) : Amends node (executeOne node r).2.1 := by
  unfold executeOne
  split
  · exact (Amends.refl node).with_free _ _
  · split
    · exact ((Amends.refl node).appendError (by simp)).with_free _ _
    · dsimp only
      split
      · exact .of_eq rfl rfl rfl rfl rfl
      · split
        · refine collectRemoteWarnings_amends ?_ _
          exact .of_eq rfl rfl rfl rfl rfl
        · exact .of_eq rfl rfl rfl rfl rfl

variable (s : ExecState) (r : Reply)

theorem startStep_amends :
    List.Forall₂ Amends (s.handled ++ s.todo) ((startStep s r).handled ++ (startStep s r).todo) := by
  unfold startStep
  split
  · exact forall₂_amends_refl _
  split
  · exact markAll_amends _ (fun n => (Amends.refl n).with_free _ _) s _
  split
  · exact markAll_amends _ (fun n => ((Amends.refl n).appendError
      (snprintfBuf_512_ne_empty _ _ (by simp))).with_free _ _) s _
  · dsimp only
    split <;> exact forall₂_amends_refl _

theorem checkRemoteReadOnly_error {a : Except String (List Row)} {e : String}
    (h : checkRemoteReadOnly a = .error e) : e ≠ "" := by
  unfold checkRemoteReadOnly at h
  split at h
  · cases h
  · cases h
    exact snprintfBuf_512_ne_empty _ _ (by simp)

theorem loopStep_amends :
    List.Forall₂ Amends (s.handled ++ s.todo) ((loopStep s r).handled ++ (loopStep s r).todo) := by
  unfold loopStep
  split
  · exact forall₂_amends_refl _
  next node rest htodo =>
  rw [htodo]
  split
  · exact forall₂_amends_head _ _ ((Amends.refl node).with_free _ _)
  split
  · exact forall₂_amends_head _ _ (((Amends.refl node).appendError (by simp)).with_free _ _)
  dsimp only
  split
  next e he =>
    have hne : e ≠ "" := by
      split_ifs at he
      · exact checkRemoteReadOnly_error he
    exact forall₂_amends_head _ _ (((Amends.refl node).appendError hne).with_free _ _)
  · exact forall₂_amends_head _ _ (((Amends.refl node).appendError (by simp)).with_free _ _)
  · exact forall₂_amends_refl _

theorem execStep_amends :
    List.Forall₂ Amends (s.handled ++ s.todo) ((execStep s r).handled ++ (execStep s r).todo) := by
  unfold execStep
  split
  · exact forall₂_amends_refl _
  next node rest htodo =>
  rw [htodo]
  exact forall₂_amends_head _ _ (Amends.ite (.trans (executeOne_amends node r) (.of_eq rfl rfl rfl rfl rfl))
    (executeOne_amends node r))

/-- **The step lemma**: a step of the engine amends each record in place. -/
theorem step_amends :
    List.Forall₂ Amends (s.handled ++ s.todo) ((step s r).handled ++ (step s r).todo) := by
  unfold step
  split
  · exact startStep_amends s r
  · exact loopStep_amends s r
  · dsimp only
    split <;> exact forall₂_amends_refl _
  · exact execStep_amends s r
  · exact forall₂_amends_refl _

/-- The run lemma: under every interleaving, the engine's records amend, position by position,
    those it started from. -/
theorem reachable_amends {s₀ s : ExecState} (h : ExecReachable s₀ s) :
    List.Forall₂ Amends (s₀.handled ++ s₀.todo) (s.handled ++ s.todo) := by
  induction h with
  | refl => exact forall₂_amends_refl _
  | tail _ hstep ih =>
    refine forall₂_amends_trans ih ?_
    cases hstep with
    | engine r => exact step_amends _ r
    | kill => exact forall₂_amends_refl _
    | setSleep => exact forall₂_amends_refl _

end Engine

/-! ## 3. Every record of a run -/

section Run

variable (env : SessionEnv)

/-- The engine's records amend, position by position, the cached records it started from, so
    are as their diagnostics leave them when those are. -/
theorem exec_records {ctx : InceptionContext} (h : ∀ n ∈ ctx.batch.cacheNodes, Recorded n)
    {tid : Nat} {e : ExecState} (he : ExecReachable (.init ctx tid) e) :
    List.Forall₂ Amends ctx.batch.cacheNodes (e.handled ++ e.todo) ∧
      ∀ n ∈ e.handled ++ e.todo, Recorded n := by
  have ha : List.Forall₂ Amends ctx.batch.cacheNodes (e.handled ++ e.todo) := reachable_amends he
  refine ⟨ha, fun n hn => ?_⟩
  obtain ⟨m, hm, hmn⟩ := forall₂_amends_mem ha hn
  exact (h m hm).amends hmn

/-- **One request** keeps every cached record as its diagnostics leave it, and sends back no
    other. -/
theorem handleRequest_recordsOk {s : Session} (h : RecordsOk s) (r : Request) :
    RecordsOk (handleRequest env s r).1 ∧ RepliesOk (handleRequest env s r).2 := by
  cases r with
  | query text parsed =>
    have hb : RecordsOk (beforeParse env s text).1 := by
      rcases beforeParse_cacheNodes env text (s := s) with he | he <;> intro n hn <;> rw [he] at hn
      · exact h n hn
      · cases hn
    rcases hbp : beforeParse env s text with ⟨s₁, _ | out⟩ <;> rw [hbp] at hb
    · refine ⟨by rw [handleRequest_query env hbp]; exact hook_recordsOk env hb _, fun nodes hr => ?_⟩
      cases parsed <;> simp only [handleRequest, hbp] at hr <;> split at hr <;> cases hr
    · simp only [handleRequest, hbp]
      refine ⟨hb, ?_⟩
      cases hc : isInceptionCommit text
      · exact beforeParse_repliesOk env text hc (by rw [hbp])
      · simp only [beforeParse, hc, if_true, Prod.mk.injEq, Option.some.injEq] at hbp
        rw [← hbp.2]
        exact doInceptionCommit_repliesOk env h fun e he => (exec_records h he).2
  | initDb db => exact ⟨h, fun _ hr => by cases hr⟩
  | admin cmd =>
    exact ⟨fun n hn => h n (by simpa [handleRequest, applyAdmin_batch] using hn),
      applyAdmin_repliesOk _ _ _⟩

/-- The run lemma. -/
theorem runRequests_recordsOk : ∀ (rs : List Request) (s : Session), RecordsOk s →
    ∀ p ∈ runRequests env s rs, RecordsOk p.1 ∧ RepliesOk p.2
  | [], _, _ => by simp [runRequests]
  | r :: rs, s, h => by
    simp only [runRequests, List.mem_cons, forall_eq_or_imp]
    exact ⟨handleRequest_recordsOk env h r,
      runRequests_recordsOk rs _ (handleRequest_recordsOk env h r).1⟩

end Run

/-- **Every record is as its diagnostics leave it.**  `append_error`, `append_warning` and
    `report` record each diagnostic they append in the record's ghost list, and a `report` at
    level 0 appends nothing; the audit of any statement only amends the record it is given.
    Along every run of requests from a new session (with any current database) — start markers,
    statements parsed or not in every mode, commits, admin commands of other sessions,
    `COM_INIT_DB` — every cached record, and every record a commit sends back, has only
    well-formed diagnostics recorded, the level of the highest of them (0 for none) and the
    message their lines make, is at level 0, 1 or 2, and has a message exactly when its level is
    not 0.  From any session of the run, under every interleaving of other sessions' commands,
    `execute_statements` amends each record in place, so only appends to its diagnostics and never
    lowers its level, and every record it holds is as its diagnostics leave it. -/
theorem records_well_formed (env : SessionEnv) (db : Option String) (reqs : List Request) :
    (∀ (n : SqlCacheNode) (lvl : Nat) (msg : String),
      (n.appendError msg).diagnostics = n.diagnostics ++ [(errlevelError, msg)] ∧
      (n.appendWarning msg).diagnostics = n.diagnostics ++ [(errlevelWarning, msg)] ∧
      (n.report lvl msg).diagnostics =
        n.diagnostics ++ if lvl = 0 then [] else [(SqlCacheNode.reportLevel lvl, msg)]) ∧
    (∀ (aenv : AuditEnv) (stmt : Stmt) (st : AuditState),
      Amends st.node (auditStatement aenv stmt st).node) ∧
    (∀ s ∈ runSessions env { thdDb := db } reqs, ∀ n ∈ s.ctx.batch.cacheNodes,
      Recorded n ∧ n.errlevel = n.diagnostics.foldl (fun l d => max l d.1) errlevelOk ∧ RecordOk n) ∧
    (∀ p ∈ runRequests env { thdDb := db } reqs, ∀ nodes, p.2.reply = .results nodes →
      ∀ n ∈ nodes,
        Recorded n ∧ n.errlevel = n.diagnostics.foldl (fun l d => max l d.1) errlevelOk ∧ RecordOk n) ∧
    (∀ s ∈ runSessions env { thdDb := db } reqs, ∀ e, ExecReachable (.init s.ctx env.threadId) e →
      List.Forall₂ Amends s.ctx.batch.cacheNodes (e.handled ++ e.todo) ∧
        ∀ n ∈ e.handled ++ e.todo,
          Recorded n ∧ n.errlevel = n.diagnostics.foldl (fun l d => max l d.1) errlevelOk ∧
            RecordOk n) := by
  have h₀ : RecordsOk { thdDb := db } := List.forall_mem_nil _
  have hrun := runRequests_recordsOk env reqs { thdDb := db } h₀
  have hsessions : ∀ s ∈ runSessions env { thdDb := db } reqs, RecordsOk s := by
    intro s hs
    simp only [runSessions, List.mem_cons, List.mem_map] at hs
    rcases hs with rfl | ⟨p, hp, rfl⟩
    · exact h₀
    · exact (hrun p hp).1
  have hfacts {n : SqlCacheNode} (h : Recorded n) := And.intro h (And.intro h.errlevel_eq h.recordOk)
  refine ⟨fun n lvl msg => ⟨rfl, rfl, (Appends.report n lvl msg).diagnostics⟩,
    fun aenv stmt st => auditStatement_amends aenv stmt st,
    fun s hs n hn => hfacts (hsessions s hs n hn),
    fun p hp nodes hr n hn => hfacts ((hrun p hp).2 nodes hr n hn),
    fun s hs e he => ?_⟩
  obtain ⟨ha, hr⟩ := exec_records (hsessions s hs) he
  exact ⟨ha, fun n hn => hfacts (hr n hn)⟩

end Inception
