import Inception.Exec.Engine

/-!
# Safety — what a run of `execute_statements` sends

Every result here is about every run from `ExecState.init ctx₀ tid`: every reply of the remote,
every value of the knobs at each step, and every interleaving of `kill` and `set sleep` from other
sessions.  One invariant, `ExecInv`, records what a run has done so far; each step keeps it, so
every reachable state has it.  Sections 4 and 5 follow a run from the moment `killed` is seen.
-/

namespace Inception

open scoped List

/-! ## 1. The trace -/

/-- A record's id and text, which no step changes. -/
def idText (n : SqlCacheNode) : Nat × String := (n.id, n.sqlText)

/-- What `execute_one` sends for a record: its id, and its text without a start marker. -/
def sendKey (n : SqlCacheNode) : Nat × String := (n.id, execText n)

theorem sendKey_congr {n m : SqlCacheNode} (h : idText n = idText m) : sendKey n = sendKey m := by
  simp only [idText, Prod.mk.injEq] at h
  simp only [sendKey, execText, h]

@[simp] theorem sentStmts_nil : sentStmts [] = [] := rfl

@[simp] theorem sentStmts_append (a b : List ExecEvent) :
    sentStmts (a ++ b) = sentStmts a ++ sentStmts b := List.filterMap_append ..

theorem sentStmts_sublist {a b : List ExecEvent} (h : a <+ b) : sentStmts a <+ sentStmts b :=
  h.filterMap _

/-- The events after which a run sends nothing more: a kill seen at a statement boundary, a failed
    pre-check, and a failed statement while `force` is off. -/
def ExecEvent.stops (force : Bool) : ExecEvent → Bool
  | .killed _ | .precheckFailed _ => true
  | .failed _ => !force
  | _ => false

/-- The events that neither send a statement nor stop the run: progress lines, probes, slave
    failures. -/
def ExecEvent.isSilent : ExecEvent → Bool
  | .sent .. | .killed _ | .precheckFailed _ | .failed _ => false
  | _ => true

theorem sentStmts_eq_nil_of_silent {evs : List ExecEvent} (h : ∀ e ∈ evs, e.isSilent = true) :
    sentStmts evs = [] := by
  refine List.filterMap_eq_nil_iff.mpr fun e he => ?_
  have hs := h e he
  cases e <;> first | rfl | cases hs

theorem stops_eq_false_of_silent {e : ExecEvent} (f : Bool) (h : e.isSilent = true) :
    e.stops f = false := by
  cases e <;> simp_all [ExecEvent.isSilent, ExecEvent.stops]

theorem stops_append_silent {f : Bool} {a evs : List ExecEvent} (ha : ∀ e ∈ a, e.stops f = false)
    (hevs : ∀ e ∈ evs, e.isSilent = true) : ∀ e ∈ a ++ evs, e.stops f = false := by
  intro e he
  rcases List.mem_append.mp he with he | he
  · exact ha e he
  · exact stops_eq_false_of_silent f (hevs e he)

/-- After every event `p` marks, `trace` sends nothing. -/
def QuietAfter (p : ExecEvent → Bool) (trace : List ExecEvent) : Prop :=
  ∀ pre e post, trace = pre ++ e :: post → p e = true → sentStmts post = []

namespace QuietAfter

variable {p : ExecEvent → Bool} {a b : List ExecEvent}

theorem of_forall (h : ∀ e ∈ a, p e = false) : QuietAfter p a := by
  rintro pre e post rfl he
  simp [h e (by simp)] at he

theorem of_sentStmts_eq_nil (h : sentStmts a = []) : QuietAfter p a := by
  rintro pre e post rfl -
  have hsub : post <+ pre ++ e :: post :=
    (List.sublist_cons_self e post).trans (List.sublist_append_right pre _)
  exact List.sublist_nil.mp (h ▸ sentStmts_sublist hsub)

theorem append (ha : QuietAfter p a) (hb : QuietAfter p b)
    (hab : (∃ e ∈ a, p e = true) → sentStmts b = []) : QuietAfter p (a ++ b) := by
  intro pre e post h he
  rcases List.append_eq_append_iff.mp h with ⟨c, rfl, hc⟩ | ⟨c, rfl, hc⟩
  · exact hb c e post hc he
  · cases c with
    | nil => exact hb [] e post (by simpa using hc.symm) he
    | cons x c =>
      simp only [List.cons_append, List.cons.injEq] at hc
      obtain ⟨rfl, rfl⟩ := hc
      rw [sentStmts_append, ha pre e c rfl he, hab ⟨e, by simp, he⟩]
      rfl

end QuietAfter

/-! ## 2. What each step can do

One lemma per step function lists every outcome with its guard; the invariant proofs below cite
these and never unfold a step. -/

theorem connectSlaves_silent (sv : Sysvars) (hosts : List (String × Nat)) (ok : List Bool) :
    ∀ e ∈ (connectSlaves sv hosts ok).2, e.isSilent = true := by
  unfold connectSlaves
  split
  · simp only [List.mem_filterMap]
    rintro e ⟨⟨⟨h, p⟩, b⟩, -, he⟩
    cases b <;> simp only [Bool.false_eq_true, ite_false, ite_true, Option.some.injEq,
      reduceCtorEq] at he
    subst he
    rfl
  · simp

/-- What the entry step can do. -/
theorem startStep_cases (s : ExecState) (r : Reply) :
    (s.todo = [] ∧ startStep s r = { s with pc := .returned .empty }) ∨
    (s.ctx.killed = true ∧ ∃ f, startStep s r = markAll f s .killedOnEntry ∧
      ∀ n, idText (f n) = idText n ∧ (f n).stage = .executed ∧
        (f n).stageStatus = "Killed by user") ∨
    (∃ f, startStep s r = markAll f s .connectFailed ∧ ∀ n, idText (f n) = idText n) ∨
    (∃ tid, startStep s r =
      { s with ctx := { s.ctx with remoteExecThreadId := tid }, pc := .returned .blocked,
               trace := s.trace ++ [.blocked] }) ∨
    (s.ctx.killed = false ∧ prescanBlocks s.ctx.opts.force s.ctx.opts.ignoreWarnings s.todo = false ∧
      ∃ tid conns evs, (∀ e ∈ evs, e.isSilent = true) ∧
        startStep s r =
          { s with ctx := { s.ctx with remoteExecThreadId := tid }, pc := .loop,
                   slaveConns := conns, trace := s.trace ++ evs }) := by
  unfold startStep
  split
  · exact .inl ⟨‹_›, rfl⟩
  split
  · exact .inr (.inl ⟨‹_›, _, rfl, fun _ => ⟨rfl, rfl, rfl⟩⟩)
  split
  · exact .inr (.inr (.inl ⟨_, rfl, fun _ => rfl⟩))
  · dsimp only
    split
    · exact .inr (.inr (.inr (.inl ⟨_, rfl⟩)))
    · exact .inr (.inr (.inr (.inr ⟨by simpa using ‹¬s.ctx.killed = true›,
        by simpa using ‹¬prescanBlocks _ _ _ = true›, _, _, _, connectSlaves_silent _ _ _, rfl⟩)))

theorem collectRemoteWarnings_frame (rows : List Row) (node : SqlCacheNode) :
    idText (collectRemoteWarnings rows node) = idText node ∧
      (collectRemoteWarnings rows node).stage = node.stage := by
  induction rows generalizing node with
  | nil => exact ⟨rfl, rfl⟩
  | cons row rows ih =>
    simp only [collectRemoteWarnings, List.foldl_cons] at ih ⊢
    rw [(ih _).1, (ih _).2]
    split <;> exact ⟨rfl, rfl⟩

/-- What a loop step can do. -/
theorem loopStep_cases (s : ExecState) (r : Reply) :
    (s.todo = [] ∧ loopStep s r =
      { s with pc := .returned (.finished s.hasError), slaveConns := [],
               ctx := { s.ctx with remoteExecThreadId := 0 } }) ∨
    ∃ node rest, s.todo = node :: rest ∧
      ((s.ctx.killed = true ∧ ∃ node', loopStep s r =
          { s with handled := s.handled ++ [node'], todo := rest,
                   trace := s.trace ++ [.killed node.id] } ∧
          idText node' = idText node ∧ node'.stageStatus = "Killed by user") ∨
       (s.ctx.killed = false ∧ s.stopExec = true ∧ ∃ node', loopStep s r =
          { s with handled := s.handled ++ [node'], todo := rest,
                   trace := s.trace ++ [.skipped node.id] } ∧
          idText node' = idText node ∧ node'.stage = .skipped) ∨
       (s.ctx.killed = false ∧ s.stopExec = false ∧ ∃ node' evs, loopStep s r =
          { s with handled := s.handled ++ [node'], todo := rest, hasError := true, stopExec := true,
                   trace := s.trace ++ evs ++ [.precheckFailed node.id] } ∧
          idText node' = idText node ∧ node'.stage = .checked ∧ ∀ e ∈ evs, e.isSilent = true) ∨
       (s.ctx.killed = false ∧ s.stopExec = false ∧ ∃ pc evs,
          loopStep s r = { s with pc, trace := s.trace ++ evs } ∧
          (pc = .wait ∨ pc = .exec) ∧ ∀ e ∈ evs, e.isSilent = true)) := by
  unfold loopStep
  split
  · exact .inl ⟨‹_›, rfl⟩
  rename_i node rest htodo
  refine .inr ⟨node, rest, htodo, ?_⟩
  split
  · exact .inl ⟨‹_›, _, rfl, rfl, rfl⟩
  have hk : s.ctx.killed = false := by simpa using ‹¬s.ctx.killed = true›
  split
  · exact .inr (.inl ⟨hk, ‹_›, _, rfl, rfl, rfl⟩)
  have hs : s.stopExec = false := by simpa using ‹¬s.stopExec = true›
  have hsil : ∀ e ∈ (if r.sv.execCheckReadOnly then [ExecEvent.query .readOnly] else []),
      e.isSilent = true := by
    split <;> simp [ExecEvent.isSilent]
  dsimp only
  split
  · exact .inr (.inr (.inl ⟨hk, hs, _, _, rfl, rfl, rfl, hsil⟩))
  · exact .inr (.inr (.inl ⟨hk, hs, _, _, rfl, rfl, rfl, hsil⟩))
  · refine .inr (.inr (.inr ⟨hk, hs, _, _, rfl, ?_, hsil⟩))
    split <;> simp

theorem executeOne_spec (node : SqlCacheNode) (r : Reply) :
    idText (executeOne node r).2.1 = idText node ∧ (executeOne node r).2.1.stage = .executed ∧
      (∀ e ∈ (executeOne node r).2.2, ∀ f, e.stops f = false) ∧
      sentStmts (executeOne node r).2.2 = if execText node = "" then [] else [sendKey node] := by
  unfold executeOne
  split
  · exact ⟨rfl, rfl, by simp, by simp [*]⟩
  rename_i hne
  have hsent : ∀ qs : List ExecQuery,
      sentStmts (.sent node.id (execText node) :: qs.map .query) = [sendKey node] := by
    intro qs
    simp [sentStmts, sendKey, List.filterMap_map, Function.comp_def]
  dsimp only
  split
  · exact ⟨rfl, rfl, by simp [ExecEvent.stops], hsent []⟩
  split
  · exact ⟨rfl, rfl, by simp [ExecEvent.stops], hsent []⟩
  split
  · exact ⟨(collectRemoteWarnings_frame ..).1, (collectRemoteWarnings_frame ..).2,
      by simp [ExecEvent.stops], hsent [.showWarnings]⟩
  · exact ⟨rfl, rfl, by simp [ExecEvent.stops], hsent [.showWarnings]⟩

/-- What an execution step can do. -/
theorem execStep_cases (s : ExecState) (r : Reply) :
    (s.todo = [] ∧ execStep s r = s) ∨
    ∃ node rest node' failed evs, s.todo = node :: rest ∧
      execStep s r =
        { s with pc := .loop, todo := rest, handled := s.handled ++ [node'],
                 hasError := s.hasError || failed,
                 stopExec := s.stopExec || (failed && !s.ctx.opts.force),
                 trace := s.trace ++ [.executing node.id] ++ evs ++
                   [if failed then .failed node.id else .ok node.id] } ∧
      idText node' = idText node ∧ node'.stage = .executed ∧ (∀ e ∈ evs, ∀ f, e.stops f = false) ∧
      sentStmts evs = if execText node = "" then [] else [sendKey node] := by
  unfold execStep
  split
  · exact .inl ⟨‹_›, rfl⟩
  rename_i node rest htodo
  obtain ⟨hid, hst, hstop, hsent⟩ := executeOne_spec node r
  refine .inr ⟨node, rest, _, _, _, htodo, rfl, ?_, ?_, hstop, hsent⟩ <;> split
  · exact hid
  · exact hid
  · exact hst
  · exact hst

theorem pollSlaves_silent (cap : Nat) (conns : List (String × Nat))
    (answers : List (Except String (List Row × Nat))) (m : Int) :
    ∀ e ∈ (pollSlaves cap conns answers m).2.2, e.isSilent = true := by
  induction conns generalizing answers m with
  | nil => simp [pollSlaves]
  | cons c rest ih =>
    simp only [pollSlaves]
    split
    · simp [ExecEvent.isSilent]
    · simpa [ExecEvent.isSilent] using ih _ _

theorem checkThreadsRunning_silent (cap : Nat) (a : Except String (List Row)) :
    ∀ e ∈ (checkThreadsRunning cap a).2.2, e.isSilent = true := by
  unfold checkThreadsRunning
  dsimp only
  repeat' split
  all_goals simp [ExecEvent.isSilent]

variable {s : ExecState} {r : Reply}

theorem pollOnce_trace (s : ExecState) (r : Reply) :
    ∃ evs, (pollOnce s r).2.trace = s.trace ++ evs ∧ ∀ e ∈ evs, e.isSilent = true := by
  refine ⟨_, List.append_assoc .., ?_⟩
  simp only [List.mem_append]
  rintro e (he | he)
  · exact checkThreadsRunning_silent _ _ e he
  · split at he
    · exact pollSlaves_silent _ _ _ _ e he
    · simp at he

/-- **A poll iteration sends nothing**: it appends silent events, and waits again or moves on to
    the execution, with the records and flags untouched. -/
theorem step_wait (r : Reply) (hpc : s.pc = .wait) :
    ∃ evs, (step s r).trace = s.trace ++ evs ∧ (∀ e ∈ evs, e.isSilent = true) ∧
      ((step s r).pc = .wait ∨ (step s r).pc = .exec) ∧ (step s r).handled = s.handled ∧
      (step s r).todo = s.todo ∧ (step s r).stopExec = s.stopExec ∧
      (step s r).ctx.killed = s.ctx.killed ∧ (step s r).ctx.opts = s.ctx.opts := by
  obtain ⟨evs, htr, hsil⟩ := pollOnce_trace s r
  have hstep : step s r = if (pollOnce s r).1 then (pollOnce s r).2
      else { (pollOnce s r).2 with pc := .exec } := by simp only [step, hpc]
  rw [hstep]
  split
  · exact ⟨evs, htr, hsil, .inl hpc, rfl, rfl, rfl, rfl, rfl⟩
  · exact ⟨evs, htr, hsil, .inr rfl, rfl, rfl, rfl, rfl, rfl⟩

/-! ## 3. The run invariant -/

/-- A record may be marked `EXECUTED`: it was sent, or it had nothing to send, or a kill was seen
    before its dispatch. -/
def ExecutedOk (sent : List (Nat × String)) (n : SqlCacheNode) : Prop :=
  sendKey n ∈ sent ∨ execText n = "" ∨ n.stageStatus = "Killed by user"

theorem ExecutedOk.append {sent : List (Nat × String)} {n : SqlCacheNode} (h : ExecutedOk sent n)
    (more : List (Nat × String)) : ExecutedOk (sent ++ more) n := by
  rcases h with h | h | h
  · exact .inl (List.mem_append_left _ h)
  · exact .inr (.inl h)
  · exact .inr (.inr h)

/-- What a run from `ExecState.init ctx₀ tid` has done so far.  The flags and the records' ids and
    texts are those of `ctx₀`; what was sent is, in order, what the handled records send; an early
    return sent nothing; and after a stopping event (a kill seen at a boundary, a failed pre-check,
    a failure without `force`) the engine never reaches the execution again. -/
structure ExecInv (ctx₀ : InceptionContext) (s : ExecState) : Prop where
  force : s.ctx.opts.force = ctx₀.opts.force
  ignoreWarnings : s.ctx.opts.ignoreWarnings = ctx₀.opts.ignoreWarnings
  killed : ctx₀.killed = true → s.ctx.killed = true
  records : (s.handled ++ s.todo).map idText = ctx₀.batch.cacheNodes.map idText
  sent_sublist : sentStmts s.trace <+ s.handled.map sendKey
  at_start : s.pc = .start → s.handled = [] ∧ s.todo = ctx₀.batch.cacheNodes ∧ s.trace = []
  early : ∀ e, s.pc = .returned e → (∀ b, e ≠ .finished b) →
    sentStmts s.trace = [] ∧ (s.handled ≠ [] → e = .killedOnEntry ∨ e = .connectFailed)
  blocked : prescanBlocks ctx₀.opts.force ctx₀.opts.ignoreWarnings ctx₀.batch.cacheNodes = true ∨
      ctx₀.killed = true → s.pc = .start ∨ ∃ e, s.pc = .returned e ∧ ∀ b, e ≠ .finished b
  stopped : (∃ e ∈ s.trace, e.stops ctx₀.opts.force = true) →
    s.stopExec = true ∨ s.ctx.killed = true
  running : s.pc = .wait ∨ s.pc = .exec →
    s.stopExec = false ∧ ∀ e ∈ s.trace, e.stops ctx₀.opts.force = false
  quiet : QuietAfter (ExecEvent.stops ctx₀.opts.force) s.trace
  executed : s.pc ≠ .returned .connectFailed →
    ∀ n ∈ s.handled, n.stage = .executed → ExecutedOk (sentStmts s.trace) n

namespace ExecInv

variable {ctx₀ : InceptionContext} {s : ExecState} {r : Reply}

theorem init (ctx₀ : InceptionContext) (tid : Nat) : ExecInv ctx₀ (ExecState.init ctx₀ tid) where
  force := rfl
  ignoreWarnings := rfl
  killed := id
  records := rfl
  sent_sublist := List.nil_sublist _
  at_start _ := ⟨rfl, rfl, rfl⟩
  early _ h := nomatch h
  blocked _ := .inl rfl
  stopped := by simp [ExecState.init]
  running h := by simp [ExecState.init] at h
  quiet := .of_sentStmts_eq_nil rfl
  executed _ := by simp [ExecState.init]

/-- Past the entry step, the batch was neither blocked nor killed on entry. -/
theorem not_blocked (h : ExecInv ctx₀ s) (hpc : s.pc = .loop ∨ s.pc = .wait ∨ s.pc = .exec) :
    prescanBlocks ctx₀.opts.force ctx₀.opts.ignoreWarnings ctx₀.batch.cacheNodes = false ∧
      ctx₀.killed = false := by
  by_contra hc
  rcases h.blocked (by simpa [Bool.not_eq_false, or_iff_not_imp_left] using hc) with
    hs | ⟨e, he, -⟩ <;> rcases hpc with hpc | hpc | hpc <;> simp_all

/-- Handling the current record: it moves to `handled` with its id and text, and the trace grows
    by events that send nothing. -/
theorem records_snoc (h : ExecInv ctx₀ s) {node node' : SqlCacheNode} {rest : List SqlCacheNode}
    (htodo : s.todo = node :: rest) (hid : idText node' = idText node) :
    (s.handled ++ [node'] ++ rest).map idText = ctx₀.batch.cacheNodes.map idText := by
  rw [← h.records, htodo]
  simp [hid]

theorem sent_snoc (h : ExecInv ctx₀ s) (evs : List ExecEvent) (hevs : sentStmts evs = [])
    (node' : SqlCacheNode) : sentStmts (s.trace ++ evs) <+ (s.handled ++ [node']).map sendKey := by
  rw [sentStmts_append, hevs, List.append_nil, List.map_append]
  exact h.sent_sublist.trans (List.sublist_append_left _ _)

theorem executed_snoc (h : ExecInv ctx₀ s) (hpc : s.pc ≠ .returned .connectFailed)
    {evs : List ExecEvent} {node' : SqlCacheNode}
    (hnew : node'.stage = .executed → ExecutedOk (sentStmts (s.trace ++ evs)) node') :
    ∀ n ∈ s.handled ++ [node'], n.stage = .executed → ExecutedOk (sentStmts (s.trace ++ evs)) n := by
  intro n hn hst
  rcases List.mem_append.mp hn with hn | hn
  · rw [sentStmts_append]
    exact (h.executed hpc n hn hst).append _
  · rw [List.mem_singleton.mp hn] at hst ⊢
    exact hnew hst

theorem startStep (h : ExecInv ctx₀ s) (hpc : s.pc = .start) : ExecInv ctx₀ (startStep s r) := by
  obtain ⟨hh, ht, htr⟩ := h.at_start hpc
  rcases startStep_cases s r with ⟨-, heq⟩ | ⟨-, f, heq, hf⟩ | ⟨f, heq, hf⟩ | ⟨tid, heq⟩ |
      ⟨hk, hb, tid, conns, evs, hsil, heq⟩ <;> rw [heq]
  · exact { h with
      at_start := nofun
      early := fun _ _ _ => ⟨by simp [htr], fun hne => absurd hh hne⟩
      blocked := fun _ => .inr ⟨_, rfl, nofun⟩
      running := by simp
      executed := by simp [hh] }
  · exact { h with
      records := by simp [markAll, hh, ht, hf, Function.comp_def]
      sent_sublist := by simp [markAll, htr]
      at_start := nofun
      early := fun _ he _ => ⟨by simp [markAll, htr], fun _ => .inl (by cases he; rfl)⟩
      blocked := fun _ => .inr ⟨_, rfl, nofun⟩
      running := by simp [markAll]
      executed := by simp [markAll, hh, ExecutedOk, hf] }
  · exact { h with
      records := by simp [markAll, hh, ht, hf, Function.comp_def]
      sent_sublist := by simp [markAll, htr]
      at_start := nofun
      early := fun _ he _ => ⟨by simp [markAll, htr], fun _ => .inr (by cases he; rfl)⟩
      blocked := fun _ => .inr ⟨_, rfl, nofun⟩
      running := by simp [markAll]
      executed := by simp [markAll] }
  · exact { h with
      sent_sublist := by simp [htr, sentStmts]
      at_start := nofun
      early := fun _ _ _ => ⟨by simp [htr, sentStmts], fun hne => absurd hh hne⟩
      blocked := fun _ => .inr ⟨_, rfl, nofun⟩
      stopped := by simp [htr, ExecEvent.stops]
      running := by simp
      quiet := .of_sentStmts_eq_nil (by simp [htr, sentStmts])
      executed := by simp [hh] }
  · have hnone : sentStmts (s.trace ++ evs) = [] := by simp [htr, sentStmts_eq_nil_of_silent hsil]
    exact { h with
      sent_sublist := by simp [hnone]
      at_start := nofun
      early := nofun
      blocked := by
        rw [← h.force, ← h.ignoreWarnings, ← ht, hb]
        exact fun hk₀ => absurd (h.killed (hk₀.resolve_left Bool.false_ne_true)) (by simp [hk])
      stopped := by
        rintro ⟨e, he, hst⟩
        rw [htr, List.nil_append] at he
        simp [stops_eq_false_of_silent _ (hsil e he)] at hst
      running := by simp
      quiet := .of_sentStmts_eq_nil hnone
      executed := by simp [hh] }

theorem loopStep (h : ExecInv ctx₀ s) (hpc : s.pc = .loop) : ExecInv ctx₀ (loopStep s r) := by
  have hnb := h.not_blocked (.inl hpc)
  have hblocked : ∀ pc : ExecPc, prescanBlocks ctx₀.opts.force ctx₀.opts.ignoreWarnings
      ctx₀.batch.cacheNodes = true ∨ ctx₀.killed = true →
      pc = .start ∨ ∃ e, pc = .returned e ∧ ∀ b, e ≠ .finished b := by
    simp [hnb]
  have hcf : s.pc ≠ .returned .connectFailed := by simp [hpc]
  rcases loopStep_cases s r with ⟨-, heq⟩ | ⟨node, rest, htodo,
      ⟨hk, node', heq, hid, hst⟩ | ⟨-, hs, node', heq, hid, hst⟩ |
      ⟨-, -, node', evs, heq, hid, hst, hsil⟩ | ⟨hk, hs, pc, evs, heq, hpc', hsil⟩⟩ <;> rw [heq]
  · exact { h with
      at_start := nofun
      early := fun _ he hne => absurd (ExecPc.returned.inj he).symm (hne _)
      blocked := hblocked _
      running := by simp
      executed := fun _ => h.executed hcf }
  · exact { h with
      records := h.records_snoc htodo hid
      sent_sublist := h.sent_snoc [.killed node.id] rfl node'
      at_start := by simp [hpc]
      early := by simp [hpc]
      blocked := hblocked _
      stopped := fun _ => .inr hk
      running := by simp [hpc]
      quiet := h.quiet.append (.of_sentStmts_eq_nil rfl) fun _ => rfl
      executed := fun _ => h.executed_snoc hcf fun _ => .inr (.inr hst) }
  · exact { h with
      records := h.records_snoc htodo hid
      sent_sublist := h.sent_snoc [.skipped node.id] rfl node'
      at_start := by simp [hpc]
      early := by simp [hpc]
      blocked := hblocked _
      stopped := fun _ => .inl hs
      running := by simp [hpc]
      quiet := h.quiet.append (.of_sentStmts_eq_nil rfl) fun _ => rfl
      executed := fun _ => h.executed_snoc hcf fun he => by simp [hst] at he }
  · have hnone : sentStmts (evs ++ [.precheckFailed node.id]) = [] := by
      rw [sentStmts_append, sentStmts_eq_nil_of_silent hsil]
      rfl
    exact { h with
      records := h.records_snoc htodo hid
      sent_sublist := by rw [List.append_assoc]; exact h.sent_snoc _ hnone node'
      at_start := by simp [hpc]
      early := by simp [hpc]
      blocked := hblocked _
      stopped := fun _ => .inl rfl
      running := by simp [hpc]
      quiet := by
        rw [List.append_assoc]
        exact h.quiet.append (.of_sentStmts_eq_nil hnone) fun _ => hnone
      executed := fun _ => by
        rw [List.append_assoc]
        exact h.executed_snoc hcf fun he => by simp [hst] at he }
  · have hnone := sentStmts_eq_nil_of_silent hsil
    exact { h with
      sent_sublist := by simpa [hnone] using h.sent_sublist
      at_start := by rcases hpc' with rfl | rfl <;> simp
      early := by rcases hpc' with rfl | rfl <;> simp
      blocked := hblocked _
      stopped := by
        rintro ⟨e, he, hst⟩
        rcases List.mem_append.mp he with he | he
        · exact h.stopped ⟨e, he, hst⟩
        · simp [stops_eq_false_of_silent _ (hsil e he)] at hst
      running := fun _ => ⟨hs, by
        intro e he
        rcases List.mem_append.mp he with he | he
        · by_contra hst
          rcases h.stopped ⟨e, he, by simpa using hst⟩ with h' | h' <;> simp_all
        · exact stops_eq_false_of_silent _ (hsil e he)⟩
      quiet := h.quiet.append (.of_sentStmts_eq_nil hnone) fun _ => hnone
      executed := fun hne n hn hst => by
        simpa [hnone] using h.executed hcf n hn hst }

theorem waitStep (h : ExecInv ctx₀ s) (hpc : s.pc = .wait) : ExecInv ctx₀ (step s r) := by
  obtain ⟨evs, htr, hsil, hpc', hh, ht, hst, hk, ho⟩ := step_wait r hpc
  have hnone := sentStmts_eq_nil_of_silent hsil
  have hclean := stops_append_silent (h.running (.inl hpc)).2 hsil
  have hnb := h.not_blocked (.inr (.inl hpc))
  constructor
  · rw [ho]; exact h.force
  · rw [ho]; exact h.ignoreWarnings
  · rw [hk]; exact h.killed
  · rw [hh, ht]; exact h.records
  · rw [htr, hh, sentStmts_append, hnone, List.append_nil]; exact h.sent_sublist
  · rcases hpc' with h' | h' <;> simp [h']
  · rcases hpc' with h' | h' <;> simp [h']
  · simp [hnb]
  · rintro ⟨e, he, hs⟩
    rw [htr] at he
    simp [hclean e he] at hs
  · intro _
    rw [hst, htr]
    exact ⟨(h.running (.inl hpc)).1, hclean⟩
  · rw [htr]; exact h.quiet.append (.of_sentStmts_eq_nil hnone) fun _ => hnone
  · intro _
    rw [hh, htr, sentStmts_append, hnone, List.append_nil]
    exact h.executed (by simp [hpc])

theorem execStep (h : ExecInv ctx₀ s) (hpc : s.pc = .exec) : ExecInv ctx₀ (execStep s r) := by
  have hnb := h.not_blocked (.inr (.inr hpc))
  obtain ⟨-, hclean⟩ := h.running (.inr hpc)
  have hcf : s.pc ≠ .returned .connectFailed := by simp [hpc]
  rcases execStep_cases s r with ⟨-, heq⟩ |
      ⟨node, rest, node', failed, evs, htodo, heq, hid, hst, hstop, hsent⟩
  · rw [heq]; exact h
  rw [heq]
  have hfin : sentStmts [if failed then ExecEvent.failed node.id else .ok node.id] = [] := by
    cases failed <;> rfl
  have htr : s.trace ++ [.executing node.id] ++ evs ++
      [if failed then ExecEvent.failed node.id else .ok node.id] =
      s.trace ++ (([.executing node.id] ++ evs) ++
        [if failed then ExecEvent.failed node.id else .ok node.id]) := by
    simp only [List.append_assoc]
  have hnew : sentStmts (([.executing node.id] ++ evs) ++
      [if failed then ExecEvent.failed node.id else .ok node.id]) =
      if execText node = "" then [] else [sendKey node] := by
    rw [sentStmts_append, hfin, List.append_nil, sentStmts_append, hsent]
    rfl
  have hmid : ∀ e ∈ [ExecEvent.executing node.id] ++ evs, e.stops ctx₀.opts.force = false := by
    intro e he
    rcases List.mem_append.mp he with he | he
    · simp [List.mem_singleton.mp he, ExecEvent.stops]
    · exact hstop e he _
  exact { h with
    records := h.records_snoc htodo hid
    sent_sublist := by
      rw [htr, sentStmts_append, hnew, List.map_append, List.map_singleton, sendKey_congr hid]
      exact h.sent_sublist.append (by split <;> simp)
    at_start := nofun
    early := nofun
    blocked := by simp [hnb]
    stopped := by
      rintro ⟨e, he, hs⟩
      rw [htr] at he
      rcases List.mem_append.mp he with he | he
      · simp [hclean e he] at hs
      rcases List.mem_append.mp he with he | he
      · simp [hmid e he] at hs
      · rw [List.mem_singleton.mp he] at hs
        cases failed
        · simp [ExecEvent.stops] at hs
        · simp only [ExecEvent.stops, ite_true] at hs
          exact .inl (by rw [h.force]; simp [hs])
    running := nofun
    quiet := by
      rw [htr]
      refine h.quiet.append ((QuietAfter.of_forall hmid).append (.of_sentStmts_eq_nil hfin)
        fun _ => hfin) fun ⟨e, he, hs⟩ => absurd hs (by simp [hclean e he])
    executed := fun _ => by
      rw [htr]
      refine h.executed_snoc hcf fun _ => ?_
      rw [sentStmts_append, hnew]
      have htext : execText node' = execText node := congrArg Prod.snd (sendKey_congr hid)
      by_cases he : execText node = ""
      · exact .inr (.inl (htext.trans he))
      · rw [if_neg he]
        exact .inl (sendKey_congr hid ▸ List.mem_append_right _ (List.mem_singleton_self _)) }

/-- What was sent is, in order, what some records of the batch send. -/
theorem sent_sublist_batch (h : ExecInv ctx₀ s) :
    sentStmts s.trace <+ ctx₀.batch.cacheNodes.map sendKey := by
  have hkeys : (s.handled ++ s.todo).map sendKey = ctx₀.batch.cacheNodes.map sendKey := by
    simpa [List.map_map, Function.comp_def, idText, sendKey, execText] using
      congrArg (List.map fun p : Nat × String => (p.1, (⟨stripInceptionCommentExec p.2.data⟩ : String)))
        h.records
  rw [← hkeys, List.map_append]
  exact h.sent_sublist.trans (List.sublist_append_left _ _)

/-- A blocked or killed batch, or an early return, sent nothing. -/
theorem sent_eq_nil (h : ExecInv ctx₀ s)
    (hb : prescanBlocks ctx₀.opts.force ctx₀.opts.ignoreWarnings ctx₀.batch.cacheNodes = true ∨
      ctx₀.killed = true ∨ s.pc = .returned .killedOnEntry ∨ s.pc = .returned .connectFailed) :
    sentStmts s.trace = [] := by
  have hearly : ∀ e, s.pc = .returned e → (∀ b, e ≠ .finished b) → sentStmts s.trace = [] :=
    fun e he hne => (h.early e he hne).1
  rcases hb with hb | hb | hb | hb
  · rcases h.blocked (.inl hb) with hs | ⟨e, he, hne⟩
    · simp [(h.at_start hs).2.2]
    · exact hearly e he hne
  · rcases h.blocked (.inr hb) with hs | ⟨e, he, hne⟩
    · simp [(h.at_start hs).2.2]
    · exact hearly e he hne
  · exact hearly _ hb nofun
  · exact hearly _ hb nofun

/-- **Every step keeps the invariant.** -/
theorem step (h : ExecInv ctx₀ s) (r : Reply) : ExecInv ctx₀ (Inception.step s r) := by
  cases hpc : s.pc with
  | start => rw [Inception.step, hpc]; exact h.startStep hpc
  | loop => rw [Inception.step, hpc]; exact h.loopStep hpc
  | wait => exact h.waitStep hpc
  | exec => rw [Inception.step, hpc]; exact h.execStep hpc
  | returned e => rw [Inception.step, hpc]; exact h

/-- **The invariant holds in every reachable state.** -/
theorem reachable {tid : Nat} (hrun : ExecReachable (ExecState.init ctx₀ tid) s) :
    ExecInv ctx₀ s := by
  induction hrun with
  | refl => exact init ctx₀ tid
  | tail _ hstep ih =>
    cases hstep with
    | engine r => exact ih.step r
    | kill => exact { ih with killed := fun _ => rfl, stopped := fun _ => .inr rfl }
    | setSleep => exact { ih with }

end ExecInv

/-! ## 4. What a run sends -/

theorem prescanBlocks_eq_true {force ignoreWarnings : Bool} {nodes : List SqlCacheNode} :
    prescanBlocks force ignoreWarnings nodes = true ↔
      (∃ n ∈ nodes, errlevelError ≤ n.errlevel) ∧ force = false ∨
        (∃ n ∈ nodes, errlevelWarning ≤ n.errlevel) ∧ ignoreWarnings = false := by
  simp only [prescanBlocks, List.any_eq_true, Bool.or_eq_true, Bool.and_eq_true, decide_eq_true_eq,
    Bool.not_eq_true']
  constructor
  · rintro ⟨n, hn, ⟨he, hf⟩ | ⟨hw, hi⟩⟩
    · exact .inl ⟨⟨n, hn, he⟩, hf⟩
    · exact .inr ⟨⟨n, hn, hw⟩, hi⟩
  · rintro (⟨⟨n, hn, he⟩, hf⟩ | ⟨⟨n, hn, hw⟩, hi⟩)
    · exact ⟨n, hn, .inl ⟨he, hf⟩⟩
    · exact ⟨n, hn, .inr ⟨hw, hi⟩⟩

/-- **What `execute_statements` sends.**  Nothing, when the pre-scan blocks the batch (an audit
    error without `force`, a warning without `ignore_warnings`), when `killed` was set before the
    run or seen on entry, or when the connect failed.  Otherwise the statements sent are records of
    the batch, in the batch's order (so in increasing id order when the ids increase), each at most
    once; and nothing is sent after a kill seen at a statement boundary, a failed pre-check, or a
    failure while `force` is off. -/
theorem execute_statements_sends (ctx₀ : InceptionContext) (tid : Nat) (s : ExecState)
    (hrun : ExecReachable (ExecState.init ctx₀ tid) s) :
    ((∃ n ∈ ctx₀.batch.cacheNodes, errlevelError ≤ n.errlevel) ∧ ctx₀.opts.force = false ∨
        (∃ n ∈ ctx₀.batch.cacheNodes, errlevelWarning ≤ n.errlevel) ∧
          ctx₀.opts.ignoreWarnings = false ∨
        ctx₀.killed = true ∨ s.pc = .returned .killedOnEntry ∨ s.pc = .returned .connectFailed →
      sentStmts s.trace = []) ∧
    sentStmts s.trace <+ ctx₀.batch.cacheNodes.map sendKey ∧
    ((ctx₀.batch.cacheNodes.map (·.id)).Pairwise (· < ·) →
      ((sentStmts s.trace).map (·.1)).Pairwise (· < ·)) ∧
    QuietAfter (ExecEvent.stops ctx₀.opts.force) s.trace := by
  have h := ExecInv.reachable hrun
  have hsub := h.sent_sublist_batch
  refine ⟨fun hb => h.sent_eq_nil ?_, hsub, fun hids => ?_, h.quiet⟩
  · rcases hb with hb | hb | hb
    · exact .inl (prescanBlocks_eq_true.mpr (.inl hb))
    · exact .inl (prescanBlocks_eq_true.mpr (.inr hb))
    · exact .inr hb
  · have hmap : (ctx₀.batch.cacheNodes.map sendKey).map (·.1) = ctx₀.batch.cacheNodes.map (·.id) := by
      simp [List.map_map, Function.comp_def, sendKey]
    exact hids.sublist (hmap ▸ hsub.map _)

/-- A two-statement batch of an execute-mode session. -/
def demoBatch : InceptionContext :=
  { active := true, opts := { mode := .execute },
    batch := { cacheNodes := [{ id := 1, sqlText := "CREATE TABLE t (a int)" },
                              { id := 2, sqlText := "INSERT INTO t VALUES (1)" }],
               nextId := 3 } }

/-- A remote that accepts the connection and every statement. -/
def acceptingReply : Reply := { connect := .ok 42 }

/-- The entry step, the first statement's checks and its execution. -/
def demoRun : ExecState :=
  runMoves (ExecState.init demoBatch 7)
    [.engine acceptingReply, .engine acceptingReply, .engine acceptingReply]

example : sentStmts demoRun.trace = [(1, "CREATE TABLE t (a int)")] := by decide

theorem execute_statements_sends_demoRun :
    ExecReachable (ExecState.init demoBatch 7) demoRun ∧
    (((∃ n ∈ demoBatch.batch.cacheNodes, errlevelError ≤ n.errlevel) ∧
          demoBatch.opts.force = false ∨
        (∃ n ∈ demoBatch.batch.cacheNodes, errlevelWarning ≤ n.errlevel) ∧
          demoBatch.opts.ignoreWarnings = false ∨
        demoBatch.killed = true ∨ demoRun.pc = .returned .killedOnEntry ∨
          demoRun.pc = .returned .connectFailed →
      sentStmts demoRun.trace = []) ∧
    sentStmts demoRun.trace <+ demoBatch.batch.cacheNodes.map sendKey ∧
    ((demoBatch.batch.cacheNodes.map (·.id)).Pairwise (· < ·) →
      ((sentStmts demoRun.trace).map (·.1)).Pairwise (· < ·)) ∧
    QuietAfter (ExecEvent.stops demoBatch.opts.force) demoRun.trace) :=
  ⟨reachable_runMoves _ _, execute_statements_sends _ _ _ (reachable_runMoves _ _)⟩

/-! ## 5. Which records end `EXECUTED` -/

/-- A batch killed before the run whose first statement has an audit error, with `force` off. -/
def killedErrorBatch : InceptionContext :=
  { demoBatch with
    killed := true,
    batch := { demoBatch.batch with
               cacheNodes := [{ id := 1, sqlText := "CREATE TABLE t (a int)",
                                errlevel := errlevelError },
                              { id := 2, sqlText := "INSERT INTO t VALUES (1)" }] } }

/-- The entry step of `killedErrorBatch`. -/
def killedErrorRun : ExecState :=
  runMoves (ExecState.init killedErrorBatch 7) [.engine acceptingReply]

/-- **A record can end `EXECUTED` without being sent**: on a batch killed before it ran, whose
    first statement has an audit error and whose `force` is off, the entry step marks every record
    `EXECUTED` and sends nothing. -/
theorem killed_on_entry_executed_unsent :
    ExecReachable (ExecState.init killedErrorBatch 7) killedErrorRun ∧
      killedErrorBatch.opts.force = false ∧
      (∃ n ∈ killedErrorBatch.batch.cacheNodes, n.errlevel = errlevelError) ∧
      ∃ n ∈ killedErrorRun.handled, n.stage = .executed ∧ sendKey n ∉ sentStmts killedErrorRun.trace :=
  ⟨reachable_runMoves _ _, rfl, by decide, by decide⟩

/-- **Why a record is `EXECUTED`**: it was sent; or it had no text left once the start marker was
    stripped; or a kill was seen before its dispatch (status `Killed by user`); or the run returned
    at the connect failure, which marks every record.  When the pre-scan blocks the batch (in
    particular when `force` is off and a record has an audit error), a record is `EXECUTED` only on
    a kill seen on entry or a failed connect. -/
theorem executed_records_accounted (ctx₀ : InceptionContext) (tid : Nat) (s : ExecState)
    (hrun : ExecReachable (ExecState.init ctx₀ tid) s) :
    (∀ n ∈ s.handled, n.stage = .executed →
      sendKey n ∈ sentStmts s.trace ∨ execText n = "" ∨ n.stageStatus = "Killed by user" ∨
        s.pc = .returned .connectFailed) ∧
    ((∃ n ∈ ctx₀.batch.cacheNodes, errlevelError ≤ n.errlevel) ∧ ctx₀.opts.force = false ∨
        (∃ n ∈ ctx₀.batch.cacheNodes, errlevelWarning ≤ n.errlevel) ∧
          ctx₀.opts.ignoreWarnings = false →
      ∀ n ∈ s.handled, n.stage = .executed →
        s.pc = .returned .killedOnEntry ∨ s.pc = .returned .connectFailed) := by
  have h := ExecInv.reachable hrun
  refine ⟨fun n hn hst => ?_, fun hb n hn _ => ?_⟩
  · by_cases hcf : s.pc = .returned .connectFailed
    · exact .inr (.inr (.inr hcf))
    · rcases h.executed hcf n hn hst with h' | h' | h'
      · exact .inl h'
      · exact .inr (.inl h')
      · exact .inr (.inr (.inl h'))
  · rcases h.blocked (.inl (prescanBlocks_eq_true.mpr hb)) with hs | ⟨e, he, hne⟩
    · simp [(h.at_start hs).1] at hn
    · rcases (h.early e he hne).2 (List.ne_nil_of_mem hn) with rfl | rfl
      · exact .inl he
      · exact .inr he

theorem executed_records_accounted_demoRun :
    ExecReachable (ExecState.init demoBatch 7) demoRun ∧
    (∀ n ∈ demoRun.handled, n.stage = .executed →
      sendKey n ∈ sentStmts demoRun.trace ∨ execText n = "" ∨ n.stageStatus = "Killed by user" ∨
        demoRun.pc = .returned .connectFailed) ∧
    ((∃ n ∈ demoBatch.batch.cacheNodes, errlevelError ≤ n.errlevel) ∧
          demoBatch.opts.force = false ∨
        (∃ n ∈ demoBatch.batch.cacheNodes, errlevelWarning ≤ n.errlevel) ∧
          demoBatch.opts.ignoreWarnings = false →
      ∀ n ∈ demoRun.handled, n.stage = .executed →
        demoRun.pc = .returned .killedOnEntry ∨ demoRun.pc = .returned .connectFailed) :=
  ⟨reachable_runMoves _ _, executed_records_accounted _ _ _ (reachable_runMoves _ _)⟩

/-! ## 6. After a kill

The engine reads `killed` on entry and at each statement boundary, never inside
`wait_for_remote_ready`.  A kill seen at a boundary stops every send; a kill that lands while the
engine polls a busy remote lets the statement being waited for run. -/

/-- A remote whose `Threads_running` cap is set, so that the engine polls before each statement. -/
def throttledReply : Reply := { connect := .ok 42, sv := { execMaxThreadsRunning := 1 } }

/-- The first statement's poll, with a kill landing there. -/
def killDuringPoll : ExecState :=
  runMoves (ExecState.init demoBatch 7) [.engine throttledReply, .engine throttledReply, .kill]

/-- **A kill at a poll checkpoint does not stop the statement being waited for**: `killed` is set
    while the engine is in `wait_for_remote_ready`, and the statement is then sent. -/
theorem kill_during_poll_still_sends :
    ExecReachable (ExecState.init demoBatch 7) killDuringPoll ∧ killDuringPoll.ctx.killed = true ∧
      killDuringPoll.pc = .wait ∧
      ExecReachable killDuringPoll
        (runMoves killDuringPoll [.engine throttledReply, .engine throttledReply]) ∧
      sentStmts (runMoves killDuringPoll [.engine throttledReply, .engine throttledReply]).trace ≠
        sentStmts killDuringPoll.trace :=
  ⟨reachable_runMoves _ _, rfl, rfl, reachable_runMoves _ _, by decide⟩

/-- Where a run can be after a state `s` at which `killed` is set: still polling for, or about to
    execute, the statement `s` was at, with nothing more sent; or at a boundary or returned, having
    sent at most that statement, and that only when `s` was polling or executing. -/
def KilledAfter (s s' : ExecState) : Prop :=
  s'.ctx.killed = true ∧
    (((s'.pc = .wait ∨ s'.pc = .exec) ∧ (s.pc = .wait ∨ s.pc = .exec) ∧ s'.todo = s.todo ∧
        sentStmts s'.trace = sentStmts s.trace) ∨
      ((s'.pc = .loop ∨ ∃ e, s'.pc = .returned e) ∧
        (sentStmts s'.trace = sentStmts s.trace ∨
          (s.pc = .wait ∨ s.pc = .exec) ∧
            ∃ k ∈ s.todo.head?, sentStmts s'.trace = sentStmts s.trace ++ [sendKey k])))

theorem KilledAfter.step {s s' s'' : ExecState} (h : KilledAfter s s') (hstep : ExecStep s' s'') :
    KilledAfter s s'' := by
  obtain ⟨hk, hpoll | ⟨hpc, hsent⟩⟩ := h
  · obtain ⟨hpc, hs, ht, hsent⟩ := hpoll
    cases hstep with
    | engine r =>
      rcases hpc with hpc | hpc
      · obtain ⟨evs, htr, hsil, hpc', -, ht', -, hk', -⟩ := step_wait r hpc
        refine ⟨hk' ▸ hk, .inl ⟨hpc', hs, ht' ▸ ht, ?_⟩⟩
        rw [htr, sentStmts_append, sentStmts_eq_nil_of_silent hsil, List.append_nil, hsent]
      · rw [show Inception.step s' r = execStep s' r by simp only [Inception.step, hpc]]
        rcases execStep_cases s' r with ⟨-, heq⟩ |
          ⟨node, rest, node', failed, evs, htodo, heq, -, -, -, hevs⟩
        · rw [heq]; exact ⟨hk, .inl ⟨.inr hpc, hs, ht, hsent⟩⟩
        · rw [heq]
          refine ⟨hk, .inr ⟨.inl rfl, ?_⟩⟩
          have hfin : sentStmts [if failed then ExecEvent.failed node.id else .ok node.id] = [] := by
            cases failed <;> rfl
          simp only [sentStmts_append, hfin, hevs, hsent, List.append_nil]
          split
          · exact .inl (by simp [sentStmts])
          · exact .inr ⟨hs, node, by simp [← ht, htodo], by simp [sentStmts]⟩
    | kill => exact ⟨rfl, .inl ⟨hpc, hs, ht, hsent⟩⟩
    | setSleep => exact ⟨hk, .inl ⟨hpc, hs, ht, hsent⟩⟩
  · cases hstep with
    | engine r =>
      rcases hpc with hpc | ⟨e, hpc⟩
      · rw [show Inception.step s' r = loopStep s' r by simp only [Inception.step, hpc]]
        rcases loopStep_cases s' r with ⟨-, heq⟩ | ⟨node, rest, -, ⟨-, node', heq, -⟩ |
            ⟨hk', -⟩ | ⟨hk', -⟩ | ⟨hk', -⟩⟩
        · rw [heq]; exact ⟨hk, .inr ⟨.inr ⟨_, rfl⟩, hsent⟩⟩
        · rw [heq]
          refine ⟨hk, .inr ⟨.inl hpc, ?_⟩⟩
          simpa [sentStmts] using hsent
        all_goals simp [hk] at hk'
      · rw [show Inception.step s' r = s' by simp only [Inception.step, hpc]]
        exact ⟨hk, .inr ⟨.inr ⟨e, hpc⟩, hsent⟩⟩
    | kill => exact ⟨rfl, .inr ⟨hpc, hsent⟩⟩
    | setSleep => exact ⟨hk, .inr ⟨hpc, hsent⟩⟩

/-- **What is sent after a kill seen at a checkpoint.**  Once `killed` is true at a statement
    boundary, nothing more is sent.  Once it is true at a poll iteration of
    `wait_for_remote_ready`, at most the statement being waited for is sent afterwards. -/
theorem killed_checkpoint_sends (s s' : ExecState) (hk : s.ctx.killed = true)
    (hrun : ExecReachable s s') :
    (s.pc = .loop → sentStmts s'.trace = sentStmts s.trace) ∧
    (s.pc = .wait → sentStmts s'.trace = sentStmts s.trace ∨
      ∃ k ∈ s.todo.head?, sentStmts s'.trace = sentStmts s.trace ++ [sendKey k]) := by
  have hafter : s.pc = .loop ∨ s.pc = .wait → KilledAfter s s' := by
    intro hpc
    induction hrun with
    | refl =>
      rcases hpc with hpc | hpc
      · exact ⟨hk, .inr ⟨.inl hpc, .inl rfl⟩⟩
      · exact ⟨hk, .inl ⟨.inl hpc, .inl hpc, rfl, rfl⟩⟩
    | tail _ hstep ih => exact ih.step hstep
  refine ⟨fun hpc => ?_, fun hpc => ?_⟩
  · obtain ⟨-, ⟨-, hs, -⟩ | ⟨-, hsent | ⟨hs, -⟩⟩⟩ := hafter (.inl hpc)
    · simp [hpc] at hs
    · exact hsent
    · simp [hpc] at hs
  · obtain ⟨-, ⟨-, -, -, hsent⟩ | ⟨-, hsent | ⟨-, hk'⟩⟩⟩ := hafter (.inr hpc)
    · exact .inl hsent
    · exact .inl hsent
    · exact .inr hk'

theorem killed_checkpoint_sends_killDuringPoll :
    killDuringPoll.ctx.killed = true ∧
    ExecReachable killDuringPoll
      (runMoves killDuringPoll [.engine throttledReply, .engine throttledReply]) ∧
    (killDuringPoll.pc = .loop →
      sentStmts (runMoves killDuringPoll [.engine throttledReply, .engine throttledReply]).trace =
        sentStmts killDuringPoll.trace) ∧
    (killDuringPoll.pc = .wait →
      sentStmts (runMoves killDuringPoll [.engine throttledReply, .engine throttledReply]).trace =
        sentStmts killDuringPoll.trace ∨
      ∃ k ∈ killDuringPoll.todo.head?,
        sentStmts (runMoves killDuringPoll [.engine throttledReply, .engine throttledReply]).trace =
          sentStmts killDuringPoll.trace ++ [sendKey k]) :=
  ⟨rfl, reachable_runMoves _ _, killed_checkpoint_sends _ _ rfl (reachable_runMoves _ _)⟩

end Inception
