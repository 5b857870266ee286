import Inception.Exec.Safety
import Inception.Session.Commands

/-!
# Audit trail — what `execute_statements` logs, and the sequence tokens it hands out

`inception_exec.cc`.  After `execute_one` the engine calls `audit_log_statement` on the record it
just ran, and then, the record being `EXECUTED`, gives it the sequence token
`'<time>_<thread id>_<statement id>'`.  No other path of the engine logs a statement or sets a
token: a record killed, skipped, stopped by the pre-check, or marked on entry or at a failed
connect keeps the token it came with, and the batch the audit builds carries none.

* §1 the token and its three numerals (`sequenceToken_fields`), and the log call of one move;
* §2 what each step does to the records' tokens, one lemma per step function;
* §3 over every interleaving with the other sessions' commands: the records logged are, in order,
  the reply rows that carry a token, as they were before the token was set, so that the log's
  lines are the rows' lines (`audit_log_matches_reply`); and the tokens of one reply are
  pairwise distinct, each naming the session's thread and the record's own id
  (`sequence_tokens_distinct`).

The token's time is the clock's second, so within one session it tells statements apart by their
ids only: two commits of one session in the same second hand out the same tokens.
-/

namespace Inception

/-! ## 1. Tokens and log calls -/

/-- The sequence token, `snprintf(seq_buf, ..., "'%ld_%u_%d'", time(nullptr), thread_id, id)`. -/
def sequenceToken (now : Int) (tid id : Nat) : String :=
  "'" ++ toString now ++ "_" ++ toString tid ++ "_" ++ toString id ++ "'"

/-- The record a move hands to `audit_log_statement`: at the execution step, the one
    `execute_one` returned, before its token is set.  No other step, and no command of another
    session, logs a statement. -/
def ExecMove.logged : ExecMove → ExecState → List SqlCacheNode
  | .engine r, s => match s.pc, s.todo with
    | .exec, node :: _ => [(executeOne node r).2.1]
    | _, _ => []
  | _, _ => []

/-- The records a replayed interleaving logs, in order. -/
def loggedRecords (s : ExecState) : List ExecMove → List SqlCacheNode
  | [] => []
  | m :: ms => m.logged s ++ loggedRecords (m.apply s) ms

/-- The rows of a reply that carry a sequence token, each as it was before the token was set. -/
def tokenedRows (rows : List SqlCacheNode) : List SqlCacheNode :=
  (rows.filter fun n => n.sequence ≠ "").map fun n => { n with sequence := "" }

@[simp] theorem tokenedRows_nil : tokenedRows [] = [] := rfl

@[simp] theorem tokenedRows_append (a b : List SqlCacheNode) :
    tokenedRows (a ++ b) = tokenedRows a ++ tokenedRows b := by
  simp only [tokenedRows, List.filter_append, List.map_append]

/-- A record given a token is a tokened row, as it was before. -/
theorem tokenedRows_token {n : SqlCacheNode} (hn : n.sequence = "") {tok : String} (ht : tok ≠ "") :
    tokenedRows [{ n with sequence := tok }] = [n] := by
  cases n
  subst hn
  simp [tokenedRows, ht]

theorem tokenedRows_eq_nil {rows : List SqlCacheNode} (h : ∀ n ∈ rows, n.sequence = "") :
    tokenedRows rows = [] := by
  simp only [tokenedRows, List.map_eq_nil_iff, List.filter_eq_nil_iff, decide_eq_true_eq,
    not_not]
  exact h

theorem underscore_not_mem_natToString (n : Nat) : '_' ∉ (toString n).data := fun h =>
  absurd ((digitRun_toString n).2 _ h) (by decide)

/-- What `%ld` prints holds no `_`. -/
theorem underscore_not_mem_toString (i : Int) : '_' ∉ (toString i).data := by
  cases i with
  | ofNat m => exact underscore_not_mem_natToString m
  | negSucc m =>
    exact fun h => (List.mem_cons.mp h).elim (by decide) (underscore_not_mem_natToString _)

/-- **The token reads back**: between its quotes, split at `_`, it is the time, the thread id and
    the statement id. -/
theorem sequenceToken_fields (now : Int) (tid id : Nat) :
    (sequenceToken now tid id).data.tail.dropLast.splitOn '_' =
      [(toString now).data, (toString tid).data, (toString id).data] := by
  have hdata : (sequenceToken now tid id).data =
      '\'' :: (['_'].intercalate [(toString now).data, (toString tid).data, (toString id).data] ++
        ['\'']) := by
    simp [sequenceToken, List.intercalate]
  rw [hdata, List.tail_cons, List.dropLast_concat]
  refine List.splitOn_intercalate _ '_' (fun l hl => ?_) (List.cons_ne_nil _ _)
  simp only [List.mem_cons, List.mem_singleton, List.not_mem_nil, or_false] at hl
  rcases hl with rfl | rfl | rfl
  · exact underscore_not_mem_toString now
  · exact underscore_not_mem_natToString tid
  · exact underscore_not_mem_natToString id

/-- Two tokens that are equal name the same statement. -/
theorem sequenceToken_id_eq {now now' : Int} {tid tid' id id' : Nat}
    (h : sequenceToken now tid id = sequenceToken now' tid' id') : id = id' := by
  have hf := congrArg (fun t => (t.data.tail.dropLast.splitOn '_')[2]?) h
  simp only [sequenceToken_fields, List.getElem?_cons_succ, List.getElem?_cons_zero,
    Option.some.injEq] at hf
  rw [← digitsValue_toString id, hf, digitsValue_toString]

theorem sequenceToken_ne_empty (now : Int) (tid id : Nat) : sequenceToken now tid id ≠ "" := by
  intro h
  obtain ⟨t, ht⟩ : ∃ t, (sequenceToken now tid id).data = '\'' :: t := ⟨_, rfl⟩
  rw [h] at ht
  cases ht

/-! ## 2. What each step does to the tokens -/

section Steps

variable {s : ExecState} {r : Reply}

@[simp] theorem appendAt_sequence (n : SqlCacheNode) (lvl : Nat) (msg : String) :
    (n.appendAt lvl msg).sequence = n.sequence := rfl

theorem collectRemoteWarnings_sequence (rows : List Row) (node : SqlCacheNode) :
    (collectRemoteWarnings rows node).sequence = node.sequence := by
  induction rows generalizing node with
  | nil => rfl
  | cons row rows ih =>
    simp only [collectRemoteWarnings, List.foldl_cons] at ih ⊢
    rw [ih]
    split <;> rfl

/-- `execute_one` leaves the token as it was. -/
theorem executeOne_sequence (node : SqlCacheNode) (r : Reply) :
    (executeOne node r).2.1.sequence = node.sequence := by
  unfold executeOne
  split
  · rfl
  dsimp only
  split
  · rfl
  split
  · rfl
  split
  · exact collectRemoteWarnings_sequence ..
  · rfl

/-- The entry step leaves the records, or marks every one still to run without touching its
    token. -/
theorem startStep_records (s : ExecState) (r : Reply) :
    ((startStep s r).handled = s.handled ∧ (startStep s r).todo = s.todo) ∨
      ∃ f : SqlCacheNode → SqlCacheNode, (startStep s r).handled = s.handled ++ s.todo.map f ∧
        (∀ n, (f n).sequence = n.sequence) ∧ (startStep s r).todo = [] := by
  unfold startStep markAll
  split
  · exact .inl ⟨rfl, rfl⟩
  split
  · exact .inr ⟨_, rfl, fun _ => rfl, rfl⟩
  split
  · exact .inr ⟨_, rfl, fun _ => rfl, rfl⟩
  · dsimp only
    split <;> exact .inl ⟨rfl, rfl⟩

/-- A loop step leaves the records, or moves the current one to `handled` with its token. -/
theorem loopStep_records (s : ExecState) (r : Reply) :
    ((loopStep s r).handled = s.handled ∧ (loopStep s r).todo = s.todo) ∨
      ∃ node rest node', s.todo = node :: rest ∧ (loopStep s r).handled = s.handled ++ [node'] ∧
        node'.sequence = node.sequence ∧ (loopStep s r).todo = rest := by
  unfold loopStep
  split
  · exact .inl ⟨rfl, rfl⟩
  rename_i node rest htodo
  split
  · exact .inr ⟨node, rest, _, htodo, rfl, rfl, rfl⟩
  split
  · exact .inr ⟨node, rest, _, htodo, rfl, rfl, rfl⟩
  dsimp only
  split
  · exact .inr ⟨node, rest, _, htodo, rfl, rfl, rfl⟩
  · exact .inr ⟨node, rest, _, htodo, rfl, rfl, rfl⟩
  · exact .inl ⟨rfl, rfl⟩

/-- An execution step moves the current record to `handled` as `execute_one` returned it, with
    its token. -/
theorem execStep_records (s : ExecState) (r : Reply) :
    (s.todo = [] ∧ execStep s r = s) ∨ ∃ node rest, s.todo = node :: rest ∧
      (execStep s r).handled = s.handled ++
        [{ (executeOne node r).2.1 with sequence := sequenceToken r.now s.threadId node.id }] ∧
      (execStep s r).todo = rest := by
  unfold execStep
  split
  · exact .inl ⟨‹_›, rfl⟩
  · rename_i node rest htodo
    refine .inr ⟨node, rest, htodo, ?_, rfl⟩
    dsimp only
    rw [if_pos (executeOne_spec node r).2.1]
    rfl

@[simp] theorem step_threadId (s : ExecState) (r : Reply) : (step s r).threadId = s.threadId := by
  cases hpc : s.pc
  case wait =>
    have hstep : step s r = if (pollOnce s r).1 then (pollOnce s r).2
        else { (pollOnce s r).2 with pc := .exec } := by simp only [step, hpc]
    rw [hstep]
    split <;> rfl
  all_goals
    simp only [step, hpc, startStep, loopStep, execStep, markAll]
    repeat' first | split | dsimp only

@[simp] theorem ExecMove.apply_threadId (m : ExecMove) (s : ExecState) :
    (m.apply s).threadId = s.threadId := by
  cases m <;> simp [ExecMove.apply]

theorem runMoves_threadId (ms : List ExecMove) (s : ExecState) :
    (runMoves s ms).threadId = s.threadId := by
  induction ms generalizing s with
  | nil => rfl
  | cons m ms ih => rw [runMoves, ih, ExecMove.apply_threadId]

end Steps

/-! ## 3. Over every interleaving -/

/-- The tokens as a run leaves them: none on the records still to run, and on a handled record
    none or the token of the engine's thread and the record's own id. -/
structure Tokened (s : ExecState) : Prop where
  todo : ∀ n ∈ s.todo, n.sequence = ""
  handled : ∀ n ∈ s.handled,
    n.sequence = "" ∨ ∃ now : Int, n.sequence = sequenceToken now s.threadId n.id

namespace Tokened

variable {s s' : ExecState}

/-- A step that appends records to `handled` from the ones still to run keeps the tokens'
    shape. -/
theorem extend (h : Tokened s) (hid : s'.threadId = s.threadId) {new : List SqlCacheNode}
    (hh : s'.handled = s.handled ++ new) (ht : ∀ n ∈ s'.todo, n ∈ s.todo)
    (hnew : ∀ n ∈ new, n.sequence = "" ∨ ∃ now : Int, n.sequence = sequenceToken now s.threadId n.id) :
    Tokened s' where
  todo n hn := h.todo n (ht n hn)
  handled n hn := by
    rw [hid]
    rw [hh] at hn
    rcases List.mem_append.mp hn with hn | hn
    · exact h.handled n hn
    · exact hnew n hn

theorem of_eq (h : Tokened s) (hid : s'.threadId = s.threadId) (hh : s'.handled = s.handled)
    (ht : s'.todo = s.todo) : Tokened s' :=
  h.extend hid (hh.trans (List.append_nil _).symm) (fun _ hn => ht ▸ hn) fun _ h => absurd h (List.not_mem_nil _)

/-- **One move**: it keeps the tokens' shape, and the records it logs are the rows it tokens. -/
theorem move (h : Tokened s) (m : ExecMove) :
    Tokened (m.apply s) ∧ tokenedRows (m.apply s).handled = tokenedRows s.handled ++ m.logged s := by
  cases m with
  | kill => exact ⟨h.of_eq rfl rfl rfl, by simp [ExecMove.logged, ExecMove.apply]⟩
  | setSleep ms => exact ⟨h.of_eq rfl rfl rfl, by simp [ExecMove.logged, ExecMove.apply]⟩
  | engine r =>
    have hid := step_threadId s r
    simp only [ExecMove.apply, ExecMove.logged]
    cases hpc : s.pc with
    | start =>
      simp only [step, hpc] at hid ⊢
      rcases startStep_records s r with ⟨hh, ht⟩ | ⟨f, hh, hf, ht⟩
      · exact ⟨h.of_eq hid hh ht, by rw [hh, List.append_nil]⟩
      · have hnew : ∀ n ∈ s.todo.map f, n.sequence = "" := by
          simp only [List.mem_map]
          rintro _ ⟨n, hn, rfl⟩
          rw [hf, h.todo n hn]
        exact ⟨h.extend hid hh (by simp [ht]) fun n hn => .inl (hnew n hn),
          by rw [hh, tokenedRows_append, tokenedRows_eq_nil hnew]⟩
    | loop =>
      simp only [step, hpc] at hid ⊢
      rcases loopStep_records s r with ⟨hh, ht⟩ | ⟨node, rest, node', htodo, hh, hseq, ht⟩
      · exact ⟨h.of_eq hid hh ht, by rw [hh, List.append_nil]⟩
      · have hnode : node'.sequence = "" := hseq.trans (h.todo node (by simp [htodo]))
        exact ⟨h.extend hid hh (fun n hn => htodo ▸ .tail _ (ht ▸ hn)) (by simp [hnode]),
          by rw [hh, tokenedRows_append, @tokenedRows_eq_nil [node'] (by simp [hnode])]⟩
    | wait =>
      obtain ⟨-, -, -, -, hh, ht, -⟩ := step_wait r hpc
      exact ⟨h.of_eq hid hh ht, by rw [hh, List.append_nil]⟩
    | exec =>
      simp only [step, hpc] at hid ⊢
      rcases execStep_records s r with ⟨htodo, heq⟩ | ⟨node, rest, htodo, hh, ht⟩
      · rw [heq, htodo]
        exact ⟨h, by simp⟩
      · have hnode : (executeOne node r).2.1.sequence = "" :=
          (executeOne_sequence node r).trans (h.todo node (by simp [htodo]))
        have hid' : (executeOne node r).2.1.id = node.id := congrArg Prod.fst (executeOne_spec node r).1
        refine ⟨h.extend hid hh (fun n hn => htodo ▸ .tail _ (ht ▸ hn)) ?_, ?_⟩
        · simp only [List.mem_singleton, forall_eq, hid']
          exact .inr ⟨r.now, rfl⟩
        · rw [hh, tokenedRows_append, tokenedRows_token hnode (sequenceToken_ne_empty _ _ _), htodo]
    | returned e => exact ⟨by simpa [step, hpc] using h, by simp [step, hpc]⟩

theorem init {ctx : InceptionContext} (hseq : ∀ n ∈ ctx.batch.cacheNodes, n.sequence = "")
    (tid : Nat) : Tokened (.init ctx tid) :=
  ⟨hseq, fun _ h => absurd h (List.not_mem_nil _)⟩

/-- **Over a replayed interleaving**: the tokens keep their shape, and what the moves log is what
    they token. -/
theorem run (h : Tokened s) (ms : List ExecMove) :
    Tokened (runMoves s ms) ∧
      tokenedRows (runMoves s ms).handled = tokenedRows s.handled ++ loggedRecords s ms := by
  induction ms generalizing s with
  | nil => exact ⟨h, by simp [runMoves, loggedRecords]⟩
  | cons m ms ih =>
    obtain ⟨h', he⟩ := h.move m
    obtain ⟨h'', he'⟩ := ih h'
    exact ⟨h'', by rw [runMoves, he', he, loggedRecords, List.append_assoc]⟩

end Tokened

/-- **The audit log matches the reply**: for every batch the audit builds (no record carries a
    token yet), every thread id and every interleaving of the engine's steps with the other
    sessions' `kill` and `set sleep`, whatever the remote answers, the records
    `execute_statements` hands to `audit_log_statement` are, in order, the rows of its reply that
    carry a sequence token, each as it was before the token was set.  So in every log
    environment the log's lines are those rows' lines, and no record killed, skipped, stopped by
    the pre-check or marked on entry is logged. -/
theorem audit_log_matches_reply (ctx : InceptionContext) (tid : Nat) (ms : List ExecMove)
    (hseq : ∀ n ∈ ctx.batch.cacheNodes, n.sequence = "") :
    loggedRecords (.init ctx tid) ms = tokenedRows (runMoves (.init ctx tid) ms).handled ∧
      ∀ (le : LogEnv) (c : InceptionContext),
        (loggedRecords (.init ctx tid) ms).map (statementLine le c) =
          ((runMoves (.init ctx tid) ms).handled.filter fun n => n.sequence ≠ "").map
            (statementLine le c) := by
  have hrun := ((Tokened.init hseq tid).run ms).2
  rw [show tokenedRows (ExecState.init ctx tid).handled = [] from rfl, List.nil_append] at hrun
  refine ⟨hrun.symm, fun le c => ?_⟩
  rw [← hrun, tokenedRows, List.map_map]
  rfl

/-- A three-statement batch whose second statement the remote refuses. -/
def refusedBatch : InceptionContext :=
  { active := true, opts := { mode := .execute },
    batch := { cacheNodes := [{ id := 1, sqlText := "INSERT INTO t VALUES (1)" },
                              { id := 2, sqlText := "INSERT INTO t VALUES (1)" },
                              { id := 3, sqlText := "INSERT INTO t VALUES (2)" }],
               nextId := 4 } }

/-- The entry step, the first statement, the second refused, the third skipped, and the end. -/
def refusedRun : List ExecMove :=
  [.engine acceptingReply, .engine acceptingReply, .engine acceptingReply,
    .engine acceptingReply, .engine { connect := .ok 42, exec := .error "Duplicate entry" },
    .engine acceptingReply, .engine acceptingReply]

example : (loggedRecords (.init refusedBatch 7) refusedRun).map (·.id) = [1, 2] := by decide

theorem audit_log_matches_reply_refused :
    (∀ n ∈ refusedBatch.batch.cacheNodes, n.sequence = "") ∧
      (loggedRecords (.init refusedBatch 7) refusedRun =
          tokenedRows (runMoves (.init refusedBatch 7) refusedRun).handled ∧
        ∀ (le : LogEnv) (c : InceptionContext),
          (loggedRecords (.init refusedBatch 7) refusedRun).map (statementLine le c) =
            ((runMoves (.init refusedBatch 7) refusedRun).handled.filter
              fun n => n.sequence ≠ "").map (statementLine le c)) :=
  ⟨by decide, audit_log_matches_reply _ _ _ (by decide)⟩

/-- **Sequence tokens are unique within a reply**: for every batch the audit builds, its ids
    distinct, every thread id and every interleaving, each token a run hands out names the
    session's thread and the record's own id, and no two rows of the reply carry the same
    token. -/
theorem sequence_tokens_distinct (ctx : InceptionContext) (tid : Nat) (ms : List ExecMove)
    (hseq : ∀ n ∈ ctx.batch.cacheNodes, n.sequence = "")
    (hids : (ctx.batch.cacheNodes.map (·.id)).Nodup) :
    (∀ n ∈ (runMoves (.init ctx tid) ms).handled, n.sequence ≠ "" →
        ∃ now : Int, n.sequence = sequenceToken now tid n.id) ∧
      (((runMoves (.init ctx tid) ms).handled.filter fun n => n.sequence ≠ "").map
        (·.sequence)).Nodup := by
  have htok := ((Tokened.init hseq tid).run ms).1
  have hrec := (ExecInv.reachable (reachable_runMoves (.init ctx tid) ms)).records
  have htid : (runMoves (.init ctx tid) ms).threadId = tid := runMoves_threadId ms _
  set t := runMoves (.init ctx tid) ms
  have hshape : ∀ n ∈ t.handled, n.sequence ≠ "" → ∃ now : Int, n.sequence = sequenceToken now tid n.id :=
    fun n hn hne => (htok.handled n hn).resolve_left hne |>.imp fun _ h => htid ▸ h
  refine ⟨hshape, ?_⟩
  have hall : (t.handled ++ t.todo).map (·.id) = ctx.batch.cacheNodes.map (·.id) := by
    simpa [List.map_map, Function.comp_def, idText] using congrArg (List.map Prod.fst) hrec
  rw [← hall, List.map_append] at hids
  have hidsF : ((t.handled.filter fun n => n.sequence ≠ "").map (·.id)).Nodup :=
    hids.of_append_left.sublist ((List.filter_sublist _).map _)
  refine (hidsF.of_map _).map_on fun x hx y hy hxy => List.inj_on_of_nodup_map hidsF hx hy ?_
  obtain ⟨hx, hxne⟩ := List.mem_filter.mp hx
  obtain ⟨hy, hyne⟩ := List.mem_filter.mp hy
  obtain ⟨a, ha⟩ := hshape x hx (of_decide_eq_true hxne)
  obtain ⟨b, hb⟩ := hshape y hy (of_decide_eq_true hyne)
  exact sequenceToken_id_eq (ha.symm.trans (hxy.trans hb))

theorem sequence_tokens_distinct_refused :
    (∀ n ∈ refusedBatch.batch.cacheNodes, n.sequence = "") ∧
      (refusedBatch.batch.cacheNodes.map (·.id)).Nodup ∧
      ((∀ n ∈ (runMoves (.init refusedBatch 7) refusedRun).handled, n.sequence ≠ "" →
          ∃ now : Int, n.sequence = sequenceToken now 7 n.id) ∧
        (((runMoves (.init refusedBatch 7) refusedRun).handled.filter
          fun n => n.sequence ≠ "").map (·.sequence)).Nodup) :=
  ⟨by decide, by decide, sequence_tokens_distinct _ _ _ (by decide) (by decide)⟩

end Inception
