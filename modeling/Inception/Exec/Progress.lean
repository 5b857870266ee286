import Inception.Exec.Safety

/-!
# Progress — `execute_statements` returns unless the remote stays loaded

The loop of `execute_statements` handles one record per iteration, and only
`wait_for_remote_ready` can run without end: it polls until the remote's load is below the caps,
and reads neither `killed` nor anything else another session writes.  So every engine step lowers
a rank (`ExecState.rank`: three per record still to handle, and the position in the iteration),
except a poll that finds the remote loaded, which leaves it as it was; another session's `kill` or
`set sleep` leaves it as it was too.  A batch of `n` records therefore returns after at most
`3 n + 3` engine steps other than such polls, under every interleaving of the other sessions'
commands and every answer of the remote.
-/

namespace Inception

/-- Three per record still to handle, and where the engine is in the current iteration; zero once
    it has returned. -/
def ExecState.rank (s : ExecState) : Nat :=
  match s.pc with
  | .start => 3 * s.todo.length + 3
  | .loop => 3 * s.todo.length + 2
  | .wait => 3 * s.todo.length + 1
  | .exec => 3 * s.todo.length
  | .returned _ => 0

/-- The engine waits or executes only with a record at hand. -/
def ExecState.Busy (s : ExecState) : Prop := s.pc = .wait ∨ s.pc = .exec → s.todo ≠ []

/-- An engine step that polls and finds the remote loaded (`need_wait`): it sleeps and polls
    again. -/
def ExecState.pollsBusy (s : ExecState) (r : Reply) : Bool := s.pc = .wait && (pollOnce s r).1

/-- The engine steps of a sequence of moves, other than the polls that find the remote loaded. -/
def progressSteps : ExecState → List ExecMove → Nat
  | _, [] => 0
  | s, .engine r :: ms => (if s.pollsBusy r then 0 else 1) + progressSteps (step s r) ms
  | s, m :: ms => progressSteps (m.apply s) ms

namespace ExecState

variable {s : ExecState}

@[simp] theorem rank_returned {e : ExecExit} (h : s.pc = .returned e) : s.rank = 0 := by
  simp [rank, h]

theorem busy_of_pc (h : s.pc = .start ∨ s.pc = .loop ∨ ∃ e, s.pc = .returned e) : s.Busy := by
  rintro (hw | hw) <;> rcases h with h | h | ⟨e, h⟩ <;> simp [h] at hw

theorem pollsBusy_of_ne_wait (h : s.pc ≠ .wait) (r : Reply) : s.pollsBusy r = false := by
  simp [pollsBusy, h]

/-- A busy engine of rank zero has returned. -/
theorem returned_of_rank (hb : s.Busy) (h0 : s.rank = 0) : ∃ e, s.pc = .returned e := by
  unfold rank at h0
  split at h0
  · omega
  · omega
  · omega
  · rename_i hpc
    exact absurd (List.length_eq_zero.mp (by omega)) (hb (.inr hpc))
  · exact ⟨_, ‹_›⟩

end ExecState

open ExecState

variable {s : ExecState} {r : Reply}

theorem startStep_progress (hpc : s.pc = .start) :
    (startStep s r).Busy ∧ (startStep s r).rank < s.rank := by
  have hlt : 0 < s.rank := by simp [rank, hpc]
  rcases startStep_cases s r with ⟨-, h⟩ | ⟨-, f, h, -⟩ | ⟨f, h, -⟩ | ⟨tid, h⟩ |
      ⟨-, -, tid, conns, evs, -, h⟩ <;> rw [h]
  · exact ⟨busy_of_pc (.inr (.inr ⟨_, rfl⟩)), hlt⟩
  · exact ⟨busy_of_pc (.inr (.inr ⟨_, rfl⟩)), hlt⟩
  · exact ⟨busy_of_pc (.inr (.inr ⟨_, rfl⟩)), hlt⟩
  · exact ⟨busy_of_pc (.inr (.inr ⟨_, rfl⟩)), hlt⟩
  · exact ⟨busy_of_pc (.inr (.inl rfl)), by simp [rank, hpc]⟩

theorem loopStep_progress (hpc : s.pc = .loop) :
    (loopStep s r).Busy ∧ (loopStep s r).rank < s.rank := by
  rcases loopStep_cases s r with ⟨-, h⟩ | ⟨node, rest, htodo, hcase⟩
  · rw [h]
    exact ⟨busy_of_pc (.inr (.inr ⟨_, rfl⟩)), by simp [rank, hpc]⟩
  · rcases hcase with ⟨-, node', h, -⟩ | ⟨-, -, node', h, -⟩ | ⟨-, -, node', evs, h, -⟩ |
        ⟨-, -, pc, evs, h, hpc', -⟩ <;> rw [h]
    · exact ⟨busy_of_pc (.inr (.inl hpc)), by simp [rank, hpc, htodo]⟩
    · exact ⟨busy_of_pc (.inr (.inl hpc)), by simp [rank, hpc, htodo]⟩
    · exact ⟨busy_of_pc (.inr (.inl hpc)), by simp [rank, hpc, htodo]⟩
    · refine ⟨fun _ => by simp [htodo], ?_⟩
      rcases hpc' with rfl | rfl <;> simp [rank, hpc]

theorem execStep_progress (hb : s.Busy) (hpc : s.pc = .exec) :
    (execStep s r).Busy ∧ (execStep s r).rank < s.rank := by
  rcases execStep_cases s r with ⟨htodo, -⟩ | ⟨node, rest, node', failed, evs, htodo, h, -⟩
  · exact absurd htodo (hb (.inr hpc))
  · rw [h]
    refine ⟨busy_of_pc (.inr (.inl rfl)), ?_⟩
    simp only [rank, hpc, htodo, List.length_cons]
    omega

/-- A poll keeps the engine where it is and its records, and moves on to the execution unless it
    finds the remote loaded. -/
theorem waitStep_progress (hb : s.Busy) (hpc : s.pc = .wait) :
    (step s r).Busy ∧ (step s r).rank + (if s.pollsBusy r then 0 else 1) ≤ s.rank := by
  have hstep : step s r = if (pollOnce s r).1 then (pollOnce s r).2
      else { (pollOnce s r).2 with pc := .exec } := by simp only [step, hpc]
  have hpoll : (pollOnce s r).2.pc = s.pc ∧ (pollOnce s r).2.todo = s.todo := ⟨rfl, rfl⟩
  have htodo := hb (.inl hpc)
  rw [hstep]
  by_cases hw : (pollOnce s r).1 = true
  · rw [if_pos hw]
    refine ⟨fun _ => hpoll.2 ▸ htodo, ?_⟩
    simp [rank, pollsBusy, hpoll, hpc, hw]
  · rw [if_neg hw]
    refine ⟨fun _ => hpoll.2 ▸ htodo, ?_⟩
    simp [rank, pollsBusy, hpoll, hpc, hw]

/-- **One engine step**: the engine stays busy only with a record at hand, and its rank drops by
    one at least, unless the step polls and finds the remote loaded. -/
theorem step_progress (hb : s.Busy) (hret : ∀ e, s.pc ≠ .returned e) (r : Reply) :
    (step s r).Busy ∧ (step s r).rank + (if s.pollsBusy r then 0 else 1) ≤ s.rank := by
  cases hpc : s.pc with
  | start =>
    rw [step, hpc, pollsBusy_of_ne_wait (by simp [hpc])]
    exact (startStep_progress hpc).imp_right Nat.succ_le_of_lt
  | loop =>
    rw [step, hpc, pollsBusy_of_ne_wait (by simp [hpc])]
    exact (loopStep_progress hpc).imp_right Nat.succ_le_of_lt
  | wait => exact waitStep_progress hb hpc
  | exec =>
    rw [step, hpc, pollsBusy_of_ne_wait (by simp [hpc])]
    exact (execStep_progress hb hpc).imp_right Nat.succ_le_of_lt
  | returned e => exact absurd hpc (hret e)

/-- A returned engine stays returned, whatever the moves. -/
theorem runMoves_returned {e : ExecExit} :
    ∀ (ms : List ExecMove) (s : ExecState), s.pc = .returned e → (runMoves s ms).pc = .returned e
  | [], _, h => h
  | .engine _ :: ms, s, h => by
    rw [runMoves, ExecMove.apply, step, h]
    exact runMoves_returned ms s h
  | .kill :: ms, _, h => runMoves_returned ms _ h
  | .setSleep _ :: ms, _, h => runMoves_returned ms _ h

/-- The run lemma: a run from a busy state either returns, or ends busy with its rank lowered by
    its progress steps. -/
theorem runMoves_progress :
    ∀ (ms : List ExecMove) (s : ExecState), s.Busy →
      (∃ e, (runMoves s ms).pc = .returned e) ∨
        ((runMoves s ms).Busy ∧ (runMoves s ms).rank + progressSteps s ms ≤ s.rank)
  | [], _, hb => .inr ⟨hb, by simp [progressSteps, runMoves]⟩
  | m :: ms, s, hb => by
    by_cases hret : ∃ e, s.pc = .returned e
    · obtain ⟨e, he⟩ := hret
      exact .inl ⟨e, runMoves_returned (m :: ms) s he⟩
    push_neg at hret
    cases m with
    | engine r =>
      obtain ⟨hb', hle⟩ := step_progress hb hret r
      rcases runMoves_progress ms _ hb' with hdone | ⟨hb'', hle'⟩
      · exact .inl hdone
      · refine .inr ⟨hb'', ?_⟩
        simp only [runMoves, ExecMove.apply, progressSteps] at hb'' hle' ⊢
        omega
    | kill => exact runMoves_progress ms _ hb
    | setSleep _ => exact runMoves_progress ms _ hb

/-- **`execute_statements` returns unless the remote stays loaded.**  For every batch of `n`
    records, every session and every interleaving of the engine's steps, whatever the remote
    answers, with the other sessions' `kill` and `set sleep`: once the run has taken `3 n + 3`
    engine steps other than polls that find the remote loaded, it has returned. -/
theorem execute_statements_returns (ctx : InceptionContext) (tid : Nat) (ms : List ExecMove)
    (h : 3 * ctx.batch.cacheNodes.length + 3 ≤ progressSteps (.init ctx tid) ms) :
    ∃ e, (runMoves (.init ctx tid) ms).pc = .returned e := by
  have hinit : (ExecState.init ctx tid).rank = 3 * ctx.batch.cacheNodes.length + 3 := rfl
  rcases runMoves_progress ms (.init ctx tid) (busy_of_pc (.inl rfl)) with hdone | ⟨hb, hle⟩
  · exact hdone
  · exact returned_of_rank hb (by omega)

/-- A move leaves the session started and in its mode: the engine writes only `killed`,
    `sleep_ms`, the remote thread id and the load snapshot. -/
theorem ExecMove.apply_active_mode (m : ExecMove) (s : ExecState) :
    (m.apply s).ctx.active = s.ctx.active ∧ (m.apply s).ctx.opts.mode = s.ctx.opts.mode := by
  cases m with
  | kill => exact ⟨rfl, rfl⟩
  | setSleep _ => exact ⟨rfl, rfl⟩
  | engine r =>
    show (step s r).ctx.active = _ ∧ (step s r).ctx.opts.mode = _
    unfold step
    split
    · rcases startStep_cases s r with ⟨-, h⟩ | ⟨-, f, h, -⟩ | ⟨f, h, -⟩ | ⟨tid, h⟩ |
          ⟨-, -, tid, conns, evs, -, h⟩ <;> rw [h] <;> exact ⟨rfl, rfl⟩
    · rcases loopStep_cases s r with ⟨-, h⟩ | ⟨node, rest, -, ⟨-, node', h, -⟩ |
          ⟨-, -, node', h, -⟩ | ⟨-, -, node', evs, h, -⟩ | ⟨-, -, pc, evs, h, -⟩⟩ <;> rw [h] <;>
        exact ⟨rfl, rfl⟩
    · dsimp only
      split <;> exact ⟨rfl, rfl⟩
    · rcases execStep_cases s r with ⟨-, h⟩ | ⟨node, rest, node', failed, evs, -, h, -⟩ <;> rw [h] <;>
        exact ⟨rfl, rfl⟩
    · exact ⟨rfl, rfl⟩

theorem runMoves_active_mode :
    ∀ (ms : List ExecMove) (s : ExecState),
      (runMoves s ms).ctx.active = s.ctx.active ∧ (runMoves s ms).ctx.opts.mode = s.ctx.opts.mode
  | [], _ => ⟨rfl, rfl⟩
  | m :: ms, s => by
    obtain ⟨ha, hm⟩ := runMoves_active_mode ms (m.apply s)
    obtain ⟨ha', hm'⟩ := m.apply_active_mode s
    exact ⟨ha.trans ha', hm.trans hm'⟩

/-- An execute-mode batch of two inserts. -/
def insertBatch : InceptionContext :=
  { active := true, opts := { mode := .execute },
    batch := { cacheNodes := [{ id := 1, sqlText := "INSERT INTO t VALUES (1)" },
                              { id := 2, sqlText := "INSERT INTO t VALUES (2)" }], nextId := 3 } }

/-- Nine engine steps against a remote that accepts the connection and every statement. -/
def acceptingRun : List ExecMove := List.replicate 9 (.engine { connect := .ok 42 })

theorem execute_statements_returns_insertBatch :
    3 * insertBatch.batch.cacheNodes.length + 3 ≤ progressSteps (.init insertBatch 7) acceptingRun ∧
      ∃ e, (runMoves (.init insertBatch 7) acceptingRun).pc = .returned e :=
  ⟨by decide, execute_statements_returns insertBatch 7 acceptingRun (by decide)⟩

end Inception
