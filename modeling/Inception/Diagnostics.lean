import Inception.Context

/-!
# Diagnostics — a record's error level and message, as the diagnostics appended to it

`append_error`, `append_warning` and `report` are the only writers of `errlevel` and `errmsg`:
each appends one line of at most 1023 characters and raises the level, and records the
diagnostic (its level and message) in the record's ghost list `diagnostics`.  So a record's two
fields are those the recorded diagnostics leave, in order (§1).  When every diagnostic has level
1 or 2 and a non-empty message, the level is the maximum of theirs, at most 2, and the message is
empty exactly when the level is 0 (§2).
-/

namespace Inception

/-! ## 1. The diagnostics appended to a record -/

namespace SqlCacheNode

/-- The record after the diagnostics `ds` (level, message), in order. -/
def appendAll (n : SqlCacheNode) (ds : List (Nat × String)) : SqlCacheNode :=
  ds.foldl (fun n d => n.appendAt d.1 d.2) n

variable (n : SqlCacheNode) (ds ds' : List (Nat × String))

@[simp] theorem appendAll_nil : n.appendAll [] = n := rfl

@[simp] theorem appendAll_cons (d : Nat × String) :
    n.appendAll (d :: ds) = (n.appendAt d.1 d.2).appendAll ds := rfl

@[simp] theorem appendAll_append : n.appendAll (ds ++ ds') = (n.appendAll ds).appendAll ds' :=
  List.foldl_append ..

/-- The ghost list records the diagnostics appended. -/
@[simp] theorem appendAll_diagnostics : (n.appendAll ds).diagnostics = n.diagnostics ++ ds := by
  induction ds generalizing n with
  | nil => simp
  | cons d ds ih => simp [ih]

/-- The level after the diagnostics is the maximum of the levels. -/
theorem appendAll_errlevel :
    (n.appendAll ds).errlevel = ds.foldl (fun l d => max l d.1) n.errlevel := by
  induction ds generalizing n with
  | nil => rfl
  | cons d ds ih => simp [ih]

/-- The level and message after the diagnostics depend on the record's level and message only. -/
theorem appendAll_congr {a b : SqlCacheNode} (hl : a.errlevel = b.errlevel)
    (hm : a.errmsg = b.errmsg) :
    (a.appendAll ds).errlevel = (b.appendAll ds).errlevel ∧
      (a.appendAll ds).errmsg = (b.appendAll ds).errmsg := by
  induction ds generalizing a b with
  | nil => exact ⟨hl, hm⟩
  | cons d ds ih => exact ih (by simp [hl]) (by simp only [appendAt, hl, hm])

/-- The level `report` appends at, for a non-zero knob: an error from 2 on, else a warning. -/
def reportLevel (lvl : Nat) : Nat := if lvl ≥ 2 then errlevelError else errlevelWarning

theorem report_of_pos {lvl : Nat} (h : 0 < lvl) (msg : String) :
    n.report lvl msg = n.appendAll [(reportLevel lvl, msg)] := by
  simp [report, Nat.pos_iff_ne_zero.mp h, reportLevel]

end SqlCacheNode

/-- `n'` carries the level and message of `n` after the diagnostics `ds`, and its ghost list
    records them; the other fields are free. -/
structure Appends (n n' : SqlCacheNode) (ds : List (Nat × String)) : Prop where
  errlevel : n'.errlevel = (n.appendAll ds).errlevel
  errmsg : n'.errmsg = (n.appendAll ds).errmsg
  diagnostics : n'.diagnostics = n.diagnostics ++ ds

namespace Appends

variable {n n' n'' : SqlCacheNode} {ds ds' : List (Nat × String)}

/-- A change of the other fields appends nothing. -/
theorem of_eq (hl : n'.errlevel = n.errlevel) (hm : n'.errmsg = n.errmsg)
    (hd : n'.diagnostics = n.diagnostics) : Appends n n' [] :=
  ⟨hl, hm, by rw [hd, List.append_nil]⟩

theorem refl (n : SqlCacheNode) : Appends n n [] := of_eq rfl rfl rfl

theorem trans (h : Appends n n' ds) (h' : Appends n' n'' ds') : Appends n n'' (ds ++ ds') := by
  obtain ⟨hl, hm⟩ := SqlCacheNode.appendAll_congr ds' h.errlevel h.errmsg
  exact ⟨by rw [h'.errlevel, hl, SqlCacheNode.appendAll_append],
    by rw [h'.errmsg, hm, SqlCacheNode.appendAll_append],
    by rw [h'.diagnostics, h.diagnostics, List.append_assoc]⟩

theorem appendAt (n : SqlCacheNode) (lvl : Nat) (msg : String) :
    Appends n (n.appendAt lvl msg) [(lvl, msg)] := ⟨rfl, rfl, rfl⟩

/-- A `report` at level 0 appends nothing; otherwise a warning (1) or an error (2 and above). -/
theorem report (n : SqlCacheNode) (lvl : Nat) (msg : String) :
    Appends n (n.report lvl msg)
      (if lvl = 0 then [] else [(if lvl ≥ 2 then errlevelError else errlevelWarning, msg)]) := by
  unfold SqlCacheNode.report
  split
  · exact refl n
  · exact appendAt ..

end Appends

/-- `n'` is `n` with diagnostics appended, each satisfying `P`. -/
def AppendsSat (P : Nat × String → Prop) (n n' : SqlCacheNode) : Prop :=
  ∃ ds, Appends n n' ds ∧ ∀ d ∈ ds, P d

namespace AppendsSat

variable {P Q : Nat × String → Prop} {n n' n'' : SqlCacheNode}

theorem refl (n : SqlCacheNode) : AppendsSat P n n := ⟨[], .refl n, nofun⟩

theorem of_eq (hl : n'.errlevel = n.errlevel) (hm : n'.errmsg = n.errmsg)
    (hd : n'.diagnostics = n.diagnostics) : AppendsSat P n n' :=
  ⟨[], .of_eq hl hm hd, nofun⟩

theorem trans (h : AppendsSat P n n') (h' : AppendsSat P n' n'') : AppendsSat P n n'' := by
  obtain ⟨ds, h, hw⟩ := h
  obtain ⟨ds', h', hw'⟩ := h'
  refine ⟨ds ++ ds', h.trans h', fun d hd => ?_⟩
  rcases List.mem_append.mp hd with hd | hd
  · exact hw d hd
  · exact hw' d hd

theorem appendAt (n : SqlCacheNode) {lvl : Nat} {msg : String} (h : P (lvl, msg)) :
    AppendsSat P n (n.appendAt lvl msg) :=
  ⟨_, .appendAt n lvl msg, by simpa using h⟩

/-- A `report` appends at `reportLevel`, when its knob is not 0. -/
theorem report (n : SqlCacheNode) {lvl : Nat} {msg : String}
    (h : lvl ≠ 0 → P (SqlCacheNode.reportLevel lvl, msg)) : AppendsSat P n (n.report lvl msg) := by
  refine ⟨_, .report n lvl msg, fun d hd => ?_⟩
  split at hd
  · simp at hd
  · rw [List.mem_singleton.mp hd]
    exact h ‹_›

end AppendsSat

/-! ## 2. Well-formed diagnostics -/

/-- A diagnostic as the module appends it: a warning or an error, with a non-empty message. -/
def WellFormed (d : Nat × String) : Prop :=
  (d.1 = errlevelWarning ∨ d.1 = errlevelError) ∧ d.2 ≠ ""

/-- `n'` is `n` with well-formed diagnostics appended. -/
def Diagnosed (n n' : SqlCacheNode) : Prop := AppendsSat WellFormed n n'

/-- A record whose level and message agree: level 0, 1 or 2, and an empty message exactly at
    level 0. -/
structure RecordOk (n : SqlCacheNode) : Prop where
  errlevel_le : n.errlevel ≤ errlevelError
  errmsg_eq_empty : n.errmsg = "" ↔ n.errlevel = errlevelOk

theorem reportLevel_wellFormed (lvl : Nat) {msg : String} (hm : msg ≠ "") :
    WellFormed (SqlCacheNode.reportLevel lvl, msg) :=
  ⟨by unfold SqlCacheNode.reportLevel; split <;> simp, hm⟩

namespace Diagnosed

variable {n n' n'' : SqlCacheNode}

theorem appendError (n : SqlCacheNode) {msg : String} (hm : msg ≠ "") :
    Diagnosed n (n.appendError msg) := AppendsSat.appendAt n ⟨.inr rfl, hm⟩

theorem appendWarning (n : SqlCacheNode) {msg : String} (hm : msg ≠ "") :
    Diagnosed n (n.appendWarning msg) := AppendsSat.appendAt n ⟨.inl rfl, hm⟩

theorem report (n : SqlCacheNode) (lvl : Nat) {msg : String} (hm : msg ≠ "") :
    Diagnosed n (n.report lvl msg) := AppendsSat.report n fun _ => reportLevel_wellFormed lvl hm

/-- A record with no diagnostic, as `add_sql` makes it, has its level and message agree. -/
theorem recordOk_of_clean (hl : n.errlevel = errlevelOk) (hm : n.errmsg = "") : RecordOk n :=
  ⟨by simp [hl, errlevelOk, errlevelError], by simp [hl, hm]⟩

theorem snprintfBuf_ne_empty {msg : String} (hm : msg ≠ "") {k : Nat} (hk : 1 < k) :
    snprintfBuf k msg ≠ "" := by
  intro h
  have hd : msg.data.take (k - 1) = [] := congrArg String.data h
  rw [List.take_eq_nil_iff] at hd
  exact hm (String.ext (hd.resolve_left (by omega)))

/-- One well-formed diagnostic keeps a record's level and message in agreement. -/
theorem recordOk_appendAt (h : RecordOk n) {d : Nat × String} (hd : WellFormed d) :
    RecordOk (n.appendAt d.1 d.2) := by
  have hmsg : (n.appendAt d.1 d.2).errmsg ≠ "" := by
    intro he
    have := congrArg String.data he
    simp only [SqlCacheNode.appendAt, String.data_append] at this
    exact snprintfBuf_ne_empty hd.2 (by decide : 1 < 1024)
      (String.ext (List.append_eq_nil.mp this).2)
  have hlvl : n.errlevel ≤ 2 := h.errlevel_le
  have hge : 1 ≤ (n.appendAt d.1 d.2).errlevel ∧ (n.appendAt d.1 d.2).errlevel ≤ 2 := by
    rw [SqlCacheNode.appendAt_errlevel]
    rcases hd.1 with hl | hl <;> rw [hl] <;> simp only [errlevelWarning, errlevelError] <;> omega
  exact ⟨hge.2, fun he => absurd he hmsg, fun hz => by simp only [errlevelOk] at hz; omega⟩

/-- **Well-formed diagnostics keep a record's level and message in agreement.** -/
theorem recordOk (h : Diagnosed n n') (hn : RecordOk n) : RecordOk n' := by
  obtain ⟨ds, ha, hw⟩ := h
  have key : ∀ (ds : List (Nat × String)) (m : SqlCacheNode), (∀ d ∈ ds, WellFormed d) →
      RecordOk m → RecordOk (m.appendAll ds) := by
    intro ds
    induction ds with
    | nil => exact fun _ _ hm => hm
    | cons d ds ih =>
      intro m hw hm
      exact ih _ (fun d' h' => hw d' (.tail _ h')) (recordOk_appendAt hm (hw d (.head _)))
  obtain ⟨hl, hm⟩ := key ds n hw hn
  exact ⟨ha.errlevel ▸ hl, by rw [ha.errmsg, ha.errlevel]; exact hm⟩

end Diagnosed

/-! ## 3. The same record, amended -/

/-- A message is empty only when each of its parts is. -/
@[simp] theorem string_append_eq_empty (a b : String) : a ++ b = "" ↔ a = "" ∧ b = "" := by
  simp [String.ext_iff]

/-- `n'` is the record `n`, under the same id and text, after well-formed diagnostics; its other
    fields (stage, names, estimates) are free. -/
structure Amends (n n' : SqlCacheNode) : Prop where
  diagnosed : Diagnosed n n'
  id_eq : n'.id = n.id
  sqlText_eq : n'.sqlText = n.sqlText

namespace Amends

variable {n m m' : SqlCacheNode}

theorem refl (n : SqlCacheNode) : Amends n n := ⟨.refl n, rfl, rfl⟩

theorem trans (h : Amends n m) (h' : Amends m m') : Amends n m' :=
  ⟨AppendsSat.trans h.diagnosed h'.diagnosed, h'.id_eq.trans h.id_eq,
    h'.sqlText_eq.trans h.sqlText_eq⟩

/-- A change of the free fields amends nothing. -/
theorem of_eq (hl : m.errlevel = n.errlevel) (hm : m.errmsg = n.errmsg)
    (hd : m.diagnostics = n.diagnostics) (hi : m.id = n.id) (ht : m.sqlText = n.sqlText) :
    Amends n m :=
  ⟨.of_eq hl hm hd, hi, ht⟩

theorem appendError (h : Amends n m) {msg : String} (hm : msg ≠ "") :
    Amends n (m.appendError msg) :=
  h.trans ⟨.appendError m hm, rfl, rfl⟩

theorem appendWarning (h : Amends n m) {msg : String} (hm : msg ≠ "") :
    Amends n (m.appendWarning msg) :=
  h.trans ⟨.appendWarning m hm, rfl, rfl⟩

theorem report (h : Amends n m) (lvl : Nat) {msg : String} (hm : msg ≠ "") :
    Amends n (m.report lvl msg) :=
  h.trans ⟨.report m lvl hm, by unfold SqlCacheNode.report; split <;> rfl,
    by unfold SqlCacheNode.report; split <;> rfl⟩

/-- Either branch amends the record; the instance is the one the condition was written with. -/
theorem ite {c : Prop} {_ : Decidable c} {a b : SqlCacheNode} (ha : Amends n a) (hb : Amends n b) :
    Amends n (if c then a else b) := by
  split
  · exact ha
  · exact hb

end Amends

end Inception
