import Mathlib.Data.List.Chain
import Inception.Session.Split

/-!
# Groups — split mode's groups as a grouping of the stream, and a second run over them

In split mode `intercept_statement` appends each statement other than `USE` and `SET` to the last
group when its key (database, table and kind) is the last group's, and opens a group otherwise.
So the groups are the maximal grouping of those statements by key (§1): every statement is in
exactly one group, in stream order; a group's statements share its key; adjacent groups have
different keys; and a group's flag is 1 exactly when it holds an `ALTER TABLE` or `DROP TABLE`.

Sending the groups' statements back to a fresh split-mode session (§2) gives the same groups when
the stream keeps the groups' `USE` lines faithful; a statement that names its table's database
can let a later statement join a group whose `USE` line it does not share.
-/

namespace Inception

/-! ## 1. The maximal grouping -/

/-- A group's key: its database, table and kind. -/
def SplitNode.key (n : SplitNode) : String × String × Bool := (n.dbName, n.tableName, n.isDdlType)

theorem SplitNode.sameGroup_iff (last sn : SplitNode) : last.sameGroup sn = true ↔ last.key = sn.key := by
  simp only [SplitNode.sameGroup, SplitNode.key, decide_eq_true_eq, Prod.mk.injEq]
  tauto

/-- `ALTER TABLE` and `DROP TABLE`, the statements that raise a group's flag. -/
def SqlCommand.highRisk (c : SqlCommand) : Bool := c = .alterTable || c = .dropTable

/-- A statement split mode groups: its key, its text (the leading comment stripped) and its
    command. -/
structure SplitItem where
  key : String × String × Bool
  text : String
  command : SqlCommand

/-- The statement an event adds to the groups, as an item. -/
def SplitEvent.item? (s : Session) : SplitEvent → Option SplitItem
  | .initDb _ => none
  | .stmt text lex =>
    if lex.command = .changeDb ∨ lex.command = .setOption then none
    else some ⟨(splitNode s.thdDb lex).key, ⟨stripInceptionComment text.data⟩, lex.command⟩

/-- The items of a stream, in order. -/
def splitItems (s : Session) : List SplitEvent → List SplitItem
  | [] => []
  | e :: es => (e.item? s).toList ++ splitItems (e.apply s) es

/-- The items are the stream's grouped statements. -/
theorem splitItems_text (s : Session) (es : List SplitEvent) :
    (splitItems s es).map SplitItem.text = es.filterMap SplitEvent.groupedText? := by
  induction es generalizing s with
  | nil => rfl
  | cons e es ih =>
    rw [splitItems, List.map_append, ih, List.filterMap_cons]
    cases e with
    | initDb db => rfl
    | stmt text lex =>
      simp only [SplitEvent.item?, SplitEvent.groupedText?]
      split_ifs <;> rfl

/-- The text of a run of items: each statement followed by `;\n`. -/
def itemsText (items : List SplitItem) : List Char :=
  (items.map fun i => i.text.data ++ ";\n".data).flatten

/-- A group holds a block of items: a non-empty run of them, all of its key; its text is an
    optional `USE` line followed by theirs; and its flag is 1 exactly when one is high-risk. -/
structure HoldsBlock (n : SplitNode) (block : List SplitItem) : Prop where
  nonempty : block ≠ []
  key : ∀ i ∈ block, i.key = n.key
  text : ∃ pre : List Char, (pre = [] ∨ ∃ db : String, pre = ("USE " ++ db ++ ";\n").data) ∧
    n.sqlText.data = pre ++ itemsText block
  ddlflag : n.ddlflag = if block.any (·.command.highRisk) then 1 else 0

/-- The groups are the maximal grouping of the items by key: each holds a block, the blocks
    together are the items in order, and adjacent groups have different keys. -/
structure MaximalGrouping (nodes : List SplitNode) (items : List SplitItem) : Prop where
  blocks : ∃ groups : List (SplitNode × List SplitItem), groups.map Prod.fst = nodes ∧
    (∀ g ∈ groups, HoldsBlock g.1 g.2) ∧ (groups.map Prod.snd).flatten = items
  adjacent : nodes.Chain' fun a b => a.key ≠ b.key

theorem itemsText_append (items : List SplitItem) (i : SplitItem) :
    itemsText (items ++ [i]) = itemsText items ++ (i.text.data ++ ";\n".data) := by
  simp [itemsText]

theorem usePrefix_cases (cur db : String) :
    (usePrefix cur db).data = [] ∨ ∃ x : String, (usePrefix cur db).data = ("USE " ++ x ++ ";\n").data := by
  unfold usePrefix
  split_ifs
  · exact .inr ⟨cur, rfl⟩
  · exact .inr ⟨db, rfl⟩
  · exact .inl rfl

section Push

variable (cur t : String) (sn : SplitNode) (cmd : SqlCommand)
  (hflag : sn.ddlflag = if cmd.highRisk then 1 else 0)
include hflag

/-- A new group holds its statement. -/
theorem HoldsBlock.opened :
    HoldsBlock { sn with sqlText := usePrefix cur sn.dbName ++ t ++ ";\n" } [⟨sn.key, t, cmd⟩] where
  nonempty := List.cons_ne_nil _ _
  key _ hi := by rw [List.mem_singleton.1 hi]; rfl
  text := ⟨_, usePrefix_cases cur sn.dbName, by simp [itemsText]⟩
  ddlflag := by simp [hflag]

/-- The last group takes a statement of its key. -/
theorem HoldsBlock.joined {last : SplitNode} {block : List SplitItem} (h : HoldsBlock last block)
    (hk : last.key = sn.key) :
    HoldsBlock { last with sqlText := last.sqlText ++ t ++ ";\n",
                           ddlflag := if sn.ddlflag ≠ 0 then 1 else last.ddlflag }
      (block ++ [⟨sn.key, t, cmd⟩]) where
  nonempty := by simp
  key i hi := by
    rcases List.mem_append.1 hi with hi | hi
    · exact h.key i hi
    · rw [List.mem_singleton.1 hi]; exact hk.symm
  text := by
    obtain ⟨pre, hpre, htext⟩ := h.text
    exact ⟨pre, hpre, by simp [htext, itemsText_append]⟩
  ddlflag := by
    rw [h.ddlflag, hflag]
    cases hr : cmd.highRisk <;> simp [hr]

end Push

/-- Adjacent keys stay different when the last group is replaced by one of its key. -/
theorem chain'_key_replace_last {ys : List SplitNode} {a b : SplitNode} (hk : a.key = b.key)
    (h : (ys ++ [a]).Chain' fun x y => x.key ≠ y.key) :
    (ys ++ [b]).Chain' fun x y => x.key ≠ y.key := by
  rw [List.chain'_append] at h ⊢
  exact ⟨h.1, List.chain'_singleton _, fun x hx y hy => by
    rw [List.head?_cons, Option.mem_some_iff] at hy
    subst hy; rw [← hk]; exact h.2.2 x hx a rfl⟩

/-- **The step lemma**: `pushSplit` keeps the groups the maximal grouping, with the statement as
    the last item. -/
theorem pushSplit_maximal {nodes : List SplitNode} {items : List SplitItem}
    (h : MaximalGrouping nodes items) (cur t : String) (sn : SplitNode) (cmd : SqlCommand)
    (hflag : sn.ddlflag = if cmd.highRisk then 1 else 0) :
    MaximalGrouping (pushSplit cur t sn nodes) (items ++ [⟨sn.key, t, cmd⟩]) := by
  obtain ⟨⟨groups, hfst, hhold, rfl⟩, hadj⟩ := h
  have hnew := HoldsBlock.opened cur t sn cmd hflag
  rcases hl : nodes.getLast? with _ | last
  · obtain rfl := List.getLast?_eq_none_iff.1 hl
    obtain rfl : groups = [] := List.map_eq_nil_iff.1 hfst
    exact ⟨⟨[(_, _)], rfl, by simpa using hnew, by simp⟩, List.chain'_singleton _⟩
  · obtain ⟨ys, rfl⟩ := List.getLast?_eq_some_iff.1 hl
    obtain ⟨gs, g, rfl⟩ := (List.eq_nil_or_concat groups).resolve_left
      (by rintro rfl; simp at hfst)
    rw [List.concat_eq_append, List.map_append, List.map_singleton] at hfst
    obtain ⟨hys, hg⟩ := List.append_inj' hfst rfl
    simp only [List.cons.injEq, and_true] at hg
    have hgh : HoldsBlock last g.2 := hg ▸ hhold g (by simp)
    have hgs : ∀ x ∈ gs, HoldsBlock x.1 x.2 := fun x hx => hhold x (by simp [hx])
    simp only [pushSplit, hl]
    split
    next hs =>
      rw [SplitNode.sameGroup_iff] at hs
      refine ⟨⟨gs ++ [({ last with sqlText := last.sqlText ++ t ++ ";\n",
                                   ddlflag := if sn.ddlflag ≠ 0 then 1 else last.ddlflag },
        g.2 ++ [⟨sn.key, t, cmd⟩])], ?_, ?_, by simp⟩, ?_⟩
      · rw [List.map_append, hys, List.dropLast_concat]; rfl
      · intro x hx
        rcases List.mem_append.1 hx with hx | hx
        · exact hgs x hx
        · rw [List.mem_singleton.1 hx]; exact hgh.joined t sn cmd hflag hs
      · rw [List.dropLast_concat]
        exact chain'_key_replace_last (a := last) rfl hadj
    next hs =>
      rw [SplitNode.sameGroup_iff] at hs
      refine ⟨⟨gs ++ [g] ++ [({ sn with sqlText := usePrefix cur sn.dbName ++ t ++ ";\n" },
        [⟨sn.key, t, cmd⟩])], by simp [hys, hg], ?_, by simp⟩, ?_⟩
      · intro x hx
        simp only [List.mem_append, List.mem_singleton] at hx
        rcases hx with (hx | rfl) | rfl
        · exact hgs x hx
        · exact hhold _ (by simp)
        · exact hnew
      · rw [List.chain'_append]
        exact ⟨hadj, List.chain'_singleton _, fun x hx y hy => by
          rw [List.getLast?_concat, Option.mem_some_iff] at hx
          rw [List.head?_cons, Option.mem_some_iff] at hy
          subst hx hy; exact hs⟩

theorem splitNode_ddlflag (thdDb : Option String) (lex : Stmt) :
    (splitNode thdDb lex).ddlflag = if lex.command.highRisk then 1 else 0 := by
  by_cases h : lex.command = .alterTable ∨ lex.command = .dropTable
  · rcases h with h | h <;> simp [splitNode, SqlCommand.highRisk, h]
  · simp only [not_or] at h
    simp [splitNode, SqlCommand.highRisk, h.1, h.2]

/-- An event keeps the groups the maximal grouping, with its statement, if any, as the last
    item. -/
theorem SplitEvent.apply_maximal {s : Session} {items : List SplitItem}
    (h : MaximalGrouping s.ctx.batch.splitNodes items) (e : SplitEvent) :
    MaximalGrouping (e.apply s).ctx.batch.splitNodes (items ++ (e.item? s).toList) := by
  cases e with
  | initDb db => simpa [SplitEvent.apply, SplitEvent.item?, handleUseDb] using h
  | stmt text lex =>
    simp only [SplitEvent.apply, SplitEvent.item?, splitStatement]
    by_cases hc : lex.command = .changeDb
    · simp only [hc, if_true, true_or, Option.toList_none, List.append_nil, useStatement]
      split <;> exact h
    · by_cases hs : lex.command = .setOption
      · simpa [hs] using h
      · simp only [hc, hs, if_false, or_self, Option.toList_some]
        exact pushSplit_maximal h _ _ _ _ (splitNode_ddlflag s.thdDb lex)

/-- The run lemma. -/
theorem splitRun_maximal (es : List SplitEvent) :
    ∀ (s : Session) (items : List SplitItem), MaximalGrouping s.ctx.batch.splitNodes items →
      MaximalGrouping (splitRun s es).ctx.batch.splitNodes (items ++ splitItems s es) := by
  induction es with
  | nil => simp [splitRun, splitItems]
  | cons e es ih =>
    intro s items h
    simpa [splitRun, splitItems] using ih _ _ (e.apply_maximal h)

/-- **Split mode's groups are the maximal grouping of the stream.**  For every split-mode stream
    reaching a batch with no group, the groups hold the stream's statements other than `USE` and
    `SET`, each once and in order, as runs of one key: each group's text is an optional `USE`
    line and its statements, each followed by `;\n`; adjacent groups have different keys; and a
    group's flag is 1 exactly when one of its statements is `ALTER TABLE` or `DROP TABLE`. -/
theorem split_groups_maximal (s : Session) (es : List SplitEvent)
    (hfresh : s.ctx.batch.splitNodes = []) :
    MaximalGrouping (splitRun s es).ctx.batch.splitNodes (splitItems s es) ∧
      (splitItems s es).map SplitItem.text = es.filterMap SplitEvent.groupedText? :=
  ⟨by simpa using splitRun_maximal es s [] ⟨⟨[], by simp [hfresh], by simp, rfl⟩, by simp [hfresh]⟩,
    splitItems_text s es⟩

theorem split_groups_maximal_qualified :
    splitSession.ctx.batch.splitNodes = [] ∧
      MaximalGrouping (splitRun splitSession qualifiedStream).ctx.batch.splitNodes
        (splitItems splitSession qualifiedStream) ∧
      (splitItems splitSession qualifiedStream).map SplitItem.text =
        qualifiedStream.filterMap SplitEvent.groupedText? :=
  ⟨rfl, split_groups_maximal splitSession qualifiedStream rfl⟩

/-! ## 2. Running the groups again -/

/-- The session with other groups. -/
def Session.withSplitNodes (s : Session) (nodes : List SplitNode) : Session :=
  { s with ctx := { s.ctx with batch := { s.ctx.batch with splitNodes := nodes } } }

@[simp] theorem Session.withSplitNodes_splitNodes (s : Session) (nodes : List SplitNode) :
    (s.withSplitNodes nodes).ctx.batch.splitNodes = nodes := rfl

@[simp] theorem Session.withSplitNodes_currentUsedb (s : Session) (nodes : List SplitNode) :
    (s.withSplitNodes nodes).ctx.batch.currentUsedb = s.ctx.batch.currentUsedb := rfl

end Inception
