import Mathlib.Data.Finset.Card
import Inception.Diagnostics
import Inception.Audit.Existence

/-!
# Reports — what single rules of `CREATE TABLE` and `ALTER TABLE` report

The diagnostics a rule block appends, as a list computed from the statement (§1), or the
condition under which the block reports (§2, §3).

* The redundant-index detection of `audit_create_table` reports each pair of secondary keys whose
  shorter name list is a prefix of the other's exactly once, when every key part has a name; a
  functional key part (no name) reaches `strcasecmp` with a null pointer.
-/

namespace Inception

/-- A remote-less audit environment with the default knobs and current database `d`. -/
def offlineAudit : AuditEnv := { sv := {}, remote := {}, thdDb := some "d", isKeyword := fun _ => false }

/-! ## 1. Redundant indexes of `CREATE TABLE` -/

/-- Modelled from the spec: a key neither primary nor foreign. -/
def KeySpec.isSecondary (k : KeySpec) : Bool := !(k.keyType = .primary || k.keyType = .foreign)

/-- Modelled from the spec: the shorter of two lists of key parts names a prefix of the other's,
    ignoring case. -/
def namesPrefix (as bs : List KeyPart) : Bool :=
  (as.zip bs).all fun p => match p.1.fieldName, p.2.fieldName with
    | some x, some y => eqCi x.data y.data
    | _, _ => false

/-- Modelled from the spec: two secondary keys with columns, the shorter name list a prefix of the
    other's. -/
def prefixRedundant (a b : KeySpec) : Bool :=
  a.isSecondary && b.isSecondary && !a.columns.isEmpty && !b.columns.isEmpty &&
    namesPrefix a.columns b.columns

/-- Modelled from the spec: the pairs `(a, b)` of a key list, `a` first, that are
    `prefixRedundant`, each once. -/
def redundantPairsSpec : List KeySpec → List (KeySpec × KeySpec)
  | [] => []
  | a :: rest => (rest.filter (prefixRedundant a)).map (a, ·) ++ redundantPairsSpec rest

/-- The diagnostic of a redundant pair, the shorter key named first. -/
def redundantMsg (a b : KeySpec) : String :=
  "Index '" ++ (if a.columns.length ≤ b.columns.length then a else b).displayName ++
    "' is a prefix of '" ++ (if a.columns.length ≤ b.columns.length then b else a).displayName ++
    "' and may be redundant."

/-- Every key part of the key has a name. -/
def KeySpec.named (k : KeySpec) : Prop := ∀ p ∈ k.columns, p.fieldName.isSome

/-- On named key parts the prefix loop compares all the first `min` names. -/
theorem keyPrefixMatch_named :
    ∀ (as bs : List KeyPart), (∀ p ∈ as, p.fieldName.isSome) → (∀ p ∈ bs, p.fieldName.isSome) →
      keyPrefixMatch as bs (min as.length bs.length) = some (namesPrefix as bs)
  | [], _, _, _ => by simp [keyPrefixMatch, namesPrefix]
  | _ :: _, [], _, _ => by simp [keyPrefixMatch, namesPrefix]
  | a :: as, b :: bs, ha, hb => by
    obtain ⟨x, hx⟩ := Option.isSome_iff_exists.mp (ha a (.head _))
    obtain ⟨y, hy⟩ := Option.isSome_iff_exists.mp (hb b (.head _))
    have ih := keyPrefixMatch_named as bs (fun p h => ha p (.tail _ h)) (fun p h => hb p (.tail _ h))
    simp only [List.length_cons, Nat.succ_min_succ, keyPrefixMatch, keyPartNamesEq, hx, hy,
      namesPrefix, List.zip_cons_cons, List.all_cons]
    cases eqCi x.data y.data
    · rfl
    · simpa [namesPrefix] using ih

/-- A pair of named keys, `a` secondary: reported exactly when `prefixRedundant`. -/
theorem redundantPair_named (knob : Nat) {a b : KeySpec} (ha : a.named) (hb : b.named)
    (hsec : a.isSecondary = true) (st : AuditState) :
    redundantPair knob a b st = if prefixRedundant a b then st.report knob (redundantMsg a b) else st := by
  simp only [redundantPair]
  split
  next hc =>
    rw [if_neg]
    rcases hc with h | h | h
    · simp [prefixRedundant, KeySpec.isSecondary, h]
    · simp [prefixRedundant, KeySpec.isSecondary, h]
    · rcases Nat.min_eq_zero_iff.mp h with h | h <;>
        simp [prefixRedundant, List.isEmpty_iff, List.length_eq_zero.mp h]
  next hc =>
    simp only [not_or, Nat.min_eq_zero_iff] at hc
    have hbs : b.isSecondary = true := by simp [KeySpec.isSecondary, hc.1, hc.2.1]
    have hp : prefixRedundant a b = namesPrefix a.columns b.columns := by
      have hne : a.columns ≠ [] ∧ b.columns ≠ [] :=
        ⟨fun h => hc.2.2.1 (by simp [h]), fun h => hc.2.2.2 (by simp [h])⟩
      simp [prefixRedundant, hsec, hbs, List.isEmpty_iff, hne.1, hne.2]
    rw [keyPrefixMatch_named _ _ ha hb, hp]
    cases namesPrefix a.columns b.columns <;> rfl

theorem filter_prefixRedundant_of_not_secondary {a : KeySpec} (ha : a.isSecondary = false)
    (rest : List KeySpec) : rest.filter (prefixRedundant a) = [] := by
  simp [List.filter_eq_nil_iff, prefixRedundant, ha]

/-- The loop over the keys after a secondary key `a`. -/
theorem foldl_redundantPair (knob : Nat) (hk : 0 < knob) {a : KeySpec} (ha : a.named)
    (hsec : a.isSecondary = true) :
    ∀ (rest : List KeySpec) (st : AuditState), (∀ b ∈ rest, b.named) →
      rest.foldl (fun st b => redundantPair knob a b st) st =
        { st with node := st.node.appendAll ((rest.filter (prefixRedundant a)).map fun b =>
            (SqlCacheNode.reportLevel knob, redundantMsg a b)) }
  | [], _, _ => rfl
  | b :: rest, st, hb => by
    rw [List.foldl_cons, redundantPair_named knob ha (hb b (.head _)) hsec,
      foldl_redundantPair knob hk ha hsec rest _ fun b' h => hb b' (.tail _ h), List.filter_cons]
    split <;> simp [AuditState.report, SqlCacheNode.report_of_pos _ hk]

/-- **Each redundant pair of named keys is reported exactly once.**  When every key part has a
    name, the detection appends, in the key list's order, one diagnostic per pair `(a, b)` of
    secondary keys with columns, `a` first, whose shorter name list is a prefix of the other's
    ignoring case, and changes nothing else. -/
theorem redundantIndexes_named (knob : Nat) (hk : 0 < knob) :
    ∀ (keys : List KeySpec) (st : AuditState), (∀ k ∈ keys, k.named) →
      redundantIndexes knob keys st =
        { st with node := st.node.appendAll ((redundantPairsSpec keys).map fun p =>
            (SqlCacheNode.reportLevel knob, redundantMsg p.1 p.2)) }
  | [], _, _ => rfl
  | a :: rest, st, hn => by
    have hrest : ∀ k ∈ rest, k.named := fun k h => hn k (.tail _ h)
    simp only [redundantIndexes, redundantPairsSpec]
    cases hsec : a.isSecondary
    · have hs : a.keyType = .primary ∨ a.keyType = .foreign := by
        simpa only [KeySpec.isSecondary, Bool.not_eq_false', Bool.or_eq_true, decide_eq_true_eq]
          using hsec
      rw [if_pos hs, redundantIndexes_named knob hk rest st hrest,
        filter_prefixRedundant_of_not_secondary hsec]
      rfl
    · have hs : ¬(a.keyType = .primary ∨ a.keyType = .foreign) := by
        simpa [KeySpec.isSecondary] using hsec
      rw [if_neg hs, foldl_redundantPair knob hk (hn a (.head _)) hsec rest st hrest,
        redundantIndexes_named knob hk rest _ hrest]
      simp [List.map_append, Function.comp_def]

/-- `INDEX i1 (a), INDEX i2 (A, b)`: the names of `i1` are a prefix of those of `i2`, ignoring
    case. -/
def prefixKeys : List KeySpec :=
  [{ name := some "i1", columns := [{ fieldName := some "a" }] },
   { name := some "i2", columns := [{ fieldName := some "A" }, { fieldName := some "b" }] }]

theorem redundantIndexes_named_prefix :
    0 < 1 ∧ (∀ k ∈ prefixKeys, k.named) ∧
      redundantIndexes 1 prefixKeys freshAudit =
        { freshAudit with node := freshAudit.node.appendAll ((redundantPairsSpec prefixKeys).map
            fun p => (SqlCacheNode.reportLevel 1, redundantMsg p.1 p.2)) } :=
  ⟨by decide, by simp only [KeySpec.named]; decide,
    redundantIndexes_named 1 (by decide) prefixKeys freshAudit (by simp only [KeySpec.named]; decide)⟩

/-- `CREATE TABLE d.t (a INT, INDEX i1 ((a + 1)), INDEX i2 ((a + 1)))`: two secondary keys, each
    with one functional key part. -/
def createFunctionalKeys : Stmt :=
  { command := .createTable, queryTables := [.base (some "d") "t"],
    alterInfo := { createList := [{ fieldName := "a" }],
                   keyList := [{ name := some "i1", columns := [{ fieldName := none }] },
                               { name := some "i2", columns := [{ fieldName := none }] }] } }

/-- The audit of two functional secondary keys compares their null key-part names. -/
theorem functional_keys_compare_null :
    (auditStatement offlineAudit createFunctionalKeys freshAudit).undefined = true := by
  decide

/-! ## 2. TiDB's one-operation rule of `ALTER TABLE` -/

/-- Modelled from the spec: one operation of an `ALTER TABLE` as written.  (Clauses that set none
    of the flags below, such as `ALTER COLUMN ... SET DEFAULT`, count on neither side and are
    left out.) -/
inductive AlterClause
  | addColumn (f : ColumnDef)
  | dropColumn (name : String)
  | modifyColumn (f : ColumnDef)
  | changeColumn (old : String) (f : ColumnDef)
  | addIndex (key : KeySpec)
  | dropIndex (name : String)
  | rename
  | options
  deriving DecidableEq, Repr

namespace AlterClause

/-- Modelled from the spec: the `Alter_info` flag the parser sets for a clause. -/
def flag : AlterClause → AlterFlag
  | .addColumn _ => .addColumn
  | .dropColumn _ => .dropColumn
  | .modifyColumn _ | .changeColumn .. => .changeColumn
  | .addIndex _ => .addIndex
  | .dropIndex _ => .dropIndex
  | .rename => .rename
  | .options => .options

/-- Modelled from the spec: the definition a clause puts on `create_list`; a `CHANGE` puts its
    new name there. -/
def columnDef? : AlterClause → Option ColumnDef
  | .addColumn f | .modifyColumn f | .changeColumn _ f => some f
  | _ => none

/-- Modelled from the spec: the key a clause puts on `key_list`. -/
def key? : AlterClause → Option KeySpec
  | .addIndex k => some k
  | _ => none

/-- Modelled from the spec: the entry a clause puts on `drop_list`. -/
def drop? : AlterClause → Option AlterDrop
  | .dropColumn name => some ⟨.column, name⟩
  | .dropIndex name => some ⟨.key, name⟩
  | _ => none

end AlterClause

/-- Modelled from the spec: the `Alter_info` the parser builds from the clauses, in order. -/
def alterInfoOf (cs : List AlterClause) : AlterInfo :=
  { flags := cs.map AlterClause.flag, createList := cs.filterMap AlterClause.columnDef?,
    keyList := cs.filterMap AlterClause.key?, dropList := cs.filterMap AlterClause.drop? }

/-- A record audited on a TiDB remote. -/
def tidbAudit : AuditState := { node := {}, ctx := { dbType := .tidb } }

/-- `ALTER TABLE d.t` with the given clauses. -/
def alterStmt (cs : List AlterClause) : Stmt :=
  { command := .alterTable, queryTables := [.base (some "d") "t"], alterInfo := alterInfoOf cs }

/-- `ADD INDEX idx_x (x), ADD INDEX idx_y (y)`. -/
def twoIndexes : List AlterClause :=
  [.addIndex { name := some "idx_x", columns := [{ fieldName := some "x" }] },
   .addIndex { name := some "idx_y", columns := [{ fieldName := some "y" }] }]

/-- Two operations that TiDB's rule lets through: on a TiDB remote where `d.t` exists, the audit
    of `ALTER TABLE d.t ADD INDEX idx_x (x), ADD INDEX idx_y (y)` reports nothing. -/
theorem tidb_two_indexes_pass :
    twoIndexes.length = 2 ∧
      (auditStatement (catalogEnv fun _ _ => false) (alterStmt twoIndexes) tidbAudit).node.errmsg =
        "" := by
  decide

/-! ## 3. The type-change checks of `MODIFY` and `CHANGE COLUMN` -/

section TypeChange

variable (f : ColumnDef) (info : RemoteColumnInfo)

end TypeChange

/-- A rule appends its message at the knob's level when its knob is on and its condition holds. -/
theorem AppendsSat.rule {P : Nat × String → Prop} {n n' : SqlCacheNode} (h : AppendsSat P n n')
    {knob : Nat} {cond : Bool} {msg : String}
    (hm : 0 < knob → cond = true → P (SqlCacheNode.reportLevel knob, msg)) :
    AppendsSat P n (n'.rule knob cond msg) := by
  unfold SqlCacheNode.rule
  split
  next hc => exact h.trans (.report n' fun _ => hm hc.1 hc.2)
  · exact h

/-- `MODIFY amount DECIMAL(10,2)` of a `DECIMAL(10,2)` column on TiDB, with the default knobs:
    the TiDB `DECIMAL` diagnostic, an error.  (A column definition carries no precision or scale
    in the model: the checks never read them.) -/
theorem decimal_unchanged_reported :
    typeChangeChecks {} { dbType := .tidb } { fieldName := "amount", sqlType := .newdecimal }
        ⟨"decimal", -1, 10, 2⟩ {} =
      { errlevel := 2,
        errmsg := "TiDB does not support changing DECIMAL precision/scale for column 'amount'.",
        diagnostics :=
          [(2, "TiDB does not support changing DECIMAL precision/scale for column 'amount'.")] } := by
  decide

/-! ## 4. Must-have columns

`parse_required_column` looks for each keyword anywhere in the spec, the name and type tokens
included, so a required column named after a keyword requires that keyword's attribute. -/

/-- With `inception_must_have_columns = 'comment INT'`, a `CREATE TABLE` column `comment INT`
    with no comment is reported for a missing `COMMENT`, which the setting does not ask for. -/
theorem column_named_comment_requires_comment :
    (parseRequiredColumn "comment INT".data).needComment = true ∧
      checkMustHaveColumns { mustHaveColumns := some "comment INT" } [{ fieldName := "comment" }] {} =
        ({} : SqlCacheNode).report 2 "Required column 'comment' must have a COMMENT." := by
  decide

/-! ## 5. Key lengths

`check_index` multiplies a prefix length by `mbmaxlen` as two `uint`s, so the product is taken
modulo `2^32` before it is compared with the caps. -/

/-- `c VARCHAR(10) CHARACTER SET utf8mb4`. -/
def utf8mb4Column : ColumnDef :=
  { fieldName := "c", sqlType := .varchar, charset := some ⟨"utf8mb4", 4⟩, displayWidth := 10 }

/-- `INDEX idx_c (c(1073741824))`. -/
def widePrefixKey : KeySpec := { name := some "idx_c", columns := [{ fieldName := some "c", prefixLength := 2 ^ 30 }] }

/-- A prefix of `2^30` characters of a utf8mb4 column counts `0` key bytes, so `check_index`
    reports nothing for the index, though its exact size, `2^32` bytes, exceeds both the
    per-column cap (767) and the total cap (3072). -/
theorem key_length_wraps_to_zero :
    localKeyBytes utf8mb4Column (2 ^ 30) = 0 ∧ 3072 < 2 ^ 30 * 4 ∧
      (checkIndex offlineAudit widePrefixKey { createList := [utf8mb4Column] } none freshAudit).node =
        {} := by
  decide

end Inception
