import Mathlib.Tactic.SplitIfs
import Mathlib.Algebra.Group.Nat.Basic
import Inception.RemoteSql

/-!
# ProbeText — the texts of the catalogue probes, read back

`inception_remote_sql.h` writes each name a probe asks about into its template with `%s`, between
single quotes (backquotes for `USE`), and nothing escapes it.  The templates part at their first
fixed text, and a name with no quote in it runs to the quote that closes it, so for such names
the text reads back as the probe it was made from: distinct probes send distinct texts.  A quote
inside a name ends the literal early, and two different probes may then send one text, which no
remote can tell apart.

What reaches the remote is the text's UTF-8 bytes, cut by `snprintf` to the caller's buffer
(`RemoteQuery.sent`).  UTF-8 is a code, so a text that fits its buffer is told by its bytes, and
two quote-free probes that fit send the same bytes only when they are the same probe.  A text cut
at the buffer's end loses the rest of its names.

* §1 templates: the fixed texts around the names, filling them in, and reading them back;
* §2 the probes as templates, and the round trip of their texts;
* §3 the bytes sent: UTF-8 in arithmetic, its injectivity, and the probes told by their bytes.
-/

namespace Inception

/-! ## 1. Templates -/

/-- Modelled from MySQL's lexer, for bodies with no quote in them: a quoted name runs to the
    first closing quote, and the rest of the text follows it. -/
def readQuoted (close : Char) : List Char → Option (List Char × List Char)
  | [] => none
  | c :: rest =>
    if c = close then some ([], rest) else (readQuoted close rest).map fun r => (c :: r.1, r.2)

/-- A probe's SQL template: the quote its names stand between, the text before the first name,
    the text after each name's closing quote, and the probe a list of names makes. -/
structure Template where
  close : Char
  first : String
  rest : List String
  build : List String → Option RemoteQuery

/-- The text after the first piece: each name, its closing quote, and the fixed text after it. -/
def fillNames (close : Char) : List String → List String → List Char
  | p :: ps, a :: as => a.data ++ close :: (p.data ++ fillNames close ps as)
  | _, _ => []

/-- `snprintf` of the template with its names. -/
def Template.fill (T : Template) (names : List String) : List Char :=
  T.first.data ++ fillNames T.close T.rest names

/-- The names of a text after the first piece, read back: each name up to its closing quote, then
    the fixed text that must follow it. -/
def readNames (close : Char) : List String → List Char → Option (List String)
  | [], t => if t = [] then some [] else none
  | p :: ps, t =>
    match readQuoted close t with
    | some (a, r) =>
      if p.data.isPrefixOf r then (readNames close ps (r.drop p.data.length)).map (⟨a⟩ :: ·)
      else none
    | none => none

/-- The names of a text the template made, when it made it. -/
def Template.read (T : Template) (t : List Char) : Option (List String) :=
  if T.first.data.isPrefixOf t then readNames T.close T.rest (t.drop T.first.data.length) else none

/-- Two templates part at their first texts: neither is a prefix of the other. -/
def Template.Apart (T T' : Template) : Prop :=
  (T.first.data.isPrefixOf T'.first.data || T'.first.data.isPrefixOf T.first.data) = false

instance (T T' : Template) : Decidable (T.Apart T') := inferInstanceAs (Decidable (_ = _))

theorem readQuoted_append {close : Char} {a : List Char} (ha : close ∉ a) (r : List Char) :
    readQuoted close (a ++ close :: r) = some (a, r) := by
  induction a with
  | nil => simp [readQuoted]
  | cons c a ih =>
    have hc : c ≠ close := fun h => ha (h ▸ .head _)
    simp [readQuoted, hc, ih (fun h => ha (.tail _ h))]

theorem readNames_fillNames (close : Char) : ∀ (ps names : List String),
    ps.length = names.length → (∀ a ∈ names, close ∉ a.data) →
      readNames close ps (fillNames close ps names) = some names
  | [], [], _, _ => rfl
  | p :: ps, a :: as, hlen, hn => by
    rw [fillNames, readNames, readQuoted_append (hn a (.head _))]
    dsimp only
    rw [if_pos (List.isPrefixOf_iff_prefix.mpr (List.prefix_append _ _)), List.drop_left,
      readNames_fillNames close ps as (by simpa using hlen) (fun b hb => hn b (.tail _ hb))]
    rfl

/-- A template reads back the names it was filled with, when none holds its quote. -/
theorem Template.read_fill (T : Template) {names : List String} (hlen : T.rest.length = names.length)
    (hn : ∀ a ∈ names, T.close ∉ a.data) : T.read (T.fill names) = some names := by
  rw [Template.read, Template.fill, if_pos (List.isPrefixOf_iff_prefix.mpr (List.prefix_append _ _)),
    List.drop_left, readNames_fillNames _ _ _ hlen hn]

/-- A template apart from `T` reads none of `T`'s texts. -/
theorem Template.read_fill_of_apart {T T' : Template} (h : T'.Apart T) (names : List String) :
    T'.read (T.fill names) = none := by
  rw [Template.read, if_neg]
  intro hp
  have hpre := List.prefix_or_prefix_of_prefix (List.isPrefixOf_iff_prefix.mp hp)
    (List.prefix_append T.first.data (fillNames T.close T.rest names))
  simp only [Template.Apart, Bool.or_eq_false_iff] at h
  rcases hpre with hpre | hpre <;> rw [← List.isPrefixOf_iff_prefix] at hpre <;> simp [hpre] at h

/-- Reading a text against templates that pairwise part, the template that made it is the one
    that reads it. -/
theorem findSome?_read_fill {l : List Template} (hl : l.Pairwise Template.Apart) {T : Template}
    (hT : T ∈ l) {names : List String} (hlen : T.rest.length = names.length)
    (hn : ∀ a ∈ names, T.close ∉ a.data) {q : RemoteQuery} (hq : T.build names = some q) :
    l.findSome? (fun T' => (T'.read (T.fill names)).bind T'.build) = some q := by
  induction l with
  | nil => cases hT
  | cons T' l ih =>
    rw [List.findSome?_cons]
    rcases List.mem_cons.mp hT with rfl | hT
    · rw [Template.read_fill _ hlen hn, Option.some_bind, hq]
    · rw [Template.read_fill_of_apart (List.rel_of_pairwise_cons hl hT), Option.none_bind]
      exact ih hl.of_cons hT

/-! ## 2. The probes -/

/-- `SHOW_DATABASES_LIKE`. -/
def showDatabasesLikeTemplate : Template where
  close := '\''
  first := "SHOW DATABASES LIKE '"
  rest := [""]
  build := fun | [db] => some (.showDatabasesLike db) | _ => none

/-- `USE_DATABASE`. -/
def useDatabaseTemplate : Template where
  close := '`'
  first := "USE `"
  rest := [""]
  build := fun | [db] => some (.useDatabase db) | _ => none

/-- `SHOW_TABLES_LIKE`. -/
def showTablesLikeTemplate : Template where
  close := '\''
  first := "SHOW TABLES LIKE '"
  rest := [""]
  build := fun | [t] => some (.showTablesLike t) | _ => none

/-- `CHECK_COLUMN_EXISTS`. -/
def checkColumnExistsTemplate : Template where
  close := '\''
  first := "SELECT 1 FROM information_schema.COLUMNS WHERE TABLE_SCHEMA='"
  rest := [" AND TABLE_NAME='", " AND COLUMN_NAME='", ""]
  build := fun | [db, t, c] => some (.checkColumnExists db t c) | _ => none

/-- `CHECK_INDEX_EXISTS`. -/
def checkIndexExistsTemplate : Template where
  close := '\''
  first := "SELECT 1 FROM information_schema.STATISTICS WHERE TABLE_SCHEMA='"
  rest := [" AND TABLE_NAME='", " AND INDEX_NAME='", " LIMIT 1"]
  build := fun | [db, t, i] => some (.checkIndexExists db t i) | _ => none

/-- `GET_TABLE_ROWS`. -/
def getTableRowsTemplate : Template where
  close := '\''
  first := "SELECT TABLE_ROWS FROM information_schema.TABLES WHERE TABLE_SCHEMA='"
  rest := [" AND TABLE_NAME='", ""]
  build := fun | [db, t] => some (.getTableRows db t) | _ => none

/-- `GET_COLUMN_INFO`. -/
def getColumnInfoTemplate : Template where
  close := '\''
  first := "SELECT DATA_TYPE, CHARACTER_MAXIMUM_LENGTH, NUMERIC_PRECISION, NUMERIC_SCALE FROM " ++
    "information_schema.COLUMNS WHERE TABLE_SCHEMA='"
  rest := [" AND TABLE_NAME='", " AND COLUMN_NAME='", ""]
  build := fun | [db, t, c] => some (.getColumnInfo db t c) | _ => none

/-- `GET_TABLE_COLUMNS`. -/
def getTableColumnsTemplate : Template where
  close := '\''
  first := "SELECT COLUMN_NAME FROM information_schema.COLUMNS WHERE TABLE_SCHEMA='"
  rest := [" AND TABLE_NAME='", " ORDER BY ORDINAL_POSITION"]
  build := fun | [db, t] => some (.getTableColumns db t) | _ => none

/-- The templates of the catalogue probes. -/
def probeTemplates : List Template :=
  [showDatabasesLikeTemplate, useDatabaseTemplate, showTablesLikeTemplate,
    checkColumnExistsTemplate, checkIndexExistsTemplate, getTableRowsTemplate,
    getColumnInfoTemplate, getTableColumnsTemplate]

/-- Modelled from the remote's view of a probe: the probe whose template reads the text. -/
def readProbe (t : List Char) : Option RemoteQuery :=
  probeTemplates.findSome? fun T => (T.read t).bind T.build

/-- A probe's template and its names. -/
def RemoteQuery.template : RemoteQuery → Option (Template × List String)
  | .showDatabasesLike db => some (showDatabasesLikeTemplate, [db])
  | .useDatabase db => some (useDatabaseTemplate, [db])
  | .showTablesLike t => some (showTablesLikeTemplate, [t])
  | .checkColumnExists db t c => some (checkColumnExistsTemplate, [db, t, c])
  | .checkIndexExists db t i => some (checkIndexExistsTemplate, [db, t, i])
  | .getTableRows db t => some (getTableRowsTemplate, [db, t])
  | .getColumnInfo db t c => some (getColumnInfoTemplate, [db, t, c])
  | .getTableColumns db t => some (getTableColumnsTemplate, [db, t])
  | _ => none

/-- No name of the probe holds the quote written around it. -/
def RemoteQuery.quoteFree (q : RemoteQuery) : Bool :=
  match q.template with
  | some (T, names) => names.all fun a => !a.data.contains T.close
  | none => true

theorem probeTemplates_apart : probeTemplates.Pairwise Template.Apart := by decide

theorem RemoteQuery.template_of_isProbe {q : RemoteQuery} (h : q.isProbe = true) :
    ∃ T names, q.template = some (T, names) := by
  cases q <;> simp [RemoteQuery.isProbe, RemoteQuery.template] at h ⊢

/-- A probe's template is one of the probes' templates, has a name per hole, builds the probe
    back from the names, and writes the probe's text. -/
theorem RemoteQuery.template_spec {q : RemoteQuery} {T : Template} {names : List String}
    (h : q.template = some (T, names)) :
    T ∈ probeTemplates ∧ T.rest.length = names.length ∧ T.build names = some q ∧
      q.text.data = T.fill names := by
  cases q <;> simp only [RemoteQuery.template, Option.some.injEq, Prod.mk.injEq, reduceCtorEq] at h <;>
    obtain ⟨rfl, rfl⟩ := h <;>
    refine ⟨by simp [probeTemplates], rfl, rfl, ?_⟩ <;>
    simp only [RemoteQuery.text, Template.fill, fillNames, String.data_append, List.append_assoc] <;>
    rfl

/-- A probe's text reads back as the probe: for every catalogue probe whose names hold no quote of
    the kind written around them, the template whose first text the probe's text starts with
    reads it back as that probe. -/
theorem probe_text_reads_back (q : RemoteQuery) (hq : q.isProbe = true) (hf : q.quoteFree = true) :
    readProbe q.text.data = some q := by
  obtain ⟨T, names, hT⟩ := RemoteQuery.template_of_isProbe hq
  obtain ⟨hmem, hlen, hbuild, htext⟩ := RemoteQuery.template_spec hT
  have hn : ∀ a ∈ names, T.close ∉ a.data := by
    simpa [RemoteQuery.quoteFree, hT] using hf
  rw [htext]
  exact findSome?_read_fill probeTemplates_apart hmem hlen hn hbuild

/-- A quote in a name is written as it is: two different column probes send one text. -/
example : (RemoteQuery.checkColumnExists "d" "t' AND COLUMN_NAME='x" "y").text =
    (RemoteQuery.checkColumnExists "d" "t" "x' AND COLUMN_NAME='y").text := by
  decide

/-! ## 3. The bytes sent -/

/-- The bytes `utf8EncodeChar` writes for the code point `v`, in arithmetic: a tag in the high
    bits of each byte, then six bits of the code point per continuation byte. -/
def utf8Nat (v : Nat) : List Nat :=
  if v ≤ 0x7f then [v]
  else if v ≤ 0x7ff then [0xc0 + v / 64 % 32, 0x80 + v % 64]
  else if v ≤ 0xffff then [0xe0 + v / 4096 % 16, 0x80 + v / 64 % 64, 0x80 + v % 64]
  else [0xf0 + v / 262144 % 8, 0x80 + v / 4096 % 64, 0x80 + v / 64 % 64, 0x80 + v % 64]

theorem UInt8.toNat_or (a b : UInt8) : (a ||| b).toNat = a.toNat ||| b.toNat := BitVec.toNat_or ..

/-- A byte made of the low `k` bits of `x` under the tag `t`. -/
theorem UInt8.toNat_tag (x m t : UInt8) (k j : Nat) (hm : m.toNat = 2 ^ k - 1)
    (ht : t.toNat = 2 ^ k * j) : (x &&& m ||| t).toNat = 2 ^ k * j + x.toNat % 2 ^ k := by
  rw [UInt8.toNat_or, UInt8.and_toNat, hm, ht, Nat.and_pow_two_sub_one_eq_mod, Nat.or_comm,
    Nat.mul_add_lt_is_or (Nat.mod_lt _ (Nat.two_pow_pos k))]

theorem UInt32.toNat_toUInt8 (x : UInt32) : x.toUInt8.toNat = x.toNat % 256 := by
  simp [UInt32.toUInt8, Nat.toUInt8, UInt8.toNat, UInt8.ofNat]

theorem UInt32.toNat_shiftRight (x k : UInt32) (hk : k.toNat < 32) :
    (x >>> k).toNat = x.toNat / 2 ^ k.toNat := by
  show (UInt32.shiftRight x k).toNat = _
  have hk' : k.toBitVec.toNat % 32 = k.toBitVec.toNat := Nat.mod_eq_of_lt hk
  simp [UInt32.shiftRight, UInt32.toNat, BitVec.toNat_ushiftRight, Nat.shiftRight_eq_div_pow,
    UInt32.mod, hk']

theorem Char.toNat_lt (c : Char) : c.toNat < 0x110000 := by
  have := c.valid
  simp only [UInt32.isValidChar, Nat.isValidChar] at this
  simp only [Char.toNat]
  omega

/-- `utf8EncodeChar` writes the bytes of `utf8Nat`. -/
theorem utf8EncodeChar_toNat (c : Char) :
    (String.utf8EncodeChar c).map UInt8.toNat = utf8Nat c.toNat := by
  have hv : c.val.toNat = c.toNat := rfl
  have h1 : c.val ≤ 0x7f ↔ c.toNat ≤ 0x7f := Iff.rfl
  have h2 : c.val ≤ 0x7ff ↔ c.toNat ≤ 0x7ff := Iff.rfl
  have h3 : c.val ≤ 0xffff ↔ c.toNat ≤ 0xffff := Iff.rfl
  unfold String.utf8EncodeChar utf8Nat
  simp only [h1, h2, h3]
  split_ifs <;>
    simp only [List.map_cons, List.map_nil, UInt32.toNat_toUInt8, hv,
      UInt8.toNat_tag _ 0x1f 0xc0 5 6 rfl rfl, UInt8.toNat_tag _ 0x3f 0x80 6 2 rfl rfl,
      UInt8.toNat_tag _ 0x0f 0xe0 4 14 rfl rfl, UInt8.toNat_tag _ 0x07 0xf0 3 30 rfl rfl,
      UInt32.toNat_shiftRight _ 6 (by decide), UInt32.toNat_shiftRight _ 12 (by decide),
      UInt32.toNat_shiftRight _ 18 (by decide), show UInt32.toNat 6 = 6 from rfl,
      show UInt32.toNat 12 = 12 from rfl, show UInt32.toNat 18 = 18 from rfl, List.cons.injEq,
      and_true] <;>
    omega

theorem utf8Nat_ne_nil (v : Nat) : utf8Nat v ≠ [] := by
  unfold utf8Nat; split_ifs <;> simp

/-- A code point's bytes are told apart from what follows them: the first byte says how many
    there are, and the tag-free bits give back the code point. -/
theorem utf8Nat_append_inj {v w : Nat} {r r' : List Nat} (hv : v < 0x110000) (hw : w < 0x110000)
    (h : utf8Nat v ++ r = utf8Nat w ++ r') : v = w ∧ r = r' := by
  unfold utf8Nat at h
  split_ifs at h <;> simp only [List.cons_append, List.nil_append, List.cons.injEq] at h <;>
    first
    | exact absurd h.1 (by omega)
    | exact ⟨by omega, by simp only [h]⟩

theorem utf8Nat_flatMap_inj : ∀ {cs ds : List Char},
    (cs.flatMap fun c => utf8Nat c.toNat) = ds.flatMap (fun c => utf8Nat c.toNat) → cs = ds
  | [], [], _ => rfl
  | [], d :: ds, h => by
    rw [List.flatMap_cons] at h
    exact absurd (List.append_eq_nil.1 h.symm).1 (utf8Nat_ne_nil _)
  | c :: cs, [], h => by
    rw [List.flatMap_cons] at h
    exact absurd (List.append_eq_nil.1 h).1 (utf8Nat_ne_nil _)
  | c :: cs, d :: ds, h => by
    rw [List.flatMap_cons, List.flatMap_cons] at h
    obtain ⟨hcd, hrest⟩ := utf8Nat_append_inj (Char.toNat_lt c) (Char.toNat_lt d) h
    rw [Char.ext (UInt32.toNat.inj hcd), utf8Nat_flatMap_inj hrest]

theorem utf8_flatMap_toNat (cs : List Char) :
    (cs.flatMap String.utf8EncodeChar).map UInt8.toNat = cs.flatMap fun c => utf8Nat c.toNat := by
  simp [List.map_flatMap, utf8EncodeChar_toNat]

/-- UTF-8 is a code: the bytes of a text give back its characters. -/
theorem utf8_flatMap_inj {cs ds : List Char}
    (h : cs.flatMap String.utf8EncodeChar = ds.flatMap String.utf8EncodeChar) : cs = ds :=
  utf8Nat_flatMap_inj (by rw [← utf8_flatMap_toNat, ← utf8_flatMap_toNat, h])

/-- A text that fits its buffer is sent whole. -/
theorem RemoteQuery.sent_of_fits {q : RemoteQuery} (h : q.fits = true) : q.sent = q.bytes := by
  unfold RemoteQuery.sent
  unfold RemoteQuery.fits at h
  split
  next n hn =>
    rw [hn, decide_eq_true_eq] at h
    exact List.take_of_length_le (by omega)
  · rfl

/-- **A probe sent whole is told by its bytes.**  For two catalogue probes whose names hold no
    quote of the kind written around them and whose texts fit their `snprintf` buffers (256 bytes
    for `SHOW DATABASES LIKE`, `USE` and `SHOW TABLES LIKE`, 512 for the `information_schema`
    selects), the bytes sent are the same exactly when the probes are. -/
theorem probe_sent_bytes_identify (q q' : RemoteQuery)
    (hq : q.isProbe = true ∧ q.quoteFree = true ∧ q.fits = true)
    (hq' : q'.isProbe = true ∧ q'.quoteFree = true ∧ q'.fits = true) :
    q.sent = q'.sent ↔ q = q' := by
  refine ⟨fun h => ?_, congrArg _⟩
  rw [RemoteQuery.sent_of_fits hq.2.2, RemoteQuery.sent_of_fits hq'.2.2] at h
  have htext : q.text.data = q'.text.data := utf8_flatMap_inj h
  have hread := congrArg readProbe htext
  rwa [probe_text_reads_back q hq.1 hq.2.1, probe_text_reads_back q' hq'.1 hq'.2.1,
    Option.some.injEq] at hread

theorem probe_sent_bytes_identify_columnIndex :
    ((RemoteQuery.checkColumnExists "shop" "orders" "id").isProbe = true ∧
        (RemoteQuery.checkColumnExists "shop" "orders" "id").quoteFree = true ∧
        (RemoteQuery.checkColumnExists "shop" "orders" "id").fits = true) ∧
      ((RemoteQuery.checkIndexExists "shop" "orders" "id").isProbe = true ∧
        (RemoteQuery.checkIndexExists "shop" "orders" "id").quoteFree = true ∧
        (RemoteQuery.checkIndexExists "shop" "orders" "id").fits = true) ∧
      ((RemoteQuery.checkColumnExists "shop" "orders" "id").sent =
          (RemoteQuery.checkIndexExists "shop" "orders" "id").sent ↔
        RemoteQuery.checkColumnExists "shop" "orders" "id" =
          RemoteQuery.checkIndexExists "shop" "orders" "id") :=
  ⟨⟨rfl, by decide, by decide⟩, ⟨rfl, by decide, by decide⟩,
    probe_sent_bytes_identify _ _ ⟨rfl, by decide, by decide⟩ ⟨rfl, by decide, by decide⟩⟩

set_option maxRecDepth 2000 in
/-- Past its buffer a name is cut: two `USE` probes that differ only after byte 255 send one
    text. -/
example : (RemoteQuery.useDatabase (⟨List.replicate 250 'a'⟩ ++ "x")).sent =
    (RemoteQuery.useDatabase (⟨List.replicate 250 'a'⟩ ++ "y")).sent := by
  decide

end Inception
