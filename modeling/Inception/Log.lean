import Inception.Tree.Json

/-!
# Log — the audit log's lines

`inception_log.cc` appends one JSON object per line to the file `inception_audit_log` names: one
line per session at commit (`audit_log_session`) and one per executed statement
(`audit_log_statement`).  The server holds a text as its UTF-8 bytes, and the log's own
`json_escape` works on those bytes: it stops at the first NUL byte, and given a limit it counts
bytes, writing `...` in place of everything after the first `max_len`.

* §1 texts as bytes, and UTF-8's well-formed byte sequences as a decoder runs them;
* §2 the byte `json_escape`: with a limit it escapes the first `max_len` bytes and writes `...`
  exactly when there are more (`Log.jsonEscape_cut`); on a text without NUL that fits, it writes
  the UTF-8 of the query tree's `json_escape` of the text, which reads back as the text
  (`Log.sqlField_reads_back`);
* §3 the log file: each call opens, reopens or closes it as `inception_audit_log` says, and
  appends its line to the open file and to no other; each line is one line, whatever the texts
  it escapes, so over any run of calls every file stays whole lines (`logRun_lines`);
* §4 a statement of more than 4096 bytes whose byte 4096 is the first of a multi-byte character
  is logged with that character cut: the line is not UTF-8.
-/

namespace Inception

/-! ## 1. Bytes -/

/-- The bytes the server holds for a text: its UTF-8 encoding. -/
def utf8Bytes (cs : List Char) : List Nat :=
  cs.flatMap fun c => (String.utf8EncodeChar c).map UInt8.toNat

@[simp] theorem utf8Bytes_nil : utf8Bytes [] = [] := rfl

@[simp] theorem utf8Bytes_cons (c : Char) (cs : List Char) :
    utf8Bytes (c :: cs) = (String.utf8EncodeChar c).map UInt8.toNat ++ utf8Bytes cs := rfl

@[simp] theorem utf8Bytes_append (cs ds : List Char) :
    utf8Bytes (cs ++ ds) = utf8Bytes cs ++ utf8Bytes ds := List.flatMap_append ..

/-- A character below `0x80` is its own one byte. -/
theorem utf8EncodeChar_ascii (c : Char) (h : c.toNat < 0x80) :
    (String.utf8EncodeChar c).map UInt8.toNat = [c.toNat] := by
  have hv : c.val ≤ 0x7f := by
    rw [UInt32.le_def, BitVec.le_def]; exact Nat.lt_succ_iff.mp h
  simp only [String.utf8EncodeChar, if_pos hv, List.map_cons, List.map_nil]
  congr 1
  show c.val.toNat % 256 = c.toNat
  exact Nat.mod_eq_of_lt (by unfold Char.toNat at h; omega)

theorem utf8Bytes_ascii : ∀ cs : List Char, (∀ c ∈ cs, c.toNat < 0x80) →
    utf8Bytes cs = cs.map Char.toNat
  | [], _ => rfl
  | c :: cs, h => by
    rw [utf8Bytes_cons, utf8EncodeChar_ascii c (h c (.head _)),
      utf8Bytes_ascii cs fun d hd => h d (.tail _ hd)]
    rfl

theorem uInt8_or_high (x k : UInt8) (hk : k.toNat.testBit 7 = true) : 0x80 ≤ (x ||| k).toNat := by
  have h : (x ||| k).toNat = x.toNat ||| k.toNat := BitVec.toNat_or _ _
  rw [h]
  exact Nat.testBit_implies_ge (x := x.toNat ||| k.toNat) (by rw [Nat.testBit_or, hk, Bool.or_true])

/-- Every byte of a character from `0x80` on is from `0x80` on. -/
theorem utf8EncodeChar_high (c : Char) (h : 0x80 ≤ c.toNat) :
    ∀ b ∈ (String.utf8EncodeChar c).map UInt8.toNat, 0x80 ≤ b := by
  have hv : ¬ c.val ≤ 0x7f := by
    rw [UInt32.le_def, BitVec.le_def]; unfold Char.toNat at h; exact Nat.not_le.mpr h
  simp only [String.utf8EncodeChar, if_neg hv]
  split_ifs <;> simp (disch := decide) [uInt8_or_high]

/-- UTF-8's well-formed byte sequences, as a decoder reads them byte by byte: its state is the
    number of continuation bytes the current character still owes and the range the next byte
    must fall in. -/
def utf8Next : Nat × Nat × Nat → Nat → Option (Nat × Nat × Nat)
  | (0, _, _), b =>
    if b ≤ 0x7F then some (0, 0x80, 0xBF)
    else if 0xC2 ≤ b ∧ b ≤ 0xDF then some (1, 0x80, 0xBF)
    else if b = 0xE0 then some (2, 0xA0, 0xBF)
    else if 0xE1 ≤ b ∧ b ≤ 0xEC ∨ 0xEE ≤ b ∧ b ≤ 0xEF then some (2, 0x80, 0xBF)
    else if b = 0xED then some (2, 0x80, 0x9F)
    else if b = 0xF0 then some (3, 0x90, 0xBF)
    else if 0xF1 ≤ b ∧ b ≤ 0xF3 then some (3, 0x80, 0xBF)
    else if b = 0xF4 then some (3, 0x80, 0x8F)
    else none
  | (n + 1, lo, hi), b => if lo ≤ b ∧ b ≤ hi then some (n, 0x80, 0xBF) else none

/-- The decoder over a sequence; `none` once a byte is refused. -/
def utf8Run : Nat × Nat × Nat → List Nat → Option (Nat × Nat × Nat)
  | q, [] => some q
  | q, b :: bs => (utf8Next q b).bind fun q' => utf8Run q' bs

/-- A byte sequence is UTF-8 when the decoder reads it all and ends between characters. -/
def utf8Valid (bs : List Nat) : Bool := (utf8Run (0, 0x80, 0xBF) bs).map Prod.fst == some 0

example : utf8Valid (utf8Bytes "aé€😀".data) = true := by decide
example : utf8Valid [0x61, 0xC3, 0x2E] = false := by decide

/-- Bytes below `0x80` leave the decoder between characters. -/
theorem utf8Run_ascii (ys : List Nat) : ∀ xs : List Nat, (∀ b ∈ xs, b < 0x80) →
    utf8Run (0, 0x80, 0xBF) (xs ++ ys) = utf8Run (0, 0x80, 0xBF) ys
  | [], _ => rfl
  | b :: xs, h => by
    have hb : b ≤ 0x7F := Nat.lt_succ_iff.mp (h b (.head _))
    rw [List.cons_append, utf8Run, utf8Next, if_pos hb, Option.some_bind,
      utf8Run_ascii ys xs fun x hx => h x (.tail _ hx)]

theorem utf8Valid_ascii_append {xs : List Nat} (h : ∀ b ∈ xs, b < 0x80) (ys : List Nat) :
    utf8Valid (xs ++ ys) = utf8Valid ys := by
  rw [utf8Valid, utf8Run_ascii ys xs h, utf8Valid]

/-- A two-byte lead byte followed by a byte below `0x80`: not UTF-8, whatever follows. -/
theorem utf8Valid_lead_cut {a b : Nat} (ha : 0xC2 ≤ a ∧ a ≤ 0xDF) (hb : b < 0x80)
    (ys : List Nat) : utf8Valid (a :: b :: ys) = false := by
  have ha' : ¬ a ≤ 0x7F := by omega
  simp only [utf8Valid, utf8Run, utf8Next, if_neg ha', if_pos ha, Option.some_bind,
    if_neg (show ¬ (0x80 ≤ b ∧ b ≤ 0xBF) by omega), Option.none_bind]
  rfl

/-! ## 2. `json_escape` on bytes -/

namespace Log

/-- `json_escape` of `inception_log.cc` on one byte: the five named escapes, `\u00XX` below
    `0x20`, the byte itself otherwise. -/
def escapeByte (b : Nat) : List Nat :=
  if b = '"'.toNat then ['\\'.toNat, '"'.toNat]
  else if b = '\\'.toNat then ['\\'.toNat, '\\'.toNat]
  else if b = '\n'.toNat then ['\\'.toNat, 'n'.toNat]
  else if b = '\r'.toNat then ['\\'.toNat, 'r'.toNat]
  else if b = '\t'.toNat then ['\\'.toNat, 't'.toNat]
  else if b < 0x20 then
    ['\\'.toNat, 'u'.toNat, '0'.toNat, '0'.toNat, (hexDigit (b / 16)).toNat, (hexDigit (b % 16)).toNat]
  else [b]

/-- The `...` written in place of a cut text's rest. -/
def ellipsis : List Nat := utf8Bytes "...".data

/-- The loop of `json_escape(s, max_len)`, `count` the bytes counted so far: it ends at the first
    NUL byte, and when `max_len > 0` the byte past the first `max_len` is replaced by `...` and
    the loop stops (`++count > max_len`; `count` moves only when `max_len > 0`). -/
def escapeFrom (maxLen : Nat) : Nat → List Nat → List Nat
  | _, [] => []
  | count, b :: bs =>
    if b = 0 then []
    else if maxLen > 0 then
      if count + 1 > maxLen then ellipsis else escapeByte b ++ escapeFrom maxLen (count + 1) bs
    else escapeByte b ++ escapeFrom maxLen count bs

/-- `json_escape(s, max_len)`. -/
def jsonEscape (maxLen : Nat) (bs : List Nat) : List Nat := escapeFrom maxLen 0 bs

/-- A byte from `0x80` on is copied. -/
theorem escapeByte_high {b : Nat} (h : 0x80 ≤ b) : escapeByte b = [b] := by
  have h1 : ¬ b < 0x20 := by omega
  simp only [escapeByte, if_neg h1]
  split_ifs <;> simp_all

theorem flatMap_escapeByte_plain : ∀ bs : List Nat, (∀ b ∈ bs, escapeByte b = [b]) →
    bs.flatMap escapeByte = bs
  | [], _ => rfl
  | b :: bs, h => by
    rw [List.flatMap_cons, h b (.head _), flatMap_escapeByte_plain bs fun x hx => h x (.tail _ hx)]
    rfl

theorem flatMap_escapeByte_high (bs : List Nat) (h : ∀ b ∈ bs, 0x80 ≤ b) :
    bs.flatMap escapeByte = bs :=
  flatMap_escapeByte_plain bs fun b hb => escapeByte_high (h b hb)

theorem hexDigit_ascii : ∀ n, n < 16 → (hexDigit n).toNat < 0x80 := by decide

/-- **The byte escape of a character's bytes is the bytes of its character escape**, for every
    character but NUL. -/
theorem escapeByte_utf8 (c : Char) (h0 : c.toNat ≠ 0) :
    ((String.utf8EncodeChar c).map UInt8.toNat).flatMap escapeByte = utf8Bytes (jsonEscapeChar c) := by
  have hne : ∀ d : Char, c ≠ d → c.toNat ≠ d.toNat := fun d h e =>
    h (by rw [← Char.ofNat_toNat c, e, Char.ofNat_toNat])
  by_cases ha : c.toNat < 0x80
  · rw [utf8EncodeChar_ascii c ha, List.flatMap_singleton]
    rw [jsonEscapeChar.eq_def]
    split
    · rfl
    · rfl
    · rfl
    · rfl
    · rfl
    · rename_i h1 h2 h3 h4 h5
      simp only [escapeByte, if_neg (hne _ h1), if_neg (hne _ h2), if_neg (hne _ h3),
        if_neg (hne _ h4), if_neg (hne _ h5)]
      split
      · rename_i hlt
        rw [utf8Bytes_ascii _ (by
          have := hexDigit_ascii (c.toNat / 16) (by omega)
          have := hexDigit_ascii (c.toNat % 16) (by omega)
          simp only [List.mem_cons, List.mem_nil_iff, or_false]
          rintro d (rfl | rfl | rfl | rfl | rfl | rfl) <;> first | assumption | decide)]
        rfl
      · rename_i hge
        rw [utf8Bytes_ascii _ (by simpa using ha)]
        rfl
  · have hc : jsonEscapeChar c = [c] := by
      rw [jsonEscapeChar.eq_def]
      split
      all_goals first
        | (rename_i h1 h2 h3 h4 h5; exact if_neg (by omega))
        | (exfalso; apply ha; decide)
    rw [flatMap_escapeByte_high _ (utf8EncodeChar_high c (by omega)), hc, utf8Bytes_cons,
      utf8Bytes_nil, List.append_nil]

/-- Bytes of characters other than NUL hold no NUL byte. -/
theorem zero_not_mem_utf8Bytes : ∀ cs : List Char, (∀ c ∈ cs, c.toNat ≠ 0) → 0 ∉ utf8Bytes cs
  | [], _ => List.not_mem_nil 0
  | c :: cs, h => by
    rw [utf8Bytes_cons, List.mem_append, not_or]
    refine ⟨fun h0 => ?_, zero_not_mem_utf8Bytes cs fun d hd => h d (.tail _ hd)⟩
    by_cases ha : c.toNat < 0x80
    · rw [utf8EncodeChar_ascii c ha, List.mem_singleton] at h0
      exact h c (.head _) h0.symm
    · exact absurd (utf8EncodeChar_high c (by omega) 0 h0) (by decide)

theorem flatMap_escapeByte_utf8 : ∀ cs : List Char, (∀ c ∈ cs, c.toNat ≠ 0) →
    (utf8Bytes cs).flatMap escapeByte = utf8Bytes (cs.flatMap jsonEscapeChar)
  | [], _ => rfl
  | c :: cs, h => by
    rw [utf8Bytes_cons, List.flatMap_append, escapeByte_utf8 c (h c (.head _)),
      flatMap_escapeByte_utf8 cs fun d hd => h d (.tail _ hd), List.flatMap_cons, utf8Bytes_append]

/-- With a limit, bytes with no NUL: those up to the limit escaped one by one, then `...`
    exactly when more follow. -/
theorem escapeFrom_limited {maxLen : Nat} (hmax : 0 < maxLen) : ∀ (bs : List Nat) (count : Nat),
    0 ∉ bs → count ≤ maxLen → escapeFrom maxLen count bs =
      (bs.take (maxLen - count)).flatMap escapeByte ++
        if maxLen - count < bs.length then ellipsis else []
  | [], _, _, _ => by simp [escapeFrom]
  | b :: bs, count, h, hc => by
    rw [escapeFrom, if_neg fun hb : b = 0 => h (hb ▸ .head _), if_pos hmax]
    by_cases hend : count + 1 > maxLen
    · rw [if_pos hend, show maxLen - count = 0 by omega]
      simp
    · rw [if_neg hend, escapeFrom_limited hmax bs (count + 1) (fun h' => h (.tail _ h')) (by omega),
        show maxLen - count = maxLen - (count + 1) + 1 by omega, List.take_succ_cons,
        List.flatMap_cons, List.length_cons, List.append_assoc]
      simp only [Nat.add_lt_add_iff_right]

/-- **`json_escape` with a limit**: the first `max_len` bytes escaped, then `...` exactly when
    the text has more bytes. -/
theorem jsonEscape_cut {maxLen : Nat} (hmax : 0 < maxLen) {bs : List Nat} (h : 0 ∉ bs) :
    jsonEscape maxLen bs =
      (bs.take maxLen).flatMap escapeByte ++ if maxLen < bs.length then ellipsis else [] := by
  rw [jsonEscape, escapeFrom_limited hmax bs 0 h (Nat.zero_le _), Nat.sub_zero]

/-- Exactly `max_len` bytes that `json_escape` copies, then more: those bytes and `...`. -/
theorem jsonEscape_plain_cut {maxLen : Nat} (hmax : 0 < maxLen) {xs ys : List Nat}
    (hx : xs.length = maxLen) (hy : ys ≠ []) (h0 : 0 ∉ xs ++ ys)
    (hp : ∀ b ∈ xs, escapeByte b = [b]) : jsonEscape maxLen (xs ++ ys) = xs ++ ellipsis := by
  rw [jsonEscape_cut hmax h0, List.take_left' hx, flatMap_escapeByte_plain xs hp,
    if_pos (by rw [List.length_append, hx]; exact Nat.lt_add_of_pos_right (List.length_pos.mpr hy))]

/-- A text whose bytes fit the limit is escaped whole. -/
theorem jsonEscape_utf8_fits {maxLen : Nat} (hmax : 0 < maxLen) (s : String)
    (h : ∀ c ∈ s.data, c.toNat ≠ 0) (hlen : (utf8Bytes s.data).length ≤ maxLen) :
    jsonEscape maxLen (utf8Bytes s.data) = utf8Bytes (Inception.jsonEscape s).data := by
  rw [jsonEscape_cut hmax (zero_not_mem_utf8Bytes _ h), List.take_of_length_le hlen,
    if_neg (Nat.not_lt.mpr hlen), List.append_nil, flatMap_escapeByte_utf8 _ h]
  rfl

/-- The `sql` field of a statement that fits reads back as its text: for every text without NUL
    of at most 4096 bytes, the field is the UTF-8 of a JSON string body that reads, up to the
    closing quote, as the text. -/
theorem sqlField_reads_back (s : String) (h : ∀ c ∈ s.data, c.toNat ≠ 0)
    (hlen : (utf8Bytes s.data).length ≤ 4096) (r : List Char) :
    ∃ cs, jsonEscape 4096 (utf8Bytes s.data) = utf8Bytes cs ∧ parseChars (cs ++ '"' :: r) = some (s.data, r) :=
  ⟨_, jsonEscape_utf8_fits (by decide) s h hlen, parseChars_escape s.data r⟩

theorem sqlField_reads_back_quoted :
    (∀ c ∈ "SELECT \"a\\b\"".data, c.toNat ≠ 0) ∧ (utf8Bytes "SELECT \"a\\b\"".data).length ≤ 4096 ∧
      ∃ cs, jsonEscape 4096 (utf8Bytes "SELECT \"a\\b\"".data) = utf8Bytes cs ∧
        parseChars (cs ++ ['"']) = some ("SELECT \"a\\b\"".data, []) :=
  ⟨by decide, by decide, sqlField_reads_back _ (by decide) (by decide) []⟩

end Log

/-! ## 3. The log file -/

/-- The audit log: the path `g_log_fp` is open on (`g_log_path`), if any, and every file's
    bytes. -/
structure LogFiles where
  openPath : Option String := none
  files : String → List Nat := fun _ => []

/-- `audit_log_open`: an unset or empty `inception_audit_log` closes the file; another path closes
    it and opens that one for appending (`fopen(path, "a")`, which `canOpen` says succeeds or
    not); the same path keeps it open. -/
def auditLogOpen (auditLog : Option String) (canOpen : String → Bool) (log : LogFiles) : LogFiles :=
  match auditLog with
  | none => { log with openPath := none }
  | some p =>
    if p = "" then { log with openPath := none }
    else if log.openPath = some p then log
    else { log with openPath := if canOpen p then some p else none }

/-- `fprintf` of a line, then `fflush`: the line goes to the end of the open file, if any. -/
def LogFiles.write (log : LogFiles) (line : List Nat) : LogFiles :=
  match log.openPath with
  | some p => { log with files := fun q => if q = p then log.files q ++ line else log.files q }
  | none => log

theorem auditLogOpen_files (auditLog : Option String) (canOpen : String → Bool) (log : LogFiles) :
    (auditLogOpen auditLog canOpen log).files = log.files := by
  unfold auditLogOpen
  split
  · rfl
  · split_ifs <;> rfl

/-- The file is open after the call exactly when `inception_audit_log` names a path that was
    already open or that `fopen` opens. -/
theorem auditLogOpen_openPath (auditLog : Option String) (canOpen : String → Bool) (log : LogFiles)
    (p : String) : (auditLogOpen auditLog canOpen log).openPath = some p ↔
      auditLog = some p ∧ p ≠ "" ∧ (log.openPath = some p ∨ canOpen p = true) := by
  unfold auditLogOpen
  split
  · simp
  · next q =>
    split_ifs with h1 h2 hc
    · exact ⟨(fun h => nomatch h), fun ⟨hq, hp, _⟩ => hp ((Option.some.inj hq).symm.trans h1)⟩
    · constructor
      · intro h
        obtain rfl : q = p := Option.some.inj (h2.symm.trans h)
        exact ⟨rfl, h1, .inl h⟩
      · rintro ⟨hq, -, -⟩
        exact h2.trans hq
    · constructor
      · intro h
        obtain rfl : q = p := Option.some.inj h
        exact ⟨rfl, h1, .inr hc⟩
      · exact fun ⟨hq, _, _⟩ => hq
    · refine ⟨(fun h => nomatch h), fun ⟨hq, _, ho⟩ => ?_⟩
      obtain rfl : q = p := Option.some.inj hq
      exact ho.elim h2 hc

theorem LogFiles.write_files (log : LogFiles) (line : List Nat) (q : String) :
    (log.write line).files q = if log.openPath = some q then log.files q ++ line else log.files q := by
  unfold LogFiles.write
  split
  · next p hp => simp only [hp, Option.some.injEq, eq_comm]
  · next hp => simp [hp]

/-- What a log call reads besides the session: `inception_audit_log`, whether `fopen` succeeds,
    the time `now_iso8601` gives, and the client's user and host (`user()` and `host_or_ip()`
    of the security context), which may be null. -/
structure LogEnv where
  auditLog : Option String := none
  canOpen : String → Bool := fun _ => true
  time : String := ""
  user : Option String := none
  clientHost : Option String := none

/-- A piece of the format, or a text printed as it is, as bytes. -/
def lit (s : String) : List Nat := utf8Bytes s.data

/-- What `%s` prints of a C string: its bytes before the first NUL. -/
def cStr (bs : List Nat) : List Nat := bs.takeWhile (· != 0)

/-- `mode_name`. -/
def modeName : OpMode → String
  | .check => "CHECK"
  | .execute => "EXECUTE"
  | .split => "SPLIT"
  | .queryTree => "QUERY_TREE"

/-- `snprintf(target, sizeof(target), "%s:%u", ...)`: the host, or `127.0.0.1` when it is empty,
    a colon and the port, cut to the buffer's 255 bytes. -/
def logTarget (opts : SessionOptions) : List Nat :=
  (cStr (lit (if opts.host = "" then "127.0.0.1" else opts.host)) ++ lit (":" ++ toString opts.port)).take 255

/-- The line `audit_log_session` prints.  The escaped texts hold no NUL, so `%s` prints them
    whole. -/
def sessionLine (env : LogEnv) (ctx : InceptionContext) (statements errors durationMs : Int) :
    List Nat :=
  lit "\x7b\"time\":\"" ++ cStr (lit env.time) ++ lit "\",\"type\":\"session\",\"user\":\"" ++
    Log.jsonEscape 0 (lit (env.user.getD "")) ++ lit "\",\"client_host\":\"" ++
    Log.jsonEscape 0 (lit (env.clientHost.getD "")) ++ lit "\",\"target\":\"" ++
    Log.jsonEscape 0 (logTarget ctx.opts) ++ lit "\",\"target_user\":\"" ++
    Log.jsonEscape 0 (lit ctx.opts.user) ++ lit "\",\"mode\":\"" ++ lit (modeName ctx.opts.mode) ++
    lit "\",\"statements\":" ++ lit (toString statements) ++ lit ",\"errors\":" ++
    lit (toString errors) ++ lit ",\"duration_ms\":" ++ lit (toString durationMs) ++ lit "\x7d\n"

/-- `audit_log_session`. -/
def auditLogSession (env : LogEnv) (ctx : InceptionContext) (statements errors durationMs : Int)
    (log : LogFiles) : LogFiles :=
  (auditLogOpen env.auditLog env.canOpen log).write (sessionLine env ctx statements errors durationMs)

/-- The line `audit_log_statement` prints, up to the `sql` value. -/
def statementHead (env : LogEnv) (ctx : InceptionContext) (node : SqlCacheNode) : List Nat :=
  lit "\x7b\"time\":\"" ++ cStr (lit env.time) ++ lit "\",\"type\":\"statement\",\"user\":\"" ++
    Log.jsonEscape 0 (lit (env.user.getD "")) ++ lit "\",\"client_host\":\"" ++
    Log.jsonEscape 0 (lit (env.clientHost.getD "")) ++ lit "\",\"target\":\"" ++
    Log.jsonEscape 0 (logTarget ctx.opts) ++ lit "\",\"id\":" ++ lit (toString node.id) ++
    lit ",\"sql\":\""

/-- The line `audit_log_statement` prints, after the `sql` value. -/
def statementTail (node : SqlCacheNode) : List Nat :=
  lit "\",\"result\":\"" ++ lit (if node.errlevel ≥ errlevelError then "ERROR" else "OK") ++
    lit "\",\"affected_rows\":" ++ lit (toString node.affectedRows) ++
    lit ",\"execute_time\":\"" ++ cStr (lit node.executeTime) ++ lit "\"\x7d\n"

/-- The line `audit_log_statement` prints: the statement text cut to 4096 bytes. -/
def statementLine (env : LogEnv) (ctx : InceptionContext) (node : SqlCacheNode) : List Nat :=
  statementHead env ctx node ++ Log.jsonEscape 4096 (lit node.sqlText) ++ statementTail node

/-- `audit_log_statement`. -/
def auditLogStatement (env : LogEnv) (ctx : InceptionContext) (node : SqlCacheNode)
    (log : LogFiles) : LogFiles :=
  (auditLogOpen env.auditLog env.canOpen log).write (statementLine env ctx node)

/-- **A statement's log call appends its line to the file `inception_audit_log` names, when that
    file was open or opens, and changes no other file.** -/
theorem auditLogStatement_files (env : LogEnv) (ctx : InceptionContext) (node : SqlCacheNode)
    (log : LogFiles) (q : String) :
    (auditLogStatement env ctx node log).files q =
      if env.auditLog = some q ∧ q ≠ "" ∧ (log.openPath = some q ∨ env.canOpen q = true) then
        log.files q ++ statementLine env ctx node
      else log.files q := by
  rw [auditLogStatement, LogFiles.write_files, auditLogOpen_files]
  exact if_congr (auditLogOpen_openPath ..) rfl rfl

/-- A session's log call likewise. -/
theorem auditLogSession_files (env : LogEnv) (ctx : InceptionContext)
    (statements errors durationMs : Int) (log : LogFiles) (q : String) :
    (auditLogSession env ctx statements errors durationMs log).files q =
      if env.auditLog = some q ∧ q ≠ "" ∧ (log.openPath = some q ∨ env.canOpen q = true) then
        log.files q ++ sessionLine env ctx statements errors durationMs
      else log.files q := by
  rw [auditLogSession, LogFiles.write_files, auditLogOpen_files]
  exact if_congr (auditLogOpen_openPath ..) rfl rfl

/-- A log line: bytes that end with a newline and hold no other. -/
def OneLine (bs : List Nat) : Prop := ∃ body, bs = body ++ ['\n'.toNat] ∧ '\n'.toNat ∉ body

theorem OneLine.append {body line : List Nat} (hb : '\n'.toNat ∉ body) (hl : OneLine line) :
    OneLine (body ++ line) := by
  obtain ⟨l, rfl, hl⟩ := hl
  refine ⟨body ++ l, (List.append_assoc _ _ _).symm, ?_⟩
  simp only [List.mem_append, not_or]
  exact ⟨hb, hl⟩

theorem newline_not_mem_utf8Bytes : ∀ cs : List Char, '\n' ∉ cs → '\n'.toNat ∉ utf8Bytes cs
  | [], _ => List.not_mem_nil _
  | c :: cs, h => by
    rw [utf8Bytes_cons, List.mem_append, not_or]
    refine ⟨fun hc => ?_, newline_not_mem_utf8Bytes cs fun h' => h (.tail _ h')⟩
    by_cases ha : c.toNat < 0x80
    · rw [utf8EncodeChar_ascii c ha, List.mem_singleton] at hc
      exact h (by rw [← Char.ofNat_toNat c, ← hc]; exact .head _)
    · exact absurd (utf8EncodeChar_high c (by omega) _ hc) (by decide)

theorem newline_not_mem_lit {s : String} (h : '\n' ∉ s.data) : '\n'.toNat ∉ lit s :=
  newline_not_mem_utf8Bytes _ h

theorem newline_not_mem_cStr {bs : List Nat} (h : '\n'.toNat ∉ bs) : '\n'.toNat ∉ cStr bs :=
  fun h' => h ((List.takeWhile_sublist _).subset h')

theorem digitChar_isDigit : ∀ k, k < 10 → (Nat.digitChar k).isDigit = true := by decide

theorem isDigit_of_mem_toDigitsCore {c : Char} : ∀ (fuel n : Nat) (acc : List Char),
    c ∈ Nat.toDigitsCore 10 fuel n acc → c ∈ acc ∨ c.isDigit = true
  | 0, _, _, h => .inl h
  | fuel + 1, n, acc, h => by
    have hd := digitChar_isDigit (n % 10) (Nat.mod_lt _ (by decide))
    have hcons : c ∈ Nat.digitChar (n % 10) :: acc → c ∈ acc ∨ c.isDigit = true := fun h =>
      (List.mem_cons.mp h).elim (fun e => .inr (e ▸ hd)) .inl
    change c ∈ if n / 10 = 0 then Nat.digitChar (n % 10) :: acc
      else Nat.toDigitsCore 10 fuel (n / 10) (Nat.digitChar (n % 10) :: acc) at h
    split at h
    · exact hcons h
    · exact (isDigit_of_mem_toDigitsCore fuel _ _ h).elim hcons .inr

/-- What `%d` prints of a count holds no newline. -/
theorem newline_not_mem_natToString (m : Nat) : '\n' ∉ (toString m).data := fun h =>
  absurd ((isDigit_of_mem_toDigitsCore _ _ _ h).resolve_left (List.not_mem_nil _)) (by decide)

/-- What `%d` and `%lld` print holds no newline. -/
theorem newline_not_mem_toString (i : Int) : '\n' ∉ (toString i).data := by
  cases i with
  | ofNat m => exact newline_not_mem_natToString m
  | negSucc m => exact fun h => (List.mem_cons.mp h).elim (by decide) (newline_not_mem_natToString _)

theorem hexDigit_not_newline : ∀ k, k < 16 → (hexDigit k).toNat ≠ '\n'.toNat := by decide

theorem Log.newline_not_mem_escapeByte (b : Nat) : '\n'.toNat ∉ escapeByte b := by
  unfold escapeByte
  split_ifs with h1 h2 h3 h4 h5 h6
  all_goals try decide
  · simp only [List.mem_cons, List.mem_nil_iff, or_false, not_or]
    exact ⟨by decide, by decide, by decide, by decide,
      (hexDigit_not_newline (b / 16) (by omega)).symm, (hexDigit_not_newline (b % 16) (by omega)).symm⟩
  · simpa using Ne.symm h3

/-- **An escaped text holds no newline**, cut or not. -/
theorem Log.newline_not_mem_escapeFrom (maxLen : Nat) :
    ∀ (count : Nat) (bs : List Nat), '\n'.toNat ∉ escapeFrom maxLen count bs
  | _, [] => List.not_mem_nil _
  | count, b :: bs => by
    have hstep : ∀ k, '\n'.toNat ∉ escapeByte b ++ escapeFrom maxLen k bs := fun k h =>
      (List.mem_append.mp h).elim (newline_not_mem_escapeByte b) (newline_not_mem_escapeFrom maxLen k bs)
    unfold escapeFrom
    split_ifs
    · exact List.not_mem_nil _
    · decide
    all_goals exact hstep _

/-- **A session's line is one line**, whatever the client's user, host and target, when the
    time holds no newline. -/
theorem sessionLine_oneLine (env : LogEnv) (ctx : InceptionContext) (statements errors durationMs : Int)
    (ht : '\n' ∉ env.time.data) : OneLine (sessionLine env ctx statements errors durationMs) := by
  refine OneLine.append ?_ ⟨lit "\x7d", rfl, by decide⟩
  have hmode : '\n'.toNat ∉ lit (modeName ctx.opts.mode) := by cases ctx.opts.mode <;> decide
  simp +decide only [sessionLine, Log.jsonEscape, List.mem_append, not_or, and_true, hmode,
    Log.newline_not_mem_escapeFrom, newline_not_mem_cStr (newline_not_mem_lit ht),
    newline_not_mem_lit (newline_not_mem_toString _)]

/-- **A statement's line is one line**, whatever its text, when the time and the execute time
    hold no newline. -/
theorem statementLine_oneLine (env : LogEnv) (ctx : InceptionContext) (node : SqlCacheNode)
    (ht : '\n' ∉ env.time.data) (he : '\n' ∉ node.executeTime.data) :
    OneLine (statementLine env ctx node) := by
  rw [statementLine, statementTail, ← List.append_assoc]
  refine OneLine.append ?_ ⟨lit "\"\x7d", rfl, by decide⟩
  have hres : '\n'.toNat ∉ lit (if node.errlevel ≥ errlevelError then "ERROR" else "OK") := by
    split <;> decide
  simp +decide only [statementHead, Log.jsonEscape, List.mem_append, not_or, hres,
    Log.newline_not_mem_escapeFrom, newline_not_mem_cStr (newline_not_mem_lit ht),
    newline_not_mem_cStr (newline_not_mem_lit he), newline_not_mem_lit (newline_not_mem_toString _),
    newline_not_mem_lit (newline_not_mem_natToString _), and_true]

/-- Bytes that are whole log lines, one after another. -/
inductive Lines : List Nat → Prop
  | nil : Lines []
  | snoc {bs line : List Nat} : Lines bs → OneLine line → Lines (bs ++ line)

/-- Appending one line, or nothing, keeps a file whole lines. -/
theorem Lines.append_if {bs line : List Nat} (h : Lines bs) (hl : OneLine line) (c : Prop)
    [Decidable c] : Lines (if c then bs ++ line else bs) := by
  split
  · exact .snoc h hl
  · exact h

/-- A call of the audit log: the session loop's, at a session's end, and the executor's, after
    each statement. -/
inductive LogCall
  | session (env : LogEnv) (ctx : InceptionContext) (statements errors durationMs : Int)
  | statement (env : LogEnv) (ctx : InceptionContext) (node : SqlCacheNode)

/-- What a call does to the audit log. -/
def LogCall.run : LogCall → LogFiles → LogFiles
  | .session env ctx statements errors durationMs => auditLogSession env ctx statements errors durationMs
  | .statement env ctx node => auditLogStatement env ctx node

/-- The texts a call prints without escaping hold no newline: the time, and a statement's
    execute time. -/
def LogCall.Plain : LogCall → Prop
  | .session env .. => '\n' ∉ env.time.data
  | .statement env _ node => '\n' ∉ env.time.data ∧ '\n' ∉ node.executeTime.data

theorem LogCall.run_lines (c : LogCall) (hc : c.Plain) (log : LogFiles)
    (h : ∀ q, Lines (log.files q)) (q : String) : Lines ((c.run log).files q) := by
  cases c with
  | session env ctx statements errors durationMs =>
    rw [LogCall.run, auditLogSession_files]
    exact (h q).append_if (sessionLine_oneLine env ctx _ _ _ hc) _
  | statement env ctx node =>
    rw [LogCall.run, auditLogStatement_files]
    exact (h q).append_if (statementLine_oneLine env ctx node hc.1 hc.2) _

/-- **The audit log is whole lines after any run of calls**: every file that held whole lines
    still does, whatever the statements' texts, users and hosts, and whichever file each call
    opens. -/
theorem logRun_lines (calls : List LogCall) (hcalls : ∀ c ∈ calls, c.Plain) (log : LogFiles)
    (h : ∀ q, Lines (log.files q)) (q : String) :
    Lines ((calls.foldl (fun log c => c.run log) log).files q) := by
  induction calls generalizing log with
  | nil => exact h q
  | cons c cs ih =>
    exact ih (fun c' hc' => hcalls c' (.tail _ hc')) _ (c.run_lines (hcalls c (.head _)) log h)

/-- A statement's line, then a session's, with the log on `audit.log`. -/
def sampleCalls : List LogCall :=
  [.statement { auditLog := some "audit.log", time := "2026-02-13T12:00:01" } {}
      { id := 1, sqlText := "SELECT 1" },
   .session { auditLog := some "audit.log", time := "2026-02-13T12:00:02" } {} 1 0 5]

theorem sampleCalls_plain : ∀ c : LogCall, c ∈ sampleCalls → c.Plain := by
  intro c hc
  simp only [sampleCalls, List.mem_cons, List.mem_singleton, List.not_mem_nil, or_false] at hc
  rcases hc with rfl | rfl <;> simp only [LogCall.Plain] <;> decide

theorem logRun_lines_sample :
    (∀ c : LogCall, c ∈ sampleCalls → c.Plain) ∧ (∀ q, Lines (({} : LogFiles).files q)) ∧
      Lines ((sampleCalls.foldl (fun log c => c.run log) ({} : LogFiles)).files "audit.log") :=
  ⟨sampleCalls_plain, fun _ => .nil,
    logRun_lines sampleCalls sampleCalls_plain {} (fun _ => .nil) "audit.log"⟩

/-! ## 4. A character cut at byte 4096 -/

/-- 4095 bytes of `a`, then `é` (`C3 A9`), whose first byte is the 4096th. -/
def straddlingStatement : SqlCacheNode :=
  { id := 1, sqlText := ⟨List.replicate 4095 'a' ++ ['é']⟩ }

/-- A log call with the log on `audit.log`. -/
def auditEnv : LogEnv :=
  { auditLog := some "audit.log", time := "2026-02-13T12:00:01", user := some "dba",
    clientHost := some "10.0.0.1" }

theorem utf8Bytes_replicate_ascii (n : Nat) {c : Char} (h : c.toNat < 0x80) :
    utf8Bytes (List.replicate n c) = List.replicate n c.toNat := by
  rw [utf8Bytes_ascii _ fun d hd => (List.eq_of_mem_replicate hd) ▸ h, List.map_replicate]

/-- 2049 characters `é`: 4098 bytes. -/
def wideStatement : SqlCacheNode := { id := 2, sqlText := ⟨List.replicate 2049 'é'⟩ }

theorem length_utf8Bytes_replicate (n : Nat) (c : Char) :
    (utf8Bytes (List.replicate n c)).length = n * c.utf8Size := by
  induction n with
  | zero => rw [Nat.zero_mul]; rfl
  | succ n ih =>
    rw [List.replicate_succ, utf8Bytes_cons, List.length_append, ih, List.length_map,
      String.length_utf8EncodeChar, Nat.succ_mul, Nat.add_comm]

theorem utf8Bytes_high : ∀ cs : List Char, (∀ c ∈ cs, 0x80 ≤ c.toNat) → ∀ b ∈ utf8Bytes cs, 0x80 ≤ b
  | [], _ => fun _ hb => nomatch hb
  | c :: cs, h => by
    rw [utf8Bytes_cons]
    intro b hb
    rcases List.mem_append.mp hb with hb | hb
    · exact utf8EncodeChar_high c (h c (.head _)) b hb
    · exact utf8Bytes_high cs (fun d hd => h d (.tail _ hd)) b hb

set_option maxRecDepth 4000 in
theorem auditEnv_head_ascii : ∀ b ∈ statementHead auditEnv {} straddlingStatement, b < 0x80 := by
  decide

/-- `straddlingStatement` is logged as its first 4095 bytes, `é`'s first byte and `...`. -/
theorem jsonEscape_straddlingStatement : Log.jsonEscape 4096 (lit straddlingStatement.sqlText) =
    List.replicate 4095 0x61 ++ [0xC3] ++ Log.ellipsis := by
  have hbytes : lit straddlingStatement.sqlText = List.replicate 4095 0x61 ++ [0xC3] ++ [0xA9] := by
    rw [lit, show straddlingStatement.sqlText.data = List.replicate 4095 'a' ++ ['é'] from rfl,
      utf8Bytes_append, utf8Bytes_replicate_ascii 4095 (by decide), List.append_assoc]
    rfl
  rw [hbytes]
  refine Log.jsonEscape_plain_cut (by decide) (by rw [List.length_append, List.length_replicate]; rfl)
    (List.cons_ne_nil _ _) ?_ ?_ <;> simp only [List.mem_append, List.mem_replicate, List.mem_singleton]
  · decide
  · rintro b (⟨-, rfl⟩ | rfl) <;> rfl

/-- `wideStatement` is logged as its first 2048 characters and `...`. -/
theorem jsonEscape_wideStatement : Log.jsonEscape 4096 (lit wideStatement.sqlText) =
    utf8Bytes (List.replicate 2048 'é') ++ Log.ellipsis := by
  have hhigh : ∀ b ∈ lit wideStatement.sqlText, 0x80 ≤ b := utf8Bytes_high _ fun c hc => by
    rw [List.eq_of_mem_replicate hc]; decide
  have hw : lit wideStatement.sqlText = utf8Bytes (List.replicate 2048 'é') ++ [0xC3, 0xA9] := by
    rw [lit, show wideStatement.sqlText.data = List.replicate 2048 'é' ++ List.replicate 1 'é' from
      (List.append_replicate_replicate (n := 2048) (m := 1)).symm, utf8Bytes_append]
    rfl
  rw [hw] at hhigh ⊢
  exact Log.jsonEscape_plain_cut (by decide) (by rw [length_utf8Bytes_replicate]; rfl)
    (List.cons_ne_nil _ _) (fun h0 => absurd (hhigh 0 h0) (by decide))
    fun b hb => Log.escapeByte_high (hhigh b (List.mem_append_left _ hb))

/-- The logged `sql` field of `straddlingStatement`, and the line appended to `audit.log`: it ends
    the 4096 bytes with `é`'s first byte, then `...`, so the line is not UTF-8.  And the 2049
    characters of `wideStatement`, fewer than 4096, are logged as their first 2048 and `...`. -/
theorem statement_log_cuts_character :
    Log.jsonEscape 4096 (lit straddlingStatement.sqlText) =
        List.replicate 4095 0x61 ++ [0xC3] ++ Log.ellipsis ∧
      (auditLogStatement auditEnv {} straddlingStatement {}).files "audit.log" =
        statementLine auditEnv {} straddlingStatement ∧
      utf8Valid (statementLine auditEnv {} straddlingStatement) = false ∧
      wideStatement.sqlText.length ≤ 4096 ∧
      Log.jsonEscape 4096 (lit wideStatement.sqlText) =
        utf8Bytes (List.replicate 2048 'é') ++ Log.ellipsis := by
  refine ⟨jsonEscape_straddlingStatement, rfl, ?_, (List.length_replicate 2049 'é').trans_le (by decide),
    jsonEscape_wideStatement⟩
  rw [statementLine, jsonEscape_straddlingStatement, List.append_assoc, List.append_assoc,
    List.append_assoc, utf8Valid_ascii_append auditEnv_head_ascii,
    utf8Valid_ascii_append fun b hb => by rw [List.eq_of_mem_replicate hb]; decide,
    show Log.ellipsis = [0x2E, 0x2E, 0x2E] from rfl, List.singleton_append, List.cons_append]
  exact utf8Valid_lead_cut (by decide) (by decide) _

end Inception
