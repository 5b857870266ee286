import Inception.Context
import Inception.Sysvars
import Inception.Text

/-!
# Parse — the `inception_magic_start` / `inception_magic_commit` markers

`inception_parse.cc`: recognising the two marker comments, and `parse_inception_start`, which
resets the context and fills it from the `;`-separated `--key=value` tokens of the first comment.
The password decryption calls two library primitives, base64 decoding and AES-128-ECB; they are
the fields of `Cipher`, taken as parameters.
-/

namespace Inception

/-- The library primitives behind `encrypt_password` / `decrypt_password`: `base64_encode`,
    `base64_decode` (`none` when it returns a length `≤ 0`), `my_aes_encrypt` and
    `my_aes_decrypt` (key first; `none` when the length is `≤ 0`). -/
structure Cipher where
  base64Encode : List Char → List Char
  base64Decode : List Char → Option (List Char)
  aesEncrypt : List Char → List Char → Option (List Char)
  aesDecrypt : List Char → List Char → Option (List Char)

/-- The sentinel that marks the start of a batch. -/
def magicStart : List Char := "inception_magic_start".data

/-- The sentinel that marks the end of a batch. -/
def magicCommit : List Char := "inception_magic_commit".data

/-- The marker test shared by `is_inception_start` and `is_inception_commit`: a query of at least
    24 bytes whose first comment (after leading whitespace) contains `marker`, ignoring case. -/
def isInceptionMarker (marker : List Char) (q : String) : Bool :=
  24 ≤ q.utf8ByteSize &&
    match firstComment (skipWhitespace q.data) with
    | some (body, _) => containsCi marker ('/' :: '*' :: body ++ ['*', '/'])
    | none => false

/-- `is_inception_start`. -/
def isInceptionStart (q : String) : Bool := isInceptionMarker magicStart q

/-- `is_inception_commit`. -/
def isInceptionCommit (q : String) : Bool := isInceptionMarker magicCommit q

/-- One `host:port` entry of `--slave-hosts`: split at the last `:`, kept when the host is
    non-empty and the port (cast to `uint`) is positive. -/
def parseSlaveEntry (entry : List Char) : Option (String × Nat) :=
  match entry.reverse.span (· ≠ ':') with
  | (revPort, ':' :: revHost) =>
    let p := (strtoul revPort.reverse).value % 2 ^ 32
    if revHost ≠ [] ∧ 0 < p then some (⟨revHost.reverse⟩, p) else none
  | _ => none

/-- `parse_option`: one recognised `key=value` pair (the key compared ignoring case). -/
def parseOption (key val : List Char) (o : SessionOptions) : SessionOptions :=
  if eqCi key "host".data then { o with host := ⟨val⟩ }
  else if eqCi key "user".data then { o with user := ⟨val⟩ }
  else if eqCi key "password".data then { o with password := ⟨val⟩ }
  else if eqCi key "port".data then
    { o with port := (strtoul val).value % 2 ^ 32, explicitPort := true }
  else if eqCi key "enable-execute".data then
    if val.head? = some '1' then { o with mode := .execute } else o
  else if eqCi key "enable-check".data then
    if val.head? = some '1' then { o with mode := .check } else o
  else if eqCi key "enable-split".data then
    if val.head? = some '1' then { o with mode := .split } else o
  else if eqCi key "enable-query-tree".data then
    if val.head? = some '1' then { o with mode := .queryTree } else o
  else if eqCi key "enable-force".data then { o with force := val.head? = some '1' }
  else if eqCi key "enable-remote-backup".data then { o with backup := val.head? = some '1' }
  else if eqCi key "enable-ignore-warnings".data then
    { o with ignoreWarnings := val.head? = some '1' }
  else if eqCi key "sleep".data then { o with sleepMs := (strtoul val).value }
  else if eqCi key "slave-hosts".data || eqCi key "slave_hosts".data then
    { o with slaveHosts := (val.splitOn ',').filterMap parseSlaveEntry }
  else o

/-- One token of the comment body, after leading whitespace: a leading `--` is dropped, the
    sentinel itself is skipped, and a token with an `=` is handed to `parse_option`.  (The C++
    compares 21 characters when the token has at least 20; the 21st character of a 20-character
    token is the `;` or `*` after it, which never matches, so the test is the 21-character one.) -/
def parseToken (o : SessionOptions) (token : List Char) : SessionOptions :=
  let token := match token with
    | '-' :: '-' :: t => t
    | t => t
  if prefixCi magicStart token then o
  else match token.span (· ≠ '=') with
    | (key, '=' :: val) => parseOption key val o
    | _ => o

/-- `decrypt_password`: an `AES:`-prefixed password is base64-decoded and AES-decrypted with the
    configured key; on any failure, or without a key, the text is returned unchanged. -/
def decryptPassword (cipher : Cipher) (key : Option String) (encrypted : List Char) :
    List Char :=
  if encrypted.length ≤ 4 ∨ encrypted.take 4 ≠ "AES:".data then encrypted
  else match key with
    | some k =>
      if k = "" then encrypted
      else match cipher.base64Decode (encrypted.drop 4) with
        | some decoded =>
          match cipher.aesDecrypt k.data decoded with
          | some plain => if plain = [] then encrypted else plain
          | none => encrypted
        | none => encrypted
    | none => encrypted

/-- The options a start marker's comment body sets, over the reset defaults, with the global
    user and password fallbacks and the password decrypted. -/
def parseStartOptions (sv : Sysvars) (cipher : Cipher) (body : List Char) : SessionOptions :=
  let o := ((body.splitOn ';').map skipWhitespace).foldl parseToken {}
  let o := if o.user = "" ∧ knobSet sv.inceptionUser then
    { o with user := sv.inceptionUser.getD "" } else o
  let o := if o.password = "" ∧ knobSet sv.inceptionPassword then
    { o with password := sv.inceptionPassword.getD "" } else o
  if o.password ≠ "" then
    { o with password := ⟨decryptPassword cipher sv.inceptionPasswordEncryptKey o.password.data⟩ }
  else o

/-- `parse_inception_start`: `true` on error.  The context is reset first, whatever follows; the
    comment must start with `/*` and at least one more character, and runs to the first `*/` (or
    to the end of the query). -/
def parseInceptionStart (sv : Sysvars) (cipher : Cipher) (query : String)
    (ctx : InceptionContext) : Bool × InceptionContext :=
  let ctx := ctx.reset
  match skipWhitespace query.data with
  | '/' :: '*' :: c :: rest =>
    let body := match splitClose (c :: rest) with
      | some (b, _) => b
      | none => c :: rest
    let o := parseStartOptions sv cipher body
    if o.explicitPort ∧ (o.port = 0 ∨ o.port > 65535) then (true, { ctx with opts := o })
    else (false, { ctx with opts := o, active := true })
  | _ => (true, ctx)

/-- **A start marker leaves no batch behind**: whatever the context held, after
    `parse_inception_start` its caches are empty (`next_id` is 1), it is not killed and holds no
    remote thread id. -/
theorem parseInceptionStart_fresh (sv : Sysvars) (cipher : Cipher) (q : String)
    (ctx : InceptionContext) :
    (parseInceptionStart sv cipher q ctx).2.batch = {} ∧
      (parseInceptionStart sv cipher q ctx).2.killed = false ∧
      (parseInceptionStart sv cipher q ctx).2.remoteExecThreadId = 0 := by
  unfold parseInceptionStart
  dsimp only
  split
  · split <;> exact ⟨rfl, rfl, rfl⟩
  · exact ⟨rfl, rfl, rfl⟩

/-- A comment closed once, at its end, is parsed from its body. -/
theorem parseInceptionStart_comment (sv : Sysvars) (cipher : Cipher) {body : List Char}
    (hb : body ≠ []) (h : '*' ∉ body) (ctx : InceptionContext) :
    parseInceptionStart sv cipher ⟨'/' :: '*' :: (body ++ ['*', '/'])⟩ ctx =
      if (parseStartOptions sv cipher body).explicitPort ∧
          ((parseStartOptions sv cipher body).port = 0 ∨
            (parseStartOptions sv cipher body).port > 65535) then
        (true, { ctx.reset with opts := parseStartOptions sv cipher body })
      else (false, { ctx.reset with opts := parseStartOptions sv cipher body, active := true }) := by
  obtain ⟨c, rest, rfl⟩ := List.exists_cons_of_ne_nil hb
  simp only [parseInceptionStart, skipWhitespace, List.dropWhile_cons_of_neg (by decide : ¬isWs '/' = true),
    List.cons_append]
  rw [← List.cons_append, show ['*', '/'] = '*' :: '/' :: [] from rfl, splitClose_append h]

/-- A cipher that leaves its input as it is. -/
def plainCipher : Cipher := ⟨id, some, fun _ p => some p, fun _ c => some c⟩

/-- The port is read by `strtoul` and cast to a 32-bit `uint` before the range test, so
    `--port=4294970602` (`2^32 + 3306`) is accepted as port 3306; trailing characters after the
    digits, as in `--port=3306x`, are ignored. -/
theorem port_accepted_modulo_2_32 :
    (parseInceptionStart {} plainCipher "/*--port=4294970602;inception_magic_start*/" {}).1 = false ∧
      (parseInceptionStart {} plainCipher "/*--port=4294970602;inception_magic_start*/" {}).2.opts.port =
        3306 ∧
      (parseInceptionStart {} plainCipher "/*--port=3306x;inception_magic_start*/" {}).1 = false ∧
      (parseInceptionStart {} plainCipher "/*--port=3306x;inception_magic_start*/" {}).2.opts.port =
        3306 := by
  decide

end Inception
