import Inception.Session.Commands

/-!
# StartMarker — the options of a start comment, read back

A client opens a batch with `/*--key=value;...;inception_magic_start*/`.  `parse_inception_start`
cuts the comment at its first `*/`, splits the body at `;`, drops a leading `--` from each token,
and hands `key=value` to `parse_option`, each key setting one field of the session options.

This module writes the comment a client writes for a set of options (`startMarker`, one token per
option, the port only when one was given) and proves that the parser reads every such comment
back as those options (`start_marker_reads_back`), for every set of options the format can carry
(`Writable`): no `;` or `*` in a text, a port the range test accepts, numbers the C types hold,
and no global user or password that would replace an empty one.

* §1 the comment a client writes;
* §2 one lemma per token kind, and the split of the body;
* §3 the round trip.
-/

namespace Inception

/-! ## 1. The comment a client writes -/

/-- Modelled from the spec: `--key=`, the start of a token. -/
def optionKey (key : String) : List Char := "--".data ++ key.data ++ ['=']

/-- Modelled from the spec: the value of an on/off option. -/
def flagText (b : Bool) : List Char := if b then ['1'] else ['0']

/-- Modelled from the spec: the token that selects a mode. -/
def modeToken : OpMode → List Char
  | .check => optionKey "enable-check" ++ ['1']
  | .execute => optionKey "enable-execute" ++ ['1']
  | .split => optionKey "enable-split" ++ ['1']
  | .queryTree => optionKey "enable-query-tree" ++ ['1']

/-- Modelled from the spec: one `host:port` entry of `--slave-hosts`. -/
def slaveText (hp : String × Nat) : List Char := hp.1.data ++ ':' :: (toString hp.2).data

/-- Modelled from the spec: the tokens a client writes for the options `o`, the port only when
    one was given and the replicas only when there are some. -/
def startTokens (o : SessionOptions) : List (List Char) :=
  [optionKey "host" ++ o.host.data, optionKey "user" ++ o.user.data,
    optionKey "password" ++ o.password.data] ++
  (if o.explicitPort then [optionKey "port" ++ (toString o.port).data] else []) ++
  [modeToken o.mode, optionKey "enable-force" ++ flagText o.force,
    optionKey "enable-remote-backup" ++ flagText o.backup,
    optionKey "enable-ignore-warnings" ++ flagText o.ignoreWarnings,
    optionKey "sleep" ++ (toString o.sleepMs).data] ++
  (if o.slaveHosts = [] then []
    else [optionKey "slave-hosts" ++ [','].intercalate (o.slaveHosts.map slaveText)])

/-- Modelled from the spec: the comment body, the tokens and the sentinel separated by `;`. -/
def startBody (o : SessionOptions) : List Char := [';'].intercalate (startTokens o ++ [magicStart])

/-- Modelled from the spec: the start marker a client sends for the options `o`. -/
def startMarker (o : SessionOptions) : String := ⟨"/*".data ++ startBody o ++ "*/".data⟩

example : startMarker { host := "db", user := "u", password := "p" } =
    "/*--host=db;--user=u;--password=p;--enable-check=1;--enable-force=0;" ++
      "--enable-remote-backup=1;--enable-ignore-warnings=0;--sleep=0;inception_magic_start*/" := by
  decide

/-- A text a token can carry: no `;`, which ends the token, and no `*`, which could end the
    comment. -/
def TokenSafe (v : List Char) : Prop := ';' ∉ v ∧ '*' ∉ v

instance : DecidablePred TokenSafe := fun _ => inferInstanceAs (Decidable (_ ∧ _))

/-- The options a start comment carries as they are. -/
structure Writable (sv : Sysvars) (o : SessionOptions) : Prop where
  host : TokenSafe o.host.data
  user : TokenSafe o.user.data
  password : TokenSafe o.password.data
  /-- A password in the `AES:` form is decrypted, not kept. -/
  plain_password : o.password.data.length ≤ 4 ∨ o.password.data.take 4 ≠ "AES:".data
  /-- An empty user or password is replaced by the global one, when that is set. -/
  user_given : o.user = "" → knobSet sv.inceptionUser = false
  password_given : o.password = "" → knobSet sv.inceptionPassword = false
  port : o.explicitPort = true → 0 < o.port ∧ o.port ≤ 65535
  port_default : o.explicitPort = false → o.port = 3306
  sleep : o.sleepMs < 2 ^ 64
  slaves : ∀ hp ∈ o.slaveHosts,
    hp.1 ≠ "" ∧ TokenSafe hp.1.data ∧ ',' ∉ hp.1.data ∧ 0 < hp.2 ∧ hp.2 < 2 ^ 32

/-! ## 2. The tokens -/

section Tokens

variable (p : SessionOptions) (v : List Char)

theorem parseToken_host : parseToken p (optionKey "host" ++ v) = { p with host := ⟨v⟩ } := rfl
theorem parseToken_user : parseToken p (optionKey "user" ++ v) = { p with user := ⟨v⟩ } := rfl
theorem parseToken_passwordKey :
    parseToken p (optionKey "password" ++ v) = { p with password := ⟨v⟩ } := rfl
theorem parseToken_port : parseToken p (optionKey "port" ++ v) =
    { p with port := (strtoul v).value % 2 ^ 32, explicitPort := true } := rfl
theorem parseToken_force :
    parseToken p (optionKey "enable-force" ++ v) = { p with force := v.head? = some '1' } := rfl
theorem parseToken_backup : parseToken p (optionKey "enable-remote-backup" ++ v) =
    { p with backup := v.head? = some '1' } := rfl
theorem parseToken_ignoreWarnings : parseToken p (optionKey "enable-ignore-warnings" ++ v) =
    { p with ignoreWarnings := v.head? = some '1' } := rfl
theorem parseToken_sleep :
    parseToken p (optionKey "sleep" ++ v) = { p with sleepMs := (strtoul v).value } := rfl
theorem parseToken_slaveHosts : parseToken p (optionKey "slave-hosts" ++ v) =
    { p with slaveHosts := (v.splitOn ',').filterMap parseSlaveEntry } := rfl

theorem parseToken_modeToken (m : OpMode) : parseToken p (modeToken m) = { p with mode := m } := by
  cases m <;> rfl

theorem flagText_head (b : Bool) : decide ((flagText b).head? = some '1') = b := by
  cases b <;> rfl

end Tokens

/-- A number printed in decimal is read back by `strtoul`, whole. -/
theorem strtoul_toString {n : Nat} (h : n < 2 ^ 64) : strtoul (toString n).data = ⟨n, [], false⟩ := by
  have hs := @strtoul_digits_append _ [] (digitRun_toString n) (by simp)
    (by rwa [digitsValue_toString])
  rwa [List.append_nil, digitsValue_toString] at hs

/-- A `host:port` entry is read back: the port is the digits after the last `:`. -/
theorem parseSlaveEntry_slaveText {hp : String × Nat} (hh : hp.1 ≠ "") (hp0 : 0 < hp.2)
    (hp32 : hp.2 < 2 ^ 32) : parseSlaveEntry (slaveText hp) = some hp := by
  have hdig := digitRun_toString hp.2
  have hcolon : ∀ c ∈ (toString hp.2).data.reverse, decide (c ≠ ':') = true := fun c hc =>
    decide_eq_true (ne_of_isDigit (hdig.2 c (List.mem_reverse.mp hc)) (x := ':') rfl)
  have hrev : (slaveText hp).reverse = (toString hp.2).data.reverse ++ ':' :: hp.1.data.reverse := by
    simp [slaveText]
  have hvalue : (strtoul (toString hp.2).data).value % 2 ^ 32 = hp.2 := by
    rw [strtoul_toString (by omega)]
    exact Nat.mod_eq_of_lt hp32
  have hhost : hp.1.data.reverse ≠ [] := by
    simpa [List.reverse_eq_nil_iff, String.ext_iff] using hh
  unfold parseSlaveEntry
  rw [hrev, List.span_eq_take_drop, List.takeWhile_append_of_pos hcolon,
    List.dropWhile_append_of_pos hcolon]
  simp only [List.takeWhile_cons, List.dropWhile_cons, ne_eq, not_true_eq_false, decide_False,
    Bool.false_eq_true, if_false, List.append_nil, List.reverse_reverse, hvalue, hhost, hp0]
  rfl

/-- The entries of `--slave-hosts` are read back, in order. -/
theorem slaveHosts_reads_back (hs : List (String × Nat))
    (h : ∀ hp ∈ hs, hp.1 ≠ "" ∧ TokenSafe hp.1.data ∧ ',' ∉ hp.1.data ∧ 0 < hp.2 ∧ hp.2 < 2 ^ 32)
    (hne : hs ≠ []) :
    (([','].intercalate (hs.map slaveText)).splitOn ',').filterMap parseSlaveEntry = hs := by
  have hsep : ∀ t ∈ hs.map slaveText, ',' ∉ t := by
    simp only [List.mem_map]
    rintro _ ⟨hp, hmem, rfl⟩ hc
    obtain ⟨_, _, hcomma, _, _⟩ := h hp hmem
    rcases List.mem_append.mp hc with hc | hc
    · exact hcomma hc
    · rcases List.mem_cons.mp hc with hc | hc
      · exact absurd hc (by decide)
      · exact ne_of_isDigit ((digitRun_toString hp.2).2 _ hc) (x := ',') rfl rfl
  rw [List.splitOn_intercalate _ ',' hsep (by simpa using hne), List.filterMap_map]
  clear hne hsep
  induction hs with
  | nil => rfl
  | cons hp hs ih =>
    obtain ⟨hh, _, _, hp0, hp32⟩ := h hp (.head _)
    rw [List.filterMap_cons, Function.comp_apply, parseSlaveEntry_slaveText hh hp0 hp32,
      ih fun hp' hm => h hp' (.tail _ hm)]

/-! ## 3. The round trip -/

theorem TokenSafe.append {a b : List Char} (ha : TokenSafe a) (hb : TokenSafe b) :
    TokenSafe (a ++ b) :=
  ⟨by simp [ha.1, hb.1], by simp [ha.2, hb.2]⟩

theorem tokenSafe_toString (n : Nat) : TokenSafe (toString n).data :=
  ⟨fun h => ne_of_isDigit ((digitRun_toString n).2 _ h) (x := ';') rfl rfl,
    fun h => ne_of_isDigit ((digitRun_toString n).2 _ h) (x := '*') rfl rfl⟩

/-- A character in no part and not in the separator is not in their join. -/
theorem not_mem_intercalate {c : Char} {sep : List Char} (hsep : c ∉ sep) :
    ∀ {ls : List (List Char)}, (∀ t ∈ ls, c ∉ t) → c ∉ sep.intercalate ls
  | [], _ => by simp [List.intercalate]
  | [t], h => by simpa [List.intercalate] using h t (.head _)
  | t :: u :: rest, h => by
    have htail : c ∉ sep.intercalate (u :: rest) :=
      not_mem_intercalate hsep fun t' ht' => h t' (.tail _ ht')
    show c ∉ t ++ (sep ++ sep.intercalate (u :: rest))
    simp only [List.mem_append, not_or]
    exact ⟨h t (.head _), hsep, htail⟩

theorem tokenSafe_intercalate {ls : List (List Char)} (h : ∀ t ∈ ls, TokenSafe t) :
    TokenSafe ([','].intercalate ls) :=
  ⟨not_mem_intercalate (by decide) fun t ht => (h t ht).1,
    not_mem_intercalate (by decide) fun t ht => (h t ht).2⟩

variable {sv : Sysvars} {o : SessionOptions}

/-- No token holds a `;` or a `*`. -/
theorem startTokens_safe (h : Writable sv o) : ∀ t ∈ startTokens o ++ [magicStart], TokenSafe t := by
  have hslaves : ∀ t ∈ o.slaveHosts.map slaveText, TokenSafe t := by
    simp only [List.mem_map]
    rintro _ ⟨hp, hmem, rfl⟩
    exact (h.slaves hp hmem).2.1.append (TokenSafe.append (a := [':']) (by decide)
      (tokenSafe_toString _))
  have hflag : ∀ b, TokenSafe (flagText b) := by decide
  intro t ht
  simp only [startTokens, List.mem_append, List.mem_cons, List.mem_singleton, List.not_mem_nil,
    or_false] at ht
  rcases ht with ((((rfl | rfl | rfl) | hport) | (rfl | rfl | rfl | rfl | rfl)) | hslave) | rfl
  · exact TokenSafe.append (by decide) h.host
  · exact TokenSafe.append (by decide) h.user
  · exact TokenSafe.append (by decide) h.password
  · split_ifs at hport
    · rw [List.mem_singleton.1 hport]
      exact TokenSafe.append (by decide) (tokenSafe_toString _)
    · exact absurd hport (List.not_mem_nil _)
  · cases o.mode <;> decide
  · exact TokenSafe.append (by decide) (hflag _)
  · exact TokenSafe.append (by decide) (hflag _)
  · exact TokenSafe.append (by decide) (hflag _)
  · exact TokenSafe.append (by decide) (tokenSafe_toString _)
  · split_ifs at hslave
    · exact absurd hslave (List.not_mem_nil _)
    · rw [List.mem_singleton.1 hslave]
      exact TokenSafe.append (by decide) (tokenSafe_intercalate hslaves)
  · decide

/-- `skip_whitespace` leaves every token: each starts with `-`, or is the sentinel. -/
theorem startTokens_skipWhitespace (o : SessionOptions) :
    (startTokens o ++ [magicStart]).map skipWhitespace = startTokens o ++ [magicStart] := by
  simp only [startTokens]
  split_ifs <;> cases o.mode <;> rfl

/-- The tokens set the options they were written for, over the reset defaults. -/
theorem foldl_startTokens (h : Writable sv o) : (startTokens o).foldl parseToken {} = o := by
  obtain ⟨host, user, password, port, explicitPort, mode, force, backup, ignoreWarnings, sleepMs,
    slaveHosts⟩ := o
  have hsleep : (strtoul (toString sleepMs).data).value = sleepMs := by
    rw [strtoul_toString h.sleep]
  have hslaves := slaveHosts_reads_back slaveHosts h.slaves
  cases explicitPort with
  | false =>
    obtain rfl : port = 3306 := h.port_default rfl
    by_cases hs : slaveHosts = []
    · subst hs
      simp only [startTokens, Bool.false_eq_true, if_false, if_true, List.foldl_append,
        List.foldl_cons, List.foldl_nil, parseToken_host, parseToken_user, parseToken_passwordKey,
        parseToken_modeToken, parseToken_force, parseToken_backup, parseToken_ignoreWarnings,
        parseToken_sleep, flagText_head, hsleep]
    · simp only [startTokens, Bool.false_eq_true, if_false, if_neg hs, List.foldl_append,
        List.foldl_cons, List.foldl_nil, parseToken_host, parseToken_user, parseToken_passwordKey,
        parseToken_modeToken, parseToken_force, parseToken_backup, parseToken_ignoreWarnings,
        parseToken_sleep, parseToken_slaveHosts, flagText_head, hsleep, hslaves hs]
  | true =>
    have hport : (strtoul (toString port).data).value % 2 ^ 32 = port := by
      have hr : 0 < port ∧ port ≤ 65535 := h.port rfl
      rw [strtoul_toString (by omega)]
      exact Nat.mod_eq_of_lt (show port < 2 ^ 32 by omega)
    by_cases hs : slaveHosts = []
    · subst hs
      simp only [startTokens, if_true, List.foldl_append, List.foldl_cons, List.foldl_nil,
        parseToken_host, parseToken_user, parseToken_passwordKey, parseToken_port,
        parseToken_modeToken, parseToken_force, parseToken_backup, parseToken_ignoreWarnings,
        parseToken_sleep, flagText_head, hsleep, hport]
    · simp only [startTokens, if_true, if_neg hs, List.foldl_append, List.foldl_cons,
        List.foldl_nil, parseToken_host, parseToken_user, parseToken_passwordKey, parseToken_port,
        parseToken_modeToken, parseToken_force, parseToken_backup, parseToken_ignoreWarnings,
        parseToken_sleep, parseToken_slaveHosts, flagText_head, hsleep, hport, hslaves hs]

/-- The options `parse_start_options` reads from the body are the options it was written for:
    the global user and password are not used, and the password is not decrypted. -/
theorem parseStartOptions_startBody (cipher : Cipher) (h : Writable sv o) :
    parseStartOptions sv cipher (startBody o) = o := by
  have hsplit : (startBody o).splitOn ';' = startTokens o ++ [magicStart] :=
    List.splitOn_intercalate _ ';' (fun t ht => (startTokens_safe h t ht).1) (by simp)
  have hfold : ((startTokens o ++ [magicStart]).map skipWhitespace).foldl parseToken {} = o := by
    rw [startTokens_skipWhitespace, List.foldl_append, foldl_startTokens h]
    exact parseToken_magicStart o
  have huser : ¬(o.user = "" ∧ knobSet sv.inceptionUser = true) := fun ⟨hu, hk⟩ => by
    rw [h.user_given hu] at hk
    cases hk
  have hpass : ¬(o.password = "" ∧ knobSet sv.inceptionPassword = true) := fun ⟨hp, hk⟩ => by
    rw [h.password_given hp] at hk
    cases hk
  have hdecrypt :
      decryptPassword cipher sv.inceptionPasswordEncryptKey o.password.data = o.password.data := by
    unfold decryptPassword
    rw [if_pos h.plain_password]
  simp only [parseStartOptions, hsplit, hfold, if_neg huser, if_neg hpass]
  split_ifs
  · rw [hdecrypt]
  · rfl

/-- **The start comment reads back**: for every set of options the format carries, the start
    marker a client writes for them opens a session with exactly these options. -/
theorem start_marker_reads_back (sv : Sysvars) (cipher : Cipher) (o : SessionOptions)
    (h : Writable sv o) (ctx : InceptionContext) :
    parseInceptionStart sv cipher (startMarker o) ctx =
      (false, { ctx.reset with opts := o, active := true }) := by
  have hhead : (startBody o).head? = some '-' := rfl
  have hbody : startBody o ≠ [] := fun he => by
    rw [he] at hhead
    cases hhead
  have hstar : '*' ∉ startBody o :=
    not_mem_intercalate (by decide) fun t ht => (startTokens_safe h t ht).2
  have hport : ¬(o.explicitPort = true ∧ (o.port = 0 ∨ o.port > 65535)) := fun ⟨he, hr⟩ => by
    have := h.port he
    omega
  rw [show startMarker o = ⟨'/' :: '*' :: (startBody o ++ ['*', '/'])⟩ from rfl,
    parseInceptionStart_comment sv cipher hbody hstar, parseStartOptions_startBody cipher h,
    if_neg hport]

/-- An execute-mode batch against `db1.internal:3307`, with one replica. -/
def sampleOptions : SessionOptions :=
  { host := "db1.internal", user := "admin", password := "s3cret", port := 3307,
    explicitPort := true, mode := .execute, sleepMs := 100, slaveHosts := [("replica1", 3306)] }

theorem start_marker_reads_back_sample :
    Writable {} sampleOptions ∧
      parseInceptionStart {} plainCipher (startMarker sampleOptions) {} =
        (false, { InceptionContext.reset {} with opts := sampleOptions, active := true }) :=
  have hw : Writable {} sampleOptions :=
    ⟨by decide, by decide, by decide, by decide, by decide, by decide, by decide, by decide,
      by decide, by decide⟩
  ⟨hw, start_marker_reads_back {} plainCipher sampleOptions hw {}⟩

end Inception
