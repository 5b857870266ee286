import Inception.Session.Hooks

/-!
# Admin — the arguments of the admin commands, and the password round trip

`handle_inception_command` reads a thread id and a sleep time with `strtoul`/`strtoull` and checks
only part of what they read (§1).

`inception get encrypt_password '<p>'` answers with `AES:` and the base64 text of the AES-128-ECB
ciphertext of `p` (`send_encrypt_password_result`); a start marker's `--password` carrying that
answer is decrypted again by `parse_inception_start` (`decrypt_password`).  With the primitives
taken as inverse pairs (`CipherLaws`), the round trip gives back every password but the empty one,
whose empty plaintext `decrypt_password` takes for a failure (§2).
-/

namespace Inception

/-! ## 1. `set sleep` and `kill` -/

/-- A session on thread 5, active. -/
def activeOn5 : InceptionContext := { active := true }

/-- `strtoull` reads `-1` as `2^64 - 1`, and nothing checks what follows the digits: `set sleep 5
    -1` sets an endless sleep, `kill 5abc` kills thread 5, and `kill 5 forceful` is a forced
    kill. -/
theorem admin_arguments_unchecked :
    parseInceptionCommand "inception set sleep 5 -1".data = some (.setSleep 5 (2 ^ 64 - 1)) ∧
      (applyAdmin 5 (.setSleep 5 (2 ^ 64 - 1)) activeOn5).1.opts.sleepMs = 2 ^ 64 - 1 ∧
      parseInceptionCommand "inception kill 5abc".data = some (.kill 5 false) ∧
      (applyAdmin 5 (.kill 5 false) activeOn5).1.killed = true ∧
      parseInceptionCommand "inception kill 5 forceful".data = some (.kill 5 true) := by
  decide

/-! ## 2. The password round trip -/

/-- The error of `send_encrypt_password_result` when no key is set. -/
def encryptKeyNotSet : String :=
  "inception_password_encrypt_key is not set. " ++
    "SET GLOBAL inception_password_encrypt_key = 'your_key' first."

/-- `send_encrypt_password_result`: without a key, an error; otherwise `AES:` and the base64 text
    of the ciphertext, its trailing line breaks dropped. -/
def encryptPasswordResult (cipher : Cipher) (key : Option String) (plain : List Char) :
    Except String String :=
  match key with
  | some k =>
    if k = "" then .error encryptKeyNotSet
    else match cipher.aesEncrypt k.data plain with
      | some enc =>
        .ok ("AES:" ++ ⟨(cipher.base64Encode enc).rdropWhile fun c => c = '\n' || c = '\r'⟩)
      | none => .error "AES encryption failed."
  | none => .error encryptKeyNotSet

/-- The characters of base64 text. -/
def isBase64Char (c : Char) : Bool := c.isAlphanum || c = '+' || c = '/' || c = '='

/-- What the round trip takes of the primitives: AES decryption inverts encryption, whose
    ciphertext is whole blocks and so never empty; base64 decoding inverts encoding; base64 text
    is made of its alphabet and line breaks, and the text of a non-empty input ends in the
    alphabet. -/
structure CipherLaws (cipher : Cipher) : Prop where
  aes : ∀ k p c, cipher.aesEncrypt k p = some c → c ≠ [] ∧ cipher.aesDecrypt k c = some p
  base64 : ∀ c, c ≠ [] → cipher.base64Decode (cipher.base64Encode c) = some c
  alphabet : ∀ c, ∀ x ∈ cipher.base64Encode c, isBase64Char x = true ∨ x = '\n'
  last : ∀ c, c ≠ [] → ∃ x, (cipher.base64Encode c).getLast? = some x ∧ isBase64Char x = true

/-- The command that asks for the encryption of `p`. -/
def encryptCommand (p : String) : String := "inception get encrypt_password '" ++ p ++ "'"

/-- A start marker that passes `v` as the password. -/
def startWithPassword (v : String) : String := "/*--password=" ++ v ++ ";inception_magic_start*/"

/-- One pair of quotes around the argument is dropped, whatever is inside. -/
theorem passwordArg_quoted (l : List Char) :
    passwordArg ((Char.ofNat 39 :: l) ++ [Char.ofNat 39]) = l := by
  have hs : skipBlanks ((Char.ofNat 39 :: l) ++ [Char.ofNat 39]) =
      (Char.ofNat 39 :: l) ++ [Char.ofNat 39] := by
    simp [skipBlanks, List.dropWhile_cons]
  simp only [passwordArg, hs, List.getLast?_concat]
  simp

/-- A command that starts with no white space and ends with no white space or `;` is already
    trimmed. -/
theorem trimCommand_of_ends {a b : Char} (ha : isWs a = false) (hb : (isWs b || b = ';') = false)
    (xs : List Char) : trimCommand (a :: (xs ++ [b])) = a :: (xs ++ [b]) := by
  rw [trimCommand, skipWhitespace, List.dropWhile_cons_of_neg (by simp [ha]), ← List.cons_append,
    List.rdropWhile_concat_neg]
  simpa using hb

/-- The quoted argument of `encrypt_password` is the password, whatever it holds. -/
theorem parseInceptionCommand_encryptCommand (p : String) :
    parseInceptionCommand (encryptCommand p).data = some (.encryptPassword p.data) := by
  have hq : (encryptCommand p).data =
      'i' :: (("nception get encrypt_password ".data ++ Char.ofNat 39 :: p.data) ++ [Char.ofNat 39]) := by
    simp [encryptCommand]
  unfold parseInceptionCommand
  rw [hq, trimCommand_of_ends (a := 'i') (b := Char.ofNat 39) rfl rfl,
    show 'i' :: (("nception get encrypt_password ".data ++ Char.ofNat 39 :: p.data) ++
        [Char.ofNat 39]) =
      "inception get encrypt_password ".data ++ ((Char.ofNat 39 :: p.data) ++ [Char.ofNat 39]) by
      simp]
  generalize hR : (Char.ofNat 39 :: p.data) ++ [Char.ofNat 39] = R
  have hlen : 2 ≤ R.length := by rw [← hR]; simp
  dsimp only
  rw [prefixCi_append (a := "inception show ".data) (b := "inception get encrypt_password ".data)
      (by decide),
    prefixCi_append (a := "inception set ".data) (b := "inception get encrypt_password ".data)
      (by decide),
    prefixCi_append (a := "inception get ".data) (b := "inception get encrypt_password ".data)
      (by decide),
    if_neg (by decide), if_neg (by decide), if_pos (by decide),
    List.drop_append_of_le_length (by decide),
    show List.drop 14 "inception get encrypt_password ".data = "encrypt_password ".data from rfl,
    show skipBlanks ("encrypt_password ".data ++ R) = "encrypt_password ".data ++ R from
      dropWhile_append_of_head "encrypt_password ".data 'e' rfl rfl R]
  have he : ("encrypt_password ".data ++ R).length = 17 + R.length := by
    rw [List.length_append]; rfl
  have hsql : ¬eqCi ("encrypt_password ".data ++ R) "sqltypes".data = true := by
    unfold eqCi; rw [he]; simp; omega
  rw [if_neg hsql, if_pos ⟨by omega, by rw [prefixCi_append (b := "encrypt_password ".data) le_rfl]; rfl⟩,
    List.drop_left' (show "encrypt_password ".data.length = 17 from rfl), ← hR, passwordArg_quoted]

/-- The `--password=` token sets the password to its value, up to the next `;`. -/
theorem parseToken_password (o : SessionOptions) (v : List Char) :
    parseToken o ("--password=".data ++ v) = { o with password := ⟨v⟩ } := by
  have hm : prefixCi magicStart ("password=".data ++ v) = false := rfl
  have hspan : ("password=".data ++ v).span (· ≠ '=') = ("password".data, '=' :: v) := by
    rw [List.span_eq_take_drop, show "password=".data = "password".data ++ ['='] from rfl,
      List.append_assoc, List.takeWhile_append_of_pos (by decide),
      List.dropWhile_append_of_pos (by decide)]
    simp
  simp only [parseToken, show "--password=".data ++ v = '-' :: '-' :: ("password=".data ++ v) from rfl,
    hm, hspan]
  rfl

/-- The sentinel token changes nothing. -/
theorem parseToken_magicStart (o : SessionOptions) : parseToken o "inception_magic_start".data = o := by
  simp only [parseToken]
  rfl

/-- The options of a start marker whose body is `--password=v;inception_magic_start`: the password
    is `v` decrypted, and no port is given. -/
theorem parseStartOptions_password (sv : Sysvars) (cipher : Cipher) {v : List Char}
    (hv : ';' ∉ v) (hne : v ≠ []) :
    (parseStartOptions sv cipher (("--password=".data ++ v) ++ ';' :: "inception_magic_start".data)).password =
        ⟨decryptPassword cipher sv.inceptionPasswordEncryptKey v⟩ ∧
      (parseStartOptions sv cipher
        (("--password=".data ++ v) ++ ';' :: "inception_magic_start".data)).explicitPort = false := by
  have hsplit : (("--password=".data ++ v) ++ ';' :: "inception_magic_start".data).splitOn ';' =
      ["--password=".data ++ v, "inception_magic_start".data] := by
    rw [List.splitOn, List.splitOnP_first, List.splitOnP_eq_single]
    · decide
    · intro x hx
      rcases List.mem_append.1 hx with hx | hx
      · have hl : ∀ y ∈ "--password=".data, ¬(y == ';') = true := by decide
        exact hl x hx
      · exact fun h => hv (beq_iff_eq.1 h ▸ hx)
    · rfl
  have hws : skipWhitespace ("--password=".data ++ v) = "--password=".data ++ v :=
    dropWhile_append_of_head "--password=".data '-' rfl rfl v
  have hpw : (⟨v⟩ : String) ≠ "" := fun h => hne (congrArg String.data h)
  unfold parseStartOptions
  rw [hsplit, List.map_cons, List.map_cons, List.map_nil, hws,
    show skipWhitespace "inception_magic_start".data = "inception_magic_start".data from rfl,
    List.foldl_cons, List.foldl_cons, List.foldl_nil, parseToken_password, parseToken_magicStart]
  dsimp only
  split_ifs <;> simp_all

/-- **A start marker that passes `v` as the password** is accepted, with `v` decrypted as the
    password, when `v` is not empty and holds no `;` and no `*`. -/
theorem parseInceptionStart_startWithPassword (sv : Sysvars) (cipher : Cipher) (v : String)
    (hv : ∀ c ∈ v.data, c ≠ ';' ∧ c ≠ '*') (hne : v ≠ "") (ctx : InceptionContext) :
    (parseInceptionStart sv cipher (startWithPassword v) ctx).1 = false ∧
      (parseInceptionStart sv cipher (startWithPassword v) ctx).2.opts.password =
        ⟨decryptPassword cipher sv.inceptionPasswordEncryptKey v.data⟩ := by
  have hq : startWithPassword v =
      ⟨'/' :: '*' :: ((("--password=".data ++ v.data) ++ ';' :: "inception_magic_start".data) ++
        ['*', '/'])⟩ := by
    simp [startWithPassword, String.ext_iff]
  have hstar : '*' ∉ ("--password=".data ++ v.data) ++ ';' :: "inception_magic_start".data := by
    intro h
    rcases List.mem_append.1 h with h | h
    · rcases List.mem_append.1 h with h | h
      · exact absurd h (by decide)
      · exact (hv _ h).2 rfl
    · exact absurd h (by decide)
  have hne' : v.data ≠ [] := fun h => hne (String.ext h)
  obtain ⟨h1, h2⟩ := parseStartOptions_password sv cipher (v := v.data) (fun h => (hv _ h).1 rfl) hne'
  rw [hq, parseInceptionStart_comment sv cipher (by simp) hstar, h2]
  exact ⟨rfl, h1⟩

section RoundTrip

variable {cipher : Cipher} (hc : CipherLaws cipher)
include hc

/-- The base64 text of a ciphertext keeps its end: it ends in the alphabet, not in a line break. -/
theorem base64Encode_trimmed {enc : List Char} (henc : enc ≠ []) :
    (cipher.base64Encode enc).rdropWhile (fun c => c = '\n' || c = '\r') = cipher.base64Encode enc := by
  obtain ⟨x, hx, hb⟩ := hc.last enc henc
  obtain ⟨ys, hys⟩ := List.getLast?_eq_some_iff.1 hx
  rw [hys, List.rdropWhile_concat_neg]
  intro h
  have : x = '\n' ∨ x = '\r' := by simpa using h
  rcases this with rfl | rfl <;> simp [isBase64Char] at hb

/-- `decrypt_password` inverts the answer's text: the plaintext comes back, unless it is empty,
    when the text itself is kept. -/
theorem decryptPassword_encrypted {k : String} (hk : k ≠ "") {p enc : List Char}
    (henc : cipher.aesEncrypt k.data p = some enc) :
    decryptPassword cipher (some k) ("AES:".data ++ cipher.base64Encode enc) =
      if p = [] then "AES:".data ++ cipher.base64Encode enc else p := by
  obtain ⟨hne, hdec⟩ := hc.aes _ _ _ henc
  have hlen : ¬("AES:".data ++ cipher.base64Encode enc).length ≤ 4 := by
    obtain ⟨x, hx, -⟩ := hc.last enc hne
    have : cipher.base64Encode enc ≠ [] := fun h => by simp [h] at hx
    rw [List.length_append]
    have := List.length_pos.2 this
    simp only [show "AES:".data.length = 4 from rfl]; omega
  simp only [decryptPassword, hlen, false_or, List.take_left' (show "AES:".data.length = 4 from rfl),
    List.drop_left' (show "AES:".data.length = 4 from rfl), hk, hc.base64 enc hne, hdec]
  simp

/-- **The password round trip.**  With a key set and primitives that obey `CipherLaws`, the
    answer `r` to `inception get encrypt_password '<p>'`, passed as `--password=r` in a start
    marker, is accepted and decrypted to `p` for every non-empty `p`; the empty password comes
    back as `r` itself. -/
theorem encryptPassword_round_trip (sv : Sysvars) {k : String}
    (hk : sv.inceptionPasswordEncryptKey = some k) (hk0 : k ≠ "") (p r : String)
    (hr : encryptPasswordResult cipher sv.inceptionPasswordEncryptKey p.data = .ok r)
    (ctx : InceptionContext) :
    parseInceptionCommand (encryptCommand p).data = some (.encryptPassword p.data) ∧
      (parseInceptionStart sv cipher (startWithPassword r) ctx).1 = false ∧
      (parseInceptionStart sv cipher (startWithPassword r) ctx).2.opts.password =
        if p = "" then r else p := by
  simp only [encryptPasswordResult, hk, hk0, if_false] at hr
  split at hr
  next enc henc =>
    obtain ⟨hne, -⟩ := hc.aes _ _ _ henc
    simp only [Except.ok.injEq, base64Encode_trimmed hc hne] at hr
    subst hr
    have hv : ∀ c ∈ ("AES:" ++ (⟨cipher.base64Encode enc⟩ : String)).data, c ≠ ';' ∧ c ≠ '*' := by
      intro c hc'
      rcases List.mem_append.1 hc' with h | h
      · have hl : ∀ y ∈ "AES:".data, y ≠ ';' ∧ y ≠ '*' := by decide
        exact hl c h
      · rcases hc.alphabet enc c h with hb | rfl
        · constructor <;> rintro rfl <;> simp [isBase64Char] at hb
        · exact ⟨by decide, by decide⟩
    obtain ⟨h1, h2⟩ := parseInceptionStart_startWithPassword sv cipher _ hv
      (fun h => by simpa using congrArg String.data h) ctx
    refine ⟨parseInceptionCommand_encryptCommand p, h1, ?_⟩
    rw [h2, hk, String.data_append, decryptPassword_encrypted hc hk0 henc]
    by_cases hp : p = ""
    · subst hp; rfl
    · have hpd : p.data ≠ [] := fun h => hp (String.ext h)
      simp [hp, hpd]
  next => cases hr

end RoundTrip

/-! ### A lawful cipher -/

/-- Unary decoding: a run of `A`s closed by another character is the character of that code. -/
def decodeUnary : Nat → List Char → List Char
  | _, [] => []
  | n, 'A' :: t => decodeUnary (n + 1) t
  | n, _ :: t => Char.ofNat n :: decodeUnary 0 t

theorem decodeUnary_run (n m : Nat) (t : List Char) :
    decodeUnary n (List.replicate m 'A' ++ '+' :: t) = Char.ofNat (n + m) :: decodeUnary 0 t := by
  induction m generalizing n with
  | zero => rfl
  | succ m ih => rw [List.replicate_succ, List.cons_append, decodeUnary, ih, Nat.add_right_comm]; rfl

theorem decodeUnary_flatMap (c : List Char) :
    decodeUnary 0 (c.flatMap fun x => List.replicate x.toNat 'A' ++ ['+']) = c := by
  induction c with
  | nil => rfl
  | cons x xs ih =>
    rw [List.flatMap_cons, List.append_assoc, List.singleton_append, decodeUnary_run, ih,
      Nat.zero_add, Char.ofNat_toNat]

/-- Primitives that obey `CipherLaws`: a character is encoded as that many `A`s and a `+`, and
    encryption puts an `E` in front. -/
def unaryCipher : Cipher where
  base64Encode c := c.flatMap fun x => List.replicate x.toNat 'A' ++ ['+']
  base64Decode t := some (decodeUnary 0 t)
  aesEncrypt _ p := some ('E' :: p)
  aesDecrypt _ c := match c with
    | 'E' :: p => some p
    | _ => none

theorem unaryCipher_laws : CipherLaws unaryCipher where
  aes k p c h := by
    simp only [unaryCipher, Option.some.injEq] at h
    subst h
    exact ⟨List.cons_ne_nil _ _, rfl⟩
  base64 c _ := congrArg some (decodeUnary_flatMap c)
  alphabet c x hx := by
    simp only [unaryCipher, List.mem_flatMap, List.mem_append, List.mem_replicate,
      List.mem_singleton] at hx
    obtain ⟨_, -, ⟨-, rfl⟩ | rfl⟩ := hx <;> exact .inl rfl
  last c hc := by
    obtain ⟨ys, y, rfl⟩ := (List.eq_nil_or_concat c).resolve_left hc
    refine ⟨'+', ?_, rfl⟩
    simp [unaryCipher, List.flatMap_append, ← List.append_assoc]

/-- The answer to `inception get encrypt_password ''` under `unaryCipher`. -/
def emptyPasswordAnswer : String := "AES:" ++ ⟨List.replicate 69 'A' ++ ['+']⟩

/-- The empty password does not come back: its answer, passed as `--password`, stays the
    password, since `decrypt_password` takes the empty plaintext for a failure. -/
theorem empty_password_not_restored :
    parseInceptionCommand (encryptCommand "").data = some (.encryptPassword []) ∧
      encryptPasswordResult unaryCipher (some "k") [] = .ok emptyPasswordAnswer ∧
      (parseInceptionStart { inceptionPasswordEncryptKey := some "k" } unaryCipher
          (startWithPassword emptyPasswordAnswer) {}).2.opts.password = emptyPasswordAnswer ∧
      emptyPasswordAnswer ≠ "" := by
  have hr : encryptPasswordResult unaryCipher (some "k") [] = .ok emptyPasswordAnswer := rfl
  obtain ⟨h0, -, h2⟩ := encryptPassword_round_trip unaryCipher_laws
    { inceptionPasswordEncryptKey := some "k" } rfl (by decide) "" emptyPasswordAnswer hr {}
  exact ⟨h0, hr, h2, by decide⟩

end Inception
