import Mathlib.Tactic.Ring
import Inception.Log
import Inception.Session.Admin
import Inception.Session.Profile

/-!
# Commands — the texts of the admin commands, read back

`handle_inception_command` trims the statement and reads `inception <verb> <arguments>`: the
verb ignoring case, a thread id with `strtoul` that must fit a `uint32_t`, a sleep time with
`strtoull`.  Each command has a text in this grammar, its numbers printed as `%u` prints them,
and the parser reads every such text back as the command it was made from, for every thread id
and sleep time the C types hold:

* §1 the decimal text of a number is a run of digits with the number's value;
* §2 `strtoul`, the thread-id argument and the trimming over a run of digits;
* §3 the texts of the commands, and the round trip.
-/

namespace Inception

/-! ## 1. Decimal texts -/

/-- Digits appended to a run scale its value by ten per digit. -/
theorem digitsValue_append (xs ys : List Char) :
    digitsValue (xs ++ ys) = digitsValue xs * 10 ^ ys.length + digitsValue ys := by
  unfold digitsValue
  rw [List.foldl_append]
  generalize xs.foldl (fun acc d => 10 * acc + (d.toNat - '0'.toNat)) 0 = acc
  induction ys generalizing acc with
  | nil => simp
  | cons y ys ih =>
    simp only [List.foldl_cons, List.length_cons]
    rw [ih, ih (10 * 0 + _), pow_succ]
    ring

theorem digitsValue_digitChar : ∀ k, k < 10 → digitsValue [Nat.digitChar k] = k := by decide

/-- What `toDigitsCore` prepends to a run is the number, in front of the run's value. -/
theorem digitsValue_toDigitsCore : ∀ (fuel n : Nat) (ds : List Char), n < fuel →
    digitsValue (Nat.toDigitsCore 10 fuel n ds) = n * 10 ^ ds.length + digitsValue ds
  | 0, _, _, h => absurd h (Nat.not_lt_zero _)
  | fuel + 1, n, ds, h => by
    have hd : digitsValue (Nat.digitChar (n % 10) :: ds) =
        n % 10 * 10 ^ ds.length + digitsValue ds := by
      rw [← List.singleton_append, digitsValue_append,
        digitsValue_digitChar _ (Nat.mod_lt _ (by decide))]
    change digitsValue (if n / 10 = 0 then Nat.digitChar (n % 10) :: ds
      else Nat.toDigitsCore 10 fuel (n / 10) (Nat.digitChar (n % 10) :: ds)) = _
    split
    · rw [hd, Nat.mod_eq_of_lt (by omega)]
    · rw [digitsValue_toDigitsCore fuel _ _ (by omega), hd, List.length_cons, pow_succ]
      calc n / 10 * (10 ^ ds.length * 10) + (n % 10 * 10 ^ ds.length + digitsValue ds)
          = (10 * (n / 10) + n % 10) * 10 ^ ds.length + digitsValue ds := by ring
        _ = n * 10 ^ ds.length + digitsValue ds := by rw [Nat.div_add_mod]

/-- `%u` reads back: the digits `toString` prints have the number's value. -/
theorem digitsValue_toString (n : Nat) : digitsValue (toString n).data = n := by
  simpa [digitsValue] using digitsValue_toDigitsCore (n + 1) n [] (Nat.lt_succ_self n)

theorem toDigitsCore_ne_nil : ∀ (fuel n : Nat) (acc : List Char), acc ≠ [] →
    Nat.toDigitsCore 10 fuel n acc ≠ []
  | 0, _, _, h => h
  | fuel + 1, n, acc, _ => by
    change (if n / 10 = 0 then Nat.digitChar (n % 10) :: acc
      else Nat.toDigitsCore 10 fuel (n / 10) (Nat.digitChar (n % 10) :: acc)) ≠ []
    split
    · exact List.cons_ne_nil _ _
    · exact toDigitsCore_ne_nil fuel _ _ (List.cons_ne_nil _ _)

/-- What `%u` prints is a run of digits. -/
theorem digitRun_toString (n : Nat) : DigitRun (toString n).data := by
  refine ⟨?_, fun c hc => (isDigit_of_mem_toDigitsCore _ _ _ hc).resolve_left (by simp)⟩
  change (if n / 10 = 0 then [Nat.digitChar (n % 10)]
    else Nat.toDigitsCore 10 n (n / 10) [Nat.digitChar (n % 10)]) ≠ []
  split
  · exact List.cons_ne_nil _ _
  · exact toDigitsCore_ne_nil n _ _ (List.cons_ne_nil _ _)

/-! ## 2. Reading a run of digits -/

theorem ne_of_isDigit {c x : Char} (hc : c.isDigit = true) (hx : x.isDigit = false) : c ≠ x := by
  rintro rfl
  rw [hx] at hc
  cases hc

/-- A digit ends no command: it is neither white space nor `;`. -/
theorem digit_not_ws {c : Char} (h : c.isDigit = true) : (isWs c || c = ';') = false := by
  simp [isWs, ne_of_isDigit h (x := ' ') rfl, ne_of_isDigit h (x := '\t') rfl,
    ne_of_isDigit h (x := '\r') rfl, ne_of_isDigit h (x := '\n') rfl, ne_of_isDigit h (x := ';') rfl]

/-- A text that starts with a digit has no blank to skip. -/
theorem skipBlanks_digits {ds : List Char} (hd : DigitRun ds) (rest : List Char) :
    skipBlanks (ds ++ rest) = ds ++ rest := by
  obtain ⟨d, ds', rfl⟩ := List.exists_cons_of_ne_nil hd.1
  have hdig := hd.2 d (.head _)
  exact dropWhile_append_of_head (d :: ds') d rfl
    (by simp [ne_of_isDigit hdig (x := ' ') rfl, ne_of_isDigit hdig (x := '\t') rfl]) rest

/-- `strtoul` reads a run of digits up to the first character that is not one. -/
theorem strtoul_digits_append {ds rest : List Char} (hd : DigitRun ds)
    (hr : ∀ c ∈ rest.head?, c.isDigit = false) (hv : digitsValue ds < 2 ^ 64) :
    strtoul (ds ++ rest) = ⟨digitsValue ds, rest, false⟩ := by
  obtain ⟨d, ds', rfl⟩ := List.exists_cons_of_ne_nil hd.1
  have hdig := hd.2 d (.head _)
  have hsign : d ≠ '-' ∧ d ≠ '+' :=
    ⟨ne_of_isDigit hdig (x := '-') rfl, ne_of_isDigit hdig (x := '+') rfl⟩
  have hstop : rest.takeWhile Char.isDigit = [] ∧ rest.dropWhile Char.isDigit = rest := by
    cases rest with
    | nil => simp
    | cons c cs => simp [List.takeWhile_cons, List.dropWhile_cons, hr c rfl]
  have htake : (d :: (ds' ++ rest)).takeWhile Char.isDigit = d :: ds' := by
    rw [← List.cons_append, List.takeWhile_append_of_pos hd.2, hstop.1, List.append_nil]
  have hdrop : (d :: (ds' ++ rest)).dropWhile Char.isDigit = rest := by
    rw [← List.cons_append, List.dropWhile_append_of_pos hd.2, hstop.2]
  have hv' : ¬ 18446744073709551616 ≤ digitsValue (d :: ds') := not_le.mpr hv
  simp [strtoul, isCSpace_of_isDigit hdig, hsign.1, hsign.2, htake, hdrop, hv', hdig]

/-- A thread id of digits below `2^32`, followed by a non-digit, is read whole. -/
theorem threadIdArg_digits {ds rest : List Char} (hd : DigitRun ds)
    (hr : ∀ c ∈ rest.head?, c.isDigit = false) (hv : digitsValue ds < 2 ^ 32) :
    threadIdArg (ds ++ rest) = some ⟨digitsValue ds, rest, false⟩ := by
  have hne : rest ≠ ds ++ rest := fun h => hd.1 (by simpa using congrArg List.length h)
  unfold threadIdArg
  rw [strtoul_digits_append hd hr (by omega)]
  rw [if_neg (by simp [hne]; omega)]

/-- A command with no white space at its start, and no white space or `;` at its end, is already
    trimmed. -/
theorem trimCommand_eq_self {q : List Char} (h0 : ∀ c ∈ q.head?, isWs c = false)
    (h1 : ∀ c ∈ q.getLast?, (isWs c || c = ';') = false) : trimCommand q = q := by
  cases q with
  | nil => rfl
  | cons a q =>
    rw [trimCommand, skipWhitespace, List.dropWhile_cons_of_neg (by simp [h0 a rfl])]
    obtain ⟨xs, b, hb⟩ := List.eq_nil_or_concat (a :: q) |>.resolve_left (List.cons_ne_nil _ _)
    rw [hb, List.concat_eq_append, List.rdropWhile_concat_neg]
    simpa [hb] using h1 b (by simp [hb])

/-- A text that ends in a run of digits ends in a digit. -/
theorem getLast?_digits_not_ws {ds : List Char} (hd : DigitRun ds) (pre : List Char) :
    ∀ c ∈ (pre ++ ds).getLast?, (isWs c || c = ';') = false := fun c hc =>
  digit_not_ws (hd.2 c (List.mem_of_getLast?_eq_some
    (List.getLast?_append_of_ne_nil pre hd.1 ▸ hc)))

/-! ## 3. The texts of the commands -/

/-- Modelled from the spec: the text of each admin command in the grammar of
    `handle_inception_command`'s usage messages, its numbers printed as `%u` prints them and the
    password quoted; a usage error has none. -/
def AdminCommand.text : AdminCommand → String
  | .showSessions => "inception show sessions"
  | .setSleep tid ms => "inception set sleep " ++ toString tid ++ " " ++ toString ms
  | .getSqltypes => "inception get sqltypes"
  | .encryptPassword p => encryptCommand ⟨p⟩
  | .kill tid force => "inception kill " ++ toString tid ++ (if force then " force" else "")
  | .usage _ => ""

/-- Modelled from the spec: the commands a text can stand for: a thread id that a `uint32_t`
    holds, a sleep time that a `uint64_t` holds, and no usage error. -/
def AdminCommand.canonical : AdminCommand → Bool
  | .setSleep tid ms => tid < 2 ^ 32 && ms < 2 ^ 64
  | .kill tid _ => tid < 2 ^ 32
  | .usage _ => false
  | _ => true

/-- `inception kill <thread_id> [force]` reads back. -/
theorem parseInceptionCommand_killText (tid : Nat) (force : Bool) (ht : tid < 2 ^ 32) :
    parseInceptionCommand (AdminCommand.kill tid force).text.data = some (.kill tid force) := by
  have hd := digitRun_toString tid
  have hv := digitsValue_toString tid
  have hq : (AdminCommand.kill tid force).text.data =
      "inception kill ".data ++ ((toString tid).data ++ if force then " force".data else []) := by
    cases force <;> simp [AdminCommand.text]
  generalize (toString tid).data = ds at hd hv hq
  generalize htail : (if force then " force".data else []) = tail at hq
  have hhead : ∀ c ∈ tail.head?, c.isDigit = false := by
    cases force <;> simp [← htail]
  have hlast : ∀ c ∈ ("inception kill ".data ++ (ds ++ tail)).getLast?,
      (isWs c || c = ';') = false := by
    cases force <;> subst htail <;> simp only [Bool.false_eq_true, if_false, if_true, List.append_nil]
    · exact getLast?_digits_not_ws hd _
    · rw [← List.append_assoc, List.getLast?_append_of_ne_nil _ (by decide)]
      decide
  unfold parseInceptionCommand
  rw [hq, trimCommand_eq_self (by intro c hc; cases hc; rfl) hlast]
  dsimp only
  rw [prefixCi_append (a := "inception show ".data) (b := "inception kill ".data) (by decide),
    prefixCi_append (a := "inception set ".data) (b := "inception kill ".data) (by decide),
    prefixCi_append (a := "inception get ".data) (b := "inception kill ".data) (by decide),
    prefixCi_append (a := "inception kill ".data) (b := "inception kill ".data) le_rfl,
    if_neg (by decide), if_neg (by decide), if_neg (by decide), if_pos (by decide),
    List.drop_left' (show "inception kill ".data.length = 15 from rfl), skipBlanks_digits hd,
    threadIdArg_digits hd hhead (hv ▸ ht), hv]
  cases force <;> subst htail <;> rfl

/-- `inception set sleep <thread_id> <milliseconds>` reads back. -/
theorem parseInceptionCommand_setSleepText (tid ms : Nat) (ht : tid < 2 ^ 32) (hms : ms < 2 ^ 64) :
    parseInceptionCommand (AdminCommand.setSleep tid ms).text.data = some (.setSleep tid ms) := by
  have hd := digitRun_toString tid
  have hv := digitsValue_toString tid
  have hd' := digitRun_toString ms
  have hv' := digitsValue_toString ms
  have hq : (AdminCommand.setSleep tid ms).text.data =
      "inception set sleep ".data ++ ((toString tid).data ++ ' ' :: (toString ms).data) := by
    simp [AdminCommand.text]
  generalize (toString tid).data = ds at hd hv hq
  generalize (toString ms).data = ms' at hd' hv' hq
  have hlast : ∀ c ∈ ("inception set sleep ".data ++ (ds ++ ' ' :: ms')).getLast?,
      (isWs c || c = ';') = false := by
    rw [List.append_cons, ← List.append_assoc]
    exact getLast?_digits_not_ws hd' _
  have hsub : skipBlanks (("inception set sleep ".data ++ (ds ++ ' ' :: ms')).drop 14) =
      "sleep ".data ++ (ds ++ ' ' :: ms') := by
    rw [show "inception set sleep ".data = "inception set ".data ++ "sleep ".data from rfl,
      List.append_assoc, List.drop_left' (show "inception set ".data.length = 14 from rfl)]
    exact dropWhile_append_of_head "sleep ".data 's' rfl (by decide) _
  have hskip : skipBlanks (' ' :: ms') = ms' :=
    calc skipBlanks (' ' :: ms') = skipBlanks ms' := rfl
      _ = ms' := by simpa using skipBlanks_digits hd' []
  have hvalue : strtoul ms' = ⟨ms, [], false⟩ := by
    simpa [hv'] using (strtoul_digits_append hd' (by simp) (hv' ▸ hms) : strtoul (ms' ++ []) = _)
  unfold parseInceptionCommand
  rw [hq, trimCommand_eq_self (by intro c hc; cases hc; rfl) hlast]
  dsimp only
  rw [prefixCi_append (a := "inception show ".data) (b := "inception set sleep ".data) (by decide),
    prefixCi_append (a := "inception set ".data) (b := "inception set sleep ".data) (by decide),
    if_neg (by decide), if_pos (by decide), hsub,
    if_pos ⟨by rw [List.length_append]; exact Nat.lt_add_of_pos_right (by simp),
      by rw [prefixCi_append le_rfl]; rfl⟩,
    List.drop_left' (show "sleep ".data.length = 6 from rfl), skipBlanks_digits hd,
    threadIdArg_digits hd (by intro c hc; cases hc; rfl)
      (hv ▸ ht)]
  dsimp only
  rw [hskip, hvalue, if_neg (by simp [hd'.1]), hv]

/-- **Every admin command reads back from its text.**  For every command a text can stand for,
    `handle_inception_command` parses the command's text as that command: the verbs are told
    apart, the thread id and the sleep time are read whole, `force` is seen, and the password is
    unquoted as it was written. -/
theorem admin_command_text_reads_back (cmd : AdminCommand) (h : cmd.canonical = true) :
    parseInceptionCommand cmd.text.data = some cmd := by
  cases cmd with
  | showSessions => decide
  | setSleep tid ms =>
    simp only [AdminCommand.canonical, Bool.and_eq_true, decide_eq_true_eq] at h
    exact parseInceptionCommand_setSleepText tid ms h.1 h.2
  | getSqltypes => decide
  | encryptPassword p => exact parseInceptionCommand_encryptCommand ⟨p⟩
  | kill tid force =>
    exact parseInceptionCommand_killText tid force (by simpa [AdminCommand.canonical] using h)
  | usage _ => cases h

theorem admin_command_text_reads_back_kill :
    (AdminCommand.kill 42 true).canonical = true ∧
      parseInceptionCommand (AdminCommand.kill 42 true).text.data = some (.kill 42 true) :=
  ⟨rfl, admin_command_text_reads_back _ rfl⟩

/-- A thread id past `UINT32_MAX` has a text, but it reads as a usage error. -/
example : parseInceptionCommand (AdminCommand.kill (2 ^ 32) false).text.data =
    some (.usage "Usage: inception kill <thread_id> [force]") := by
  decide

end Inception
