import Inception.Session.Hooks

/-!
# Profile — the remote's version, read out of its version string

`maybe_detect_remote_db_profile` reads the audit connection's `server_version`: the database is
TiDB when the string contains `TiDB` or `tidb`, and the version is what `parse_first_version`
finds, in the tail after a TiDB marker or in the whole string.  The scanner of
`parse_first_version` is shown here to find the leftmost `major.minor` of its text, stated
without the scanner:

* §1 where a version stands in a text (`VersionAt`), the leftmost one (`LeftmostVersion`), and the
  first occurrence of a marker (`FirstTail`), which `afterMarker` finds;
* §2 the scanner against the leftmost version, one lemma per phase (`scanVersion_found`);
* §3 the profile: the type, the text searched, and the version set or kept.
-/

namespace Inception

/-! ## 1. Versions and markers in a text -/

/-- Modelled from the spec: a non-empty run of decimal digits. -/
def DigitRun (ds : List Char) : Prop := ds ≠ [] ∧ ∀ c ∈ ds, c.isDigit = true

/-- Modelled from the spec: `major.minor` stands in `text` after `pre`.  `major` and `minor` are
    runs of digits, whole: `pre` does not end in a digit and `rest` does not start with one. -/
structure VersionAt (text pre major minor rest : List Char) : Prop where
  split : text = pre ++ major ++ '.' :: minor ++ rest
  pre_last : ∀ c ∈ pre.getLast?, c.isDigit = false
  major_run : DigitRun major
  minor_run : DigitRun minor
  rest_head : ∀ c ∈ rest.head?, c.isDigit = false

/-- Modelled from the spec: `text` holds a version somewhere. -/
def HasVersion (text : List Char) : Prop := ∃ pre major minor rest, VersionAt text pre major minor rest

/-- Modelled from the spec: `major.minor` is the leftmost version of `text`. -/
def LeftmostVersion (text major minor : List Char) : Prop :=
  ∃ pre rest, VersionAt text pre major minor rest ∧
    ∀ pre' major' minor' rest', VersionAt text pre' major' minor' rest' → pre.length ≤ pre'.length

/-- Modelled from the spec: `tail` is what follows the first occurrence of `marker` in `s`. -/
def FirstTail (marker s tail : List Char) : Prop :=
  ∃ pre, s = pre ++ marker ++ tail ∧ ∀ pre' tail', s = pre' ++ marker ++ tail' → pre.length ≤ pre'.length

theorem firstTail_of_prefix {marker s tail : List Char} (h : s = marker ++ tail) :
    FirstTail marker s tail :=
  ⟨[], h, fun _ _ _ => Nat.zero_le _⟩

/-- At a text that starts with the marker, the first occurrence is that one. -/
theorem firstTail_prefix_iff {marker s u tail : List Char} (hu : s = marker ++ u) :
    FirstTail marker s tail ↔ tail = u := by
  refine ⟨fun ⟨pre, hs, hmin⟩ => ?_, fun h => firstTail_of_prefix (h ▸ hu)⟩
  obtain rfl : pre = [] := List.length_eq_zero.mp (Nat.le_zero.mp (hmin [] u hu))
  exact List.append_cancel_left (hs.symm.trans hu)

/-- Past a character that does not start the marker, the first occurrence is in the rest. -/
theorem firstTail_cons {marker cs tail : List Char} {c : Char} (h : ¬ marker <+: c :: cs) :
    FirstTail marker (c :: cs) tail ↔ FirstTail marker cs tail := by
  have hpre : ∀ {pre t}, c :: cs = pre ++ marker ++ t → ∃ p, pre = c :: p ∧ cs = p ++ marker ++ t :=
    fun {pre t} e => match pre, e with
      | [], e => absurd ⟨t, e.symm⟩ h
      | _ :: p, e => ⟨p, by rw [(List.cons.inj e).1], (List.cons.inj e).2⟩
  constructor
  · rintro ⟨pre, hs, hmin⟩
    obtain ⟨p, rfl, hp⟩ := hpre hs
    exact ⟨p, hp, fun p' t' e => Nat.le_of_succ_le_succ (hmin (c :: p') t' (by rw [e]; rfl))⟩
  · rintro ⟨p, hp, hmin⟩
    refine ⟨c :: p, by rw [hp]; rfl, fun pre' t' e => ?_⟩
    obtain ⟨p', rfl, hp'⟩ := hpre e
    exact Nat.succ_le_succ (hmin p' t' hp')

/-- **`find` then `substr` give the tail after the first occurrence**, for every marker and
    text. -/
theorem afterMarker_eq_some_iff (marker : List Char) :
    ∀ s tail, afterMarker marker s = some tail ↔ FirstTail marker s tail
  | [], tail => by
    rw [afterMarker]
    split
    · next hm =>
      subst hm
      rw [@firstTail_prefix_iff [] [] [] tail rfl, Option.some.injEq, eq_comm]
    · next hm =>
      refine ⟨nofun, fun ⟨pre, hs, _⟩ => (hm ?_).elim⟩
      exact (List.append_eq_nil.mp (List.append_eq_nil.mp hs.symm).1).2
  | c :: cs, tail => by
    rw [afterMarker]
    split
    · next h =>
      obtain ⟨u, hu⟩ := h
      rw [firstTail_prefix_iff hu.symm, ← hu, List.drop_left, Option.some.injEq, eq_comm]
    · next h => rw [afterMarker_eq_some_iff marker cs tail, firstTail_cons h]

/-! ## 2. The scanner against the leftmost version -/

theorem DigitRun.singleton {c : Char} (hc : c.isDigit = true) : DigitRun [c] :=
  ⟨List.cons_ne_nil _ _, fun _ hd => (List.mem_singleton.mp hd) ▸ hc⟩

theorem DigitRun.snoc {ds : List Char} {c : Char} (h : DigitRun ds) (hc : c.isDigit = true) :
    DigitRun (ds ++ [c]) :=
  ⟨by simp, fun d hd => (List.mem_append.mp hd).elim (h.2 d) fun h' => (List.mem_singleton.mp h') ▸ hc⟩

/-- Two runs of digits that start the same text, each followed by a non-digit or the end, are
    the same run. -/
theorem digitRun_unique {major digits x y : List Char} (hm : ∀ c ∈ major, c.isDigit = true)
    (hd : ∀ c ∈ digits, c.isDigit = true) (hx : ∀ c ∈ x.head?, c.isDigit = false)
    (hy : ∀ c ∈ y.head?, c.isDigit = false) (h : major ++ x = digits ++ y) :
    major = digits ∧ x = y := by
  induction major generalizing digits with
  | nil =>
    cases digits with
    | nil => exact ⟨rfl, h⟩
    | cons d ds =>
      subst h
      exact absurd (hd d (.head _)) (by rw [hx d rfl]; decide)
  | cons m ms ih =>
    cases digits with
    | nil =>
      subst h
      exact absurd (hm m (.head _)) (by rw [hy m rfl]; decide)
    | cons d ds =>
      simp only [List.cons_append, List.cons.injEq] at h
      obtain ⟨rfl, h⟩ := h
      obtain ⟨rfl, rfl⟩ := ih (fun c hc => hm c (.tail _ hc)) (fun c hc => hd c (.tail _ hc)) h
      exact ⟨rfl, rfl⟩

theorem head?_nondigit {c : Char} {t : List Char} (hc : c.isDigit = false) :
    ∀ x ∈ (c :: t).head?, x.isDigit = false :=
  fun _ h => by cases h; exact hc

theorem not_versionAt_nil {pre major minor rest : List Char} :
    ¬ VersionAt [] pre major minor rest :=
  fun hv => by simpa using hv.split

/-- A version at the start of a text that opens with a run of digits has that run as its major,
    and a dot right after. -/
theorem versionAt_start_digits {ds u major minor rest : List Char} (hds : ∀ c ∈ ds, c.isDigit = true)
    (hu : ∀ c ∈ u.head?, c.isDigit = false) (hv : VersionAt (ds ++ u) [] major minor rest) :
    major = ds ∧ u = '.' :: (minor ++ rest) := by
  have e : major ++ '.' :: (minor ++ rest) = ds ++ u := by
    rw [hv.split]; simp only [List.nil_append, List.append_assoc, List.cons_append]
  exact digitRun_unique hv.major_run.2 hds (fun c hc => by cases hc; rfl) hu e |>.imp id Eq.symm

/-- No version begins inside `p`, whatever follows it: not at `p`'s start, and not after any of
    its non-digits. -/
def NoVersionIn (p t : List Char) : Prop :=
  ∀ pre a, p = pre ++ a → a ≠ [] → (∀ c ∈ pre.getLast?, c.isDigit = false) →
    ∀ major minor rest, ¬ VersionAt (a ++ t) [] major minor rest

theorem noVersionIn_nondigit {c : Char} {t : List Char} (hc : c.isDigit = false) :
    NoVersionIn [c] t := by
  intro pre a e ha _ major minor rest hv
  obtain ⟨rfl, rfl⟩ : pre = [] ∧ a = [c] := by
    cases pre with
    | nil => exact ⟨rfl, e.symm⟩
    | cons x xs => exact absurd (List.append_eq_nil.mp (List.cons.inj e).2.symm).2 ha
  exact hv.major_run.1 (versionAt_start_digits (List.forall_mem_nil _) (head?_nondigit hc)
    (show VersionAt ([] ++ c :: t) [] major minor rest from hv)).1

theorem noVersionIn_digits {ds u : List Char} (hds : ∀ c ∈ ds, c.isDigit = true)
    (h : ∀ major minor rest, ¬ VersionAt (ds ++ u) [] major minor rest) : NoVersionIn ds u := by
  intro pre a e _ hlast
  rcases List.eq_nil_or_concat pre with rfl | ⟨l, b, rfl⟩
  · rw [List.nil_append] at e
    exact e ▸ h
  · exact absurd (hds b (by rw [e]; simp)) (by rw [hlast b (by simp)]; decide)

theorem noVersionIn_append {p q t : List Char} (hp : NoVersionIn p (q ++ t)) (hq : NoVersionIn q t) :
    NoVersionIn (p ++ q) t := by
  intro pre a e ha hlast major minor rest hv
  rcases List.append_eq_append_iff.mp e with ⟨a', rfl, rfl⟩ | ⟨c', rfl, rfl⟩
  · exact hq a' a rfl ha (fun c hc => hlast c (by simp [Option.mem_def.mp hc])) major minor rest hv
  · cases c' with
    | nil => exact hq [] q rfl ha (fun _ h => nomatch h) major minor rest hv
    | cons x xs =>
      exact hp pre (x :: xs) rfl (List.cons_ne_nil _ _) hlast major minor rest
        (by rwa [List.append_assoc] at hv)

/-- A version of `p ++ t`, when none begins inside `p`, is one of `t`. -/
theorem NoVersionIn.versionAt {p t pre major minor rest : List Char} (hb : NoVersionIn p t)
    (hv : VersionAt (p ++ t) pre major minor rest) :
    ∃ pre', pre = p ++ pre' ∧ VersionAt t pre' major minor rest := by
  have e : p ++ t = pre ++ (major ++ '.' :: (minor ++ rest)) := by
    rw [hv.split]; simp only [List.append_assoc, List.cons_append]
  rcases List.append_eq_append_iff.mp e with ⟨a', rfl, rfl⟩ | ⟨c', rfl, he⟩
  · refine ⟨a', rfl, ⟨by simp only [List.append_assoc, List.cons_append], fun c hc => ?_,
      hv.major_run, hv.minor_run, hv.rest_head⟩⟩
    exact hv.pre_last c (by simp [Option.mem_def.mp hc])
  · cases c' with
    | nil =>
      refine ⟨[], by simp, ⟨?_, (fun _ h => nomatch h), hv.major_run, hv.minor_run, hv.rest_head⟩⟩
      simpa using he.symm
    | cons x xs =>
      refine absurd ⟨?_, (fun _ h => nomatch h), hv.major_run, hv.minor_run, hv.rest_head⟩
        (hb pre (x :: xs) rfl (List.cons_ne_nil _ _) hv.pre_last major minor rest)
      rw [← he]; simp only [List.nil_append, List.append_assoc, List.cons_append]

/-- A version of `t` is one of `p ++ t` when `p` does not end in a digit. -/
theorem VersionAt.prepend {p t pre major minor rest : List Char}
    (hp : ∀ c ∈ p.getLast?, c.isDigit = false) (hv : VersionAt t pre major minor rest) :
    VersionAt (p ++ t) (p ++ pre) major minor rest := by
  refine ⟨by rw [hv.split]; simp only [List.append_assoc], fun c hc => ?_, hv.major_run,
    hv.minor_run, hv.rest_head⟩
  rcases List.eq_nil_or_concat pre with rfl | ⟨l, b, rfl⟩
  · rw [List.append_nil] at hc
    exact hp c hc
  · exact hv.pre_last c (by simpa using hc)

/-- What a scan's result says of its text: there is no version, or the result is the leftmost
    version as `strtoul` reads its runs and the cast to `uint` keeps them. -/
def FoundVersion (text : List Char) : Option (Nat × Nat) → Prop
  | none => ¬ HasVersion text
  | some (a, b) => ∃ major minor, LeftmostVersion text major minor ∧
      a = (strtoul major).value % 2 ^ 32 ∧ b = (strtoul minor).value % 2 ^ 32

/-- A prefix in which no version begins, and which does not end in a digit, changes no scan
    result. -/
theorem FoundVersion.append {p t : List Char} (hp : ∀ c ∈ p.getLast?, c.isDigit = false)
    (hb : NoVersionIn p t) : ∀ {r}, FoundVersion t r → FoundVersion (p ++ t) r
  | none, h => by
    rintro ⟨_, major, minor, rest, hv⟩
    obtain ⟨pre', -, hv'⟩ := hb.versionAt hv
    exact h ⟨pre', major, minor, rest, hv'⟩
  | some _, ⟨major, minor, ⟨pre, rest, hv, hmin⟩, ha, hb'⟩ =>
    ⟨major, minor, ⟨p ++ pre, rest, hv.prepend hp, fun _ _ _ _ hv' => by
      obtain ⟨pre'', rfl, hv''⟩ := hb.versionAt hv'
      simpa using hmin _ _ _ _ hv''⟩, ha, hb'⟩

theorem foundVersion_start {ds ms u : List Char} (hd : DigitRun ds) (hm : DigitRun ms)
    (hu : ∀ c ∈ u.head?, c.isDigit = false) :
    FoundVersion (ds ++ '.' :: ms ++ u)
      (some ((strtoul ds).value % 2 ^ 32, (strtoul ms).value % 2 ^ 32)) :=
  ⟨ds, ms, ⟨[], u, ⟨rfl, (fun _ h => nomatch h), hd, hm, hu⟩, fun _ _ _ _ _ => Nat.zero_le _⟩, rfl, rfl⟩

theorem NoVersionIn.not_hasVersion {p : List Char} (hb : NoVersionIn p []) : ¬ HasVersion p := by
  rintro ⟨_, _, _, _, hv⟩
  obtain ⟨_, -, hv'⟩ := hb.versionAt (by rwa [List.append_nil])
  exact not_versionAt_nil hv'

/-- What a scan state has read since the last place a version could begin. -/
def VersionScan.read : VersionScan → List Char
  | .scan => []
  | .major ds => ds
  | .dot ds => ds ++ ['.']
  | .minor ds ms => ds ++ '.' :: ms

/-- The runs a scan state holds are runs of digits. -/
def VersionScan.Valid : VersionScan → Prop
  | .scan => True
  | .major ds => DigitRun ds
  | .dot ds => DigitRun ds
  | .minor ds ms => DigitRun ds ∧ DigitRun ms

/-- No version begins in a run of digits that neither a digit nor a dot follows. -/
theorem noVersionIn_major {ds u : List Char} (hds : DigitRun ds)
    (hu : ∀ c ∈ u.head?, c.isDigit = false ∧ c ≠ '.') : NoVersionIn ds u :=
  noVersionIn_digits hds.2 fun _ _ _ hv => by
    obtain ⟨-, rfl⟩ := versionAt_start_digits hds.2 (fun c h => (hu c h).1) hv
    exact (hu '.' rfl).2 rfl

/-- No version begins in a run of digits and a dot that no digit follows. -/
theorem noVersionIn_dot {ds u : List Char} (hds : DigitRun ds)
    (hu : ∀ c ∈ u.head?, c.isDigit = false) : NoVersionIn (ds ++ ['.']) u := by
  refine noVersionIn_append (noVersionIn_digits hds.2 fun _ _ rest hv => ?_)
    (noVersionIn_nondigit (c := '.') rfl)
  obtain ⟨-, h⟩ := versionAt_start_digits hds.2 (head?_nondigit (c := '.') rfl) hv
  obtain ⟨m, ms, rfl⟩ := List.exists_cons_of_ne_nil hv.minor_run.1
  obtain rfl : u = m :: (ms ++ rest) := (List.cons.inj h).2
  exact absurd (hv.minor_run.2 m (.head _)) (by rw [hu m rfl]; decide)

/-- **The scan finds the leftmost version.**  From every state, on every text, the scanner's result
    is the leftmost version of what the state has read followed by the text, or none when that
    holds no version. -/
theorem scanVersion_found : ∀ (st : VersionScan) (t : List Char), st.Valid →
    FoundVersion (st.read ++ t) (scanVersion st t)
  | .scan, [], _ => fun ⟨_, _, _, _, hv⟩ => not_versionAt_nil hv
  | .major ds, [], hds => by
    show ¬ HasVersion (ds ++ [])
    rw [List.append_nil]
    exact (noVersionIn_major hds fun _ h => (Option.not_mem_none _ h).elim).not_hasVersion
  | .dot ds, [], hds => by
    show ¬ HasVersion (ds ++ ['.'] ++ [])
    rw [List.append_nil]
    exact (noVersionIn_dot hds fun _ h => (Option.not_mem_none _ h).elim).not_hasVersion
  | .minor ds ms, [], ⟨hd, hm⟩ => foundVersion_start hd hm fun _ h => nomatch h
  | .scan, c :: cs, _ => by
    rw [scanVersion]
    split
    · next hc => exact scanVersion_found (.major [c]) cs (DigitRun.singleton hc)
    · next hc =>
      rw [Bool.not_eq_true] at hc
      exact (scanVersion_found .scan cs trivial).append (p := [c]) (fun _ h => by cases h; exact hc)
        (noVersionIn_nondigit hc)
  | .major ds, c :: cs, hds => by
    rw [scanVersion]
    split
    · next hc =>
      simpa only [VersionScan.read, List.append_assoc, List.singleton_append] using
        scanVersion_found (.major (ds ++ [c])) cs (hds.snoc hc)
    · next hc =>
      rw [Bool.not_eq_true] at hc
      split
      · next hdot =>
        subst hdot
        simpa only [VersionScan.read, List.append_assoc, List.singleton_append] using
          scanVersion_found (.dot ds) cs hds
      · next hdot =>
        simpa only [VersionScan.read, List.append_assoc, List.singleton_append] using
          (scanVersion_found .scan cs trivial).append (p := ds ++ [c]) (by simpa using hc)
            (noVersionIn_append (noVersionIn_major hds fun _ h => by cases h; exact ⟨hc, hdot⟩)
              (noVersionIn_nondigit hc))
  | .dot ds, c :: cs, hds => by
    rw [scanVersion]
    split
    · next hc =>
      simpa only [VersionScan.read, List.append_assoc, List.singleton_append, List.cons_append] using
        scanVersion_found (.minor ds [c]) cs ⟨hds, DigitRun.singleton hc⟩
    · next hc =>
      rw [Bool.not_eq_true] at hc
      simpa only [VersionScan.read, List.append_assoc, List.singleton_append, List.cons_append] using
        (scanVersion_found .scan cs trivial).append (p := ds ++ ['.'] ++ [c]) (by simpa using hc)
          (noVersionIn_append (noVersionIn_dot hds (head?_nondigit hc)) (noVersionIn_nondigit hc))
  | .minor ds ms, c :: cs, ⟨hd, hm⟩ => by
    rw [scanVersion]
    split
    · next hc =>
      simpa only [VersionScan.read, List.append_assoc, List.singleton_append, List.cons_append] using
        scanVersion_found (.minor ds (ms ++ [c])) cs ⟨hd, hm.snoc hc⟩
    · next hc =>
      rw [Bool.not_eq_true] at hc
      exact foundVersion_start hd hm (head?_nondigit hc)

/-- `parse_first_version` finds the leftmost version of its text, or none when there is none. -/
theorem parseFirstVersion_found (text : List Char) : FoundVersion text (parseFirstVersion text) :=
  scanVersion_found .scan text trivial

theorem parseFirstVersion_eq_none_iff (text : List Char) :
    parseFirstVersion text = none ↔ ¬ HasVersion text := by
  have h := parseFirstVersion_found text
  refine ⟨fun hn => by rw [hn] at h; exact h, fun hno => ?_⟩
  cases hp : parseFirstVersion text with
  | none => rfl
  | some v =>
    obtain ⟨a, b⟩ := v
    rw [hp] at h
    obtain ⟨major, minor, ⟨pre, rest, hv, -⟩, -⟩ := h
    exact absurd ⟨pre, major, minor, rest, hv⟩ hno

/-- A text has one leftmost version. -/
theorem LeftmostVersion.unique {text major minor major' minor' : List Char}
    (h : LeftmostVersion text major minor) (h' : LeftmostVersion text major' minor') :
    major = major' ∧ minor = minor' := by
  obtain ⟨pre, rest, hv, hmin⟩ := h
  obtain ⟨pre', rest', hv', hmin'⟩ := h'
  have e := hv.split.symm.trans hv'.split
  simp only [List.append_assoc, List.cons_append] at e
  obtain ⟨-, e⟩ := List.append_inj e (Nat.le_antisymm (hmin _ _ _ _ hv') (hmin' _ _ _ _ hv))
  obtain ⟨rfl, e'⟩ := digitRun_unique hv.major_run.2 hv'.major_run.2 (head?_nondigit (c := '.') rfl)
    (head?_nondigit (c := '.') rfl) e
  exact ⟨rfl, (digitRun_unique hv.minor_run.2 hv'.minor_run.2 hv.rest_head hv'.rest_head
    (List.cons.inj e').2).1⟩

theorem isCSpace_of_isDigit {c : Char} (h : c.isDigit = true) : isCSpace c = false := by
  revert h
  unfold isCSpace
  cases hs : (c = ' ' || c = '\t' || c = '\n' || c = '\x0b' || c = '\x0c' || c = '\r')
  · exact fun _ => rfl
  · simp only [Bool.or_eq_true, decide_eq_true_eq] at hs
    rcases hs with ((((rfl | rfl) | rfl) | rfl) | rfl) | rfl <;> decide

/-- `strtoul` reads a run of digits as its value, when that is below `2^64`. -/
theorem strtoul_digitRun {ds : List Char} (h : DigitRun ds) (hv : digitsValue ds < 2 ^ 64) :
    (strtoul ds).value = digitsValue ds := by
  obtain ⟨d, ds', rfl⟩ := List.exists_cons_of_ne_nil h.1
  have hd := h.2 d (.head _)
  have hsign : d ≠ '-' ∧ d ≠ '+' :=
    ⟨by rintro rfl; exact absurd hd (by decide), by rintro rfl; exact absurd hd (by decide)⟩
  have hv' : ¬ 18446744073709551616 ≤ digitsValue (d :: ds') := not_le.mpr hv
  simp [strtoul, isCSpace_of_isDigit hd, hsign.1, hsign.2, List.takeWhile_eq_self_iff.mpr h.2, hv']

/-- **`parse_first_version` reads the leftmost version**, whose runs `uint` holds. -/
theorem parseFirstVersion_of_leftmost {text major minor : List Char}
    (h : LeftmostVersion text major minor) (hmajor : digitsValue major < 2 ^ 32)
    (hminor : digitsValue minor < 2 ^ 32) :
    parseFirstVersion text = some (digitsValue major, digitsValue minor) := by
  have ⟨pre, rest, hv, _⟩ := h
  have hf := parseFirstVersion_found text
  cases hp : parseFirstVersion text with
  | none =>
    rw [hp] at hf
    exact absurd ⟨pre, major, minor, rest, hv⟩ hf
  | some v =>
    obtain ⟨a, b⟩ := v
    rw [hp] at hf
    obtain ⟨major', minor', h', rfl, rfl⟩ := hf
    obtain ⟨rfl, rfl⟩ := h'.unique h
    rw [strtoul_digitRun hv.major_run (by omega), strtoul_digitRun hv.minor_run (by omega),
      Nat.mod_eq_of_lt hmajor, Nat.mod_eq_of_lt hminor]

/-! ## 3. The profile -/

/-- Modelled from the spec: the markers of a TiDB version string, in the order they are tried. -/
def tidbMarkers : List String := ["TiDB-v", "tidb-v", "TiDB-", "tidb-"]

/-- Modelled from the spec: the text a TiDB version is searched in, the markers tried in order:
    the tail after the first occurrence of the first marker whose tail holds a version, or `s`
    itself when none does. -/
def TidbSearched (s : List Char) : List String → List Char → Prop
  | [], t => t = s
  | m :: ms, t => (FirstTail m.data s t ∧ HasVersion t) ∨
      ((∀ tail, FirstTail m.data s tail → ¬ HasVersion tail) ∧ TidbSearched s ms t)

/-- Modelled from the spec: the text the version is searched in: by the TiDB markers when the
    server's version string names TiDB, the whole string otherwise. -/
def SearchedText (s t : List Char) : Prop :=
  if "TiDB".data <:+: s ∨ "tidb".data <:+: s then TidbSearched s tidbMarkers t else t = s

theorem tidbSearched_exists (s : List Char) : ∀ ms, ∃ t, TidbSearched s ms t
  | [] => ⟨s, rfl⟩
  | m :: ms => by
    by_cases h : ∃ tail, FirstTail m.data s tail ∧ HasVersion tail
    · obtain ⟨tail, h⟩ := h
      exact ⟨tail, .inl h⟩
    · obtain ⟨t, ht⟩ := tidbSearched_exists s ms
      exact ⟨t, .inr ⟨fun tail hf hv => h ⟨tail, hf, hv⟩, ht⟩⟩

/-- The markers tried in order, then the whole string, give the version of the searched text. -/
theorem TidbSearched.parse {s : List Char} : ∀ {ms t}, TidbSearched s ms t →
    ((ms.findSome? fun m : String => (afterMarker m.data s).bind parseFirstVersion) <|>
      parseFirstVersion s) = parseFirstVersion t
  | [], _, h => by rw [h]; rfl
  | m :: ms, t, .inl ⟨hf, hv⟩ => by
    have hsome : (afterMarker m.data s).bind parseFirstVersion = parseFirstVersion t := by
      rw [(afterMarker_eq_some_iff _ _ _).mpr hf]; rfl
    obtain ⟨v, hv'⟩ := Option.ne_none_iff_exists'.mp fun hn => (parseFirstVersion_eq_none_iff t).mp hn hv
    rw [List.findSome?_cons, hsome, hv']
    rfl
  | m :: ms, t, .inr ⟨hno, ht⟩ => by
    have hnone : (afterMarker m.data s).bind parseFirstVersion = none := by
      cases ha : afterMarker m.data s with
      | none => rfl
      | some tail =>
        exact (parseFirstVersion_eq_none_iff tail).mpr (hno tail ((afterMarker_eq_some_iff _ _ _).mp ha))
    rw [List.findSome?_cons, hnone]
    exact ht.parse

/-- With the audit connection open on a server whose version string is `conn.version`, the
    profile's type says whether that string names TiDB, and its version is the one read in the
    searched text, or the previous one. -/
theorem maybeDetectRemoteDbProfile_open {remote : Remote} {ctx c : InceptionContext}
    {conn : AuditConn} (hconn : getRemoteConn remote ctx = (c, true))
    (hopen : c.remoteConn = some conn) :
    ((maybeDetectRemoteDbProfile remote ctx).dbType = .tidb ↔
        "TiDB".data <:+: conn.version.data ∨ "tidb".data <:+: conn.version.data) ∧
      ∀ t, SearchedText conn.version.data t →
        ((maybeDetectRemoteDbProfile remote ctx).dbVersionMajor,
          (maybeDetectRemoteDbProfile remote ctx).dbVersionMinor) =
          (parseFirstVersion t).getD (ctx.dbVersionMajor, ctx.dbVersionMinor) := by
  have hprev := InceptionContext.getRemoteConn_sansConn ctx remote
  rw [hconn] at hprev
  have hversion : (c.dbVersionMajor, c.dbVersionMinor) = (ctx.dbVersionMajor, ctx.dbVersionMinor) := by
    have := congrArg (fun x : InceptionContext => (x.dbVersionMajor, x.dbVersionMinor)) hprev
    exact this
  simp only [maybeDetectRemoteDbProfile, hconn, hopen, Bool.not_true, Bool.false_eq_true, if_false,
    Option.map_some', Option.getD_some]
  refine ⟨?_, fun t ht => ?_⟩
  · split <;> split <;> simp_all
  · have hparse : (if "TiDB".data <:+: conn.version.data ∨ "tidb".data <:+: conn.version.data then
        parseTidbVersion conn.version.data <|> parseFirstVersion conn.version.data
        else parseFirstVersion conn.version.data) = parseFirstVersion t := by
      unfold SearchedText at ht
      split
      · next h => rw [if_pos h] at ht; exact ht.parse
      · next h => rw [if_neg h] at ht; rw [ht]
    rw [← hparse]
    split
    · next major minor h => rw [h]; rfl
    · next h => rw [h]; exact hversion

/-- The audit connection of a TiDB 6.5.3 server. -/
def tidbRemote : Remote := { connect := .ok "5.7.25-TiDB-v6.5.3" }

/-- The open connection `get_remote_conn` leaves for `tidbRemote`. -/
def tidbConn : AuditConn := { version := "5.7.25-TiDB-v6.5.3" }

/-- **The profile of a server.**  For every server version string, with the audit connection open
    on it: the type is TiDB exactly when the string contains `TiDB` or `tidb`; there is a text the
    version is searched in (the tail after the first TiDB marker whose tail holds a version, or the
    whole string); and for it, the version set is its leftmost `major.minor`, for runs below
    `2^32`, and when it holds none the previous version is kept. -/
theorem profile_reads_leftmost_version (remote : Remote) (ctx c : InceptionContext) (conn : AuditConn)
    (hconn : getRemoteConn remote ctx = (c, true)) (hopen : c.remoteConn = some conn) :
    ((maybeDetectRemoteDbProfile remote ctx).dbType = .tidb ↔
        "TiDB".data <:+: conn.version.data ∨ "tidb".data <:+: conn.version.data) ∧
      (∃ t, SearchedText conn.version.data t) ∧
      ∀ t, SearchedText conn.version.data t →
        (∀ major minor, LeftmostVersion t major minor → digitsValue major < 2 ^ 32 →
          digitsValue minor < 2 ^ 32 →
          (maybeDetectRemoteDbProfile remote ctx).dbVersionMajor = digitsValue major ∧
            (maybeDetectRemoteDbProfile remote ctx).dbVersionMinor = digitsValue minor) ∧
        (¬ HasVersion t →
          (maybeDetectRemoteDbProfile remote ctx).dbVersionMajor = ctx.dbVersionMajor ∧
            (maybeDetectRemoteDbProfile remote ctx).dbVersionMinor = ctx.dbVersionMinor) := by
  obtain ⟨htype, hversion⟩ := maybeDetectRemoteDbProfile_open hconn hopen
  refine ⟨htype, ?_, fun t ht => ⟨fun major minor hl hmajor hminor => ?_, fun hno => ?_⟩⟩
  · unfold SearchedText
    split
    · exact tidbSearched_exists _ _
    · exact ⟨_, rfl⟩
  · have h := hversion t ht
    rw [parseFirstVersion_of_leftmost hl hmajor hminor, Option.getD_some] at h
    exact Prod.mk.inj h
  · have h := hversion t ht
    rw [(parseFirstVersion_eq_none_iff t).mpr hno, Option.getD_none] at h
    exact Prod.mk.inj h

theorem profile_reads_leftmost_version_tidb :
    getRemoteConn tidbRemote {} = ({ remoteConn := some tidbConn }, true) ∧
      ({ remoteConn := some tidbConn } : InceptionContext).remoteConn = some tidbConn ∧
      (((maybeDetectRemoteDbProfile tidbRemote {}).dbType = .tidb ↔
          "TiDB".data <:+: tidbConn.version.data ∨ "tidb".data <:+: tidbConn.version.data) ∧
        (∃ t, SearchedText tidbConn.version.data t) ∧
        ∀ t, SearchedText tidbConn.version.data t →
          (∀ major minor, LeftmostVersion t major minor → digitsValue major < 2 ^ 32 →
            digitsValue minor < 2 ^ 32 →
            (maybeDetectRemoteDbProfile tidbRemote {}).dbVersionMajor = digitsValue major ∧
              (maybeDetectRemoteDbProfile tidbRemote {}).dbVersionMinor = digitsValue minor) ∧
          (¬ HasVersion t →
            (maybeDetectRemoteDbProfile tidbRemote {}).dbVersionMajor =
                ({} : InceptionContext).dbVersionMajor ∧
              (maybeDetectRemoteDbProfile tidbRemote {}).dbVersionMinor =
                ({} : InceptionContext).dbVersionMinor)) :=
  ⟨rfl, rfl, profile_reads_leftmost_version tidbRemote {} _ tidbConn rfl rfl⟩

/-- The spec's example: `5.7.25-TiDB-v6.5.3` is TiDB 6.5. -/
example : (maybeDetectRemoteDbProfile tidbRemote {}).dbType = .tidb ∧
    (maybeDetectRemoteDbProfile tidbRemote {}).dbVersionMajor = 6 ∧
    (maybeDetectRemoteDbProfile tidbRemote {}).dbVersionMinor = 5 := by
  decide

end Inception
