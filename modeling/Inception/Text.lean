import Mathlib.Data.List.Infix
import Mathlib.Algebra.Group.Nat.Basic
import Mathlib.Algebra.Group.Int

/-!
# Text — the character-level helpers of the marker parser and the interceptor

The C++ walks `char` buffers.  Every pattern it looks for is ASCII, and no byte of a multi-byte
UTF-8 character is ASCII, so walking the `List Char` of a Lean `String` finds the same
positions.  `tolower` is the C locale's, which `Char.toLower` also is.
-/

namespace Inception

/-- The four characters `skip_whitespace` (and the strip loops) skip. -/
def isWs (c : Char) : Bool := c = ' ' || c = '\t' || c = '\r' || c = '\n'

/-- `skip_whitespace`. -/
def skipWhitespace (l : List Char) : List Char := l.dropWhile isWs

/-- `strncasecmp(h, needle, |needle|) == 0`: `needle` is a prefix of `h` ignoring ASCII case.
    (A `'\0'` of `h` would end the comparison, but it differs from every character of a needle.) -/
def prefixCi : List Char → List Char → Bool
  | [], _ => true
  | _ :: _, [] => false
  | c :: cs, d :: ds => c.toLower == d.toLower && prefixCi cs ds

/-- `strcasecmp(a, b) == 0` (and `key_len == strlen(name) && strncasecmp(key, name, key_len) == 0`):
    equal ignoring ASCII case. -/
def eqCi (key name : List Char) : Bool := key.length == name.length && prefixCi name key

/-- A needle no longer than `b` compares only with `b`. -/
theorem prefixCi_append {a b : List Char} (h : a.length ≤ b.length) (rest : List Char) :
    prefixCi a (b ++ rest) = prefixCi a b := by
  induction a generalizing b with
  | nil => rfl
  | cons c cs ih =>
    cases b with
    | nil => simp at h
    | cons d ds => simp only [List.cons_append, prefixCi, List.append_eq, ih (by simpa using h)]

/-- A text that starts with a character `p` refuses is left alone by `dropWhile p`. -/
theorem dropWhile_append_of_head {p : Char → Bool} (xs : List Char) (c : Char)
    (hc : xs.head? = some c) (hp : p c = false) (ys : List Char) :
    (xs ++ ys).dropWhile p = xs ++ ys := by
  cases xs with
  | nil => cases hc
  | cons x xs => cases hc; simp [List.dropWhile_cons, hp]

/-- `find_ci(h, |h|, needle) != nullptr`: `needle` occurs in `h` ignoring ASCII case. -/
def containsCi (needle : List Char) : List Char → Bool
  | [] => prefixCi needle []
  | c :: cs => prefixCi needle (c :: cs) || containsCi needle cs

/-- Split at the first `*/`: the comment body before it and the text after it. -/
def splitClose : List Char → Option (List Char × List Char)
  | '*' :: '/' :: rest => some ([], rest)
  | c :: rest => (splitClose rest).map fun (b, a) => (c :: b, a)
  | [] => none

/-- A text without `*` before a `*/` is cut there. -/
theorem splitClose_append {l : List Char} (h : '*' ∉ l) (after : List Char) :
    splitClose (l ++ '*' :: '/' :: after) = some (l, after) := by
  induction l with
  | nil => rfl
  | cons c cs ih =>
    have hc : c ≠ '*' := fun e => h (e ▸ List.mem_cons_self c cs)
    rw [List.cons_append, splitClose.eq_def]
    split
    next heq => exact absurd (List.cons.inj heq).1 hc
    next heq =>
      obtain ⟨rfl, rfl⟩ := List.cons.inj heq
      simp [ih (fun hm => h (List.mem_cons_of_mem _ hm))]
    next heq => cases heq

/-- The first C-style comment at the start of `p` (`first_comment_len` is its length): `/*`, a body
    and the first `*/` after the opening, as body and remaining text. -/
def firstComment : List Char → Option (List Char × List Char)
  | '/' :: '*' :: rest => splitClose rest
  | _ => none

/-- `strip_inception_comment` of `inception.cc`: after leading whitespace, a comment of at least
    three characters' start (`p + 2 < end`) that is closed is dropped with the whitespace after
    it; otherwise the text is returned unchanged.  The comment's content is not inspected. -/
def stripInceptionComment (q : List Char) : List Char :=
  match skipWhitespace q with
  | '/' :: '*' :: c :: rest =>
    match splitClose (c :: rest) with
    | some (_, after) => skipWhitespace after
    | none => q
  | _ => q

/-- `strip_inception_comment` of `inception_exec.cc`: a leading comment is dropped only when it
    contains `inception_magic_start`.  `strstr` stops at a `'\0'`, so a body with one is not
    closed. -/
def stripInceptionCommentExec (q : List Char) : List Char :=
  match skipWhitespace q with
  | '/' :: '*' :: rest =>
    match splitClose rest with
    | some (body, after) =>
      if '\x00' ∉ body ∧ "inception_magic_start".data <:+: ('/' :: '*' :: body ++ ['*', '/'])
      then skipWhitespace after
      else q
    | none => q
  | _ => q

/-! ## `strtoul` -/

/-- The characters C's `isspace` accepts. -/
def isCSpace (c : Char) : Bool :=
  c = ' ' || c = '\t' || c = '\n' || c = '\x0b' || c = '\x0c' || c = '\r'

/-- The value of a run of decimal digits, most significant first. -/
def digitsValue (ds : List Char) : Nat :=
  ds.foldl (fun acc d => 10 * acc + (d.toNat - '0'.toNat)) 0

/-- What `strtoul(s, &end, 10)` (and `strtoull`, both 64-bit here) returns: the value, where `end`
    points, and whether `errno` is set to `ERANGE`.  Leading white space and one sign are accepted;
    with no digit the value is 0 and `end` is `s`; an out-of-range value saturates at
    `2^64 - 1`; a minus sign negates modulo `2^64`. -/
structure Strtoul where
  value : Nat
  rest : List Char
  erange : Bool
  deriving DecidableEq, Repr

def strtoul (s : List Char) : Strtoul :=
  let t := s.dropWhile isCSpace
  let (neg, u) := match t with
    | '-' :: u => (true, u)
    | '+' :: u => (false, u)
    | u => (false, u)
  let ds := u.takeWhile Char.isDigit
  if ds = [] then ⟨0, s, false⟩
  else
    let v := digitsValue ds
    if v ≥ 2 ^ 64 then ⟨2 ^ 64 - 1, u.dropWhile Char.isDigit, true⟩
    else ⟨if neg then (2 ^ 64 - v) % 2 ^ 64 else v, u.dropWhile Char.isDigit, false⟩

/-- `strtoll(s, nullptr, 10)`: like `strtoul`, but signed, saturating at `-2^63` and `2^63 - 1`. -/
def strtoll (s : List Char) : Int :=
  let t := s.dropWhile isCSpace
  let (neg, u) := match t with
    | '-' :: u => (true, u)
    | '+' :: u => (false, u)
    | u => (false, u)
  let v := digitsValue (u.takeWhile Char.isDigit)
  if neg then -(min v (2 ^ 63) : Int) else (min v (2 ^ 63 - 1) : Int)

/-- `static_cast<int64_t>(strtod(s, nullptr))`: the longest prefix
    `[space][sign]digits[.digits][(e|E)[sign]digits]` (at least one digit before the exponent),
    its decimal value cut toward zero, `0` when there is none.  The value is taken exactly where a
    `double` would round it. -/
def strtodTrunc (s : List Char) : Int :=
  let t := s.dropWhile isCSpace
  let (neg, u) := match t with
    | '-' :: u => (true, u)
    | '+' :: u => (false, u)
    | u => (false, u)
  let whole := u.takeWhile Char.isDigit
  let u := u.dropWhile Char.isDigit
  let (frac, u) := match u with
    | '.' :: w => (w.takeWhile Char.isDigit, w.dropWhile Char.isDigit)
    | w => ([], w)
  let exp : Int := match u with
    | e :: w =>
      if e = 'e' ∨ e = 'E' then
        let (eneg, w) := match w with
          | '-' :: x => (true, x)
          | '+' :: x => (false, x)
          | x => (false, x)
        let ds := w.takeWhile Char.isDigit
        if ds = [] then 0 else if eneg then -(digitsValue ds : Int) else digitsValue ds
      else 0
    | [] => 0
  let m := digitsValue (whole ++ frac)
  let e := exp - frac.length
  let v : Nat := if 0 ≤ e then m * 10 ^ e.toNat else m / 10 ^ (-e).toNat
  if neg then -(v : Int) else v

end Inception
