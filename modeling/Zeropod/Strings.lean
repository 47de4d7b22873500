import Mathlib.Data.List.Basic
import Mathlib.Tactic.IntervalCases
import Mathlib.Data.Nat.Digits

/-!
# The Go string primitives of the config loader

`NewConfig` (`zeropod/config.go`) reads its annotations with three library calls:
`strings.Split`, `strconv.ParseUint(s, 10, 16)` and `strconv.ParseBool`; `mapstructure`
matches annotation keys with `strings.EqualFold`; and the older service's `restore` rewrites
its stdio paths with `strings.TrimPrefix` and `strings.TrimSuffix`. This module gives each of them as the Go runtime computes it, over the
characters of the string.

Go strings are byte sequences and `strings.Split` cuts at bytes. Every separator the loader
uses is ASCII, and an ASCII byte never occurs inside the UTF-8 encoding of another
character, so cutting the character list at the same character is the same split.
`strings.Split` is then `List.splitOn`: both return `[""]` on the empty string and keep the
empty pieces between adjacent separators.

## Main results

* `parseUintLoop_digits` — on ASCII digits the loop of `ParseUint` succeeds exactly when the
  whole value fits 16 bits. Its range check never fires early: the partial values only grow.
* `parseUint_toDigits` — `ParseUint` reads back the decimal rendering of every 16-bit value.
* `parseUint_error_iff` — `ParseUint` fails exactly on the strings that are not a non-empty
  run of ASCII digits of value at most `65535`.
* `split_join` — `strings.Split` undoes `strings.Join` when no piece holds the separator.
* `trimSuffix_trimPrefix_eq_self` — a prefix trim and a suffix trim that give the string back
  found neither.
-/

namespace Zeropod.Strings

/-! ## `strings.Split` and `strings.Join` -/

/-- `strings.Split(s, sep)` for a one-character separator. -/
def split (s : List Char) (sep : Char) : List (List Char) := s.splitOn sep

/-- `strings.Join(elems, sep)` for a one-character separator. -/
def join (elems : List (List Char)) (sep : Char) : List Char := [sep].intercalate elems

/-- `strings.Split` undoes `strings.Join` on a non-empty list of pieces free of the
separator. -/
theorem split_join {elems : List (List Char)} {sep : Char} (hsep : ∀ e ∈ elems, sep ∉ e)
    (hne : elems ≠ []) : split (join elems sep) sep = elems :=
  List.splitOn_intercalate elems sep hsep hne

/-- A character of a joined string is the separator or a character of a piece. -/
theorem mem_join {c sep : Char} {elems : List (List Char)} (h : c ∈ join elems sep) :
    c = sep ∨ ∃ e ∈ elems, c ∈ e := by
  induction elems with
  | nil => simp [join, List.intercalate] at h
  | cons x rest ih =>
    cases rest with
    | nil => exact .inr ⟨x, by simp, by simpa [join, List.intercalate] using h⟩
    | cons y rest =>
      simp only [join, List.intercalate, List.intersperse_cons₂, List.flatten_cons,
        List.mem_append, List.mem_singleton] at h ih
      rcases h with h | h | h
      · exact .inr ⟨x, List.mem_cons_self x _, h⟩
      · exact .inl h
      · rcases ih h with h | ⟨e, he, hc⟩
        · exact .inl h
        · exact .inr ⟨e, List.mem_cons_of_mem x he, hc⟩

theorem not_mem_join {c sep : Char} {elems : List (List Char)} (hc : c ≠ sep)
    (h : ∀ e ∈ elems, c ∉ e) : c ∉ join elems sep := fun hm =>
  (mem_join hm).elim hc fun ⟨e, he, hce⟩ => h e he hce

/-- A string free of the separator is one piece. -/
theorem split_of_not_mem {s : List Char} {sep : Char} (h : sep ∉ s) : split s sep = [s] :=
  List.splitOnP_eq_single _ _ fun c hc hceq => h (by rwa [← eq_of_beq hceq])

/-- `strings.Split` returns at least one piece, `[""]` on the empty string. -/
theorem split_ne_nil (s : List Char) (sep : Char) : split s sep ≠ [] :=
  List.splitOnP_ne_nil _ s

/-- `len(s) == 0` is `s == ""`. -/
theorem length_eq_zero_iff {s : String} : s.length = 0 ↔ s = "" :=
  ⟨fun h => String.ext (List.length_eq_zero.mp h), fun h => h ▸ rfl⟩

/-! ## `strconv.ParseUint` at base 10, 16 bits -/

/-- The two failures `strconv` reports: `strconv.ErrSyntax` and `strconv.ErrRange`. -/
inductive NumErr where
  | errSyntax
  | errRange
  deriving DecidableEq, Repr

/-- `*strconv.NumError`: the function that failed, its input, and why. -/
structure NumError where
  func : String
  num : String
  err : NumErr
  deriving DecidableEq, Repr

/-- `maxVal` of `ParseUint` at `bitSize = 16`: `1<<16 - 1`. -/
def maxVal : Nat := 2 ^ 16 - 1

/-- The value of an ASCII digit, `c - '0'`. -/
def digitVal (c : Char) : Nat := c.toNat - '0'.toNat

/--
The digit loop of `strconv.ParseUint` at base 10 and `bitSize = 16`, from the partial value
`n`. A byte outside `'0'..'9'` is a syntax error (a letter denotes a digit of at least 10,
which base 10 rejects the same way), and the first partial value above `maxVal` is a range
error. The loop's `n >= cutoff` test is left out: `cutoff` is `maxUint64/10 + 1`, and a
partial value never exceeds `maxVal`.
-/
def parseUintLoop (n : Nat) : List Char → Except NumErr Nat
  | [] => .ok n
  | c :: cs =>
    if c.isDigit then
      if maxVal < n * 10 + digitVal c then .error .errRange
      else parseUintLoop (n * 10 + digitVal c) cs
    else .error .errSyntax

/-- `strconv.ParseUint(s, 10, 16)`: the empty string is a syntax error. -/
def parseUint (s : List Char) : Except NumError Nat :=
  if s = [] then .error ⟨"ParseUint", String.mk s, .errSyntax⟩
  else (parseUintLoop 0 s).mapError fun e => ⟨"ParseUint", String.mk s, e⟩

/-- The value a run of decimal digits denotes after the partial value `n`. -/
def digitsValue (n : Nat) (cs : List Char) : Nat := cs.foldl (fun a c => a * 10 + digitVal c) n

@[simp] theorem digitsValue_nil (n : Nat) : digitsValue n [] = n := rfl

@[simp] theorem digitsValue_cons (n : Nat) (c : Char) (cs : List Char) :
    digitsValue n (c :: cs) = digitsValue (n * 10 + digitVal c) cs := rfl

theorem digitsValue_append (n : Nat) (cs ds : List Char) :
    digitsValue n (cs ++ ds) = digitsValue (digitsValue n cs) ds := by
  simp [digitsValue, List.foldl_append]

/-- Appending digits never lowers the value. -/
theorem le_digitsValue (n : Nat) (cs : List Char) : n ≤ digitsValue n cs := by
  induction cs generalizing n with
  | nil => exact le_refl n
  | cons c cs ih => exact le_trans (by omega) (ih (n * 10 + digitVal c))

/-- **The digit loop**: on ASCII digits it returns the value they denote when that value
fits 16 bits, and a range error otherwise. -/
theorem parseUintLoop_digits {n : Nat} {cs : List Char} (hn : n ≤ maxVal)
    (hcs : ∀ c ∈ cs, c.isDigit) :
    parseUintLoop n cs =
      if digitsValue n cs ≤ maxVal then .ok (digitsValue n cs) else .error .errRange := by
  induction cs generalizing n with
  | nil => simp [parseUintLoop, hn]
  | cons c cs ih =>
    have hc : c.isDigit := hcs c (List.mem_cons_self c cs)
    have hle := le_digitsValue (n * 10 + digitVal c) cs
    simp only [parseUintLoop, hc, if_true, digitsValue_cons]
    split
    · rw [if_neg (by omega)]
    · exact ih (by omega) fun d hd => hcs d (List.mem_cons_of_mem c hd)

/-- The tokens `ParseUint(_, 10, 16)` accepts: non-empty runs of ASCII digits whose value fits
16 bits. -/
def Uint16Token (tok : List Char) : Prop :=
  tok ≠ [] ∧ (∀ c ∈ tok, c.isDigit) ∧ digitsValue 0 tok ≤ maxVal

instance : DecidablePred Uint16Token := fun tok =>
  inferInstanceAs (Decidable (tok ≠ [] ∧ (∀ c ∈ tok, c.isDigit) ∧ digitsValue 0 tok ≤ maxVal))

/-- The digit loop fails exactly on a non-digit or a value above 16 bits, whichever it meets. -/
theorem parseUintLoop_error_iff {n : Nat} {cs : List Char} (hn : n ≤ maxVal) :
    (∃ e, parseUintLoop n cs = .error e) ↔
      ¬ ((∀ c ∈ cs, c.isDigit) ∧ digitsValue n cs ≤ maxVal) := by
  induction cs generalizing n with
  | nil => simp [parseUintLoop, hn]
  | cons c cs ih =>
    simp only [parseUintLoop, List.mem_cons, forall_eq_or_imp, digitsValue_cons]
    by_cases hc : c.isDigit
    · have hle := le_digitsValue (n * 10 + digitVal c) cs
      simp only [hc, if_true, true_and]
      split
      · exact ⟨fun _ h => by omega, fun _ => ⟨_, rfl⟩⟩
      · exact ih (by omega)
    · simp [hc]

/-- **`ParseUint` rejects exactly the tokens outside `Uint16Token`**: the empty string, a
non-digit, or a value above `65535`, which is never truncated. -/
theorem parseUint_error_iff (tok : List Char) :
    (∃ e, parseUint tok = .error e) ↔ ¬ Uint16Token tok := by
  unfold parseUint Uint16Token
  split
  · simp [*]
  · rename_i hne
    simp only [hne, ne_eq, not_false_eq_true, true_and]
    rw [← parseUintLoop_error_iff (Nat.zero_le maxVal)]
    cases parseUintLoop 0 tok <;> simp [Except.mapError]

/-! ## Decimal renderings read back -/

/-- The digit characters `Nat.digitChar` renders below ten. -/
theorem digitChar_isDigit {k : Nat} (hk : k < 10) :
    (Nat.digitChar k).isDigit ∧ digitVal (Nat.digitChar k) = k := by
  interval_cases k <;> decide

/-- `Nat.toDigitsCore` at base ten puts the digits of `n` in front of its accumulator. -/
theorem toDigitsCore_digits (f n : Nat) (ds : List Char) (hf : n < f) :
    ∃ pre, Nat.toDigitsCore 10 f n ds = pre ++ ds ∧ pre ≠ [] ∧
      (∀ c ∈ pre, c.isDigit) ∧ digitsValue 0 pre = n := by
  induction f generalizing n ds with
  | zero => omega
  | succ f ih =>
    obtain ⟨hdig, hval⟩ := digitChar_isDigit (Nat.mod_lt n (by omega : 10 > 0))
    by_cases hq : n / 10 = 0
    · refine ⟨[Nat.digitChar (n % 10)], by simp [Nat.toDigitsCore, hq], by simp, by simpa, ?_⟩
      simp only [digitsValue_cons, digitsValue_nil, hval]
      omega
    · obtain ⟨pre, hpre, hne, hpd, hpv⟩ := ih (n / 10) (Nat.digitChar (n % 10) :: ds) (by omega)
      refine ⟨pre ++ [Nat.digitChar (n % 10)], ?_, by simp, ?_, ?_⟩
      · simp [Nat.toDigitsCore, hq, hpre]
      · intro c hc
        rcases List.mem_append.mp hc with hc | hc
        · exact hpd c hc
        · rw [List.mem_singleton.mp hc]; exact hdig
      · rw [digitsValue_append, hpv, digitsValue_cons, digitsValue_nil, hval]
        omega

/-- A decimal rendering holds only ASCII digits. -/
theorem isDigit_of_mem_toDigits {p : Nat} {c : Char} (hc : c ∈ Nat.toDigits 10 p) : c.isDigit := by
  obtain ⟨pre, hpre, -, hpd, -⟩ := toDigitsCore_digits (p + 1) p [] (by omega)
  rw [Nat.toDigits, hpre, List.append_nil] at hc
  exact hpd c hc

/-- **Round trip**: `ParseUint` reads back the decimal rendering of every 16-bit value. -/
theorem parseUint_toDigits {p : Nat} (hp : p ≤ maxVal) : parseUint (Nat.toDigits 10 p) = .ok p := by
  obtain ⟨pre, hpre, hne, hpd, hpv⟩ := toDigitsCore_digits (p + 1) p [] (by omega)
  rw [List.append_nil] at hpre
  simp only [Nat.toDigits, hpre, parseUint, if_neg hne,
    parseUintLoop_digits (Nat.zero_le maxVal) hpd, hpv, if_pos hp]
  rfl

/-! ## `strings.EqualFold` -/

/-- The rune `c` folds onto the ASCII rune `t` under `unicode.SimpleFold`: it is `t`, the other
case of the letter `t`, or, for `k` and `s`, the Kelvin sign `U+212A` or the long s `U+017F`,
the only runes outside ASCII whose fold orbit holds an ASCII letter. -/
def foldsTo (c t : Char) : Bool :=
  c == t || (t.isAlpha && c.toLower == t.toLower) ||
    (t.toLower == 'k' && c == '\u212A') || (t.toLower == 's' && c == '\u017F')

/-- `strings.EqualFold(s, t)` for an ASCII `t`, as every tag `mapstructure` matches a key
against is: both have the same number of runes, and each rune of `s` folds onto the rune of `t`
at its place. -/
def equalFold (s t : String) : Bool :=
  s.length == t.length && (s.toList.zip t.toList).all fun p => foldsTo p.1 p.2

/-! ## `strings.TrimPrefix` and `strings.TrimSuffix` -/

/-- `strings.TrimPrefix(s, prefix)`. -/
def trimPrefix (s pre : String) : String :=
  if pre.data <+: s.data then ⟨s.data.drop pre.data.length⟩ else s

/-- `strings.TrimSuffix(s, suffix)`. -/
def trimSuffix (s suf : String) : String :=
  if suf.data <:+ s.data then ⟨s.data.take (s.data.length - suf.data.length)⟩ else s

theorem length_trimSuffix_le (s suf : String) :
    (trimSuffix s suf).data.length ≤ s.data.length := by
  unfold trimSuffix
  split_ifs
  · simp only [List.length_take]
    omega
  · exact le_rfl

/-- Trimming a non-empty prefix changes the string exactly when the prefix is there. -/
theorem trimPrefix_eq_self_iff (s : String) {pre : String} (hpre : pre.data ≠ []) :
    trimPrefix s pre = s ↔ ¬ pre.data <+: s.data := by
  unfold trimPrefix
  split_ifs with h
  · have hlen := h.length_le
    have hpos := List.length_pos.mpr hpre
    refine iff_of_false (fun heq => ?_) (not_not.mpr h)
    have := congrArg (fun t : String => t.data.length) heq
    simp only [List.length_drop] at this
    omega
  · exact iff_of_true rfl h

theorem trimSuffix_eq_self_iff (s : String) {suf : String} (hsuf : suf.data ≠ []) :
    trimSuffix s suf = s ↔ ¬ suf.data <:+ s.data := by
  unfold trimSuffix
  split_ifs with h
  · have hlen := h.length_le
    have hpos := List.length_pos.mpr hsuf
    refine iff_of_false (fun heq => ?_) (not_not.mpr h)
    have := congrArg (fun t : String => t.data.length) heq
    simp only [List.length_take] at this
    omega
  · exact iff_of_true rfl h

/-- A prefix trim followed by a suffix trim that gives the string back trimmed nothing: the
string has neither the prefix nor the suffix. -/
theorem trimSuffix_trimPrefix_eq_self {s pre suf : String} (hpre : pre.data ≠ [])
    (hsuf : suf.data ≠ []) (h : trimSuffix (trimPrefix s pre) suf = s) :
    ¬ pre.data <+: s.data ∧ ¬ suf.data <:+ s.data := by
  have hge : s.data.length ≤ (trimPrefix s pre).data.length :=
    (congrArg (fun t : String => t.data.length) h).symm.le.trans (length_trimSuffix_le _ _)
  have hp : ¬ pre.data <+: s.data := fun hpr => by
    have hpos := List.length_pos.mpr hpre
    have hle := hpr.length_le
    simp only [trimPrefix, if_pos hpr, List.length_drop] at hge
    omega
  rw [(trimPrefix_eq_self_iff s hpre).mpr hp] at h
  exact ⟨hp, (trimSuffix_eq_self_iff s hsuf).mp h⟩

/-! ## `strconv.ParseBool` -/

/-- `strconv.ParseBool(str)`. -/
def parseBool (str : String) : Except NumError Bool :=
  if str ∈ ["1", "t", "T", "true", "TRUE", "True"] then .ok true
  else if str ∈ ["0", "f", "F", "false", "FALSE", "False"] then .ok false
  else .error ⟨"ParseBool", str, .errSyntax⟩

end Zeropod.Strings
