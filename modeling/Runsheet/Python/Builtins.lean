import Mathlib.Data.Nat.Digits

/-!
# Python built-ins

A Python `str` is a sequence of code points, lone surrogates included, so it is a list of
natural numbers here. Lean's `Char` has no surrogates, so it cannot be the element type.
`pyStr` turns a Lean literal into one. On top of that, this module gives the `str` methods
that `ingestion/service.py` and `config/settings.py` call, a Python `float` with its
comparisons and the `*` and `**` that `resilience/retry.py` computes, rounded to doubles as
IEEE 754 rounds, and `datetime.isoformat()`. The rounding is computed exactly, so a statement
about a particular float evaluates by `decide`. `isoformat_chars` says which characters
`isoformat` can write.
-/

namespace Runsheet.Python

/-- A Python `str`: its code points. -/
abbrev PyStr := List Nat

/-- The code points of a Lean string literal. -/
def pyStr (s : String) : PyStr := s.toList.map Char.toNat

/-- `Py_UNICODE_ISSPACE`: the characters `str.isspace()`, `str.strip()` and `\s` treat as
white space. These are the characters of bidirectional class WS, B or S, or of category Zs. -/
def isSpace (c : Nat) : Bool :=
  (0x09 ≤ c && c ≤ 0x0D) || (0x1C ≤ c && c ≤ 0x20) || c == 0x85 || c == 0xA0 ||
    c == 0x1680 || (0x2000 ≤ c && c ≤ 0x200A) || c == 0x2028 || c == 0x2029 ||
    c == 0x202F || c == 0x205F || c == 0x3000

/-- `s.strip()`. -/
def strip (s : PyStr) : PyStr :=
  ((s.dropWhile isSpace).reverse.dropWhile isSpace).reverse

/-- `s.strip(chars)`. -/
def stripChars (chars s : PyStr) : PyStr :=
  ((s.dropWhile (· ∈ chars)).reverse.dropWhile (· ∈ chars)).reverse

/-- `s.strip(chars)` is empty exactly when every character of `s` is one of `chars`. -/
theorem stripChars_eq_nil (chars s : PyStr) : stripChars chars s = [] ↔ ∀ c ∈ s, c ∈ chars := by
  have dropped := List.dropWhile_eq_nil_iff (p := fun c => decide (c ∈ chars)) (l := s)
  simp only [decide_eq_true_eq] at dropped
  rw [← dropped, stripChars, List.reverse_eq_nil_iff, List.dropWhile_eq_nil_iff]
  constructor
  · intro stripped
    cases rest : s.dropWhile (· ∈ chars) with
    | nil => rfl
    | cons c _ =>
      have kept := List.head_dropWhile_not (fun c => decide (c ∈ chars)) s (by simp [rest])
      simp only [rest, List.head_cons, decide_eq_true_eq] at kept
      exact absurd (stripped c (by simp [rest])) (by simpa using kept)
  · intro empty
    simp [empty]

/-- `s.replace(old, new)` for a one-character `old`. -/
def replace (s : PyStr) (old : Nat) (new : PyStr) : PyStr :=
  s.flatMap fun c => if c = old then new else [c]

/-- `s.startswith(head)`. -/
def startswith (s head : PyStr) : Bool := head.isPrefixOf s

/-- `sub in s`. -/
def isIn (sub s : PyStr) : Bool := s.tails.any sub.isPrefixOf

/-- `s.upper()` or `s.lower()`, given the interpreter's full case mapping of one code point,
which may give several (`"ß".upper()` is `"SS"`). -/
def mapCase (caseMap : Nat → PyStr) (s : PyStr) : PyStr := s.flatMap caseMap

@[simp] theorem isIn_nil (sub : PyStr) : isIn sub [] = sub.isEmpty := by
  cases sub <;> rfl

/-- A one-character `sub in s` is membership. -/
@[simp] theorem isIn_singleton (c : Nat) (s : PyStr) : isIn [c] s = true ↔ c ∈ s := by
  induction s with
  | nil => simp
  | cons a s ih =>
    simp only [isIn, List.tails, List.any_cons, Bool.or_eq_true] at ih ⊢
    simp [List.isPrefixOf, ih]

/-- `"%0{width}d" % n` for `n ≥ 0`. -/
def pad (width n : Nat) : PyStr :=
  let digits := (Nat.toDigits 10 n).map Char.toNat
  List.replicate (width - digits.length) '0'.toNat ++ digits

/-! ### `float` -/

/-- A Python `float`. Every finite double is `mantissa * 10 ^ exponent` for some integers,
since a binary fraction is a decimal one; the others are the two infinities and NaN. The
sign of a zero is not kept: `-0.0` is `0.0` here. -/
inductive PyFloat where
  | finite (mantissa exponent : Int)
  | inf (negative : Bool)
  | nan
  deriving DecidableEq, Repr

/-- The largest `k < low + 2 ^ steps` with `2 ^ k ≤ n`, or `low`: a binary search over the
bits of `k` from `2 ^ (steps - 1)` down. -/
def log2Search (n : Nat) : Nat → Nat → Nat
  | 0, low => low
  | s + 1, low =>
    if 2 ^ (low + 2 ^ s) ≤ n then log2Search n s (low + 2 ^ s) else log2Search n s low

/-- The least `s` from `s` on with `n < 2 ^ 2 ^ s`, trying `fuel` of them. -/
def log2Steps (n : Nat) : Nat → Nat → Nat
  | 0, s => s
  | fuel + 1, s => if n < 2 ^ 2 ^ s then s else log2Steps n fuel (s + 1)

/-- `⌊log₂ n⌋`, and `0` for `0`. `Nat.log2` recurses by well-founded recursion, which the
kernel does not unfold, so this one searches by comparisons with powers of two. -/
def log2 (n : Nat) : Nat := log2Search n (log2Steps n n 0) 0

example : log2 1000 = 9 ∧ log2 1 = 0 ∧ log2 0 = 0 := by decide

namespace PyFloat

/-- An `int` operand of a comparison. -/
def ofInt (n : Int) : PyFloat := .finite n 0

/-- `a <= b`. Every comparison with NaN is false. -/
def le : PyFloat → PyFloat → Bool
  | .nan, _ => false
  | _, .nan => false
  | .inf true, _ => true
  | _, .inf false => true
  | .inf false, _ => false
  | _, .inf true => false
  | .finite m e, .finite m' e' =>
    let low := min e e'
    decide (m * 10 ^ (e - low).toNat ≤ m' * 10 ^ (e' - low).toNat)

/-- `a < b`. -/
def lt (a b : PyFloat) : Bool := a.le b && !b.le a

/-! #### Rounding to a double -/

/-- Moves the factors of two of the significand `s` into a negative exponent `e`. -/
def dropTwos : Nat → Nat → Int → Nat × Int
  | 0, s, e => (s, e)
  | fuel + 1, s, e =>
    if e < 0 ∧ 0 < s ∧ s % 2 = 0 then dropTwos fuel (s / 2) (e + 1) else (s, e)

/-- `±significand * 2 ^ shift` as a decimal: an integer with exponent `0`, any other value
with the fewest decimals, so that equal values are one `PyFloat`. -/
def ofDyadic (negative : Bool) (significand : Nat) (shift : Int) : PyFloat :=
  let (s, e) := dropTwos 54 significand shift
  let signed (m : Nat) : Int := if negative then -m else m
  if s = 0 ∨ 0 ≤ e then .finite (signed (s * 2 ^ e.toNat)) 0
  else .finite (signed (s * 5 ^ (-e).toNat)) e

/-- The double nearest to `±num / den` (for `0 < den`), ties to even, as IEEE 754 binary64
rounds: a significand of 53 bits over the exponent `max (⌊log₂ (num / den)⌋ - 52) (-1074)`,
and the infinity of the sign once the rounded value reaches `2 ^ 1024`. -/
def ofRatio (negative : Bool) (num den : Nat) : PyFloat :=
  let k : Int := (log2 num : Int) - log2 den
  let floorLog := if (if 0 ≤ k then den * 2 ^ k.toNat ≤ num else den ≤ num * 2 ^ (-k).toNat)
    then k else k - 1
  let shift := max (floorLog - 52) (-1074)
  let n := if 0 ≤ shift then num else num * 2 ^ (-shift).toNat
  let d := if 0 ≤ shift then den * 2 ^ shift.toNat else den
  let q := n / d
  let significand := if d < 2 * (n % d) ∨ (2 * (n % d) = d ∧ q % 2 = 1) then q + 1 else q
  if 1024 ≤ (log2 significand : Int) + shift then .inf negative
  else ofDyadic negative significand shift

/-- The magnitude of `mantissa * 10 ^ exponent` as a numerator and a denominator. -/
def magnitude (mantissa exponent : Int) : Nat × Nat :=
  if 0 ≤ exponent then (mantissa.natAbs * 10 ^ exponent.toNat, 1)
  else (mantissa.natAbs, 10 ^ (-exponent).toNat)

example : ofRatio false 1 10 =
    .finite 1000000000000000055511151231257827021181583404541015625 (-55) := by decide

/-! #### Arithmetic -/

/-- `a * b`: the exact product rounded to a double. It overflows to an infinity without an
exception, and `0 * inf` is NaN. -/
def mul : PyFloat → PyFloat → PyFloat
  | .nan, _ => .nan
  | _, .nan => .nan
  | .inf a, .inf b => .inf (a != b)
  | .inf a, .finite m _ => if m = 0 then .nan else .inf (a != decide (m < 0))
  | .finite m _, .inf b => if m = 0 then .nan else .inf (decide (m < 0) != b)
  | .finite m e, .finite m' e' =>
    let (n, d) := magnitude m e
    let (n', d') := magnitude m' e'
    ofRatio (decide (m < 0) != decide (m' < 0)) (n * n') (d * d')

/-- `x ** n` rounded once to a double, with the infinity of its sign past the largest:
IEEE 754 `pown`, which C's `pow` computes for an integral exponent. -/
def powRound (x : PyFloat) (n : Nat) : PyFloat :=
  if n = 0 then .finite 1 0 else
  match x with
  | .nan => .nan
  | .inf negative => .inf (negative && n % 2 == 1)
  | .finite m e =>
    let (num, den) := magnitude m e
    ofRatio (decide (m < 0) && n % 2 == 1) (num ^ n) (den ^ n)

/-- `x ** n` for an `int` exponent `n ≥ 0`, as CPython's `float_pow` computes it with the
platform's `pow`, taken here to be correctly rounded: `none` is the `OverflowError` it raises
when a finite base gives an infinity. -/
def pow (x : PyFloat) (n : Nat) : Option PyFloat :=
  match x, x.powRound n with
  | .finite _ _, .inf _ => none
  | _, result => some result

example : (finite 2 0).pow 3 = some (.finite 8 0) ∧ (ofRatio false 1 10).mul (.finite 3 0) =
    .finite 3000000000000000444089209850062616169452667236328125 (-52) := by decide

end PyFloat

/-! ### `datetime` -/

/-- A `datetime`: its fields, and `utcoffset()` in microseconds when it is aware. -/
structure DateTime where
  year : Nat
  month : Nat
  day : Nat
  hour : Nat
  minute : Nat
  second : Nat
  microsecond : Nat := 0
  utcoffset : Option Int := none
  deriving DecidableEq, Repr

/-- `_format_offset(off)`: `±HH:MM`, then `:SS` and `.ffffff` when they are not zero. -/
def formatOffset : Option Int → PyStr
  | none => []
  | some off =>
    let sign := if off < 0 then pyStr "-" else pyStr "+"
    let rest := off.natAbs % 3600000000
    let seconds := rest % 60000000
    sign ++ pad 2 (off.natAbs / 3600000000) ++ pyStr ":" ++ pad 2 (rest / 60000000) ++
      if seconds = 0 then []
      else pyStr ":" ++ pad 2 (seconds / 1000000) ++
        if seconds % 1000000 = 0 then [] else pyStr "." ++ pad 6 (seconds % 1000000)

/-- `d.isoformat()`. -/
def DateTime.isoformat (d : DateTime) : PyStr :=
  pad 4 d.year ++ pyStr "-" ++ pad 2 d.month ++ pyStr "-" ++ pad 2 d.day ++ pyStr "T" ++
    pad 2 d.hour ++ pyStr ":" ++ pad 2 d.minute ++ pyStr ":" ++ pad 2 d.second ++
    (if d.microsecond = 0 then [] else pyStr "." ++ pad 6 d.microsecond) ++
    formatOffset d.utcoffset

example : DateTime.isoformat ⟨2024, 1, 15, 10, 30, 0, 0, some 0⟩ =
    pyStr "2024-01-15T10:30:00+00:00" := by decide

/-! ### What `isoformat` writes -/

/-- `Nat.digitChar` writes a decimal digit for every `k < 10`. -/
theorem digitChar_mem_digits : ∀ k < 10, (Nat.digitChar k).toNat ∈ pyStr "0123456789" := by
  decide

/-- Every character `toDigitsCore` puts before `ds` is the digit of a remainder by 10. -/
theorem mem_toDigitsCore {fuel n : Nat} {ds : List Char} {c : Char}
    (mem : c ∈ Nat.toDigitsCore 10 fuel n ds) : c ∈ ds ∨ ∃ m, c = Nat.digitChar (m % 10) := by
  induction fuel generalizing n ds with
  | zero => exact .inl mem
  | succ fuel ih =>
    simp only [Nat.toDigitsCore] at mem
    split at mem
    · rcases List.mem_cons.mp mem with rfl | old
      · exact .inr ⟨n, rfl⟩
      · exact .inl old
    · rcases ih mem with pushed | digit
      · rcases List.mem_cons.mp pushed with rfl | old
        · exact .inr ⟨n, rfl⟩
        · exact .inl old
      · exact .inr digit

/-- `"%0{width}d"` writes digits only. -/
theorem pad_digits (width n : Nat) : pad width n ⊆ pyStr "0123456789" := by
  intro c mem
  simp only [pad, List.mem_append, List.mem_replicate, List.mem_map] at mem
  rcases mem with ⟨-, rfl⟩ | ⟨d, written, rfl⟩
  · decide
  · rcases mem_toDigitsCore written with nothing | ⟨m, rfl⟩
    · cases nothing
    · exact digitChar_mem_digits _ (Nat.mod_lt _ (by decide))

theorem formatOffset_chars (off : Option Int) : formatOffset off ⊆ pyStr "0123456789+-:." := by
  have digits : ∀ w n, pad w n ⊆ pyStr "0123456789+-:." :=
    fun w n _ mem => (by decide : pyStr "0123456789" ⊆ _) (pad_digits w n mem)
  have signs : pyStr "+" ⊆ pyStr "0123456789+-:." ∧ pyStr "-" ⊆ pyStr "0123456789+-:." ∧
      pyStr ":" ⊆ pyStr "0123456789+-:." ∧ pyStr "." ⊆ pyStr "0123456789+-:." := by decide
  cases off with
  | none => exact List.nil_subset _
  | some off =>
    simp only [formatOffset, List.append_subset, digits, signs, and_true]
    refine ⟨by split <;> simp only [signs], ?_⟩
    split
    · exact List.nil_subset _
    · simp only [List.append_subset, digits, signs, true_and]
      split
      · exact List.nil_subset _
      · simp only [List.append_subset, digits, signs, and_self]

/-- `isoformat` writes digits and `-`, `T`, `:`, `.` and `+` only. -/
theorem isoformat_chars (d : DateTime) : d.isoformat ⊆ pyStr "0123456789-T:.+" := by
  have digits : ∀ w n, pad w n ⊆ pyStr "0123456789-T:.+" :=
    fun w n _ mem => (by decide : pyStr "0123456789" ⊆ _) (pad_digits w n mem)
  have offset : formatOffset d.utcoffset ⊆ pyStr "0123456789-T:.+" :=
    fun _ mem => (by decide : pyStr "0123456789+-:." ⊆ _) (formatOffset_chars _ mem)
  have separators : pyStr "-" ⊆ pyStr "0123456789-T:.+" ∧ pyStr "T" ⊆ pyStr "0123456789-T:.+" ∧
      pyStr ":" ⊆ pyStr "0123456789-T:.+" ∧ pyStr "." ⊆ pyStr "0123456789-T:.+" := by decide
  simp only [DateTime.isoformat, List.append_subset, digits, offset, separators, and_true,
    true_and]
  split
  · exact List.nil_subset _
  · simp only [List.append_subset, digits, separators, and_self]

end Runsheet.Python
