import Runsheet.Python.Builtins

/-!
# `INJECTION_PATTERNS`

The ten regular expressions of `ingestion/service.py`, as `re` compiles them: every
pattern is `IGNORECASE`, and the first one is also `DOTALL`. Each is written in a small
syntax with single characters tested by a predicate, repetitions of one such character,
concatenation, alternation, the empty pattern and `\b`. A pattern denotes every way it
can match at a position (`Pattern.ends`). `pattern.search(s)` is true when it matches at
some position.

Two things come from the Unicode database, which is not part of the repository:

* which code points `str.isalnum()` accepts. `\w` and `\b` read it. It is the parameter
  `unicodeAlnum`, consulted only outside ASCII, where the answer is `[0-9A-Za-z]`;
* the simple lowercase mapping that `IGNORECASE` compares with. The only code points
  outside ASCII that map to an ASCII letter are `İ` (U+0130, to `i`) and the Kelvin sign
  (U+212A, to `k`). `re` adds its own equivalences `i`~`ı` (U+0131) and `s`~`ſ` (U+017F).
-/

namespace Runsheet.Ingestion

open Runsheet.Python

/-- A regular expression in the fragment `INJECTION_PATTERNS` uses. -/
inductive Pattern where
  /-- The empty pattern. -/
  | empty
  /-- One character that passes `test`. -/
  | char (test : Nat → Bool)
  /-- `atLeast` or more characters that each pass `test`: `c*` or `c+`. -/
  | star (test : Nat → Bool) (atLeast : Nat)
  | seq (first rest : Pattern)
  | alt (left right : Pattern)
  /-- `\b`, for the word characters `word`. -/
  | wordBoundary (word : Nat → Bool)

/-- Every way `atLeast` or more characters passing `test` start `s`: the last character
consumed (or `prev`) and what is left. -/
def starEnds (test : Nat → Bool) : Nat → Option Nat → PyStr → List (Option Nat × PyStr)
  | atLeast, prev, s =>
    (if atLeast = 0 then [(prev, s)] else []) ++
      match s with
      | c :: rest => if test c then starEnds test (atLeast - 1) (some c) rest else []
      | [] => []

namespace Pattern

/-- Every way the pattern matches a prefix of `s`, the text after the character `prev`:
the last character it consumed (or `prev`) and what is left. -/
def ends : Pattern → Option Nat → PyStr → List (Option Nat × PyStr)
  | .empty, prev, s => [(prev, s)]
  | .char test, _, c :: rest => if test c then [(some c, rest)] else []
  | .char _, _, [] => []
  | .star test atLeast, prev, s => starEnds test atLeast prev s
  | .seq p q, prev, s => (p.ends prev s).flatMap fun (prev', s') => q.ends prev' s'
  | .alt p q, prev, s => p.ends prev s ++ q.ends prev s
  | .wordBoundary word, prev, s =>
    if prev.any word != s.head?.any word then [(prev, s)] else []

/-- Whether the pattern matches at some position of `s`, the text after `prev`. -/
def searchFrom (p : Pattern) : Option Nat → PyStr → Bool
  | prev, s =>
    !(p.ends prev s).isEmpty ||
      match s with
      | c :: rest => p.searchFrom (some c) rest
      | [] => false

/-- `pattern.search(s)`. -/
def search (p : Pattern) (s : PyStr) : Bool := p.searchFrom none s

end Pattern

/-- The simple lowercase mapping, on the code points it sends to an ASCII letter. Other code
points are left as they are: none of them maps to an ASCII character, which is all the
patterns compare with. -/
def asciiLower (c : Nat) : Nat :=
  if 0x41 ≤ c ∧ c ≤ 0x5A then c + 0x20
  else if c = 0x130 then 0x69
  else if c = 0x212A then 0x6B
  else c

/-- A pattern character under `IGNORECASE`: an input character matches when its lowercase
is the pattern character's, or is in `re`'s class of extra equivalences for it. -/
def foldsTo (p : Char) (c : Nat) : Bool :=
  let lo := p.toLower.toNat
  asciiLower c == lo || (lo == 0x69 && c == 0x131) || (lo == 0x73 && c == 0x17F)

/-- Literal pattern characters, one after another. -/
def literal : List Char → Pattern
  | [] => .empty
  | [c] => .char (foldsTo c)
  | c :: cs => .seq (.char (foldsTo c)) (literal cs)

/-- Alternatives, tried in order. -/
def alternatives : List Pattern → Pattern
  | [] => .char fun _ => false
  | [p] => p
  | p :: ps => .alt p (alternatives ps)

section Database

variable (unicodeAlnum : Nat → Bool)

/-- `\w` on a `str` pattern: `str.isalnum()` or `_`. -/
def isWord (c : Nat) : Bool :=
  c == 0x5F ||
    if c < 0x80 then (0x30 ≤ c && c ≤ 0x39) || (0x41 ≤ c && c ≤ 0x5A) || (0x61 ≤ c && c ≤ 0x7A)
    else unicodeAlnum c

/-- `INJECTION_PATTERNS`, in order. -/
def injectionPatterns : List Pattern :=
  [ -- `<script[^>]*>.*?</script>`, `IGNORECASE | DOTALL`
    .seq (literal "<script".toList)
      (.seq (.star (· != 0x3E) 0)
        (.seq (literal ">".toList) (.seq (.star (fun _ => true) 0) (literal "</script>".toList)))),
    -- `javascript:`
    literal "javascript:".toList,
    -- `on\w+\s*=`
    .seq (literal "on".toList)
      (.seq (.star (isWord unicodeAlnum) 1) (.seq (.star isSpace 0) (literal "=".toList))),
    -- `(\b(SELECT|INSERT|UPDATE|DELETE|DROP|UNION|ALTER|CREATE|TRUNCATE)\b)`
    .seq (.wordBoundary (isWord unicodeAlnum))
      (.seq (alternatives (["SELECT", "INSERT", "UPDATE", "DELETE", "DROP", "UNION", "ALTER",
          "CREATE", "TRUNCATE"].map fun k => literal k.toList))
        (.wordBoundary (isWord unicodeAlnum))),
    -- `(--|;|/\*|\*/)`
    alternatives [literal "--".toList, literal ";".toList, literal "/*".toList, literal "*/".toList],
    -- `\$\w+`
    .seq (literal "$".toList) (.star (isWord unicodeAlnum) 1),
    -- `\{\s*"\$`: an opening brace (U+007B), spaces, a double quote and a dollar sign
    .seq (.char (· == 0x7B)) (.seq (.star isSpace 0) (literal "\"$".toList)),
    -- `\.\./`
    literal "../".toList,
    -- `\.\.\\`
    literal "..\\".toList,
    -- `\x00`
    literal ['\x00'] ]

end Database

end Runsheet.Ingestion
