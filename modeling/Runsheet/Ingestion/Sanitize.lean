import Runsheet.Ingestion.Patterns

/-!
# `sanitize_string`

`sanitize_string` searches the raw value for `INJECTION_PATTERNS`, removes null bytes,
escapes `& < > " '` by chained `str.replace` calls, `&` first, and then drops the characters
below `' '` other than `\n` and `\t`.

## Main results

* `sanitizeString_ok`: an accepted value is sanitized to the escaping of its kept characters;
* `sanitizeString_escapes`: the stored text has no `<`, `>`, `"` or `'`, no character below
  `' '` other than `\n` and `\t`, and every `&` in it opens one of the five entities;
* `sanitizeString_eq_iff`: two accepted values are sanitized alike exactly when they agree
  once the dropped characters are removed;
* `sanitizeString_covers_clean`: when no character of an accepted value is dropped, its
  stored text decodes to the value itself, which matches no pattern;
* `control_character_splits_pattern`: the pattern check runs before the control characters
  are removed, so a control character inside `javascript:` passes the check and the removal
  assembles the pattern in the stored text;
* `delete_character_survives`: the filter keeps DEL (U+007F) and the C1 controls, although
  the comment above it promises to remove control characters.
-/

namespace Runsheet.Ingestion

open Runsheet.Python

/-- `LocationUpdate.validate_truck_id`: the stripped id, or the message of its `ValueError`. -/
def validateTruckId (v : PyStr) : Except PyStr PyStr :=
  if v.isEmpty || (strip v).isEmpty then .error (pyStr "truck_id cannot be empty")
  else if 100 < v.length then .error (pyStr "truck_id cannot exceed 100 characters")
  else .ok (strip v)

/-- The characters the last step of `sanitize_string` keeps: `char >= ' ' or char in '\n\t'`. -/
def keep (char : Nat) : Bool := ' '.toNat ≤ char || char == '\n'.toNat || char == '\t'.toNat

/-- `sanitize_string(value)`: the sanitized text, or the message of the `ValueError` it
raises. -/
def sanitizeString (unicodeAlnum : Nat → Bool) (value : PyStr) : Except PyStr PyStr :=
  if value.isEmpty then .ok value
  else if (injectionPatterns unicodeAlnum).any (·.search value) then
    .error (pyStr "Input contains potentially dangerous pattern")
  else
    let sanitized := replace value 0x00 []
    let sanitized := replace sanitized '&'.toNat (pyStr "&amp;")
    let sanitized := replace sanitized '<'.toNat (pyStr "&lt;")
    let sanitized := replace sanitized '>'.toNat (pyStr "&gt;")
    let sanitized := replace sanitized '"'.toNat (pyStr "&quot;")
    let sanitized := replace sanitized 0x27 (pyStr "&#x27;")
    .ok (sanitized.filter keep)

/-! ### The escaping, one character at a time -/

/-- What the chained `replace` calls make of one character. -/
def escapeChar (c : Nat) : PyStr :=
  if c = '&'.toNat then pyStr "&amp;"
  else if c = '<'.toNat then pyStr "&lt;"
  else if c = '>'.toNat then pyStr "&gt;"
  else if c = '"'.toNat then pyStr "&quot;"
  else if c = 0x27 then pyStr "&#x27;"
  else [c]

/-- The five entities the escaping writes: the text after the `&`, and the character it
stands for. -/
def entities : List (PyStr × Nat) :=
  [(pyStr "amp;", '&'.toNat), (pyStr "lt;", '<'.toNat), (pyStr "gt;", '>'.toNat),
    (pyStr "quot;", '"'.toNat), (pyStr "#x27;", 0x27)]

/-- Decoding the five entities from left to right, one character at a time. `pending` holds
what followed an `&` while it may still begin an entity. -/
def decodeFrom : Option PyStr → PyStr → PyStr
  | none, [] => []
  | some pending, [] => '&'.toNat :: pending
  | none, c :: rest => if c = '&'.toNat then decodeFrom (some []) rest else c :: decodeFrom none rest
  | some pending, c :: rest =>
    match entities.find? (·.1 == pending ++ [c]) with
    | some (_, decoded) => decoded :: decodeFrom none rest
    | none =>
      if entities.any fun e => (pending ++ [c]).isPrefixOf e.1 then
        decodeFrom (some (pending ++ [c])) rest
      else '&'.toNat :: pending ++
        if c = '&'.toNat then decodeFrom (some []) rest else c :: decodeFrom none rest

/-- The text with its `&amp;`, `&lt;`, `&gt;`, `&quot;` and `&#x27;` decoded to `&`, `<`,
`>`, `"` and `'`. -/
def decodeEntities (s : PyStr) : PyStr := decodeFrom none s

/-- The escaping writes a character as itself, or as `&` and the entity that stands for it. -/
theorem escapeChar_cases (c : Nat) :
    (escapeChar c = [c] ∧ c ≠ '&'.toNat ∧ c ≠ '<'.toNat ∧ c ≠ '>'.toNat ∧ c ≠ '"'.toNat ∧ c ≠ 0x27) ∨
      ∃ e ∈ entities, c = e.2 ∧ escapeChar c = '&'.toNat :: e.1 := by
  unfold escapeChar
  by_cases amp : c = '&'.toNat
  · exact .inr ⟨(pyStr "amp;", '&'.toNat), by decide, amp, by rw [if_pos amp]; rfl⟩
  rw [if_neg amp]
  by_cases lt : c = '<'.toNat
  · exact .inr ⟨(pyStr "lt;", '<'.toNat), by decide, lt, by rw [if_pos lt]; rfl⟩
  rw [if_neg lt]
  by_cases gt : c = '>'.toNat
  · exact .inr ⟨(pyStr "gt;", '>'.toNat), by decide, gt, by rw [if_pos gt]; rfl⟩
  rw [if_neg gt]
  by_cases quot : c = '"'.toNat
  · exact .inr ⟨(pyStr "quot;", '"'.toNat), by decide, quot, by rw [if_pos quot]; rfl⟩
  rw [if_neg quot]
  by_cases apos : c = 0x27
  · exact .inr ⟨(pyStr "#x27;", 0x27), by decide, apos, by rw [if_pos apos]; rfl⟩
  rw [if_neg apos]
  exact .inl ⟨rfl, amp, lt, gt, quot, apos⟩

/-- The entities hold no `&`, stand for kept characters, and are written with kept
characters other than `<`, `>`, `"` and `'`. -/
theorem entities_escaped : ∀ e ∈ entities, '&'.toNat ∉ e.1 ∧ keep e.2 = true ∧
    ∀ c ∈ '&'.toNat :: e.1,
      c ≠ '<'.toNat ∧ c ≠ '>'.toNat ∧ c ≠ '"'.toNat ∧ c ≠ 0x27 ∧ keep c = true := by
  decide

theorem escapes_eq (s : PyStr) :
    replace (replace (replace (replace (replace s '&'.toNat (pyStr "&amp;")) '<'.toNat
      (pyStr "&lt;")) '>'.toNat (pyStr "&gt;")) '"'.toNat (pyStr "&quot;")) 0x27
      (pyStr "&#x27;") = s.flatMap escapeChar := by
  simp only [replace, List.flatMap_assoc]
  congr 1
  funext c
  rcases escapeChar_cases c with ⟨single, amp, lt, gt, quot, apos⟩ | ⟨e, entity, rfl, -⟩
  · simp [single, show ¬c = 38 from amp, show ¬c = 60 from lt, show ¬c = 62 from gt,
      show ¬c = 34 from quot, show ¬c = 39 from apos]
  · revert e
    decide

theorem keep_escapeChar (c : Nat) : (escapeChar c).filter keep = if keep c then escapeChar c else [] := by
  rcases escapeChar_cases c with ⟨single, -⟩ | ⟨e, entity, rfl, written⟩
  · rw [single, List.filter_cons, List.filter_nil]
  · obtain ⟨-, kept, safe⟩ := entities_escaped e entity
    rw [written, kept, if_pos rfl, List.filter_eq_self]
    exact fun c mem => (safe c mem).2.2.2.2

theorem filter_keep_flatMap (s : PyStr) :
    (s.flatMap escapeChar).filter keep = (s.filter keep).flatMap escapeChar := by
  induction s with
  | nil => rfl
  | cons c rest ih =>
    rw [List.flatMap_cons, List.filter_append, keep_escapeChar, ih, List.filter_cons]
    split <;> simp_all

theorem replace_nil (s : PyStr) (old : Nat) : replace s old [] = s.filter (· != old) := by
  induction s with
  | nil => rfl
  | cons c rest ih => by_cases h : c = old <;> simp_all [replace, List.filter_cons]

theorem filter_keep_nonzero (s : PyStr) : (replace s 0x00 []).filter keep = s.filter keep := by
  rw [replace_nil, List.filter_filter]
  congr 1
  funext c
  by_cases null : c = 0 <;> simp_all [keep]

theorem sanitizeString_ok {unicodeAlnum : Nat → Bool} {value r : PyStr}
    (h : sanitizeString unicodeAlnum value = .ok r) : r = (value.filter keep).flatMap escapeChar := by
  unfold sanitizeString at h
  split at h
  · rename_i empty
    rw [← Except.ok.inj h, List.isEmpty_iff.mp empty]
    rfl
  · split at h
    · cases h
    · rw [← Except.ok.inj h, escapes_eq, filter_keep_flatMap, filter_keep_nonzero]

theorem decodeEntities_cons {c : Nat} (plain : c ≠ '&'.toNat) (rest : PyStr) :
    decodeEntities (c :: rest) = c :: decodeEntities rest := by
  simp only [decodeEntities, decodeFrom, if_neg plain]

theorem decodeEntities_escapeChar (c : Nat) (rest : PyStr) :
    decodeEntities (escapeChar c ++ rest) = c :: decodeEntities rest := by
  rcases escapeChar_cases c with ⟨single, amp, -⟩ | ⟨e, entity, rfl, written⟩
  · rw [single]
    exact decodeEntities_cons amp rest
  · rw [written]
    simp only [entities, List.mem_cons, List.not_mem_nil, or_false] at entity
    rcases entity with rfl | rfl | rfl | rfl | rfl <;> rfl

/-- Decoding undoes the escaping. -/
theorem decodeEntities_flatMap (s : PyStr) : decodeEntities (s.flatMap escapeChar) = s := by
  induction s with
  | nil => rfl
  | cons c rest ih => rw [List.flatMap_cons, decodeEntities_escapeChar, ih]

/-- The characters the escaping writes for a kept character are all kept, and none of them
is `<`, `>`, `"` or `'`. -/
theorem mem_escapeChar {c d : Nat} (mem : c ∈ escapeChar d) (kept : keep d = true) :
    c ≠ '<'.toNat ∧ c ≠ '>'.toNat ∧ c ≠ '"'.toNat ∧ c ≠ 0x27 ∧ keep c = true := by
  rcases escapeChar_cases d with ⟨single, -, lt, gt, quot, apos⟩ | ⟨e, entity, -, written⟩
  · rw [single, List.mem_singleton] at mem
    subst mem
    exact ⟨lt, gt, quot, apos, kept⟩
  · rw [written] at mem
    exact (entities_escaped e entity).2.2 c mem

theorem amp_cons_eq_append {l pre post : PyStr} (plain : '&'.toNat ∉ l)
    (h : '&'.toNat :: l = pre ++ '&'.toNat :: post) : pre = [] ∧ post = l := by
  cases pre with
  | nil => exact ⟨rfl, (List.cons.inj h).2.symm⟩
  | cons x pre =>
    obtain ⟨-, rest⟩ := List.cons.inj h
    exact absurd (rest ▸ List.mem_append_right pre (List.mem_cons_self _ _)) plain

/-- An `&` in the escaping of a character opens the entity that stands for it. -/
theorem escapeChar_eq_amp {d : Nat} {pre post : PyStr} (h : escapeChar d = pre ++ '&'.toNat :: post) :
    pre = [] ∧ (post, d) ∈ entities := by
  rcases escapeChar_cases d with ⟨single, amp, -⟩ | ⟨e, entity, rfl, written⟩
  · rw [single] at h
    cases pre with
    | nil => exact absurd (List.cons.inj h).1 amp
    | cons x pre => simp at h
  · rw [written] at h
    obtain ⟨rfl, rfl⟩ := amp_cons_eq_append (entities_escaped e entity).1 h
    exact ⟨rfl, entity⟩

theorem flatMap_escapeChar_amp (t : PyStr) {pre post : PyStr}
    (h : t.flatMap escapeChar = pre ++ '&'.toNat :: post) : ∃ e ∈ entities, e.1 <+: post := by
  induction t generalizing pre with
  | nil => simp at h
  | cons d rest ih =>
    rw [List.flatMap_cons, List.append_eq_append_iff] at h
    rcases h with ⟨a, -, later⟩ | ⟨c, split, joined⟩
    · exact ih later
    · cases c with
      | nil => exact @ih [] (by simpa using joined.symm)
      | cons x c =>
        obtain ⟨rfl, rfl⟩ := List.cons.inj joined
        exact ⟨_, (escapeChar_eq_amp split).2, List.prefix_append _ _⟩

/-! ### What is stored -/

/-- Decoding the stored text gives back the value without its dropped characters. -/
theorem decodeEntities_sanitized {unicodeAlnum : Nat → Bool} {value r : PyStr}
    (accepted : sanitizeString unicodeAlnum value = .ok r) : decodeEntities r = value.filter keep := by
  rw [sanitizeString_ok accepted, decodeEntities_flatMap]

/-- **What `sanitize_string` stores.** For every value it accepts, the text it returns has
no `<`, `>`, `"` or `'`, no character below `' '` other than `\n` and `\t`, and every `&` in
it opens one of the five entities. -/
theorem sanitizeString_escapes (unicodeAlnum : Nat → Bool) {value r : PyStr}
    (accepted : sanitizeString unicodeAlnum value = .ok r) :
    (∀ c ∈ r, c ≠ '<'.toNat ∧ c ≠ '>'.toNat ∧ c ≠ '"'.toNat ∧ c ≠ 0x27 ∧ keep c = true) ∧
      ∀ pre post, r = pre ++ '&'.toNat :: post → ∃ e ∈ entities, e.1 <+: post := by
  rw [sanitizeString_ok accepted]
  refine ⟨fun c mem => ?_, fun pre post split => flatMap_escapeChar_amp _ split⟩
  obtain ⟨d, kept, mem⟩ := List.mem_flatMap.mp mem
  exact mem_escapeChar mem (List.mem_filter.mp kept).2

theorem markup_is_escaped :
    sanitizeString (fun _ => false) (pyStr "a<b & c") = .ok (pyStr "a&lt;b &amp; c") ∧
    (∀ c ∈ pyStr "a&lt;b &amp; c",
      c ≠ '<'.toNat ∧ c ≠ '>'.toNat ∧ c ≠ '"'.toNat ∧ c ≠ 0x27 ∧ keep c = true) ∧
    ∀ pre post, pyStr "a&lt;b &amp; c" = pre ++ '&'.toNat :: post → ∃ e ∈ entities, e.1 <+: post :=
  ⟨rfl, @sanitizeString_escapes (fun _ => false) (pyStr "a<b & c") _ rfl⟩

/-! ### Collisions -/

/-- Removing every character below `' '` other than `\n` and `\t`. -/
def dropControl (s : PyStr) : PyStr := s.filter fun c => !(c < 0x20 && c != 0x0A && c != 0x09)

theorem dropControl_eq (s : PyStr) : dropControl s = s.filter keep := by
  unfold dropControl keep
  congr 1
  funext c
  have codes : ' '.toNat = 0x20 ∧ '\n'.toNat = 0x0A ∧ '\t'.toNat = 0x09 := ⟨rfl, rfl, rfl⟩
  rw [codes.1, codes.2.1, codes.2.2, Bool.eq_iff_iff]
  simp only [Bool.not_and, Bool.or_eq_true, Bool.not_eq_true', decide_eq_false_iff_not,
    bne_eq_false_iff_eq, decide_eq_true_eq, beq_iff_eq]
  omega

/-- **Sanitized values collide only on dropped characters.** Two values that
`sanitize_string` accepts are sanitized alike exactly when they agree once every character
below `' '` other than `\n` and `\t` is removed from both. -/
theorem sanitizeString_eq_iff (unicodeAlnum : Nat → Bool) {s₁ s₂ r₁ r₂ : PyStr}
    (accepted₁ : sanitizeString unicodeAlnum s₁ = .ok r₁)
    (accepted₂ : sanitizeString unicodeAlnum s₂ = .ok r₂) :
    r₁ = r₂ ↔ dropControl s₁ = dropControl s₂ := by
  rw [sanitizeString_ok accepted₁, sanitizeString_ok accepted₂, dropControl_eq, dropControl_eq]
  constructor
  · intro same
    rw [← decodeEntities_flatMap (s₁.filter keep), same, decodeEntities_flatMap]
  · intro same
    rw [same]

theorem control_character_collides :
    sanitizeString (fun _ => false) (pyStr "TRK-7") = .ok (pyStr "TRK-7") ∧
    sanitizeString (fun _ => false) (pyStr "TRK-\x017") = .ok (pyStr "TRK-7") ∧
    (pyStr "TRK-7" = pyStr "TRK-7" ↔
      dropControl (pyStr "TRK-7") = dropControl (pyStr "TRK-\x017")) :=
  ⟨rfl, rfl, sanitizeString_eq_iff (fun _ => false) rfl rfl⟩

/-! ### The pattern check reads the raw value -/

/-- **The check covers the stored text of a value with nothing to drop.** When no character
of an accepted value is dropped, the stored text decodes to the value itself, which matches
none of `INJECTION_PATTERNS`. -/
theorem sanitizeString_covers_clean (unicodeAlnum : Nat → Bool) {value r : PyStr}
    (accepted : sanitizeString unicodeAlnum value = .ok r) (clean : value.filter keep = value) :
    decodeEntities r = value ∧
      ((injectionPatterns unicodeAlnum).any fun p => p.search (decodeEntities r)) = false := by
  rw [decodeEntities_sanitized accepted, clean]
  refine ⟨rfl, ?_⟩
  unfold sanitizeString at accepted
  split at accepted
  · rename_i empty
    rw [List.isEmpty_iff.mp empty]
    rfl
  · split at accepted
    · cases accepted
    · rename_i passed
      simpa using passed

theorem plain_id_is_covered :
    sanitizeString (fun _ => false) (pyStr "TRK-7") = .ok (pyStr "TRK-7") ∧
    (pyStr "TRK-7").filter keep = pyStr "TRK-7" ∧
    decodeEntities (pyStr "TRK-7") = pyStr "TRK-7" ∧
    ((injectionPatterns fun _ => false).any fun p => p.search (decodeEntities (pyStr "TRK-7"))) = false :=
  ⟨rfl, rfl, @sanitizeString_covers_clean (fun _ => false) (pyStr "TRK-7") _ rfl rfl⟩

theorem control_character_splits_pattern (unicodeAlnum : Nat → Bool) :
    validateTruckId (pyStr "java\x01script:") = .ok (pyStr "java\x01script:") ∧
    sanitizeString unicodeAlnum (pyStr "java\x01script:") = .ok (pyStr "javascript:") ∧
    decodeEntities (pyStr "javascript:") = pyStr "javascript:" ∧
    ((injectionPatterns unicodeAlnum).any fun p => p.search (pyStr "javascript:")) = true :=
  ⟨rfl, rfl, rfl, rfl⟩

/-! ### The filter keeps DEL and the C1 controls -/

/-- Unicode category Cc: U+0000 to U+001F and U+007F to U+009F. -/
def isControl (c : Nat) : Bool := c < 0x20 || (0x7F ≤ c && c ≤ 0x9F)

theorem delete_character_survives (unicodeAlnum : Nat → Bool) :
    sanitizeString unicodeAlnum (pyStr "a\x7f") = .ok (pyStr "a\x7f") ∧
    isControl 0x7F = true ∧ 0x7F ∈ pyStr "a\x7f" ∧ 0x7F ≠ '\n'.toNat ∧ 0x7F ≠ '\t'.toNat :=
  ⟨rfl, rfl, by decide, by decide, by decide⟩

end Runsheet.Ingestion
