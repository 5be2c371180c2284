import Iec61850.CLexemes
import Mathlib.Data.List.TakeDrop

/-!
# C constants and string literals

The texts that are one integer constant, one floating constant or one string literal of
C.  A minus sign before a constant is counted to it.  A backslash at the end of a line
joins the line with the next one before anything else is read.
-/

namespace Iec61850.CSource

/-! ## Constants -/

/-- The text without a leading minus sign. -/
def unsigned : List Char → List Char
  | '-' :: rest => rest
  | s => s

def isDigits (s : List Char) : Bool := s ≠ [] && s.all Char.isDigit

/-- The digits behind the zero of an octal or hexadecimal constant. -/
def isPrefixed : List Char → Bool
  | [] => true
  | c :: rest =>
      if c = 'x' ∨ c = 'X' then rest ≠ [] && rest.all isHexDigit
      else isOctalDigit c && rest.all isOctalDigit

def isUnsignedInteger : List Char → Bool
  | [] => false
  | c :: rest => if c = '0' then isPrefixed rest else isDigits (c :: rest)

def isIntegerConstant (s : List Char) : Bool := isUnsignedInteger (unsigned s)

def isExponent : List Char → Bool
  | [] => false
  | c :: rest =>
      (c = 'e' || c = 'E') &&
        match rest with
        | '+' :: digits | '-' :: digits => isDigits digits
        | digits => isDigits digits

/-- What stands behind the digits before the decimal point, if there are any. -/
def isFraction (whole : List Char) : List Char → Bool
  | [] => false
  | c :: rest =>
      if c = '.' then
        (whole ≠ [] || rest.takeWhile Char.isDigit ≠ []) &&
          (rest.dropWhile Char.isDigit = [] || isExponent (rest.dropWhile Char.isDigit))
      else whole ≠ [] && isExponent (c :: rest)

def isUnsignedFloating (s : List Char) : Bool :=
  isFraction (s.takeWhile Char.isDigit) (s.dropWhile Char.isDigit)

def isFloatingConstant (s : List Char) : Bool := isUnsignedFloating (unsigned s)

theorem isDigits_cons {c : Char} {rest : List Char} :
    isDigits (c :: rest) = true ↔ c.isDigit = true ∧ ∀ d ∈ rest, d.isDigit = true := by
  simp [isDigits]

theorem unsigned_of_digit {c : Char} {rest : List Char} (hc : c.isDigit = true) :
    unsigned (c :: rest) = c :: rest := by
  unfold unsigned
  split
  next heq =>
    obtain ⟨rfl, -⟩ := List.cons.inj heq
    cases hc
  next => rfl

theorem digitChar_ne_zero : ∀ n < 10, n ≠ 0 → Nat.digitChar n ≠ '0' := by decide

/-- A decimal numeral of a positive number does not begin with a zero. -/
theorem exists_toDigits_eq_cons {n : ℕ} (hn : n ≠ 0) :
    ∃ c rest, Nat.toDigits 10 n = c :: rest ∧ c ≠ '0' := by
  induction n using Nat.strong_induction_on with
  | h n ih =>
      by_cases hsmall : n < 10
      · exact ⟨Nat.digitChar n, [], Nat.toDigits_of_lt_base hsmall,
          digitChar_ne_zero n hsmall hn⟩
      · obtain ⟨c, rest, hdigits, hc⟩ := ih (n / 10) (by omega) (by omega)
        refine ⟨c, rest ++ [Nat.digitChar (n % 10)], ?_, hc⟩
        rw [Nat.toDigits_of_base_le (by omega) (by omega), hdigits, List.cons_append]

theorem isUnsignedInteger_toDigits (n : ℕ) : isUnsignedInteger (Nat.toDigits 10 n) = true := by
  by_cases hn : n = 0
  · subst hn
    decide
  · obtain ⟨c, rest, hdigits, hc⟩ := exists_toDigits_eq_cons hn
    have hall : ∀ d ∈ c :: rest, d.isDigit = true := by
      intro d hd
      rw [← hdigits] at hd
      exact Nat.isDigit_of_mem_toDigits (by omega) (by omega) hd
    rw [hdigits, isUnsignedInteger, if_neg hc, isDigits_cons]
    exact List.forall_mem_cons.mp hall

theorem isIntegerConstant_toDigits (n : ℕ) : isIntegerConstant (Nat.toDigits 10 n) = true := by
  have hunsigned : unsigned (Nat.toDigits 10 n) = Nat.toDigits 10 n := by
    cases hdigits : Nat.toDigits 10 n with
    | nil => rfl
    | cons c rest =>
        have hc : c ∈ Nat.toDigits 10 n := by
          rw [hdigits]
          exact List.mem_cons_self
        exact unsigned_of_digit (Nat.isDigit_of_mem_toDigits (by omega) (by omega) hc)
  rw [isIntegerConstant, hunsigned]
  exact isUnsignedInteger_toDigits n

theorem isIntegerConstant_neg_toDigits (n : ℕ) :
    isIntegerConstant ('-' :: Nat.toDigits 10 n) = true := isUnsignedInteger_toDigits n

theorem span_digits {digits tail : List Char} (hdigits : ∀ c ∈ digits, c.isDigit = true)
    (htail : ∀ c ∈ tail.head?, c.isDigit = false) :
    (digits ++ tail).takeWhile Char.isDigit = digits ∧
      (digits ++ tail).dropWhile Char.isDigit = tail := by
  rw [List.takeWhile_append_of_pos hdigits, List.dropWhile_append_of_pos hdigits]
  cases tail with
  | nil => simp
  | cons c tail =>
      have hc : c.isDigit = false := htail c rfl
      rw [List.takeWhile_cons_of_neg (by simp [hc]), List.dropWhile_cons_of_neg (by simp [hc]),
        List.append_nil]
      exact ⟨rfl, rfl⟩

/-- A decimal number with a fraction and an exponent of ten, either of which may be
missing. -/
structure DecimalFloat where
  negative : Bool
  whole : List Char
  fraction : List Char
  exponent : Option (Bool × List Char)
  whole_digits : isDigits whole = true
  no_leading_zero : whole.head? = some '0' → whole = ['0']
  fraction_digits : ∀ c ∈ fraction, c.isDigit = true
  exponent_digits : ∀ e ∈ exponent, isDigits e.2 = true

namespace DecimalFloat

def exponentText : Option (Bool × List Char) → List Char
  | some (negative, digits) => 'e' :: (if negative then '-' else '+') :: digits
  | none => []

def fractionText (fraction : List Char) : List Char :=
  if fraction = [] then [] else '.' :: fraction

def magnitude (x : DecimalFloat) : List Char :=
  x.whole ++ (fractionText x.fraction ++ exponentText x.exponent)

def text (x : DecimalFloat) : List Char :=
  if x.negative then '-' :: x.magnitude else x.magnitude

variable (x : DecimalFloat)

theorem exists_whole : ∃ c rest, x.whole = c :: rest ∧ c.isDigit = true ∧
    ∀ d ∈ rest, d.isDigit = true := by
  cases hwhole : x.whole with
  | nil =>
      have hdigits := x.whole_digits
      rw [hwhole] at hdigits
      cases hdigits
  | cons c rest =>
      have hdigits := x.whole_digits
      rw [hwhole] at hdigits
      obtain ⟨hc, hrest⟩ := isDigits_cons.mp hdigits
      exact ⟨c, rest, rfl, hc, hrest⟩

theorem unsigned_text : unsigned x.text = x.magnitude := by
  obtain ⟨c, rest, hwhole, hc, -⟩ := x.exists_whole
  unfold text
  split
  · rfl
  · rw [magnitude, hwhole, List.cons_append]
    exact unsigned_of_digit hc

theorem isUnsignedInteger_whole : isUnsignedInteger x.whole = true := by
  obtain ⟨c, rest, hwhole, hc, hrest⟩ := x.exists_whole
  have hzero := x.no_leading_zero
  rw [hwhole] at hzero ⊢
  rw [isUnsignedInteger]
  split
  next h =>
    subst h
    rw [(List.cons.inj (hzero rfl)).2]
    rfl
  next => exact isDigits_cons.mpr ⟨hc, hrest⟩

theorem isExponent_exponentText {e : Option (Bool × List Char)} (he : e ≠ none)
    (hdigits : ∀ digits ∈ e, isDigits digits.2 = true) :
    isExponent (exponentText e) = true := by
  cases e with
  | none => exact absurd rfl he
  | some digits =>
      obtain ⟨negative, digits⟩ := digits
      have hdigits := hdigits _ rfl
      cases negative <;> simpa [exponentText, isExponent] using hdigits

theorem head_tail_not_digit (fraction : List Char) (e : Option (Bool × List Char)) :
    ∀ c ∈ (fractionText fraction ++ exponentText e).head?, c.isDigit = false := by
  intro c hc
  unfold fractionText at hc
  split at hc
  · cases e with
    | none => cases hc
    | some e =>
        obtain rfl := Option.some.inj hc
        rfl
  · obtain rfl := Option.some.inj hc
    rfl

/-- A decimal number is an integer constant, or with a fraction or an exponent a
floating constant. -/
theorem constant :
    isIntegerConstant x.text = true ∨ isFloatingConstant x.text = true := by
  rw [isIntegerConstant, isFloatingConstant, x.unsigned_text]
  by_cases hplain : x.fraction = [] ∧ x.exponent = none
  · left
    obtain ⟨hfraction, hexponent⟩ := hplain
    simpa [magnitude, fractionText, exponentText, hfraction, hexponent] using
      x.isUnsignedInteger_whole
  · right
    obtain ⟨c, rest, hwhole, hc, hrest⟩ := x.exists_whole
    have hdigits : ∀ d ∈ x.whole, d.isDigit = true := by
      rw [hwhole]
      exact List.forall_mem_cons.mpr ⟨hc, hrest⟩
    have hsplit := span_digits hdigits
      (head_tail_not_digit x.fraction x.exponent)
    have hne : x.whole ≠ [] := by
      rw [hwhole]
      exact List.cons_ne_nil c rest
    rw [isUnsignedFloating, magnitude, hsplit.1, hsplit.2]
    by_cases hfraction : x.fraction = []
    · have hexponent : x.exponent ≠ none := fun h => hplain ⟨hfraction, h⟩
      have hvalid := isExponent_exponentText hexponent x.exponent_digits
      obtain ⟨e, he⟩ := Option.ne_none_iff_exists'.mp hexponent
      rw [he] at hvalid ⊢
      simpa [fractionText, hfraction, exponentText, isFraction, hne] using hvalid
    · have htail := span_digits x.fraction_digits
        (head_tail_not_digit [] x.exponent)
      simp only [fractionText, hfraction, if_true, if_false, List.nil_append] at htail ⊢
      rw [List.cons_append, isFraction, if_pos rfl, htail.1, htail.2]
      cases he : x.exponent with
      | none => simp [hne, exponentText]
      | some e =>
          have hvalid := isExponent_exponentText (e := some e) (by simp)
            (he ▸ x.exponent_digits)
          simp [hne, hvalid]

end DecimalFloat

/-! ## String literals -/

/-- The lines of a text, joined where a backslash ends one. -/
def joinLines : List Char → List Char
  | [] => []
  | [c] => [c]
  | c :: d :: rest =>
      if c = '\\' ∧ d = '\n' then joinLines rest else c :: joinLines (d :: rest)

/-- The text is one string literal. -/
def IsStringLiteral (s : List Char) : Prop :=
  ∃ bytes : List Char,
    read false (joinLines s) = some (.opening :: (bytes.map .char ++ [.closing]))

/-- What may stand between the quotes of a literal: characters other than the quote, the
backslash and the line break, and escape sequences. -/
inductive LiteralBody : List Char → Prop
  | nil : LiteralBody []
  | char {c : Char} {s : List Char} (hquote : c ≠ '"') (hbackslash : c ≠ '\\')
      (hbreak : c ≠ '\n') (rest : LiteralBody s) : LiteralBody (c :: s)
  | escape {s bytes behind : List Char} (hescape : escape? s = some (bytes, behind))
      (rest : LiteralBody behind) : LiteralBody ('\\' :: s)

/-! ### Reading a literal -/

def withQuote (result : Option (List Char × List Char)) : Option (List Char × List Char) :=
  result.map fun (bytes, behind) => (bytes, behind ++ ['"'])

theorem takeWhile_append_quote {p : Char → Bool} (hp : p '"' = false) (s : List Char) :
    (s ++ ['"']).takeWhile p = s.takeWhile p := by
  induction s with
  | nil => rw [List.nil_append, List.takeWhile_cons_of_neg (by simp [hp]), List.takeWhile_nil]
  | cons c s ih =>
      rw [List.cons_append, List.takeWhile_cons, List.takeWhile_cons, ih]

theorem takeWhile_take_append_quote {p : Char → Bool} (hp : p '"' = false) (n : ℕ)
    (s : List Char) : ((s ++ ['"']).take n).takeWhile p = (s.take n).takeWhile p := by
  rw [List.take_append]
  cases hrest : n - s.length with
  | zero => rw [List.take_zero, List.append_nil]
  | succ m =>
      rw [List.take_succ_cons, List.take_nil]
      exact takeWhile_append_quote hp _

theorem numericEscape?_append_quote (base : ℕ) (digits rest : List Char) :
    numericEscape? base digits (rest ++ ['"']) = withQuote (numericEscape? base digits rest) := by
  unfold numericEscape? withQuote
  split <;> rfl

theorem universalEscape?_append_quote (count : ℕ) (text : List Char) :
    universalEscape? count (text ++ ['"']) = withQuote (universalEscape? count text) := by
  by_cases hlength : count ≤ text.length
  · have htake : (text ++ ['"']).take count = text.take count :=
      List.take_append_of_le_length hlength
    have hdrop : (text ++ ['"']).drop count = text.drop count ++ ['"'] :=
      List.drop_append_of_le_length hlength
    simp only [universalEscape?, htake, hdrop]
    unfold withQuote
    split <;> rfl
  · have hshort : (text.take count).length ≠ count := by
      rw [List.length_take]
      omega
    have hquote : '"' ∈ (text ++ ['"']).take count := by
      rw [List.take_of_length_le (by simp; omega)]
      simp
    have hnothex : ¬ ((text ++ ['"']).take count).all isHexDigit = true := by
      intro hall
      exact absurd (List.all_eq_true.mp hall _ hquote) (by decide)
    have hleft : universalEscape? count (text ++ ['"']) = none := by
      unfold universalEscape?
      exact if_neg fun h => hnothex h.2.1
    have hright : universalEscape? count text = none := by
      unfold universalEscape?
      exact if_neg fun h => hshort h.1
    rw [hleft, hright]
    rfl

/-- An escape sequence that has begun does not reach into a quote behind the text. -/
theorem escape?_append_quote (c : Char) (tail : List Char) :
    escape? (c :: (tail ++ ['"'])) = withQuote (escape? (c :: tail)) := by
  have hoctal := takeWhile_take_append_quote (p := isOctalDigit) (by decide) 3 (c :: tail)
  have hhex := takeWhile_append_quote (p := isHexDigit) (by decide) tail
  have hprefix : (((c :: tail).take 3).takeWhile isOctalDigit).length ≤ (c :: tail).length :=
    (List.takeWhile_prefix _).length_le.trans (List.length_take_le' 3 _)
  have hhexPrefix : (tail.takeWhile isHexDigit).length ≤ tail.length :=
    (List.takeWhile_prefix _).length_le
  rw [List.cons_append] at hoctal
  simp only [escape?]
  split
  next d hsimple => rfl
  next hsimple =>
    split
    next =>
      rw [hoctal, ← List.cons_append, List.drop_append_of_le_length hprefix]
      exact numericEscape?_append_quote 8 _ _
    next =>
      split
      next =>
        rw [hhex]
        split
        next => rfl
        next =>
          rw [List.drop_append_of_le_length hhexPrefix]
          exact numericEscape?_append_quote 16 _ _
      next =>
        split
        next => exact universalEscape?_append_quote 4 tail
        next =>
          split
          next => exact universalEscape?_append_quote 8 tail
          next => rfl

theorem read_false_ne_nil {c : Char} {rest : List Char} : read false (c :: rest) ≠ some [] := by
  rw [read]
  split
  · simp
  · split <;> simp

theorem read_char {c : Char} (hquote : c ≠ '"') (hbackslash : c ≠ '\\') (hbreak : c ≠ '\n')
    (rest : List Char) : read true (c :: rest) = (read true rest).map (.char c :: ·) := by
  rw [read, if_neg hquote, if_neg hbackslash, if_neg hbreak]

theorem read_escape {rest bytes behind : List Char} (h : escape? rest = some (bytes, behind)) :
    read true ('\\' :: rest) = (read true behind).map (bytes.map .char ++ ·) := by
  rw [read, if_neg (by decide), if_pos rfl]
  split
  next bytes' behind' h' =>
    obtain ⟨rfl, rfl⟩ := Prod.mk.inj (Option.some.inj (h'.symm.trans h))
    rfl
  next hnone =>
    rw [h] at hnone
    cases hnone

theorem exists_escape_of_read {rest : List Char} {items : List Item}
    (h : read true ('\\' :: rest) = some items) :
    ∃ bytes behind, escape? rest = some (bytes, behind) := by
  rw [read, if_neg (by decide), if_pos rfl] at h
  split at h
  next bytes behind hescape => exact ⟨bytes, behind, hescape⟩
  next => cases h

theorem literal_behind {escaped bytes : List Char} {others : List Item}
    (h : escaped.map Item.char ++ others = bytes.map Item.char ++ [.closing]) :
    ∃ bytes' : List Char, others = bytes'.map Item.char ++ [.closing] := by
  induction escaped generalizing bytes with
  | nil => exact ⟨bytes, h⟩
  | cons c escaped ih =>
      cases bytes with
      | nil => cases (List.cons.inj h).1
      | cons b bytes => exact ih (List.cons.inj h).2

/-- An escape sequence in front of the closing quote does not reach beyond it. -/
theorem exists_escape_append_quote {s bytes behind : List Char}
    (h : escape? (s ++ ['"']) = some (bytes, behind)) :
    behind = [] ∨ ∃ rest, escape? s = some (bytes, rest) ∧ behind = rest ++ ['"'] ∧
      rest.length ≤ s.length := by
  cases s with
  | nil =>
      left
      obtain ⟨-, hbehind⟩ := Prod.mk.inj (Option.some.inj h)
      exact hbehind.symm
  | cons c s =>
      right
      rw [List.cons_append, escape?_append_quote] at h
      obtain ⟨⟨bytes', rest⟩, hrest, hpair⟩ := Option.map_eq_some_iff.mp h
      obtain ⟨rfl, rfl⟩ := Prod.mk.inj hpair
      obtain ⟨sequence, hsequence, -⟩ := escape?_eq_some hrest
      have hlength : (c :: s).length = sequence.length + rest.length := by
        rw [hsequence, List.length_append]
      exact ⟨rest, hrest, rfl, by omega⟩

theorem literalBody_of_read (s : List Char) :
    ∀ bytes : List Char, read true (s ++ ['"']) = some (bytes.map .char ++ [.closing]) →
      LiteralBody s := by
  induction hlength : s.length using Nat.strong_induction_on generalizing s with
  | h n ih =>
      intro bytes hread
      subst hlength
      cases s with
      | nil => exact .nil
      | cons c s =>
          rw [List.cons_append] at hread
          by_cases hquote : c = '"'
          · -- the literal would end here, with text behind it
            rw [hquote, read, if_pos rfl] at hread
            obtain ⟨others, hothers, heq⟩ := Option.map_eq_some_iff.mp hread
            cases bytes with
            | nil =>
                obtain rfl := (List.cons.inj heq).2
                cases s with
                | nil => exact absurd hothers read_false_ne_nil
                | cons d s => exact absurd hothers read_false_ne_nil
            | cons b bytes => cases (List.cons.inj heq).1
          by_cases hbackslash : c = '\\'
          · rw [hbackslash] at hread ⊢
            obtain ⟨escaped, behind, hescape⟩ := exists_escape_of_read hread
            rw [read_escape hescape] at hread
            obtain ⟨others, hothers, heq⟩ := Option.map_eq_some_iff.mp hread
            obtain ⟨bytes', rfl⟩ := literal_behind heq
            rcases exists_escape_append_quote hescape with rfl | ⟨rest, hrest, rfl, hle⟩
            · -- the escape sequence has taken the closing quote
              rw [read] at hothers
              cases hothers
            · have hlt : rest.length < (c :: s).length := Nat.lt_succ_of_le hle
              exact .escape hrest (ih rest.length hlt rest rfl bytes' hothers)
          by_cases hbreak : c = '\n'
          · rw [hbreak, read, if_neg (by decide), if_neg (by decide), if_pos rfl] at hread
            cases hread
          · rw [read_char hquote hbackslash hbreak] at hread
            obtain ⟨others, hothers, heq⟩ := Option.map_eq_some_iff.mp hread
            cases bytes with
            | nil => cases (List.cons.inj heq).1
            | cons b bytes =>
                obtain rfl := (List.cons.inj heq).2
                exact .char hquote hbackslash hbreak
                  (ih s.length (Nat.lt_succ_self _) s rfl bytes hothers)

theorem LiteralBody.exists_read {s : List Char} (h : LiteralBody s) :
    ∃ bytes : List Char, read true (s ++ ['"']) = some (bytes.map .char ++ [.closing]) := by
  induction h with
  | nil =>
      refine ⟨[], ?_⟩
      rw [List.nil_append, read, if_pos rfl, read]
      rfl
  | @char c s hquote hbackslash hbreak _ ih =>
      obtain ⟨bytes, hread⟩ := ih
      refine ⟨c :: bytes, ?_⟩
      rw [List.cons_append, read_char hquote hbackslash hbreak, hread]
      rfl
  | @escape s bytes behind hescape _ ih =>
      obtain ⟨others, hread⟩ := ih
      refine ⟨bytes ++ others, ?_⟩
      cases s with
      | nil => cases hescape
      | cons c s =>
          have hquoted : escape? (c :: s ++ ['"']) = some (bytes, behind ++ ['"']) := by
            rw [List.cons_append, escape?_append_quote, hescape]
            rfl
          rw [List.cons_append, read_escape hquoted, hread]
          simp

/-- The text of a literal up to its closing quote. -/
theorem exists_read_iff (s : List Char) :
    (∃ bytes : List Char, read true (s ++ ['"']) = some (bytes.map .char ++ [.closing])) ↔
      LiteralBody s := by
  constructor
  · rintro ⟨bytes, hread⟩
    exact literalBody_of_read s bytes hread
  · exact LiteralBody.exists_read

theorem joinLines_append_quote (s : List Char) : joinLines (s ++ ['"']) = joinLines s ++ ['"'] := by
  induction s using joinLines.induct with
  | case1 => rfl
  | case2 c => simp [joinLines]
  | case3 c d rest hjoin ih =>
      rw [joinLines, if_pos hjoin, ← ih, List.cons_append, List.cons_append, joinLines,
        if_pos hjoin]
  | case4 c d rest hjoin ih =>
      rw [List.cons_append] at ih
      rw [joinLines, if_neg hjoin, List.cons_append, List.cons_append, List.cons_append,
        joinLines, if_neg hjoin, ih]

theorem joinLines_quote (s : List Char) : joinLines ('"' :: s) = '"' :: joinLines s := by
  cases s with
  | nil => rfl
  | cons c s => rw [joinLines, if_neg (by simp)]

/-- A text in quotes is one literal if it is the body of one. -/
theorem isStringLiteral_quoted_iff (s : List Char) :
    IsStringLiteral ('"' :: (s ++ ['"'])) ↔ LiteralBody (joinLines s) := by
  rw [← exists_read_iff, IsStringLiteral, joinLines_quote, joinLines_append_quote]
  simp [read]

theorem IsStringLiteral.head_eq {s : List Char} (h : IsStringLiteral s) :
    (joinLines s).head? = some '"' := by
  obtain ⟨bytes, hread⟩ := h
  cases hlines : joinLines s with
  | nil =>
      rw [hlines, read] at hread
      cases hread
  | cons c rest =>
      rw [hlines, read] at hread
      split at hread
      next hquote => rw [hquote, List.head?_cons]
      next =>
        split at hread
        next => cases hread
        next =>
          obtain ⟨others, -, heq⟩ := Option.map_eq_some_iff.mp hread
          have hbare := (List.cons.inj heq).1
          unfold bare at hbare
          split at hbare <;> cases hbare

/-- The character stands for itself between quotes. -/
def IsBodyChar (c : Char) : Prop := c ≠ '"' ∧ c ≠ '\\' ∧ c ≠ '\n'

instance (c : Char) : Decidable (IsBodyChar c) :=
  inferInstanceAs (Decidable (c ≠ '"' ∧ c ≠ '\\' ∧ c ≠ '\n'))

theorem isBodyChar_of_isDigit {c : Char} (hc : c.isDigit = true) : IsBodyChar c := by
  refine ⟨?_, ?_, ?_⟩ <;> rintro rfl <;> cases hc

theorem joinLines_of_isBodyChar {s : List Char} (h : ∀ c ∈ s, IsBodyChar c) :
    joinLines s = s := by
  induction s using joinLines.induct with
  | case1 => rfl
  | case2 c => rfl
  | case3 c d rest hjoin => exact absurd hjoin.1 (h c List.mem_cons_self).2.1
  | case4 c d rest hjoin ih =>
      rw [joinLines, if_neg hjoin, ih (List.forall_mem_cons.mp h).2]

/-- A text without quotes, backslashes and line breaks is the body of a literal. -/
theorem literalBody_of_isBodyChar {s : List Char} (h : ∀ c ∈ s, IsBodyChar c) :
    LiteralBody (joinLines s) := by
  rw [joinLines_of_isBodyChar h]
  induction s with
  | nil => exact .nil
  | cons c s ih =>
      obtain ⟨⟨hquote, hbackslash, hbreak⟩, hrest⟩ := List.forall_mem_cons.mp h
      exact .char hquote hbackslash hbreak (ih hrest)

end Iec61850.CSource
