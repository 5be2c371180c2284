import Mathlib.Data.List.Basic
import Mathlib.Data.List.TakeWhile
import Mathlib.Data.Nat.Basic

/-!
# Reading C text

A C text of identifiers, numbers, punctuators and string literals is read into
its characters, each with the part it has: in a word, outside a word, or in a
literal.  A text is a list of bytes.  A character constant, a comment and a
character that starts no token are not read; the reading fails there, and at a
literal which its line does not close.
-/

namespace Iec61850.CSource

/-! ## Escape sequences -/

def isOctalDigit (c : Char) : Bool := '0' ≤ c ∧ c ≤ '7'

def isHexDigit (c : Char) : Bool :=
  c.isDigit || ('a' ≤ c ∧ c ≤ 'f') || ('A' ≤ c ∧ c ≤ 'F')

def hexDigitValue (c : Char) : ℕ :=
  if c.isDigit then c.toNat - '0'.toNat
  else if 'a' ≤ c then c.toNat - 'a'.toNat + 10
  else c.toNat - 'A'.toNat + 10

def numeral (base : ℕ) (digits : List Char) : ℕ :=
  digits.foldl (fun n c => n * base + hexDigitValue c) 0

def simpleEscape? : Char → Option Char
  | '\'' => some '\''
  | '"' => some '"'
  | '?' => some '?'
  | '\\' => some '\\'
  | 'a' => some (Char.ofNat 7)
  | 'b' => some (Char.ofNat 8)
  | 'f' => some (Char.ofNat 12)
  | 'n' => some '\n'
  | 'r' => some '\r'
  | 't' => some '\t'
  | 'v' => some (Char.ofNat 11)
  | _ => none

/-- An octal or hexadecimal escape sequence stands for one byte. -/
def numericEscape? (base : ℕ) (digits rest : List Char) :
    Option (List Char × List Char) :=
  if numeral base digits < 256 then some ([Char.ofNat (numeral base digits)], rest)
  else none

/-- The code points which a universal character name may have. -/
def isUniversal (n : ℕ) : Bool :=
  (0xA0 ≤ n ∨ n = 0x24 ∨ n = 0x40 ∨ n = 0x60) ∧ n.isValidChar

/-- A universal character name of `count` digits; its bytes are those of UTF-8. -/
def universalEscape? (count : ℕ) (text : List Char) : Option (List Char × List Char) :=
  let digits := text.take count
  if digits.length = count ∧ digits.all isHexDigit ∧ isUniversal (numeral 16 digits) then
    some ((String.utf8EncodeChar (Char.ofNat (numeral 16 digits))).map
      (fun b => Char.ofNat b.toNat), text.drop count)
  else none

/-- The bytes of the escape sequence after a backslash, and the text behind it. -/
def escape? : List Char → Option (List Char × List Char)
  | [] => none
  | c :: rest =>
      match simpleEscape? c with
      | some d => some ([d], rest)
      | none =>
          if isOctalDigit c then
            let digits := ((c :: rest).take 3).takeWhile isOctalDigit
            numericEscape? 8 digits ((c :: rest).drop digits.length)
          else if c = 'x' then
            let digits := rest.takeWhile isHexDigit
            if digits = [] then none
            else numericEscape? 16 digits (rest.drop digits.length)
          else if c = 'u' then universalEscape? 4 rest
          else if c = 'U' then universalEscape? 8 rest
          else none

/-- An escape sequence without its backslash: it has no fewer characters than
it has bytes, and none of them is a percent sign. -/
structure IsEscape (sequence bytes : List Char) : Prop where
  length_le : bytes.length ≤ sequence.length
  ne_nil : sequence ≠ []
  percent_not_mem : '%' ∉ sequence

theorem percent_not_mem_of_all {p : Char → Bool} {s : List Char} (hp : p '%' = false)
    (hs : ∀ c ∈ s, p c = true) : '%' ∉ s := by
  intro hmem
  have htrue := hs '%' hmem
  rw [hp] at htrue
  cases htrue

theorem numericEscape?_eq_some {base : ℕ} {digits rest bytes rest' : List Char}
    (h : numericEscape? base digits rest = some (bytes, rest')) :
    rest' = rest ∧ bytes.length = 1 := by
  unfold numericEscape? at h
  split at h
  next =>
    cases h
    exact ⟨rfl, rfl⟩
  next => cases h

theorem universalEscape?_eq_some {count : ℕ} {text bytes rest : List Char}
    (h : universalEscape? count text = some (bytes, rest)) :
    ∃ digits, text = digits ++ rest ∧ digits.length = count ∧ '%' ∉ digits ∧
      bytes.length ≤ 4 := by
  simp only [universalEscape?] at h
  split at h
  next hdigits =>
    cases h
    obtain ⟨hlength, hhex, -⟩ := hdigits
    refine ⟨text.take count, (List.take_append_drop count text).symm, hlength,
      percent_not_mem_of_all (p := isHexDigit) (by decide) (List.all_eq_true.mp hhex), ?_⟩
    rw [List.length_map, String.length_utf8EncodeChar]
    exact Char.utf8Size_le_four _
  next => cases h

theorem simpleEscape?_percent {c d : Char} (h : simpleEscape? c = some d) : c ≠ '%' := by
  rintro rfl
  cases h

theorem isEscape_cons {c : Char} {digits bytes : List Char} (hc : c ≠ '%')
    (hdigits : '%' ∉ digits) (hlength : bytes.length ≤ digits.length + 1) :
    IsEscape (c :: digits) bytes where
  length_le := hlength
  ne_nil := List.cons_ne_nil c digits
  percent_not_mem := by
    simpa [hdigits] using hc.symm

theorem escape?_eq_some {text bytes rest : List Char} (h : escape? text = some (bytes, rest)) :
    ∃ sequence, text = sequence ++ rest ∧ IsEscape sequence bytes := by
  cases text with
  | nil => cases h
  | cons c tail =>
      simp only [escape?] at h
      split at h
      next d hsimple =>
        cases h
        exact ⟨[c], rfl, isEscape_cons (simpleEscape?_percent hsimple) (by simp) (by simp)⟩
      next =>
        split at h
        next hoctal =>
          obtain ⟨rfl, hbytes⟩ := numericEscape?_eq_some h
          have hdigits : ((c :: tail).take 3).takeWhile isOctalDigit <+: c :: tail :=
            (List.takeWhile_prefix _).trans (List.take_prefix 3 _)
          have hne : ((c :: tail).take 3).takeWhile isOctalDigit ≠ [] := by
            simp [hoctal]
          refine ⟨_, (List.prefix_iff_eq_append.mp hdigits).symm, ?_, hne, ?_⟩
          · rw [hbytes]
            exact List.length_pos_iff.mpr hne
          · exact percent_not_mem_of_all (p := isOctalDigit) (by decide)
              fun d hd => List.mem_takeWhile_imp hd
        next =>
          split at h
          next hx =>
            subst hx
            split at h
            next => cases h
            next hne =>
              obtain ⟨rfl, hbytes⟩ := numericEscape?_eq_some h
              have hdigits := List.takeWhile_prefix (l := tail) isHexDigit
              have hpercent := percent_not_mem_of_all (p := isHexDigit) (by decide)
                fun d (hd : d ∈ tail.takeWhile isHexDigit) => List.mem_takeWhile_imp hd
              refine ⟨'x' :: tail.takeWhile isHexDigit, ?_,
                isEscape_cons (by decide) hpercent (by omega)⟩
              rw [List.cons_append, List.prefix_iff_eq_append.mp hdigits]
          next =>
            split at h
            next hu =>
              subst hu
              obtain ⟨digits, rfl, hlength, hpercent, hbytes⟩ := universalEscape?_eq_some h
              exact ⟨'u' :: digits, rfl, isEscape_cons (by decide) hpercent (by omega)⟩
            next =>
              split at h
              next hU =>
                subst hU
                obtain ⟨digits, rfl, hlength, hpercent, hbytes⟩ := universalEscape?_eq_some h
                exact ⟨'U' :: digits, rfl, isEscape_cons (by decide) hpercent (by omega)⟩
              next => cases h

/-! ## Reading -/

/-- A character of a C text, by the part it has in the text. -/
inductive Item
  | word (c : Char)
  | sign (c : Char)
  | opening
  | char (c : Char)
  | closing
  deriving DecidableEq, Repr

def isWordChar (c : Char) : Bool := c.isAlphanum || c = '_'

/-- The characters outside literals that are not read: they start a character
constant or a comment, or no token at all. -/
def isForeign (c : Char) : Bool := c = '\'' || c = '/' || c = '\\'

def bare (c : Char) : Item := if isWordChar c then .word c else .sign c

/-- Reads a text from outside a literal, or from inside one. -/
def read (inLiteral : Bool) (text : List Char) : Option (List Item) :=
  match inLiteral, text with
  | false, [] => some []
  | true, [] => none
  | false, c :: rest =>
      if c = '"' then (read true rest).map (.opening :: ·)
      else if isForeign c then none
      else (read false rest).map (bare c :: ·)
  | true, c :: rest =>
      if c = '"' then (read false rest).map (.closing :: ·)
      else if c = '\\' then
        match h : escape? rest with
        | some (bytes, behind) => (read true behind).map (bytes.map .char ++ ·)
        | none => none
      else if c = '\n' then none
      else (read true rest).map (.char c :: ·)
termination_by text.length
decreasing_by
  all_goals simp only [List.length_cons]
  all_goals try omega
  obtain ⟨sequence, hrest, -⟩ := escape?_eq_some h
  rw [hrest, List.length_append]
  omega

/-- The character which writes the item. -/
def Item.toChar : Item → Char
  | .word c | .sign c | .char c => c
  | .opening | .closing => '"'

/-- The item stands where a C text may have its character: it needs no escape
sequence and starts nothing else. -/
def Item.Plain : Item → Prop
  | .word c => isWordChar c = true
  | .sign c => isWordChar c = false ∧ isForeign c = false ∧ c ≠ '"'
  | .char c => c ≠ '"' ∧ c ≠ '\\' ∧ c ≠ '\n'
  | .opening | .closing => True

def spelling (items : List Item) : List Char := items.map Item.toChar

@[simp] theorem spelling_nil : spelling [] = [] := rfl

@[simp] theorem spelling_cons (i : Item) (items : List Item) :
    spelling (i :: items) = i.toChar :: spelling items := rfl

@[simp] theorem spelling_append (items others : List Item) :
    spelling (items ++ others) = spelling items ++ spelling others := List.map_append

@[simp] theorem length_spelling (items : List Item) : (spelling items).length = items.length :=
  List.length_map ..

/-- Items which are spelled as two texts fall apart in the same way. -/
theorem spelling_eq_append {items : List Item} {s t : List Char} (h : spelling items = s ++ t) :
    ∃ first others, items = first ++ others ∧ spelling first = s ∧ spelling others = t :=
  List.map_eq_append_iff.mp h

theorem spelling_eq_cons {items : List Item} {c : Char} {s : List Char}
    (h : spelling items = c :: s) :
    ∃ i others, items = i :: others ∧ i.toChar = c ∧ spelling others = s :=
  List.map_eq_cons_iff.mp h

variable {inLiteral : Bool}

theorem bare_plain {c : Char} (hquote : c ≠ '"') (hforeign : isForeign c = false) :
    (bare c).Plain ∧ (bare c).toChar = c := by
  unfold bare
  split
  next hword => exact ⟨hword, rfl⟩
  next hword => exact ⟨⟨by simpa using hword, hforeign, hquote⟩, rfl⟩

/-- What a character other than a backslash is read into. -/
theorem read_cons_eq_some {c : Char} {rest : List Char} {items : List Item} (hc : c ≠ '\\')
    (h : read inLiteral (c :: rest) = some items) :
    ∃ i others behind, items = i :: others ∧ i.toChar = c ∧ i.Plain ∧
      read behind rest = some others := by
  cases inLiteral with
  | false =>
      rw [read] at h
      split at h
      next hquote =>
        obtain ⟨others, hothers, rfl⟩ := Option.map_eq_some_iff.mp h
        exact ⟨.opening, others, true, rfl, hquote.symm, trivial, hothers⟩
      next hquote =>
        split at h
        next => cases h
        next hforeign =>
          obtain ⟨others, hothers, rfl⟩ := Option.map_eq_some_iff.mp h
          obtain ⟨hplain, hchar⟩ := bare_plain hquote (by simpa using hforeign)
          exact ⟨bare c, others, false, rfl, hchar, hplain, hothers⟩
  | true =>
      rw [read] at h
      split at h
      next hquote =>
        obtain ⟨others, hothers, rfl⟩ := Option.map_eq_some_iff.mp h
        exact ⟨.closing, others, false, rfl, hquote.symm, trivial, hothers⟩
      next hquote =>
        split at h
        next => cases h
        next hnewline =>
          obtain ⟨others, hothers, rfl⟩ := Option.map_eq_some_iff.mp h
          exact ⟨.char c, others, true, rfl, rfl, ⟨hquote, hc, hnewline⟩, hothers⟩

/-- A backslash is read in a literal only, with the rest of its escape sequence. -/
theorem read_backslash_eq_some {rest : List Char} {items : List Item}
    (h : read inLiteral ('\\' :: rest) = some items) :
    ∃ sequence bytes behind others, rest = sequence ++ behind ∧ IsEscape sequence bytes ∧
      items = bytes.map .char ++ others ∧ read true behind = some others := by
  cases inLiteral with
  | false =>
      rw [read] at h
      simp [isForeign] at h
  | true =>
      rw [read] at h
      rw [if_neg (by decide), if_pos rfl] at h
      split at h
      next bytes behind hescape =>
        obtain ⟨others, hothers, rfl⟩ := Option.map_eq_some_iff.mp h
        obtain ⟨sequence, hrest, hsequence⟩ := escape?_eq_some hescape
        exact ⟨sequence, bytes, behind, others, hrest, hsequence, rfl, hothers⟩
      next => cases h

/-- A backslash before a parenthesis is never read. -/
theorem read_backslash_parenthesis (rest : List Char) :
    read inLiteral ('\\' :: '(' :: rest) = none := by
  cases inLiteral with
  | false =>
      rw [read]
      simp [isForeign]
  | true =>
      rw [read, if_neg (by decide), if_pos rfl]
      rfl

/-- Text without escape sequences is read character by character. -/
theorem read_append_eq_some {s t : List Char} {items : List Item}
    (hs : ∀ u v, s = u ++ '\\' :: v → ∃ w, v = '(' :: w)
    (h : read inLiteral (s ++ t) = some items) :
    ∃ first others behind, items = first ++ others ∧ spelling first = s ∧
      read behind t = some others := by
  induction s generalizing inLiteral items with
  | nil => exact ⟨[], items, inLiteral, rfl, rfl, h⟩
  | cons c rest ih =>
      by_cases hc : c = '\\'
      · obtain ⟨w, rfl⟩ := hs [] rest (by rw [hc]; rfl)
        rw [hc, List.cons_append, List.cons_append, read_backslash_parenthesis] at h
        cases h
      · obtain ⟨i, others, behind, rfl, hi, -, hothers⟩ := read_cons_eq_some hc h
        obtain ⟨first, others, behind, rfl, hfirst, hrest⟩ := ih
          (fun u v hrest => hs (c :: u) v (by rw [hrest]; rfl)) hothers
        exact ⟨i :: first, others, behind, rfl, by rw [spelling_cons, hi, hfirst], hrest⟩

end Iec61850.CSource
