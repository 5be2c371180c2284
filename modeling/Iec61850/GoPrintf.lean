import Iec61850.GoText
import Iec61850.PrintedText

/-!
# Formatted prints without operands

`doPrintf` of package `fmt` for a format that is printed without operands, as
the generator does with whole buffers.  Every directive then comes out as an
error text, a second percent sign as one.
-/

namespace Iec61850.Go

/-! ## Runes -/

def runeError : Str := [0xEF, 0xBF, 0xBD].map Char.ofNat

/-- The length of the UTF-8 sequence that starts with this byte, and the range
of its second byte. -/
def sequenceShape (first : ℕ) : Option (ℕ × ℕ × ℕ) :=
  if 0xC2 ≤ first ∧ first ≤ 0xDF then some (2, 0x80, 0xBF)
  else if first = 0xE0 then some (3, 0xA0, 0xBF)
  else if first = 0xED then some (3, 0x80, 0x9F)
  else if 0xE1 ≤ first ∧ first ≤ 0xEF then some (3, 0x80, 0xBF)
  else if first = 0xF0 then some (4, 0x90, 0xBF)
  else if first = 0xF4 then some (4, 0x80, 0x8F)
  else if 0xF1 ≤ first ∧ first ≤ 0xF3 then some (4, 0x80, 0xBF)
  else none

def isInRange (low high : ℕ) (c : Char) : Bool := low ≤ c.toNat ∧ c.toNat ≤ high

def isSequence (size low high : ℕ) (following : Str) : Bool :=
  following.length + 1 = size && (following.take 1).all (isInRange low high) &&
    (following.drop 1).all (isInRange 0x80 0xBF)

/-- `utf8.DecodeRuneInString` for a first byte from 0x80 on: the bytes which
`writeRune` makes of the rune, and the text behind it. -/
def decodeRune (first : Char) (rest : Str) : Str × Str :=
  match sequenceShape first.toNat with
  | some (size, low, high) =>
      if isSequence size low high (rest.take (size - 1)) then
        (first :: rest.take (size - 1), rest.drop (size - 1))
      else (runeError, rest)
  | none => (runeError, rest)

/-! ## Numbers and argument indices -/

/-- `parsenum`: whether there is a number, and the text behind it.  A number
over a million swallows the text. -/
def parsenum (num : ℕ) (isnum : Bool) : Str → Bool × Str
  | [] => (isnum, [])
  | c :: rest =>
      if c.isDigit then
        if 1000000 < num then (false, [])
        else parsenum (num * 10 + (c.toNat - '0'.toNat)) true rest
      else (isnum, c :: rest)

/-- `parseArgNumber` behind the opening bracket: whether the index is a number,
and the text behind the closing bracket, if there is one. -/
def parseArgNumber (inner : Str) : Bool × Str :=
  if inner.length < 2 then (false, inner)
  else
    match index inner ']' with
    | none => (false, inner)
    | some width =>
        let (ok, rest) := parsenum 0 false (inner.take width)
        (ok && rest.isEmpty, inner.drop (width + 1))

/-- The state of `doPrintf` within a directive; `written` is what it has
already appended to the output. -/
structure Scan where
  rest : Str
  goodArgNum : Bool := true
  afterIndex : Bool := false
  written : Str := []

/-- `argNumber`; an index is out of range, as there are no operands. -/
def Scan.argNumber (p : Scan) : Scan :=
  match p.rest with
  | '[' :: inner =>
      let (found, rest) := parseArgNumber inner
      { p with rest := rest, goodArgNum := false, afterIndex := found }
  | _ => { p with afterIndex := false }

def isFlag (c : Char) : Bool := c = '#' || c = '0' || c = '+' || c = '-' || c = ' '

def Scan.flags (p : Scan) : Scan := { p with rest := p.rest.dropWhile isFlag }

def Scan.width (p : Scan) : Scan :=
  match p.rest with
  | '*' :: rest =>
      { p with rest := rest, afterIndex := false, written := p.written ++ lit "%!(BADWIDTH)" }
  | _ =>
      let (isnum, rest) := parsenum 0 false p.rest
      { p with rest := rest, goodArgNum := p.goodArgNum && !(p.afterIndex && isnum) }

/-- The star or the number after the dot of a precision. -/
def Scan.precisionValue (p : Scan) : Scan :=
  match p.rest with
  | '*' :: rest =>
      { p with rest := rest, afterIndex := false, written := p.written ++ lit "%!(BADPREC)" }
  | _ => { p with rest := (parsenum 0 false p.rest).2 }

def Scan.precision (p : Scan) : Scan :=
  match p.rest with
  | '.' :: rest =>
      Scan.precisionValue
        (Scan.argNumber { p with rest := rest, goodArgNum := p.goodArgNum && !p.afterIndex })
  | _ => p

def Scan.verbIndex (p : Scan) : Scan := if p.afterIndex then p else p.argNumber

def operandError (goodArgNum : Bool) : Str :=
  if goodArgNum then lit "(MISSING)" else lit "(BADINDEX)"

/-- The output of a directive that ends with this verb. -/
def verbError (goodArgNum : Bool) (verb : Str) : Str :=
  lit "%!" ++ verb ++ operandError goodArgNum

/-- The verb: the output of the directive and the text behind it. -/
def Scan.verb (p : Scan) : Str × Str :=
  match p.rest with
  | [] => (p.written ++ lit "%!(NOVERB)", [])
  | c :: rest =>
      if c = '%' then (p.written ++ ['%'], rest)
      else if isAscii c then (p.written ++ verbError p.goodArgNum [c], rest)
      else
        let (rune, behind) := decodeRune c rest
        (p.written ++ verbError p.goodArgNum rune, behind)

/-- One directive; `s` is the text behind its percent sign. -/
def directive (s : Str) : Str × Str :=
  let p : Scan := { rest := s }
  p.flags.argNumber.width.precision.verbIndex.verb

/-! ## The text of a directive -/

/-- From `p` to `q` the scan has read a piece of the text that does not start
with an exclamation mark; nothing else changes if the piece is empty. -/
def Scan.Reads (p q : Scan) : Prop :=
  ∃ piece, p.rest = piece ++ q.rest ∧ (∀ w, piece ≠ '!' :: w) ∧
    (piece = [] → q.written = p.written ∧ q.goodArgNum = p.goodArgNum)

theorem Scan.Reads.trans {p q r : Scan} (hpq : p.Reads q) (hqr : q.Reads r) : p.Reads r := by
  obtain ⟨first, hfirst, hbang, hempty⟩ := hpq
  obtain ⟨second, hsecond, hbang', hempty'⟩ := hqr
  refine ⟨first ++ second, by rw [hfirst, hsecond, List.append_assoc], ?_, ?_⟩
  · cases first with
    | nil => exact hbang'
    | cons c first =>
        intro w hw
        exact hbang first (by rw [(List.cons.inj hw).1])
  · intro hnil
    obtain ⟨rfl, rfl⟩ := List.append_eq_nil_iff.mp hnil
    exact ⟨(hempty' rfl).1.trans (hempty rfl).1, (hempty' rfl).2.trans (hempty rfl).2⟩

theorem parsenum_reads {num : ℕ} {isnum ok : Bool} {s rest : Str}
    (h : parsenum num isnum s = (ok, rest)) :
    ∃ piece, s = piece ++ rest ∧ (∀ w, piece ≠ '!' :: w) ∧ (piece = [] → ok = isnum) := by
  induction s generalizing num isnum with
  | nil =>
      cases h
      exact ⟨[], rfl, by simp, fun _ => rfl⟩
  | cons c s ih =>
      rw [parsenum] at h
      split at h
      next hdigit =>
        have hbang : c ≠ '!' := by
          rintro rfl
          cases hdigit
        split at h
        next =>
          cases h
          exact ⟨c :: s, by simp, by simp [hbang], by simp⟩
        next =>
          obtain ⟨piece, rfl, -, -⟩ := ih h
          exact ⟨c :: piece, rfl, by simp [hbang], by simp⟩
      next =>
        cases h
        exact ⟨[], rfl, by simp, fun _ => rfl⟩

theorem parseArgNumber_reads {inner rest : Str} {ok : Bool}
    (h : parseArgNumber inner = (ok, rest)) : ∃ piece, inner = piece ++ rest := by
  unfold parseArgNumber at h
  split at h
  next =>
    cases h
    exact ⟨[], rfl⟩
  next =>
    split at h
    next =>
      cases h
      exact ⟨[], rfl⟩
    next width _ =>
      cases h
      exact ⟨inner.take (width + 1), (List.take_append_drop _ inner).symm⟩

theorem Scan.reads_flags (p : Scan) : p.Reads p.flags := by
  refine ⟨p.rest.takeWhile isFlag, (List.takeWhile_append_dropWhile).symm, ?_,
    fun _ => ⟨rfl, rfl⟩⟩
  intro w hw
  have hflag := List.mem_takeWhile_imp (hw ▸ List.mem_cons_self : '!' ∈ p.rest.takeWhile isFlag)
  cases hflag

theorem Scan.reads_argNumber (p : Scan) : p.Reads p.argNumber := by
  unfold Scan.argNumber
  split
  next inner hrest =>
    obtain ⟨piece, hpiece⟩ := parseArgNumber_reads (Prod.eta (parseArgNumber inner)).symm
    refine ⟨'[' :: piece, ?_, by simp, by simp⟩
    rw [hrest, List.cons_append, ← hpiece]
  next => exact ⟨[], rfl, by simp, fun _ => ⟨rfl, rfl⟩⟩

theorem Scan.reads_width (p : Scan) : p.Reads p.width := by
  unfold Scan.width
  split
  next rest hrest => exact ⟨['*'], hrest, by simp, by simp⟩
  next =>
    obtain ⟨piece, hpiece, hbang, hempty⟩ :=
      parsenum_reads (Prod.eta (parsenum 0 false p.rest)).symm
    exact ⟨piece, hpiece, hbang, fun hnil => ⟨rfl, by simp [hempty hnil]⟩⟩

theorem Scan.reads_precisionValue (p : Scan) : p.Reads p.precisionValue := by
  unfold Scan.precisionValue
  split
  next rest hrest => exact ⟨['*'], hrest, by simp, by simp⟩
  next =>
    obtain ⟨piece, hpiece, hbang, -⟩ := parsenum_reads (Prod.eta (parsenum 0 false p.rest)).symm
    exact ⟨piece, hpiece, hbang, fun _ => ⟨rfl, rfl⟩⟩

theorem Scan.reads_precision (p : Scan) : p.Reads p.precision := by
  unfold Scan.precision
  split
  next rest hrest =>
    obtain ⟨piece, hpiece, -⟩ := (Scan.reads_argNumber
      { p with rest := rest, goodArgNum := p.goodArgNum && !p.afterIndex }).trans
        (Scan.reads_precisionValue _)
    refine ⟨'.' :: piece, ?_, by simp, by simp⟩
    rw [hrest, List.cons_append, ← hpiece]
  next => exact ⟨[], rfl, by simp, fun _ => ⟨rfl, rfl⟩⟩

theorem Scan.reads_verbIndex (p : Scan) : p.Reads p.verbIndex := by
  unfold Scan.verbIndex
  split
  next => exact ⟨[], rfl, by simp, fun _ => ⟨rfl, rfl⟩⟩
  next => exact p.reads_argNumber

/-- The scan that has come to the verb. -/
def Scan.beforeVerb (s : Str) : Scan :=
  let p : Scan := { rest := s }
  p.flags.argNumber.width.precision.verbIndex

theorem Scan.reads_beforeVerb (s : Str) : Scan.Reads { rest := s } (Scan.beforeVerb s) :=
  ((((Scan.reads_flags _).trans (Scan.reads_argNumber _)).trans (Scan.reads_width _)).trans
    (Scan.reads_precision _)).trans (Scan.reads_verbIndex _)

theorem Scan.argNumber_written (p : Scan) : p.argNumber.written = p.written := by
  unfold Scan.argNumber
  split <;> rfl

theorem Scan.width_written (p : Scan) :
    p.width.written = p.written ∨ p.width.written = p.written ++ lit "%!(BADWIDTH)" := by
  unfold Scan.width
  split
  · exact Or.inr rfl
  · exact Or.inl rfl

theorem Scan.precision_written (p : Scan) :
    p.precision.written = p.written ∨
      p.precision.written = p.written ++ lit "%!(BADPREC)" := by
  unfold Scan.precision
  split
  · unfold Scan.precisionValue
    split
    · exact Or.inr (by rw [Scan.argNumber_written])
    · exact Or.inl (Scan.argNumber_written _)
  · exact Or.inl rfl

/-- The error texts which may stand before that of the verb. -/
theorem Scan.beforeVerb_written (s : Str) :
    (Scan.beforeVerb s).written ∈
      [[], lit "%!(BADWIDTH)", lit "%!(BADPREC)", lit "%!(BADWIDTH)%!(BADPREC)"] := by
  have hindex : ∀ p : Scan, p.verbIndex.written = p.written := by
    intro p
    unfold Scan.verbIndex
    split
    · rfl
    · exact p.argNumber_written
  have hstart : (Scan.flags { rest := s }).argNumber.written = [] := Scan.argNumber_written _
  unfold Scan.beforeVerb
  rw [hindex]
  rcases Scan.precision_written (Scan.flags { rest := s }).argNumber.width with h | h <;>
    rcases Scan.width_written (Scan.flags { rest := s }).argNumber with h' | h' <;>
    rw [h, h', hstart] <;> decide

/-! ## The output of a directive -/

theorem isAscii_eq_false_of_range {low high : ℕ} {c : Char} (hlow : 128 ≤ low)
    (hc : isInRange low high c = true) : isAscii c = false := by
  simp only [isInRange, decide_eq_true_eq, Bool.decide_and, Bool.and_eq_true] at hc
  simp only [isAscii, decide_eq_false_iff_not]
  omega

theorem sequenceShape_low {first size low high : ℕ}
    (h : sequenceShape first = some (size, low, high)) : 128 ≤ low := by
  unfold sequenceShape at h
  repeat' split at h
  all_goals
    cases h
    try omega

/-- A rune is written with bytes outside ASCII. -/
theorem decodeRune_eq {first : Char} {rest rune behind : Str} (hfirst : isAscii first = false)
    (h : decodeRune first rest = (rune, behind)) :
    (∃ piece, rest = piece ++ behind) ∧ ∀ c ∈ rune, isAscii c = false := by
  have herror : ∀ c ∈ runeError, isAscii c = false := by
    intro c hc
    simp only [runeError, List.map_cons, List.map_nil, List.mem_cons, List.not_mem_nil,
      or_false] at hc
    obtain rfl | rfl | rfl := hc <;> decide
  unfold decodeRune at h
  split at h
  next size low high hshape =>
    split at h
    next hsequence =>
      cases h
      refine ⟨⟨rest.take (size - 1), (List.take_append_drop _ rest).symm⟩, ?_⟩
      simp only [isSequence, Bool.and_eq_true] at hsequence
      obtain ⟨⟨-, hsecond⟩, hothers⟩ := hsequence
      intro c hc
      rcases List.mem_cons.mp hc with rfl | hc
      · exact hfirst
      · rw [← List.take_append_drop 1 (rest.take (size - 1))] at hc
        rcases List.mem_append.mp hc with hc | hc
        · exact isAscii_eq_false_of_range (sequenceShape_low hshape)
            (List.all_eq_true.mp hsecond c hc)
        · exact isAscii_eq_false_of_range (le_refl 128) (List.all_eq_true.mp hothers c hc)
    next =>
      cases h
      exact ⟨⟨[], rfl⟩, herror⟩
  next =>
    cases h
    exact ⟨⟨[], rfl⟩, herror⟩

/-- The text of a verb and its output, which comes behind a percent sign. -/
structure IsVerb (goodArgNum : Bool) (verb output : Str) : Prop where
  marked : output = [] ∨ ∃ w, output = '!' :: w
  percent_not_mem : '%' ∉ output
  backslash : ∀ u v, output = u ++ '\\' :: v → ∃ w, v = '(' :: w
  bang : ∀ w, verb = '!' :: w → goodArgNum = true → w = [] ∧ output = lit "!!(MISSING)"
  empty : verb = [] → output ≠ []

/-- A backslash in the second of two texts, when the first has none. -/
theorem backslash_append {s t : Str} (hs : '\\' ∉ s)
    (ht : ∀ u v, t = u ++ '\\' :: v → ∃ w, v = '(' :: w) :
    ∀ u v, s ++ t = u ++ '\\' :: v → ∃ w, v = '(' :: w := by
  intro u v h
  rcases List.append_eq_append_iff.mp h with ⟨w, -, hw⟩ | ⟨w, rfl, hw⟩
  · exact ht w v hw
  · cases w with
    | nil => exact ht [] v hw.symm
    | cons c w =>
        obtain ⟨rfl, -⟩ := List.cons.inj hw
        simp at hs

theorem isVerb_verbError (goodArgNum : Bool) {c : Char} (consumed : Str) {rune : Str}
    (hrune : (rune = [c] ∧ consumed = [] ∧ c ≠ '%') ∨
      isAscii c = false ∧ ∀ d ∈ rune, isAscii d = false) :
    ∃ output, verbError goodArgNum rune = '%' :: output ∧
      IsVerb goodArgNum (c :: consumed) output := by
  have htail : '%' ∉ operandError goodArgNum ∧ '\\' ∉ operandError goodArgNum := by
    cases goodArgNum <;> decide
  have hparenthesis : ∃ w, operandError goodArgNum = '(' :: w := by
    cases goodArgNum
    · exact ⟨_, rfl⟩
    · exact ⟨_, rfl⟩
  have hpercent : '%' ∉ rune := by
    rcases hrune with ⟨rfl, -, hc⟩ | ⟨-, hrune⟩
    · simpa using hc.symm
    · intro hmem
      have hascii := hrune _ hmem
      cases hascii
  refine ⟨'!' :: (rune ++ operandError goodArgNum), rfl, {
    marked := Or.inr ⟨_, rfl⟩
    percent_not_mem := by simp [hpercent, htail.1]
    backslash := ?_
    bang := ?_
    empty := by simp }⟩
  · refine backslash_append (s := ['!']) (by decide) ?_
    by_cases hbackslash : '\\' ∈ rune
    · -- the verb is a backslash, and the error text starts with a parenthesis
      have hsingle : rune = ['\\'] := by
        rcases hrune with ⟨rfl, -, -⟩ | ⟨-, hrune⟩
        · rw [List.mem_singleton.mp hbackslash]
        · cases hrune _ hbackslash
      intro u v h
      rw [hsingle] at h
      cases u with
      | nil =>
          obtain ⟨-, rfl⟩ := List.cons.inj h
          exact hparenthesis
      | cons d u =>
          have htext : operandError goodArgNum = u ++ '\\' :: v := (List.cons.inj h).2
          exact absurd (by rw [htext]; simp) htail.2
    · refine backslash_append hbackslash ?_
      intro u v h
      exact absurd (by rw [h]; simp) htail.2
  · intro w hw hgood
    obtain ⟨rfl, rfl⟩ := List.cons.inj hw
    rcases hrune with ⟨rfl, rfl, -⟩ | ⟨hascii, -⟩
    · exact ⟨rfl, by rw [hgood]; rfl⟩
    · cases hascii

theorem Scan.verb_eq (p : Scan) :
    ∃ verb output, p.rest = verb ++ p.verb.2 ∧ p.verb.1 = p.written ++ '%' :: output ∧
      IsVerb p.goodArgNum verb output ∧ (verb = [] → p.verb.2 = []) := by
  unfold Scan.verb
  split
  next hrest =>
    refine ⟨[], lit "!(NOVERB)", hrest, rfl, ?_, fun _ => rfl⟩
    exact {
      marked := Or.inr ⟨_, rfl⟩
      percent_not_mem := by decide
      backslash := fun u v h =>
        absurd (by rw [h]; simp) (by decide : '\\' ∉ lit "!(NOVERB)")
      bang := fun w hw => by cases hw
      empty := fun _ => by decide }
  next c rest hrest =>
    split
    next hc =>
      refine ⟨['%'], [], by rw [hrest, hc]; rfl, rfl, ?_, by simp⟩
      exact {
        marked := Or.inl rfl
        percent_not_mem := by simp
        backslash := by simp
        bang := by simp
        empty := by simp }
    next hc =>
      split
      next hascii =>
        obtain ⟨output, houtput, hverb⟩ := isVerb_verbError p.goodArgNum []
          (Or.inl ⟨rfl, rfl, hc⟩)
        exact ⟨[c], output, hrest, by rw [houtput], hverb, by simp⟩
      next hascii =>
        have hascii : isAscii c = false := by simpa using hascii
        obtain ⟨⟨piece, hpiece⟩, hrune⟩ :=
          decodeRune_eq hascii (Prod.eta (decodeRune c rest)).symm
        obtain ⟨output, houtput, hverb⟩ := isVerb_verbError p.goodArgNum piece
          (Or.inr ⟨hascii, hrune⟩)
        exact ⟨c :: piece, output, by rw [hrest, List.cons_append, ← hpiece],
          by simp only [houtput], hverb, by simp⟩

/-- The percent signs in an output whose first part has none. -/
theorem percent_append {s t : Str} (hs : '%' ∉ s) (ht : t = [] ∨ ∃ w, t = '!' :: w)
    (hrest : ∀ u v, t = u ++ '%' :: v → v = [] ∨ ∃ w, v = '!' :: w) :
    ∀ u v, s ++ '%' :: t = u ++ '%' :: v → v = [] ∨ ∃ w, v = '!' :: w := by
  intro u v h
  rcases List.append_eq_append_iff.mp h with ⟨w, -, hw⟩ | ⟨w, rfl, hw⟩
  · cases w with
    | nil =>
        obtain ⟨-, rfl⟩ := List.cons.inj hw
        exact ht
    | cons c w =>
        obtain ⟨-, hw⟩ := List.cons.inj hw
        exact hrest w v hw
  · cases w with
    | nil =>
        obtain ⟨-, rfl⟩ := List.cons.inj hw
        exact ht
    | cons c w =>
        obtain ⟨rfl, -⟩ := List.cons.inj hw
        simp at hs

theorem IsVerb.expands_alone {verb output : Str} (h : IsVerb true verb output) :
    CSource.Expands verb output where
  marked := h.marked
  percent u v huv := absurd (by rw [huv]; simp) h.percent_not_mem
  backslash := h.backslash
  bang w hw := h.bang w hw rfl
  empty := h.empty

/-- A verb behind other characters of the directive. -/
theorem expands_behind {piece : Str} (verb : Str) {z : Str} (hne : piece ≠ [])
    (hbang : ∀ w, piece ≠ '!' :: w) (hmarked : z = [] ∨ ∃ w, z = '!' :: w)
    (hbackslash : ∀ u v, z = u ++ '\\' :: v → ∃ w, v = '(' :: w)
    (hpercent : ∀ u v, z = u ++ '%' :: v → v = [] ∨ ∃ w, v = '!' :: w) :
    CSource.Expands (piece ++ verb) z := by
  have hstart : ∀ w, piece ++ verb ≠ '!' :: w := by
    intro w hw
    obtain ⟨c, piece, rfl⟩ := List.exists_cons_of_ne_nil hne
    exact hbang piece (by rw [(List.cons.inj hw).1])
  have hnonempty : piece ++ verb ≠ [] := fun hnil => hne (List.append_eq_nil_iff.mp hnil).1
  exact {
    marked := hmarked
    percent u v huv := ⟨hnonempty, (hpercent u v huv).imp_right fun hv => ⟨hv, hstart⟩⟩
    backslash := hbackslash
    bang w hw := absurd hw (hstart w)
    empty hnil := absurd hnil hnonempty }

/-- What a directive is replaced by. -/
theorem directive_eq (s : Str) :
    ∃ d z, s = d ++ (directive s).2 ∧ (directive s).1 = '%' :: z ∧ CSource.Expands d z ∧
      (d = [] → (directive s).2 = []) := by
  obtain ⟨piece, hpiece, hbang, hempty⟩ := Scan.reads_beforeVerb s
  have hwritten := Scan.beforeVerb_written s
  obtain ⟨verb, output, hrest, houtput, hverb, hlast⟩ := (Scan.beforeVerb s).verb_eq
  have htext : s = (piece ++ verb) ++ (directive s).2 := by
    rw [List.append_assoc]
    exact hpiece.trans (congrArg (piece ++ ·) hrest)
  have hend : piece ++ verb = [] → (directive s).2 = [] := fun hnil =>
    hlast (List.append_eq_nil_iff.mp hnil).2
  have houtput : (directive s).1 = (Scan.beforeVerb s).written ++ '%' :: output := houtput
  by_cases hnil : piece = []
  · obtain ⟨hnone, hgood⟩ := hempty hnil
    rw [hgood] at hverb
    refine ⟨piece ++ verb, output, htext, by rw [houtput, hnone]; rfl, ?_, hend⟩
    rw [hnil]
    exact hverb.expands_alone
  · simp only [List.mem_cons, List.not_mem_nil, or_false] at hwritten
    have hmark := hverb.marked
    have hpercent : ∀ u v, output = u ++ '%' :: v → v = [] ∨ ∃ w, v = '!' :: w :=
      fun u v huv => absurd (by rw [huv]; simp) hverb.percent_not_mem
    have hbackslash : ∀ u v, '%' :: output = u ++ '\\' :: v → ∃ w, v = '(' :: w :=
      backslash_append (s := ['%']) (by decide) hverb.backslash
    rcases hwritten with h | h | h | h <;> rw [h] at houtput
    · exact ⟨piece ++ verb, output, htext, houtput,
        expands_behind verb hnil hbang hmark hverb.backslash hpercent, hend⟩
    · exact ⟨piece ++ verb, lit "!(BADWIDTH)" ++ '%' :: output, htext, houtput,
        expands_behind verb hnil hbang (Or.inr ⟨_, rfl⟩)
          (backslash_append (by decide) hbackslash)
          (percent_append (by decide) hmark hpercent), hend⟩
    · exact ⟨piece ++ verb, lit "!(BADPREC)" ++ '%' :: output, htext, houtput,
        expands_behind verb hnil hbang (Or.inr ⟨_, rfl⟩)
          (backslash_append (by decide) hbackslash)
          (percent_append (by decide) hmark hpercent), hend⟩
    · exact ⟨piece ++ verb, lit "!(BADWIDTH)" ++ '%' :: (lit "!(BADPREC)" ++ '%' :: output),
        htext, houtput,
        expands_behind verb hnil hbang (Or.inr ⟨_, rfl⟩)
          (backslash_append (by decide) (backslash_append (s := ['%']) (by decide)
            (backslash_append (s := lit "!(BADPREC)") (by decide) hbackslash)))
          (percent_append (by decide) (Or.inr ⟨_, rfl⟩)
            (percent_append (by decide) hmark hpercent)), hend⟩

/-! ## Whole formats -/

/-- `fmt.Fprintf` without operands. -/
def printf (format : Str) : Str :=
  match format with
  | [] => []
  | c :: rest =>
      if c = '%' then
        (directive rest).1 ++ printf (directive rest).2
      else c :: printf rest
termination_by format.length
decreasing_by
  · obtain ⟨d, z, hd, -⟩ := directive_eq rest
    have hlength := congrArg List.length hd
    simp only [List.length_append, List.length_cons] at hlength ⊢
    omega
  · simp

theorem prints_printf (format : Str) : CSource.Prints true format (printf format) := by
  induction hn : format.length using Nat.strong_induction_on generalizing format with
  | _ n ih =>
      cases format with
      | nil =>
          rw [printf]
          exact .nil
      | cons c rest =>
          rw [printf]
          split
          next hc =>
            obtain ⟨d, z, hd, hz, hexpands, hlast⟩ := directive_eq rest
            have hlength := congrArg List.length hd
            simp only [List.length_append] at hlength
            have hbehind := ih (directive rest).2.length
              (by simp only [List.length_cons] at hn; omega) (directive rest).2 rfl
            rw [hc]
            have hprints := CSource.Prints.directive rfl hexpands hlast hbehind
            rw [← hd] at hprints
            simpa [hz] using hprints
          next hc =>
            exact .copy (fun _ => hc) (ih rest.length (by simp [← hn]) rest rfl)

end Iec61850.Go
