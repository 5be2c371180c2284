import Iec61850.GoText
import Mathlib.Algebra.Order.Ring.Int

/-!
# Integers of any base

`strconv.ParseInt` with base 0, which takes the base from the prefix of the
text, and what it makes of a decimal numeral: behind a leading zero the digits
are read as octal.
-/

namespace Iec61850.Go

/-! ## `strconv.ParseInt(s, 0, bits)` -/

/-- The base that the prefix stands for, and the digits behind it. -/
def splitBase : Str → ℕ × Str
  | '0' :: c :: d :: rest =>
      if c = 'b' ∨ c = 'B' then (2, d :: rest)
      else if c = 'o' ∨ c = 'O' then (8, d :: rest)
      else if c = 'x' ∨ c = 'X' then (16, d :: rest)
      else (8, c :: d :: rest)
  | '0' :: rest => (8, rest)
  | s => (10, s)

/-- The loop of `underscoreOK` behind the prefix; `saw` is the last kind of
character. -/
def underscoresFollowDigits (hex : Bool) : Char → Str → Bool
  | saw, [] => saw ≠ '_'
  | saw, c :: rest =>
      if c.isDigit ∨ hex ∧ (digitValue c).isSome then underscoresFollowDigits hex '0' rest
      else if c = '_' then saw = '0' && underscoresFollowDigits hex '_' rest
      else saw ≠ '_' && underscoresFollowDigits hex '!' rest

def underscoreOK : Str → Bool
  | '0' :: c :: rest =>
      if c ∈ lit "bBoOxX" then underscoresFollowDigits (c = 'x' ∨ c = 'X') '0' rest
      else underscoresFollowDigits false '^' ('0' :: c :: rest)
  | s => underscoresFollowDigits false '^' s

/-- `strconv.ParseUint(s, 0, 64)`; an error is `none`. -/
def parseUintAuto (s : Str) : Option ℕ :=
  if s = [] then none
  else
    let (base, digits) := splitBase s
    if '_' ∈ digits ∧ underscoreOK s = false then none
    else
      match digitsValue base 0 (digits.filter (· ≠ '_')) with
      | some n => if n < 2 ^ 64 then some n else none
      | none => none

/-- The range check of `ParseInt`. -/
def signedInt (negative : Bool) (magnitude : Option ℕ) (bits : ℕ) : Option ℤ :=
  match magnitude with
  | none => none
  | some n =>
      if negative then
        if n ≤ 2 ^ (bits - 1) then some (-(n : ℤ)) else none
      else if n < 2 ^ (bits - 1) then some (n : ℤ) else none

/-- `strconv.ParseInt(s, 0, bits)`; an error is `none`. -/
def parseIntAuto (s : Str) (bits : ℕ) : Option ℤ :=
  match s with
  | '-' :: rest => signedInt true (parseUintAuto rest) bits
  | '+' :: rest => signedInt false (parseUintAuto rest) bits
  | _ => signedInt false (parseUintAuto s) bits

example : parseIntAuto (lit "-0x1_0") 64 = some (-16) := by decide +kernel

/-! ## Decimal numerals -/

inductive NumeralSign
  | absent | plus | minus
  deriving DecidableEq, Repr

def NumeralSign.text : NumeralSign → Str
  | .absent => []
  | .plus => ['+']
  | .minus => ['-']

def NumeralSign.apply (sign : NumeralSign) (n : ℕ) : ℤ :=
  if sign = .minus then -(n : ℤ) else n

/-- An optional sign and at least one decimal digit. -/
structure Numeral where
  sign : NumeralSign := .absent
  digits : Str
  ne_nil : digits ≠ []
  decimal : ∀ c ∈ digits, c.isDigit = true

namespace Numeral

variable (n : Numeral)

def text : Str := n.sign.text ++ n.digits

/-- The number it denotes in decimal. -/
def value : ℤ := n.sign.apply (Nat.ofDigitChars 10 n.digits 0)

/-- A zero in front of other digits. -/
def LeadingZero : Prop := n.digits.head? = some '0' ∧ 1 < n.digits.length

instance : Decidable n.LeadingZero := inferInstanceAs (Decidable (_ ∧ _))

/-- The base that its prefix stands for. -/
def base : ℕ := if n.LeadingZero then 8 else 10

/-- The number which its digits denote in that base. -/
def readValue : ℤ := n.sign.apply (Nat.ofDigitChars n.base n.digits 0)

/-- A digit that the base does not have, or a number out of the range of 64 bits. -/
def Rejected : Prop :=
  (n.LeadingZero ∧ ∃ c ∈ n.digits, c = '8' ∨ c = '9') ∨
    n.readValue < -2 ^ 63 ∨ 2 ^ 63 ≤ n.readValue

end Numeral

/-! ## Digits -/

theorem digitValue_of_isDigit {c : Char} (h : c.isDigit = true) :
    digitValue c = some (c.toNat - '0'.toNat) := by
  have hbounds : '0' ≤ c ∧ c ≤ '9' := by
    simpa [Char.isDigit, Char.le_def] using h
  rw [digitValue, if_pos hbounds]

theorem toNat_of_isDigit {c : Char} (h : c.isDigit = true) :
    48 ≤ c.toNat ∧ c.toNat ≤ 57 := by
  simp only [Char.isDigit, ge_iff_le, Bool.and_eq_true, decide_eq_true_eq] at h
  exact ⟨UInt32.le_iff_toNat_le.mp h.1, UInt32.le_iff_toNat_le.mp h.2⟩

/-- Decimal digits below the base are read to their number. -/
theorem digitsValue_of_lt {base : ℕ} {digits : Str} (hdecimal : ∀ c ∈ digits, c.isDigit = true)
    (hlt : ∀ c ∈ digits, c.toNat - '0'.toNat < base) (acc : ℕ) :
    digitsValue base acc digits = some (Nat.ofDigitChars base digits acc) := by
  induction digits generalizing acc with
  | nil => rfl
  | cons c rest ih =>
      have hc := hlt c List.mem_cons_self
      rw [digitsValue, digitValue_of_isDigit (hdecimal c List.mem_cons_self)]
      simp only [if_pos hc, Nat.ofDigitChars_cons, Nat.mul_comm base acc]
      exact ih (fun d hd => hdecimal d (List.mem_cons_of_mem c hd))
        (fun d hd => hlt d (List.mem_cons_of_mem c hd)) _

theorem digitsValue_of_not_lt {base : ℕ} {digits : Str}
    (hdecimal : ∀ c ∈ digits, c.isDigit = true)
    (hlt : ∃ c ∈ digits, ¬ c.toNat - '0'.toNat < base) (acc : ℕ) :
    digitsValue base acc digits = none := by
  induction digits generalizing acc with
  | nil => simp at hlt
  | cons c rest ih =>
      rw [digitsValue, digitValue_of_isDigit (hdecimal c List.mem_cons_self)]
      by_cases hc : c.toNat - '0'.toNat < base
      · simp only [if_pos hc]
        apply ih (fun d hd => hdecimal d (List.mem_cons_of_mem c hd))
        obtain ⟨d, hd, hnot⟩ := hlt
        rcases List.mem_cons.mp hd with rfl | hd
        · exact absurd hc hnot
        · exact ⟨d, hd, hnot⟩
      · simp only [if_neg hc]

/-! ## Octal against decimal -/

theorem le_ofDigitChars {base : ℕ} (hbase : 0 < base) (digits : Str) (n : ℕ) :
    n ≤ Nat.ofDigitChars base digits n := by
  induction digits generalizing n with
  | nil => exact le_refl n
  | cons c rest ih =>
      rw [Nat.ofDigitChars_cons]
      have hmul := Nat.le_mul_of_pos_left n hbase
      exact (by omega : n ≤ base * n + (c.toNat - '0'.toNat)).trans (ih _)

theorem digit_le_ofDigitChars {base : ℕ} (hbase : 0 < base) {digits : Str} {c : Char}
    (hc : c ∈ digits) (n : ℕ) :
    c.toNat - '0'.toNat ≤ Nat.ofDigitChars base digits n := by
  induction digits generalizing n with
  | nil => cases hc
  | cons d rest ih =>
      rw [Nat.ofDigitChars_cons]
      rcases List.mem_cons.mp hc with rfl | hc
      · exact (Nat.le_add_left _ _).trans (le_ofDigitChars hbase rest _)
      · exact ih hc _

theorem ofDigitChars_eight_le {digits : Str} {m n : ℕ} (hle : m ≤ n) :
    Nat.ofDigitChars 8 digits m ≤ Nat.ofDigitChars 10 digits n := by
  induction digits generalizing m n with
  | nil => exact hle
  | cons c rest ih =>
      rw [Nat.ofDigitChars_cons, Nat.ofDigitChars_cons]
      exact ih (by omega)

theorem ofDigitChars_eight_lt {digits : Str} {m n : ℕ} (hlt : m < n) :
    Nat.ofDigitChars 8 digits m < Nat.ofDigitChars 10 digits n := by
  induction digits generalizing m n with
  | nil => exact hlt
  | cons c rest ih =>
      rw [Nat.ofDigitChars_cons, Nat.ofDigitChars_cons]
      exact ih (by omega)

/-- The two readings of octal digits agree on one digit behind the zeros. -/
theorem ofDigitChars_eight_eq_iff {digits : Str}
    (hoctal : ∀ c ∈ digits, c.toNat - '0'.toNat < 8) :
    Nat.ofDigitChars 8 digits 0 = Nat.ofDigitChars 10 digits 0 ↔
      Nat.ofDigitChars 10 digits 0 < 8 := by
  induction digits with
  | nil => simp
  | cons c rest ih =>
      have hc := hoctal c List.mem_cons_self
      have hrest := ih fun d hd => hoctal d (List.mem_cons_of_mem c hd)
      simp only [Nat.ofDigitChars_cons, Nat.mul_zero, Nat.zero_add]
      by_cases hzero : c.toNat - '0'.toNat = 0
      · rw [hzero]
        exact hrest
      · cases rest with
        | nil => simpa using hc
        | cons d rest =>
            have hstrict : Nat.ofDigitChars 8 (d :: rest) (c.toNat - '0'.toNat) <
                Nat.ofDigitChars 10 (d :: rest) (c.toNat - '0'.toNat) := by
              rw [Nat.ofDigitChars_cons, Nat.ofDigitChars_cons]
              exact ofDigitChars_eight_lt (by omega)
            have hlarge : 10 ≤ Nat.ofDigitChars 10 (d :: rest) (c.toNat - '0'.toNat) := by
              rw [Nat.ofDigitChars_cons]
              exact (by omega : 10 ≤ 10 * (c.toNat - '0'.toNat) + (d.toNat - '0'.toNat)).trans
                (le_ofDigitChars (by omega) _ _)
            omega

/-! ## What `ParseInt` makes of a numeral -/

namespace Numeral

variable (n : Numeral)

/-- The digits fit the base. -/
def HasDigits : Prop := ∀ c ∈ n.digits, c.toNat - '0'.toNat < n.base

theorem hasDigits_iff : n.HasDigits ↔ ¬ (n.LeadingZero ∧ ∃ c ∈ n.digits, c = '8' ∨ c = '9') := by
  have hlarge : ∀ c : Char, c.isDigit = true →
      (¬ c.toNat - '0'.toNat < 8 ↔ c = '8' ∨ c = '9') := by
    intro c hc
    have hbounds := toNat_of_isDigit hc
    rw [← Char.toNat_inj, ← Char.toNat_inj]
    simp only [Char.reduceToNat]
    omega
  unfold HasDigits base
  by_cases hzero : n.LeadingZero
  · rw [if_pos hzero]
    constructor
    · rintro h ⟨-, c, hc, hdigit⟩
      exact (hlarge c (n.decimal c hc)).mpr hdigit (h c hc)
    · intro h c hc
      by_contra hdigit
      exact h ⟨hzero, c, hc, (hlarge c (n.decimal c hc)).mp hdigit⟩
  · rw [if_neg hzero]
    refine ⟨fun _ h => hzero h.1, fun _ c hc => ?_⟩
    have hbounds := toNat_of_isDigit (n.decimal c hc)
    simp only [Char.reduceToNat]
    omega

theorem digits_eq_cons : ∃ c rest, n.digits = c :: rest ∧ c.isDigit = true := by
  cases hdigits : n.digits with
  | nil => exact absurd hdigits n.ne_nil
  | cons c rest => exact ⟨c, rest, rfl, n.decimal c (by simp [hdigits])⟩

theorem text_ne_nil : n.text ≠ [] := by
  intro hnil
  exact n.ne_nil (List.append_eq_nil_iff.mp hnil).2

/-- Behind the prefix come the digits, without the leading zero. -/
theorem digitsValue_splitBase :
    digitsValue (splitBase n.digits).1 0 (splitBase n.digits).2 =
      digitsValue n.base 0 n.digits ∧ (splitBase n.digits).2 <:+ n.digits := by
  obtain ⟨c, rest, hdigits, -⟩ := n.digits_eq_cons
  have hleading : n.LeadingZero ↔ c = '0' ∧ rest ≠ [] := by
    simp [LeadingZero, hdigits, List.length_pos_iff]
  by_cases hc : c = '0'
  · subst hc
    cases rest with
    | nil =>
        have hbase : n.base = 10 := if_neg (by simp [hleading])
        rw [hbase, hdigits]
        exact ⟨rfl, List.suffix_cons ..⟩
    | cons d rest =>
        have hbase : n.base = 8 := if_pos (by simp [hleading])
        have hd : d.isDigit = true := n.decimal d (by simp [hdigits])
        have hletters : ∀ e : Char, e.isDigit = false → d ≠ e := by
          rintro e he rfl
          rw [hd] at he
          cases he
        have hsplit : splitBase ('0' :: d :: rest) = (8, d :: rest) := by
          cases rest with
          | nil => rfl
          | cons e rest =>
              simp [splitBase, hletters 'b', hletters 'B', hletters 'o', hletters 'O',
                hletters 'x', hletters 'X', Char.isDigit]
        rw [hbase, hdigits, hsplit]
        exact ⟨rfl, List.suffix_cons ..⟩
  · have hbase : n.base = 10 := if_neg (by simp [hleading, hc])
    have hsplit : splitBase (c :: rest) = (10, c :: rest) := by
      unfold splitBase
      split
      next h => exact absurd (List.cons.inj h).1 hc
      next h => exact absurd (List.cons.inj h).1 hc
      next => rfl
    rw [hbase, hdigits, hsplit]
    exact ⟨rfl, List.suffix_refl _⟩

theorem parseUintAuto_digits (m : ℕ) :
    parseUintAuto n.digits = some m ↔
      n.HasDigits ∧ Nat.ofDigitChars n.base n.digits 0 = m ∧ m < 2 ^ 64 := by
  obtain ⟨hvalue, hsuffix⟩ := n.digitsValue_splitBase
  have hunderscore : '_' ∉ (splitBase n.digits).2 := by
    intro hmem
    have hdigit := n.decimal '_' (hsuffix.subset hmem)
    cases hdigit
  have hfilter : (splitBase n.digits).2.filter (· ≠ '_') = (splitBase n.digits).2 := by
    apply List.filter_eq_self.mpr
    intro c hc
    have hne : c ≠ '_' := fun heq => hunderscore (heq ▸ hc)
    simpa using hne
  unfold parseUintAuto
  rw [if_neg n.ne_nil]
  simp only [if_neg (fun h : _ ∧ _ => hunderscore h.1), hfilter, hvalue]
  by_cases hdigits : n.HasDigits
  · rw [digitsValue_of_lt n.decimal hdigits]
    by_cases hm : Nat.ofDigitChars n.base n.digits 0 < 2 ^ 64
    · simp only [if_pos hm, Option.some.injEq, hdigits, true_and]
      exact ⟨fun h => ⟨h, h ▸ hm⟩, fun h => h.1⟩
    · simp only [if_neg hm, hdigits, true_and]
      exact ⟨fun h => absurd h (by simp), fun h => absurd (h.1 ▸ h.2) hm⟩
  · have hnot : ∃ c ∈ n.digits, ¬ c.toNat - '0'.toNat < n.base := by
      simpa [HasDigits] using hdigits
    rw [digitsValue_of_not_lt n.decimal hnot]
    simp [hdigits]

theorem signedInt_eq_some {negative : Bool} {magnitude : Option ℕ} {m : ℤ} :
    signedInt negative magnitude 64 = some m ↔
      ∃ k, magnitude = some k ∧ (if negative then -(k : ℤ) else k) = m ∧
        -2 ^ 63 ≤ m ∧ m < 2 ^ 63 := by
  cases magnitude with
  | none => simp [signedInt]
  | some k =>
      have hmagnitude : ∀ P : ℕ → Prop, (∃ j, some k = some j ∧ P j) ↔ P k := by simp
      rw [hmagnitude, signedInt]
      cases negative with
      | true =>
          by_cases hrange : k ≤ 2 ^ 63
          · simp only [Nat.reduceSub, if_pos hrange, if_true, Option.some.injEq]
            omega
          · simp only [Nat.reduceSub, if_neg hrange, if_true, reduceCtorEq, false_iff]
            omega
      | false =>
          by_cases hrange : k < 2 ^ 63
          · simp only [Nat.reduceSub, if_pos hrange, Bool.false_eq_true, if_false,
              Option.some.injEq]
            omega
          · simp only [Nat.reduceSub, if_neg hrange, Bool.false_eq_true, if_false,
              reduceCtorEq, false_iff]
            omega

theorem parseIntAuto_eq_signedInt (bits : ℕ) :
    parseIntAuto n.text bits = signedInt (n.sign = .minus) (parseUintAuto n.digits) bits := by
  obtain ⟨c, rest, hdigits, hc⟩ := n.digits_eq_cons
  have hnot : ∀ e : Char, e.isDigit = false → c ≠ e := by
    rintro e he rfl
    rw [hc] at he
    cases he
  cases hsign : n.sign with
  | absent =>
      have hminus := hnot '-' rfl
      have hplus := hnot '+' rfl
      rw [text, hsign, hdigits]
      unfold parseIntAuto
      split
      next h => exact absurd (List.cons.inj h).1 hminus
      next h => exact absurd (List.cons.inj h).1 hplus
      next => rfl
  | plus => simp [text, hsign, NumeralSign.text, parseIntAuto]
  | minus => simp [text, hsign, NumeralSign.text, parseIntAuto]

/-- A numeral is read in the base of its prefix. -/
theorem parseIntAuto_text (m : ℤ) :
    parseIntAuto n.text 64 = some m ↔ ¬ n.Rejected ∧ n.readValue = m := by
  have hrejected : ¬ n.Rejected ↔
      n.HasDigits ∧ -2 ^ 63 ≤ n.readValue ∧ n.readValue < 2 ^ 63 := by
    rw [Rejected, hasDigits_iff]
    push Not
    rfl
  rw [hrejected, n.parseIntAuto_eq_signedInt, signedInt_eq_some]
  simp only [n.parseUintAuto_digits, decide_eq_true_eq]
  unfold readValue NumeralSign.apply
  constructor
  · rintro ⟨k, ⟨hdigits, rfl, -⟩, rfl, hrange⟩
    exact ⟨⟨hdigits, hrange⟩, rfl⟩
  · rintro ⟨⟨hdigits, hlow, hhigh⟩, rfl⟩
    refine ⟨_, ⟨hdigits, rfl, ?_⟩, rfl, hlow, hhigh⟩
    split at hlow
    next hsign =>
      omega
    next hsign =>
      rw [if_neg hsign] at hhigh
      omega

/-- What is read lies between zero and what is written. -/
theorem readValue_between :
    (0 ≤ n.readValue ∧ n.readValue ≤ n.value) ∨ (n.value ≤ n.readValue ∧ n.readValue ≤ 0) := by
  have hle : Nat.ofDigitChars n.base n.digits 0 ≤ Nat.ofDigitChars 10 n.digits 0 := by
    by_cases hzero : n.LeadingZero
    · have hbase : n.base = 8 := if_pos hzero
      rw [hbase]
      exact ofDigitChars_eight_le (le_refl 0)
    · have hbase : n.base = 10 := if_neg hzero
      rw [hbase]
  unfold readValue value NumeralSign.apply
  split <;> omega

/-- A numeral that is not rejected is read as written, unless it is octal and has a
second digit behind its zeros. -/
theorem readValue_eq_value_iff (h : ¬ n.Rejected) :
    n.readValue = n.value ↔ (n.LeadingZero → Nat.ofDigitChars 10 n.digits 0 < 8) := by
  have hdigits : n.HasDigits := by
    rw [hasDigits_iff]
    exact fun hlarge => h (Or.inl hlarge)
  have hsame : n.readValue = n.value ↔
      Nat.ofDigitChars n.base n.digits 0 = Nat.ofDigitChars 10 n.digits 0 := by
    unfold readValue value NumeralSign.apply
    split
    · rw [neg_inj, Nat.cast_inj]
    · rw [Nat.cast_inj]
  rw [hsame]
  unfold HasDigits at hdigits
  by_cases hzero : n.LeadingZero
  · have hbase : n.base = 8 := if_pos hzero
    rw [hbase] at hdigits ⊢
    rw [ofDigitChars_eight_eq_iff hdigits]
    exact ⟨fun hlt _ => hlt, fun hlt => hlt hzero⟩
  · have hbase : n.base = 10 := if_neg hzero
    rw [hbase]
    exact ⟨fun _ h => absurd h hzero, fun _ => rfl⟩

end Numeral

/-! ## Surrounding blanks -/

theorem trimFront_of_no_match {seps : List Str} {s : Str}
    (hs : ∀ sep ∈ seps, ¬ sep <+: s) (fuel : ℕ) : trimFront seps fuel s = s := by
  cases fuel with
  | zero => rfl
  | succ fuel =>
      have hfind : seps.find? (·.isPrefixOf s) = none := by
        apply List.find?_eq_none.mpr
        intro sep hsep
        simpa using hs sep hsep
      simp [trimFront, hfind]

/-- Separators of which none starts another are taken off one by one. -/
theorem trimFront_flatten {seps blanks : List Str} {s : Str}
    (hfree : ∀ a ∈ seps, ∀ b ∈ seps, a <+: b → a = b) (hs : ∀ sep ∈ seps, ¬ sep <+: s)
    (hblanks : ∀ blank ∈ blanks, blank ∈ seps) {fuel : ℕ} (hfuel : blanks.length ≤ fuel) :
    trimFront seps fuel (blanks.flatten ++ s) = s := by
  induction blanks generalizing fuel with
  | nil => exact trimFront_of_no_match hs fuel
  | cons blank rest ih =>
      cases fuel with
      | zero => simp at hfuel
      | succ fuel =>
          have hblank := hblanks blank List.mem_cons_self
          have hfind : seps.find? (·.isPrefixOf (blank ++ (rest.flatten ++ s))) = some blank := by
            obtain ⟨found, hfound⟩ : ∃ found,
                seps.find? (·.isPrefixOf (blank ++ (rest.flatten ++ s))) = some found := by
              apply Option.isSome_iff_exists.mp
              rw [List.find?_isSome]
              exact ⟨blank, hblank, by simp⟩
            have hmem := List.mem_of_find?_eq_some hfound
            have hprefix : found <+: blank ++ (rest.flatten ++ s) := by
              simpa using List.find?_some hfound
            have hsame : found = blank := by
              rcases List.prefix_or_prefix_of_prefix hprefix (List.prefix_append ..) with h | h
              · exact hfree found hmem blank hblank h
              · exact (hfree blank hblank found hmem h).symm
            rw [hfound, hsame]
          rw [List.flatten_cons, List.append_assoc, trimFront]
          simp only [hfind, List.drop_left]
          exact ih (fun b hb => hblanks b (List.mem_cons_of_mem _ hb)) (by simpa using hfuel)

theorem length_le_length_flatten {blanks : List Str} (hblanks : ∀ blank ∈ blanks, blank ≠ []) :
    blanks.length ≤ blanks.flatten.length := by
  induction blanks with
  | nil => simp
  | cons blank rest ih =>
      have hpos := List.length_pos_iff.mpr (hblanks blank List.mem_cons_self)
      have hrest := ih fun b hb => hblanks b (List.mem_cons_of_mem _ hb)
      simp only [List.length_cons, List.flatten_cons, List.length_append]
      omega

theorem spaces_free : ∀ a ∈ spaces, ∀ b ∈ spaces, a <+: b → a = b := by
  decide +kernel

theorem spaces_reverse_free :
    ∀ a ∈ spaces.map List.reverse, ∀ b ∈ spaces.map List.reverse, a <+: b → a = b := by
  decide +kernel

/-- Spaces on both sides of a text that neither starts nor ends with a part of one. -/
theorem trimSpace_surrounded {front back : List Str} {s : Str}
    (hfront : ∀ blank ∈ front, blank ∈ spaces) (hback : ∀ blank ∈ back, blank ∈ spaces)
    (hstart : ∀ blank ∈ spaces, ∀ rest, ¬ blank <+: s ++ rest)
    (hend : ∀ blank ∈ spaces, ¬ blank <:+ s) :
    trimSpace (front.flatten ++ s ++ back.flatten) = s := by
  have hnonempty : ∀ blank ∈ spaces, blank ≠ [] := by decide +kernel
  have hcut : trimFront spaces (front.flatten ++ s ++ back.flatten).length
      (front.flatten ++ s ++ back.flatten) = s ++ back.flatten := by
    rw [List.append_assoc]
    apply trimFront_flatten spaces_free (fun sep hsep => hstart sep hsep _) hfront
    have hlength := length_le_length_flatten fun blank hblank =>
      hnonempty blank (hfront blank hblank)
    simp only [List.length_append]
    omega
  have hreverse : (s ++ back.flatten).reverse =
      (back.map List.reverse).reverse.flatten ++ s.reverse := by
    rw [List.reverse_append, List.reverse_flatten]
  unfold trimSpace
  simp only [hcut]
  rw [hreverse, trimFront_flatten spaces_reverse_free]
  · exact List.reverse_reverse s
  · intro sep hsep hprefix
    obtain ⟨blank, hblank, rfl⟩ := List.mem_map.mp hsep
    exact hend blank hblank (List.reverse_prefix.mp hprefix)
  · intro blank hblank
    obtain ⟨b, hb, rfl⟩ := List.mem_map.mp (List.mem_reverse.mp hblank)
    exact List.mem_map_of_mem (hback b hb)
  · have hlength := length_le_length_flatten fun blank hblank =>
      hnonempty blank (hback blank hblank)
    simp only [List.length_reverse, List.length_map, List.length_append]
    omega

/-- The text of a numeral with blanks around it. -/
theorem Numeral.trimSpace_text (n : Numeral) {front back : List Str}
    (hfront : ∀ blank ∈ front, blank ∈ spaces) (hback : ∀ blank ∈ back, blank ∈ spaces) :
    trimSpace (front.flatten ++ n.text ++ back.flatten) = n.text := by
  have hsign : ∀ blank ∈ spaces, ∀ c ∈ blank, c.isDigit = false ∧ c ≠ '+' ∧ c ≠ '-' := by
    decide +kernel
  have hnonempty : ∀ blank ∈ spaces, blank ≠ [] := by decide +kernel
  have htext : ∀ c ∈ n.text, c.isDigit = true ∨ c = '+' ∨ c = '-' := by
    intro c hc
    rcases List.mem_append.mp hc with hc | hc
    · revert hc
      cases n.sign <;> simp [NumeralSign.text] <;> tauto
    · exact Or.inl (n.decimal c hc)
  have hapart : ∀ blank ∈ spaces, ∀ c ∈ blank, c ∉ n.text := by
    intro blank hblank c hc hmem
    obtain ⟨hdigit, hplus, hminus⟩ := hsign blank hblank c hc
    rcases htext c hmem with h | h | h
    · rw [hdigit] at h
      cases h
    · exact hplus h
    · exact hminus h
  have hne : n.text ≠ [] := by
    intro hnil
    exact n.ne_nil (List.append_eq_nil_iff.mp hnil).2
  apply trimSpace_surrounded hfront hback
  · intro blank hblank rest hprefix
    obtain ⟨c, tail, rfl⟩ := List.exists_cons_of_ne_nil (hnonempty blank hblank)
    obtain ⟨d, others, hd⟩ := List.exists_cons_of_ne_nil hne
    rw [hd, List.cons_append, List.cons_prefix_cons] at hprefix
    exact hapart _ hblank c List.mem_cons_self (by rw [hd, hprefix.1]; exact List.mem_cons_self)
  · intro blank hblank hsuffix
    obtain ⟨c, tail, rfl⟩ := List.exists_cons_of_ne_nil (hnonempty blank hblank)
    exact hapart _ hblank c List.mem_cons_self (hsuffix.subset List.mem_cons_self)

end Iec61850.Go
