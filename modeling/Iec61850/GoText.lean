import Mathlib.Algebra.Group.Int.Defs
import Mathlib.Algebra.GroupWithZero.Nat
import Mathlib.Data.List.Basic
import Mathlib.Data.List.Infix

/-!
# Go strings

A Go string is a sequence of bytes.  It is modelled as a list of characters,
one for each byte, so that `len`, slicing and `strings.HasPrefix` count bytes
as Go does.  The functions of `strings` and `strconv` which the generator and
the parser call are defined here under their Go meaning.
-/

namespace Iec61850.Go

abbrev Str := List Char

instance : LawfulBEq Str := inferInstance

/-- A property of the characters of a text is decided on the text alone, never on all characters. -/
instance (priority := 2000) (s : Str) (p : Char → Prop) [DecidablePred p] :
    Decidable (∀ c ∈ s, p c) :=
  List.decidableBAll p s

/-- A string literal of the Go source. -/
def lit (s : String) : Str := s.toList

def hasPrefix (s pre : Str) : Bool := pre.isPrefixOf s

@[simp] theorem hasPrefix_iff {s pre : Str} :
    hasPrefix s pre = true ↔ pre <+: s := by
  simp [hasPrefix]

/-- `strings.Index` for a one-byte separator. -/
def index (s : Str) (c : Char) : Option ℕ :=
  if c ∈ s then some (s.idxOf c) else none

/-- `strings.Split` for a one-byte separator. -/
def split (c : Char) : Str → List Str
  | [] => [[]]
  | d :: rest =>
      if d = c then [] :: split c rest
      else
        match split c rest with
        | [] => [[d]]
        | part :: parts => (d :: part) :: parts

/-- `strings.ReplaceAll` for one-byte patterns. -/
def replaceAll (s : Str) (old new : Char) : Str :=
  s.map fun c => if c = old then new else c

def itoa (n : ℕ) : Str := Nat.toDigits 10 n

/-- `fmt.Sprintf("%02d", n)`. -/
def twoDigits (n : ℕ) : Str :=
  if n < 10 then '0' :: itoa n else itoa n

def isAscii (c : Char) : Bool := c.toNat < 128

def asciiLower (s : Str) : Str :=
  s.map fun c => if 'A' ≤ c ∧ c ≤ 'Z' then Char.ofNat (c.toNat + 32) else c

def asciiUpper (s : Str) : Str :=
  s.map fun c => if 'a' ≤ c ∧ c ≤ 'z' then Char.ofNat (c.toNat - 32) else c

/-! ## `strings.TrimSpace` -/

/-- The UTF-8 encodings of the code points that `unicode.IsSpace` accepts. -/
def spaces : List Str :=
  [[9], [10], [11], [12], [13], [32], [0xC2, 0x85], [0xC2, 0xA0],
    [0xE1, 0x9A, 0x80], [0xE2, 0x80, 0x80], [0xE2, 0x80, 0x81],
    [0xE2, 0x80, 0x82], [0xE2, 0x80, 0x83], [0xE2, 0x80, 0x84],
    [0xE2, 0x80, 0x85], [0xE2, 0x80, 0x86], [0xE2, 0x80, 0x87],
    [0xE2, 0x80, 0x88], [0xE2, 0x80, 0x89], [0xE2, 0x80, 0x8A],
    [0xE2, 0x80, 0xA8], [0xE2, 0x80, 0xA9], [0xE2, 0x80, 0xAF],
    [0xE2, 0x81, 0x9F], [0xE3, 0x80, 0x80]].map (·.map Char.ofNat)

/-- Drops members of `seps` from the front, at most `fuel` of them. -/
def trimFront (seps : List Str) : ℕ → Str → Str
  | 0, s => s
  | fuel + 1, s =>
      match seps.find? (·.isPrefixOf s) with
      | some sep => trimFront seps fuel (s.drop sep.length)
      | none => s

def trimSpace (s : Str) : Str :=
  let front := trimFront spaces s.length s
  (trimFront (spaces.map List.reverse) front.length front.reverse).reverse

/-! ## `strconv` -/

/-- The value of one digit, for bases up to sixteen. -/
def digitValue (c : Char) : Option ℕ :=
  if '0' ≤ c ∧ c ≤ '9' then some (c.toNat - '0'.toNat)
  else if 'a' ≤ c ∧ c ≤ 'f' then some (c.toNat - 'a'.toNat + 10)
  else if 'A' ≤ c ∧ c ≤ 'F' then some (c.toNat - 'A'.toNat + 10)
  else none

def digitsValue (base : ℕ) : ℕ → Str → Option ℕ
  | acc, [] => some acc
  | acc, c :: rest =>
      match digitValue c with
      | some d => if d < base then digitsValue base (acc * base + d) rest else none
      | none => none

/-- `strconv.ParseUint(s, base, bits)`; an error is `none`. -/
def parseUint (s : Str) (base bits : ℕ) : Option ℕ :=
  if s = [] then none
  else
    match digitsValue base 0 s with
    | some n => if n < 2 ^ bits then some n else none
    | none => none

/-- `strconv.ParseInt(s, base, bits)`; an error is `none`. -/
def parseInt (s : Str) (base bits : ℕ) : Option ℤ :=
  let (negative, digits) :=
    match s with
    | '-' :: rest => (true, rest)
    | '+' :: rest => (false, rest)
    | _ => (false, s)
  match parseUint digits base 64 with
  | none => none
  | some n =>
      if negative then
        if n ≤ 2 ^ (bits - 1) then some (-(n : ℤ)) else none
      else if n < 2 ^ (bits - 1) then some (n : ℤ) else none

/-- `strconv.Atoi` on a 64-bit platform; an error is `none`. -/
def atoi (s : Str) : Option ℤ := parseInt s 10 64

/-- `strconv.ParseBool`; an error is `none`. -/
def parseBool (s : Str) : Option Bool :=
  if s ∈ ["1", "t", "T", "TRUE", "true", "True"].map lit then some true
  else if s ∈ ["0", "f", "F", "FALSE", "false", "False"].map lit then some false
  else none

/-! ## Facts about decimal numerals and separators -/

theorem itoa_injective : Function.Injective itoa := by
  intro m n h
  have hvalue := congrArg (Nat.ofDigitChars 10 · 0) h
  simpa [itoa] using hvalue

theorem underscore_not_mem_itoa (n : ℕ) : '_' ∉ itoa n :=
  Nat.underscore_not_in_toDigits

/-- Two texts are cut alike at the last occurrence of a character. -/
theorem append_cons_inj_of_not_mem {c : Char} {a b u v : Str} (hu : c ∉ u) (hv : c ∉ v)
    (h : a ++ c :: u = b ++ c :: v) : a = b ∧ u = v := by
  rcases List.append_eq_append_iff.mp h with ⟨middle, hb, htail⟩ | ⟨middle, ha, htail⟩
  · cases middle with
    | nil => exact ⟨by rw [hb, List.append_nil], (List.cons.inj htail).2⟩
    | cons d rest =>
        rw [(List.cons.inj htail).2] at hu
        exact absurd (by simp) hu
  · cases middle with
    | nil => exact ⟨by rw [ha, List.append_nil], (List.cons.inj htail).2.symm⟩
    | cons d rest =>
        rw [(List.cons.inj htail).2] at hv
        exact absurd (by simp) hv

theorem split_ne_nil (c : Char) (s : Str) : split c s ≠ [] := by
  cases s with
  | nil => simp [split]
  | cons d rest =>
      simp only [split]
      split
      · simp
      · split <;> simp

theorem length_split (c : Char) (s : Str) : (split c s).length = s.count c + 1 := by
  induction s with
  | nil => rfl
  | cons d rest ih =>
      by_cases hd : d = c
      · simp [split, hd, ih]
      · simp only [split, if_neg hd, List.count_cons_of_ne hd, ← ih]
        cases hrest : split c rest with
        | nil => exact absurd hrest (split_ne_nil c rest)
        | cons part parts => simp

/-- A text without the separator is one component. -/
theorem split_of_not_mem {c : Char} {s : Str} (h : c ∉ s) :
    split c s = [s] := by
  induction s with
  | nil => rfl
  | cons d rest ih =>
      have hd : d ≠ c := fun heq => h (by simp [heq])
      have hrest : c ∉ rest := fun hmem => h (List.mem_cons_of_mem d hmem)
      simp [split, hd, ih hrest]

/-- The separator cuts off the text before it as the first component. -/
theorem split_append_cons {c : Char} {s rest : Str} (h : c ∉ s) :
    split c (s ++ c :: rest) = s :: split c rest := by
  induction s with
  | nil => simp [split]
  | cons d tail ih =>
      have hd : d ≠ c := fun heq => h (by simp [heq])
      have htail : c ∉ tail := fun hmem => h (List.mem_cons_of_mem d hmem)
      simp [split, hd, ih htail]

end Iec61850.Go
