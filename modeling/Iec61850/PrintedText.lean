import Iec61850.CLexemes
import Mathlib.Tactic.Tauto

/-!
# Reading what was printed

A text goes to a file verbatim, or as the format of a formatted print that has
no operands and then replaces the directives in it.  The file is read back as
C.  The text is recovered only if it went through unchanged and no escape
sequence was used: one that stands in the text is shorter when it is read, a
directive comes out longer than it is, and the two never make up for each
other.
-/

namespace Iec61850.CSource

/-- What a directive without operand is replaced by, both without their leading
percent sign. -/
structure Expands (directive result : List Char) : Prop where
  marked : result = [] ∨ ∃ w, result = '!' :: w
  percent : ∀ u v, result = u ++ '%' :: v →
    directive ≠ [] ∧ (v = [] ∨ (∃ w, v = '!' :: w) ∧ ∀ w, directive ≠ '!' :: w)
  backslash : ∀ u v, result = u ++ '\\' :: v → ∃ w, v = '(' :: w
  bang : ∀ w, directive = '!' :: w → w = [] ∧ result = "!!(MISSING)".toList
  empty : directive = [] → result ≠ []

/-- The texts which a print relates; only a formatted one replaces directives.
A percent sign at the end of the text is a directive as well. -/
inductive Prints (formatted : Bool) : List Char → List Char → Prop
  | nil : Prints formatted [] []
  | copy {c : Char} {s t : List Char} (hc : formatted = true → c ≠ '%')
      (rest : Prints formatted s t) : Prints formatted (c :: s) (c :: t)
  | directive {d z s t : List Char} (hformatted : formatted = true) (hexpands : Expands d z)
      (hlast : d = [] → s = []) (rest : Prints formatted s t) :
      Prints formatted ('%' :: (d ++ s)) ('%' :: (z ++ t))

variable {formatted inLiteral : Bool}

theorem Prints.verbatim (s : List Char) : Prints false s s := by
  induction s with
  | nil => exact .nil
  | cons c s ih => exact .copy (fun h => absurd h (by decide)) ih

theorem Prints.eq_of_verbatim {s t : List Char} (h : Prints false s t) : t = s := by
  induction h with
  | nil => rfl
  | copy _ _ ih => rw [ih]
  | directive hformatted => cases hformatted

/-- A formatted print leaves a text without percent signs as it is. -/
theorem Prints.eq_of_percent_not_mem {s t : List Char} (h : Prints formatted s t)
    (hs : '%' ∉ s) : t = s := by
  induction h with
  | nil => rfl
  | copy _ _ ih => rw [ih fun hmem => hs (List.mem_cons_of_mem _ hmem)]
  | directive => exact absurd List.mem_cons_self hs

theorem Prints.of_append_left {w s t : List Char} (hw : '%' ∉ w)
    (h : Prints formatted (w ++ s) t) : ∃ t', t = w ++ t' ∧ Prints formatted s t' := by
  induction w generalizing t with
  | nil => exact ⟨t, rfl, h⟩
  | cons c w ih =>
      have hc : c ≠ '%' := fun hc => hw (hc ▸ List.mem_cons_self)
      rw [List.cons_append] at h
      generalize hall : c :: (w ++ s) = all at h
      cases h with
      | nil => cases hall
      | copy _ rest =>
          cases hall
          obtain ⟨t', rfl, ht'⟩ := ih (fun hmem => hw (List.mem_cons_of_mem _ hmem)) rest
          exact ⟨t', rfl, ht'⟩
      | directive => exact absurd (List.cons.inj hall).1 hc

theorem Prints.of_append_right {w s t : List Char} (hw : '%' ∉ w)
    (h : Prints formatted s (w ++ t)) : ∃ s', s = w ++ s' ∧ Prints formatted s' t := by
  induction w generalizing s with
  | nil => exact ⟨s, rfl, h⟩
  | cons c w ih =>
      have hc : c ≠ '%' := fun hc => hw (hc ▸ List.mem_cons_self)
      rw [List.cons_append] at h
      generalize hall : c :: (w ++ t) = all at h
      cases h with
      | nil => cases hall
      | copy _ rest =>
          cases hall
          obtain ⟨s', rfl, hs'⟩ := ih (fun hmem => hw (List.mem_cons_of_mem _ hmem)) rest
          exact ⟨s', rfl, hs'⟩
      | directive => exact absurd (List.cons.inj hall).1 hc

/-- What is printed of a text never is this text behind a non-empty one: every step
turns the surplus into another one. -/
theorem Prints.ne_append {s t w : List Char} (h : Prints formatted s t) (hw : w ≠ []) :
    t ≠ w ++ s := by
  induction h generalizing w with
  | nil => simpa using hw.symm
  | @copy c s t hc _ ih =>
      intro heq
      obtain ⟨d, w, rfl⟩ := List.exists_cons_of_ne_nil hw
      obtain ⟨rfl, heq⟩ := List.cons.inj heq
      exact ih (w := w ++ [c]) (by simp) (by simpa using heq)
  | @directive d z s t _ hexpands _ _ ih =>
      intro heq
      obtain ⟨c, w, rfl⟩ := List.exists_cons_of_ne_nil hw
      obtain ⟨-, heq⟩ := List.cons.inj heq
      rcases List.append_eq_append_iff.mp heq with ⟨a, rfl, ht⟩ | ⟨a, rfl, ht⟩
      · exact ih (w := a ++ '%' :: d) (by simp) (by simpa using ht)
      · cases a with
        | nil => exact ih (w := '%' :: d) (by simp) (by simpa using ht.symm)
        | cons e a =>
            obtain ⟨rfl, hbehind⟩ := List.cons.inj ht
            obtain ⟨hd, hmarked⟩ := hexpands.percent w a rfl
            rcases hmarked with rfl | ⟨⟨v, rfl⟩, hbang⟩
            · exact ih hd (by simpa using hbehind.symm)
            · obtain ⟨b, d, rfl⟩ := List.exists_cons_of_ne_nil hd
              have hb : b = '!' := (List.cons.inj hbehind).1
              exact hbang d (by rw [hb])

/-- Nor is a text what is printed of it behind a text without directives. -/
theorem Prints.append_ne {t w : List Char} (hw : w ≠ []) (hpercent : '%' ∉ w) :
    ¬ Prints formatted (w ++ t) t := by
  intro h
  induction hn : t.length using Nat.strong_induction_on generalizing t with
  | _ n ih =>
      obtain ⟨rest, rfl, hrest⟩ := h.of_append_left hpercent
      refine ih rest.length ?_ hrest rfl
      have hlength := List.length_pos_iff.mpr hw
      rw [← hn, List.length_append]
      omega

/-- A formatted print leaves exactly the texts without percent signs as they are. -/
theorem Prints.eq_self_iff {s t : List Char} (h : Prints true s t) : t = s ↔ '%' ∉ s := by
  refine ⟨fun heq => ?_, h.eq_of_percent_not_mem⟩
  induction h with
  | nil => simp
  | @copy c s t hc _ ih =>
      obtain ⟨-, heq⟩ := List.cons.inj heq
      have hne := hc rfl
      simpa [hne.symm] using ih heq
  | @directive d z s t _ hexpands hlast rest _ =>
      exfalso
      obtain ⟨-, heq⟩ := List.cons.inj heq
      rcases List.append_eq_append_iff.mp heq with ⟨a, rfl, ht⟩ | ⟨a, rfl, ht⟩
      · by_cases ha : a = []
        · -- the directive would be what it is replaced by
          subst ha
          rcases hexpands.marked with rfl | ⟨w, rfl⟩
          · exact hexpands.empty rfl rfl
          · obtain ⟨hnil, hz⟩ := hexpands.bang (w ++ []) rfl
            rw [(List.append_eq_nil_iff.mp hnil).1] at hz
            cases hz
        · exact rest.ne_append ha ht
      · rcases hexpands.marked with hnil | ⟨w, hbang⟩
        · obtain ⟨rfl, rfl⟩ := List.append_eq_nil_iff.mp hnil
          exact hexpands.empty rfl rfl
        · cases d with
          | nil =>
              rw [hlast rfl] at ht
              exact hexpands.empty rfl (List.append_eq_nil_iff.mp ht.symm).1
          | cons c d =>
              obtain ⟨rfl, -⟩ := List.cons.inj hbang
              obtain ⟨rfl, hz⟩ := hexpands.bang d rfl
              obtain rfl : a = "!(MISSING)".toList := (List.cons.inj hz).2
              rw [ht] at rest
              exact Prints.append_ne (by decide) (by decide) rest

/-- The result of a directive is read character by character. -/
theorem Expands.read_result {d z t : List Char} {items : List Item} (h : Expands d z)
    (hread : read inLiteral ('%' :: (z ++ t)) = some items) :
    ∃ first others behind, items = first ++ others ∧ spelling first = '%' :: z ∧
      read behind t = some others := by
  rw [← List.cons_append] at hread
  refine read_append_eq_some ?_ hread
  intro u v huv
  cases u with
  | nil => cases huv
  | cons c u => exact h.backslash u v (List.cons.inj huv).2

/-! ## Reading behind

The reading owes the items `owed` before it comes to those of the text. -/

/-- An escape sequence adds to what is owed. -/
theorem owed_after_escape {sequence bytes : List Char} (owed : List Item)
    {sequenceItems others behind : List Item} {j : Item} (hsequence : IsEscape sequence bytes)
    (hspelled : spelling sequenceItems = sequence)
    (h : owed ++ j :: (sequenceItems ++ others) = bytes.map .char ++ behind) :
    ∃ owed', owed' ≠ [] ∧ behind = owed' ++ others := by
  have hsplit : owed ++ j :: (sequenceItems ++ others) =
      (owed ++ j :: sequenceItems) ++ others := by simp
  rw [hsplit] at h
  have hlength : sequenceItems.length = sequence.length := by
    rw [← hspelled, length_spelling]
  have hle := hsequence.length_le
  rcases List.append_eq_append_iff.mp h with ⟨w, hbytes, -⟩ | ⟨owed', hitems, hbehind⟩
  · have hlengths := congrArg List.length hbytes
    simp only [List.length_map, List.length_append, List.length_cons] at hlengths
    omega
  · refine ⟨owed', ?_, hbehind⟩
    rintro rfl
    have hlengths := congrArg List.length hitems
    simp only [List.length_map, List.length_append, List.length_cons, List.length_nil]
      at hlengths
    omega

/-- A directive that is read while items are owed leaves items owed. -/
theorem owed_after_directive {d z : List Char}
    {owed directiveItems others first behind : List Item}
    (hexpands : Expands d z) (howed : owed ≠ [])
    (hspelled : spelling directiveItems = '%' :: d) (hfirst : spelling first = '%' :: z)
    (h : owed ++ (directiveItems ++ others) = first ++ behind) :
    ∃ owed', owed' ≠ [] ∧ behind = owed' ++ others := by
  obtain ⟨percent, directiveItems, rfl, hpercent, hd⟩ := spelling_eq_cons hspelled
  rcases List.append_eq_append_iff.mp h with ⟨w, rfl, hw⟩ | ⟨owed', rfl, hbehind⟩
  · -- the owed items end in the result: the directive starts at a percent sign of it
    cases w with
    | nil => exact ⟨percent :: directiveItems, by simp, by simpa using hw.symm⟩
    | cons i w =>
        simp only [List.cons_append, List.cons.injEq] at hw
        obtain ⟨rfl, hrest⟩ := hw
        obtain ⟨o, owed, rfl⟩ := List.exists_cons_of_ne_nil howed
        rw [List.cons_append, spelling_cons, spelling_append, spelling_cons, hpercent] at hfirst
        have hz : z = spelling owed ++ '%' :: spelling w := (List.cons.inj hfirst).2.symm
        obtain ⟨hne, hlast | ⟨⟨u, hbang⟩, hdirective⟩⟩ := hexpands.percent _ _ hz
        · obtain rfl := List.map_eq_nil_iff.mp hlast
          refine ⟨directiveItems, ?_, hrest.symm⟩
          rintro rfl
          exact hne hd.symm
        · obtain ⟨b, w, rfl, hb, -⟩ := spelling_eq_cons hbang
          cases directiveItems with
          | nil => exact absurd hd.symm hne
          | cons j directiveItems =>
              obtain ⟨rfl, -⟩ := List.cons.inj hrest
              rw [spelling_cons, hb] at hd
              exact absurd hd.symm (hdirective _)
  · exact ⟨owed' ++ percent :: directiveItems, by simp, by simp [hbehind]⟩

/-- A reading that owes items never catches up with the text. -/
theorem Prints.read_ne_behind {s t : List Char} (h : Prints formatted s t)
    {owed items : List Item} (howed : owed ≠ []) (hspelled : spelling items = s)
    (hread : read inLiteral t = some (owed ++ items)) : False := by
  induction hn : s.length using Nat.strong_induction_on
    generalizing s t owed items inLiteral with
  | _ n ih =>
      cases h with
      | nil =>
          cases inLiteral <;> rw [read] at hread
          · simp [howed] at hread
          · cases hread
      | @copy c s t hc rest =>
          obtain ⟨j, items, rfl, hj, hitems⟩ := spelling_eq_cons hspelled
          by_cases hbackslash : c = '\\'
          · subst hbackslash
            obtain ⟨sequence, bytes, t, others, rfl, hsequence, heq, hothers⟩ :=
              read_backslash_eq_some hread
            obtain ⟨s, rfl, behind⟩ := rest.of_append_right hsequence.percent_not_mem
            obtain ⟨sequenceItems, items, rfl, hsequenceItems, hitems⟩ :=
              spelling_eq_append hitems
            obtain ⟨owed', howed', rfl⟩ :=
              owed_after_escape owed hsequence hsequenceItems heq
            refine ih _ ?_ behind howed' hitems hothers rfl
            simp only [List.length_cons, List.length_append] at hn
            omega
          · obtain ⟨i, others, behind, heq, -, -, hothers⟩ :=
              read_cons_eq_some hbackslash hread
            obtain ⟨o, owed, rfl⟩ := List.exists_cons_of_ne_nil howed
            obtain ⟨-, rfl⟩ := List.cons.inj heq
            have hrotated : read behind t = some ((owed ++ [j]) ++ items) := by
              rw [hothers]
              simp
            refine ih _ ?_ rest (by simp) hitems hrotated rfl
            simp only [List.length_cons] at hn
            omega
      | @directive d z s t _ hexpands hlast rest =>
          rw [← List.cons_append] at hspelled
          obtain ⟨directiveItems, items, rfl, hd, hitems⟩ := spelling_eq_append hspelled
          obtain ⟨first, others, behind, heq, hfirst, hothers⟩ := hexpands.read_result hread
          obtain ⟨owed', howed', rfl⟩ := owed_after_directive hexpands howed hd hfirst heq
          refine ih _ ?_ rest howed' hitems hothers rfl
          simp only [List.length_cons, List.length_append] at hn
          omega

/-! ## Reading ahead -/

/-- A text in front of what was printed never lets the reading drop behind. -/
theorem Prints.read_ne_ahead {w s t : List Char} (hw : w ≠ []) (hpercent : '%' ∉ w)
    (hbackslash : '\\' ∉ w) (h : Prints formatted s t) {items : List Item}
    (hspelled : spelling items = s) (hread : read inLiteral (w ++ t) = some items) : False := by
  induction hn : s.length using Nat.strong_induction_on generalizing s t items inLiteral with
  | _ n ih =>
      obtain ⟨first, others, behind, rfl, hfirst, hothers⟩ := read_append_eq_some
        (fun u v huv => absurd (by rw [huv]; simp) hbackslash) hread
      rw [spelling_append, hfirst] at hspelled
      subst hspelled
      obtain ⟨t, rfl, rest⟩ := h.of_append_left hpercent
      refine ih _ ?_ rest rfl hothers rfl
      have hlength := List.length_pos_iff.mpr hw
      rw [← hn, List.length_append]
      omega

/-! ## Reading in step -/

/-- A text that is read back has been printed as it is, and stands for itself. -/
theorem Prints.read_back {s t : List Char} (h : Prints formatted s t) {items : List Item}
    (hspelled : spelling items = s) (hread : read inLiteral t = some items) :
    (formatted = true → '%' ∉ s) ∧ ∀ i ∈ items, i.Plain := by
  induction h generalizing items inLiteral with
  | nil =>
      obtain rfl := List.map_eq_nil_iff.mp hspelled
      exact ⟨by simp, by simp⟩
  | @copy c s t hc rest ih =>
      obtain ⟨j, items, rfl, hj, hitems⟩ := spelling_eq_cons hspelled
      by_cases hbackslash : c = '\\'
      · subst hbackslash
        obtain ⟨sequence, bytes, t, others, rfl, hsequence, heq, hothers⟩ :=
          read_backslash_eq_some hread
        obtain ⟨s, rfl, behind⟩ := rest.of_append_right hsequence.percent_not_mem
        obtain ⟨sequenceItems, items, rfl, hsequenceItems, hitems⟩ := spelling_eq_append hitems
        obtain ⟨owed, howed, rfl⟩ := owed_after_escape [] hsequence hsequenceItems heq
        exact (behind.read_ne_behind howed hitems hothers).elim
      · obtain ⟨i, others, behind, heq, -, hplain, hothers⟩ :=
          read_cons_eq_some hbackslash hread
        obtain ⟨rfl, rfl⟩ := List.cons.inj heq
        obtain ⟨hpercent, hplains⟩ := ih hitems hothers
        refine ⟨fun hformatted hmem => ?_, List.forall_mem_cons.mpr ⟨hplain, hplains⟩⟩
        rcases List.mem_cons.mp hmem with hhead | hmem
        · exact hc hformatted hhead.symm
        · exact hpercent hformatted hmem
  | @directive d z s t _ hexpands hlast rest ih =>
      exfalso
      rw [← List.cons_append] at hspelled
      obtain ⟨directiveItems, items, rfl, hd, hitems⟩ := spelling_eq_append hspelled
      obtain ⟨percent, directiveItems, rfl, -, hd⟩ := spelling_eq_cons hd
      rcases hexpands.marked with rfl | ⟨w, rfl⟩
      · -- the directive comes out as a percent sign, and its other items are owed
        obtain ⟨i, others, behind, heq, -, -, hothers⟩ := read_cons_eq_some (by decide) hread
        obtain ⟨-, rfl⟩ := List.cons.inj heq
        have howed : directiveItems ≠ [] := by
          rintro rfl
          exact hexpands.empty hd.symm rfl
        exact rest.read_ne_behind howed hitems hothers
      · obtain ⟨i, others, behind, heq, -, -, hread⟩ := read_cons_eq_some (by decide) hread
        obtain ⟨-, rfl⟩ := List.cons.inj heq
        obtain ⟨i, others, behind, heq, hi, -, hread⟩ := read_cons_eq_some (by decide) hread
        cases directiveItems with
        | nil =>
            obtain rfl := hlast hd.symm
            obtain rfl := List.map_eq_nil_iff.mp hitems
            cases heq
        | cons j directiveItems =>
            obtain ⟨rfl, rfl⟩ := List.cons.inj heq
            rw [spelling_cons, hi] at hd
            obtain ⟨hnone, hw⟩ := hexpands.bang _ hd.symm
            obtain rfl := List.map_eq_nil_iff.mp hnone
            obtain ⟨-, rfl⟩ := List.cons.inj (hw : _ = '!' :: "!(MISSING)".toList)
            exact rest.read_ne_ahead (by simp) (by decide) (by decide) hitems hread

/-! ## Texts with literals -/

/-- A piece of a C text: code as the program has it, a word put into it, or a
string between double quotes. -/
inductive Segment
  | code (s : List Char)
  | name (s : List Char)
  | quoted (s : List Char)
  deriving DecidableEq, Repr

/-- What the piece is meant to be read into. -/
def Segment.items : Segment → List Item
  | .code s => s.map bare
  | .name s => s.map .word
  | .quoted s => .opening :: (s.map .char ++ [.closing])

def items (segments : List Segment) : List Item := segments.flatMap Segment.items

def source (segments : List Segment) : List Char := spelling (items segments)

/-- The text which the reader finds in a piece of code. -/
def IsCode (s : List Char) : Prop := ∀ c ∈ s, isForeign c = false ∧ c ≠ '"'

def IsName (s : List Char) : Prop := ∀ c ∈ s, isWordChar c = true

/-- A string that may stand between double quotes as it is. -/
def IsClean (s : List Char) : Prop := ∀ c ∈ s, c ≠ '"' ∧ c ≠ '\\' ∧ c ≠ '\n'

instance (s : List Char) : Decidable (IsCode s) := List.decidableBAll _ s

instance (s : List Char) : Decidable (IsName s) := List.decidableBAll _ s

instance (s : List Char) : Decidable (IsClean s) := List.decidableBAll _ s

/-- A string that a formatted print leaves as it is. -/
def IsUnformatted (formatted : Bool) (s : List Char) : Prop := formatted = true → '%' ∉ s

instance (formatted : Bool) (s : List Char) : Decidable (IsUnformatted formatted s) :=
  inferInstanceAs (Decidable (_ → _))

def Segment.Plain (formatted : Bool) : Segment → Prop
  | .code s => IsCode s ∧ IsUnformatted formatted s
  | .name s => IsName s
  | .quoted s => IsClean s ∧ IsUnformatted formatted s

instance (formatted : Bool) (segment : Segment) : Decidable (segment.Plain formatted) :=
  match segment with
  | .code s => inferInstanceAs (Decidable (IsCode s ∧ IsUnformatted formatted s))
  | .name s => inferInstanceAs (Decidable (IsName s))
  | .quoted s => inferInstanceAs (Decidable (IsClean s ∧ IsUnformatted formatted s))

/-- Every piece of the text is plain. -/
def PlainText (formatted : Bool) (segments : List Segment) : Prop :=
  ∀ segment ∈ segments, segment.Plain formatted

@[simp] theorem plainText_nil : PlainText formatted [] := by simp [PlainText]

@[simp] theorem plainText_cons {segment : Segment} {segments : List Segment} :
    PlainText formatted (segment :: segments) ↔
      segment.Plain formatted ∧ PlainText formatted segments :=
  List.forall_mem_cons

@[simp] theorem plainText_append {segments others : List Segment} :
    PlainText formatted (segments ++ others) ↔
      PlainText formatted segments ∧ PlainText formatted others :=
  List.forall_mem_append

theorem bare_plain_iff (c : Char) : (bare c).Plain ↔ isForeign c = false ∧ c ≠ '"' := by
  unfold bare
  split
  next hword =>
    refine ⟨fun _ => ?_, fun _ => hword⟩
    constructor
    · simp only [isForeign, Bool.or_eq_false_iff, decide_eq_false_iff_not]
      refine ⟨⟨?_, ?_⟩, ?_⟩ <;> rintro rfl <;> revert hword <;> decide
    · rintro rfl
      revert hword
      decide
  next hword =>
    have hfalse : isWordChar c = false := by simpa using hword
    simp [Item.Plain, hfalse]

theorem toChar_bare (c : Char) : (bare c).toChar = c := by
  unfold bare
  split <;> rfl

theorem spelling_map_bare (s : List Char) : spelling (s.map bare) = s := by
  induction s with
  | nil => rfl
  | cons c s ih => rw [List.map_cons, spelling_cons, toChar_bare, ih]

theorem spelling_map_word (s : List Char) : spelling (s.map .word) = s := by
  induction s with
  | nil => rfl
  | cons c s ih => rw [List.map_cons, spelling_cons, ih, Item.toChar]

theorem spelling_map_char (s : List Char) : spelling (s.map .char) = s := by
  induction s with
  | nil => rfl
  | cons c s ih => rw [List.map_cons, spelling_cons, ih, Item.toChar]

theorem IsName.isCode {s : List Char} (hs : IsName s) : IsCode s := by
  intro c hc
  rw [← bare_plain_iff, bare, if_pos (hs c hc)]
  exact hs c hc

theorem IsName.percent_not_mem {s : List Char} (hs : IsName s) : '%' ∉ s :=
  percent_not_mem_of_all (p := isWordChar) (by decide) hs

/-- The characters of names are plain in code as well. -/
theorem IsName.plain_code {s : List Char} (hs : IsName s) : (Segment.code s).Plain formatted :=
  ⟨IsName.isCode hs, fun _ => IsName.percent_not_mem hs⟩

/-- The pieces of a text are plain if its items are and nothing in it is
replaced by the print. -/
theorem Segment.plain_iff (segment : Segment) :
    segment.Plain formatted ↔
      (∀ i ∈ segment.items, i.Plain) ∧ IsUnformatted formatted (spelling segment.items) := by
  cases segment with
  | code s =>
      rw [Segment.items, spelling_map_bare]
      simp [Segment.Plain, IsCode, bare_plain_iff]
  | name s =>
      rw [Segment.items, spelling_map_word]
      have hitems : (∀ i ∈ s.map Item.word, i.Plain) ↔ IsName s := by simp [IsName, Item.Plain]
      rw [hitems]
      exact ⟨fun hs => ⟨hs, fun _ => IsName.percent_not_mem hs⟩, fun hs => hs.1⟩
  | quoted s =>
      have hspelled : spelling (Segment.quoted s).items = '"' :: (s ++ ['"']) := by
        rw [Segment.items, spelling_cons, spelling_append, spelling_map_char]
        rfl
      rw [hspelled]
      simp [Segment.items, Segment.Plain, IsClean, IsUnformatted, Item.Plain, or_imp, forall_and]

theorem plainText_iff (segments : List Segment) :
    PlainText formatted segments ↔
      (∀ i ∈ items segments, i.Plain) ∧ IsUnformatted formatted (source segments) := by
  induction segments with
  | nil => simp [items, source, IsUnformatted]
  | cons segment segments ih =>
      rw [plainText_cons, ih, segment.plain_iff]
      simp only [items, source, IsUnformatted, List.flatMap_cons, List.mem_append,
        spelling_append, or_imp, forall_and, not_or]
      tauto

theorem read_code {s t : List Char} (hs : IsCode s) :
    read false (s ++ t) = (read false t).map (s.map bare ++ ·) := by
  induction s with
  | nil => simp
  | cons c s ih =>
      obtain ⟨hforeign, hquote⟩ := hs c List.mem_cons_self
      rw [List.cons_append, read, if_neg hquote, if_neg (by simp [hforeign]),
        ih fun d hd => hs d (List.mem_cons_of_mem c hd), Option.map_map]
      rfl

theorem bare_of_isWordChar {s : List Char} (hs : IsName s) : s.map bare = s.map .word :=
  List.map_congr_left fun c hc => if_pos (hs c hc)

theorem read_quoted {s t : List Char} (hs : IsClean s) :
    read true (s ++ '"' :: t) = (read false t).map (s.map .char ++ .closing :: ·) := by
  induction s with
  | nil =>
      rw [List.nil_append, read, if_pos rfl]
      rfl
  | cons c s ih =>
      obtain ⟨hquote, hbackslash, hnewline⟩ := hs c List.mem_cons_self
      rw [List.cons_append, read, if_neg hquote, if_neg hbackslash, if_neg hnewline,
        ih fun d hd => hs d (List.mem_cons_of_mem c hd), Option.map_map]
      rfl

/-- Plain pieces are read into what they are meant to be. -/
theorem read_source {segments : List Segment} (h : PlainText formatted segments) :
    read false (source segments) = some (items segments) := by
  induction segments with
  | nil => rw [source, items, List.flatMap_nil, spelling_nil, read]
  | cons segment segments ih =>
      have hrest := ih fun s hs => h s (List.mem_cons_of_mem segment hs)
      have hsegment := h segment List.mem_cons_self
      unfold source items at *
      rw [List.flatMap_cons, spelling_append]
      cases segment with
      | code s =>
          rw [Segment.items, spelling_map_bare, read_code hsegment.1, hrest]
          rfl
      | name s =>
          rw [Segment.items, spelling_map_word, read_code (IsName.isCode hsegment), hrest,
            bare_of_isWordChar hsegment]
          rfl
      | quoted s =>
          have hspelled : spelling (Segment.quoted s).items = '"' :: (s ++ ['"']) := by
            rw [Segment.items, spelling_cons, spelling_append, spelling_map_char]
            rfl
          rw [hspelled, List.cons_append, List.append_assoc, read, if_pos rfl, List.cons_append,
            List.nil_append, read_quoted hsegment.1, hrest]
          simp [Segment.items]

/-- A print is read into what was meant exactly if every piece of its text is
plain. -/
theorem Prints.reads_back_iff {segments : List Segment} {t : List Char}
    (h : Prints formatted (source segments) t) :
    read false t = some (items segments) ↔ PlainText formatted segments := by
  constructor
  · intro hread
    obtain ⟨hpercent, hplain⟩ := h.read_back rfl hread
    exact (plainText_iff segments).mpr ⟨hplain, hpercent⟩
  · intro hplain
    have hpercent := ((plainText_iff segments).mp hplain).2
    have ht : t = source segments := by
      cases formatted with
      | false => exact h.eq_of_verbatim
      | true => exact h.eq_of_percent_not_mem (hpercent rfl)
    rw [ht]
    exact read_source hplain

end Iec61850.CSource
