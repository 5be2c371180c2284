import Iec61850.DelimitedText
import Iec61850.LinkedForest
import Mathlib.Data.List.DropRight

/-!
# Outlines

A forest is printed line by line, every tree before the rest and its root before what
stands below it, and each line is indented by its level.  Lines that do not start with a
blank show the levels, and the levels show the forest.
-/

namespace Iec61850.Outlines

open Delimited Linked

variable {A C : Type}

/-! ## Levels -/

/-- The lines of a forest from the given level on, each with its level. -/
def levelled (level : ℕ) : List (RoseTree A) → List (ℕ × A)
  | [] => []
  | .node line children :: rest =>
      (level, line) :: (levelled (level + 1) children ++ levelled level rest)

@[simp] theorem levelled_nil (level : ℕ) : levelled level ([] : List (RoseTree A)) = [] := by
  rw [levelled]

@[simp] theorem levelled_cons (level : ℕ) (line : A) (children rest : List (RoseTree A)) :
    levelled level (.node line children :: rest) =
      (level, line) :: (levelled (level + 1) children ++ levelled level rest) := by
  rw [levelled]

theorem levelled_append (level : ℕ) (left right : List (RoseTree A)) :
    levelled level (left ++ right) = levelled level left ++ levelled level right := by
  induction left with
  | nil => simp
  | cons tree rest ih =>
      cases tree with
      | node line children => simp [ih]

theorem map_snd_levelled (level : ℕ) (forest : List (RoseTree A)) :
    (levelled level forest).map Prod.snd = preorder forest := by
  induction forest using forest_induction generalizing level with
  | nil => simp
  | cons line children rest ihc ihr => simp [ihc, ihr]

/-- What follows the lines of a level: nothing, or a line of a level above. -/
def Outdented (level : ℕ) (rest : List (ℕ × A)) : Prop := Ends (fun line => line.1 < level) rest

theorem outdented_levelled {level : ℕ} {forest : List (RoseTree A)} {rest : List (ℕ × A)}
    (h : Outdented level rest) : Outdented (level + 1) (levelled level forest ++ rest) := by
  cases forest with
  | nil =>
      intro line hline
      have habove := h line (by simpa using hline)
      exact Nat.lt_succ_of_lt habove
  | cons tree others =>
      cases tree with
      | node line children =>
          rw [levelled_cons]
          exact ends_cons.mpr (Nat.lt_succ_self level)

/-- The forest ends where its lines do. -/
theorem levelled_append_inj {level : ℕ} {forest forest' : List (RoseTree A)}
    {rest rest' : List (ℕ × A)} (hrest : Outdented level rest) (hrest' : Outdented level rest')
    (h : levelled level forest ++ rest = levelled level forest' ++ rest') :
    forest = forest' ∧ rest = rest' := by
  induction forest using forest_induction generalizing level forest' rest rest' with
  | nil =>
      cases forest' with
      | nil => exact ⟨rfl, by simpa using h⟩
      | cons tree others =>
          cases tree with
          | node line children =>
              rw [levelled_nil, levelled_cons, List.nil_append, List.cons_append] at h
              rw [h] at hrest
              exact absurd (ends_cons.mp hrest) (lt_irrefl level)
  | cons line children others ihc ihr =>
      cases forest' with
      | nil =>
          rw [levelled_nil, levelled_cons, List.nil_append, List.cons_append] at h
          rw [← h] at hrest'
          exact absurd (ends_cons.mp hrest') (lt_irrefl level)
      | cons tree' others' =>
          cases tree' with
          | node line' children' =>
              rw [levelled_cons, levelled_cons, List.cons_append, List.cons_append,
                List.cons.injEq, Prod.mk.injEq, List.append_assoc, List.append_assoc] at h
              obtain ⟨⟨-, rfl⟩, htail⟩ := h
              obtain ⟨rfl, hothers⟩ := ihc (outdented_levelled hrest)
                (outdented_levelled hrest') htail
              obtain ⟨rfl, rfl⟩ := ihr hrest hrest' hothers
              exact ⟨rfl, rfl⟩

/-- The levels of its lines show a forest. -/
theorem levelled_inj {level : ℕ} {forest forest' : List (RoseTree A)}
    (h : levelled level forest = levelled level forest') : forest = forest' := by
  have hends : Outdented level ([] : List (ℕ × A)) := ends_nil
  apply (levelled_append_inj hends hends _).1
  rw [List.append_nil, List.append_nil, h]

/-! ## Indented lines -/

/-- The lines as they are printed, `width` blanks for each level. -/
def outlineText (blank stop : C) (width : ℕ) (lines : List (ℕ × List C)) : List C :=
  lines.flatMap fun line => List.replicate (width * line.1) blank ++ (line.2 ++ [stop])

/-- A text that can be seen as one line: it starts, but not with a blank, and it does not
stop. -/
structure Legible (blank stop : C) (text : List C) : Prop where
  starts : ∃ c rest, text = c :: rest ∧ c ≠ blank
  unstopped : stop ∉ text

section Text

variable {blank stop : C} {width : ℕ}

theorem outlineText_cons (line : ℕ × List C) (lines : List (ℕ × List C)) :
    outlineText blank stop width (line :: lines) =
      List.replicate (width * line.1) blank ++
        (line.2 ++ stop :: outlineText blank stop width lines) := by
  simp [outlineText]

theorem outlineText_append (lines lines' : List (ℕ × List C)) :
    outlineText blank stop width (lines ++ lines') =
      outlineText blank stop width lines ++ outlineText blank stop width lines' :=
  List.flatMap_append

theorem outlineText_cons_ne_nil (line : ℕ × List C) (lines : List (ℕ × List C)) :
    outlineText blank stop width (line :: lines) ≠ [] := by
  rw [outlineText_cons]
  simp

/-- The indentation of a line ends at its first character that is no blank. -/
theorem outlineText_inj (hwidth : 0 < width) {lines lines' : List (ℕ × List C)}
    (hlegible : ∀ line ∈ lines, Legible blank stop line.2)
    (hlegible' : ∀ line ∈ lines', Legible blank stop line.2)
    (h : outlineText blank stop width lines = outlineText blank stop width lines') :
    lines = lines' := by
  induction lines generalizing lines' with
  | nil =>
      cases lines' with
      | nil => rfl
      | cons line' rest' => exact absurd h.symm (outlineText_cons_ne_nil line' rest')
  | cons line rest ih =>
      cases lines' with
      | nil => exact absurd h (outlineText_cons_ne_nil line rest)
      | cons line' rest' =>
          obtain ⟨hline, hrest⟩ := List.forall_mem_cons.mp hlegible
          obtain ⟨hline', hrest'⟩ := List.forall_mem_cons.mp hlegible'
          have hblanks : ∀ k, Free (· ≠ blank) (List.replicate k blank) := fun k c hc hne =>
            hne (List.eq_of_mem_replicate hc)
          have hstarts : ∀ {text : List C}, Legible blank stop text → ∀ tail,
              Ends (· ≠ blank) (text ++ tail) := by
            rintro text ⟨⟨c, more, rfl, hc⟩, -⟩ tail
            exact ends_cons.mpr hc
          rw [outlineText_cons, outlineText_cons] at h
          obtain ⟨hindent, htexts⟩ := append_inj_of_free (hblanks _) (hblanks _)
            (hstarts hline _) (hstarts hline' _) h
          obtain ⟨htext, htail⟩ := append_cons_inj hline.unstopped hline'.unstopped htexts
          have hlevel : line.1 = line'.1 := by
            have hlengths := congrArg List.length hindent
            rw [List.length_replicate, List.length_replicate] at hlengths
            exact Nat.eq_of_mul_eq_mul_left hwidth hlengths
          rw [Prod.ext hlevel htext, ih hrest hrest' htail]

variable [DecidableEq C]

/-- Of a text of lines that ends with a stop, trimming takes that stop and no more. -/
theorem rdropWhile_outlineText {lines : List (ℕ × List C)} (hne : lines ≠ [])
    (hlegible : ∀ line ∈ lines, Legible blank stop line.2) :
    (outlineText blank stop width lines).rdropWhile (· = stop) ++ [stop] =
      outlineText blank stop width lines := by
  obtain ⟨before, last, rfl⟩ := List.eq_nil_or_concat' lines |>.resolve_left hne
  obtain ⟨⟨c, more, htext, -⟩, hunstopped⟩ :=
    hlegible last (List.mem_append_right _ (List.mem_singleton_self last))
  obtain ⟨body, d, hbody⟩ : ∃ body d, last.2 = body ++ [d] := by
    rw [htext]
    exact ⟨_, _, (List.dropLast_append_getLast (List.cons_ne_nil c more)).symm⟩
  have hd : d ≠ stop := by
    rintro rfl
    exact hunstopped (hbody ▸ List.mem_append_right _ (List.mem_singleton_self d))
  have hsplit : outlineText blank stop width (before ++ [last]) =
      (outlineText blank stop width before ++
        (List.replicate (width * last.1) blank ++ body)) ++ [d] ++ [stop] := by
    rw [outlineText_append, outlineText_cons, hbody]
    simp [outlineText]
  rw [hsplit, List.rdropWhile_concat_pos _ _ _ (by simp),
    List.rdropWhile_concat_neg _ _ _ (by simpa using hd)]

/-- Trimmed outlines are the same if their lines are. -/
theorem trimmed_inj (hwidth : 0 < width) {lines lines' : List (ℕ × List C)} (hne : lines ≠ [])
    (hne' : lines' ≠ []) (hlegible : ∀ line ∈ lines, Legible blank stop line.2)
    (hlegible' : ∀ line ∈ lines', Legible blank stop line.2)
    (h : (outlineText blank stop width lines).rdropWhile (· = stop) =
      (outlineText blank stop width lines').rdropWhile (· = stop)) : lines = lines' := by
  apply outlineText_inj hwidth hlegible hlegible'
  rw [← rdropWhile_outlineText hne hlegible, ← rdropWhile_outlineText hne' hlegible', h]

end Text

/-! ## Forests of labels -/

section Labels

variable {blank stop : C} {text : A → List C} {P : A → Prop}

/-- The lines of a forest whose labels are printed as texts. -/
def printed (text : A → List C) (level : ℕ) (forest : List (RoseTree A)) : List (ℕ × List C) :=
  (levelled level forest).map (Prod.map id text)

theorem printed_append (level : ℕ) (left right : List (RoseTree A)) :
    printed text level (left ++ right) = printed text level left ++ printed text level right := by
  rw [printed, levelled_append, List.map_append]
  rfl

theorem printed_cons (level : ℕ) (label : A) (children rest : List (RoseTree A)) :
    printed text level (.node label children :: rest) =
      (level, text label) :: (printed text (level + 1) children ++ printed text level rest) := by
  simp [printed]

theorem label_of_mem_levelled {level : ℕ} {forest : List (RoseTree A)}
    (hP : ∀ label ∈ preorder forest, P label) {line : ℕ × A}
    (hline : line ∈ levelled level forest) : P line.2 := by
  apply hP
  rw [← map_snd_levelled level]
  exact List.mem_map_of_mem hline

theorem legible_of_mem_printed (hlegible : ∀ label, P label → Legible blank stop (text label))
    {level : ℕ} {forest : List (RoseTree A)} (hP : ∀ label ∈ preorder forest, P label) :
    ∀ line ∈ printed text level forest, Legible blank stop line.2 := by
  intro line hline
  obtain ⟨labelled, hlabelled, rfl⟩ := List.mem_map.mp hline
  exact hlegible _ (label_of_mem_levelled hP hlabelled)

/-- What can be told from `f` element by element can be told from `f` of a list. -/
theorem map_eq_of_map_eq {B D : Type} {f : A → B} {g : A → D} {xs ys : List A}
    (hfg : ∀ x ∈ xs, ∀ y ∈ ys, f x = f y → g x = g y) (h : xs.map f = ys.map f) :
    xs.map g = ys.map g := by
  induction xs generalizing ys with
  | nil => rw [List.map_eq_nil_iff.mp h.symm]
  | cons x xs ih =>
      cases ys with
      | nil => cases h
      | cons y ys =>
          obtain ⟨hhead, htail⟩ := List.cons.inj h
          rw [List.map_cons, List.map_cons, hfg x List.mem_cons_self y List.mem_cons_self hhead,
            ih _ htail]
          exact fun a ha b hb =>
            hfg a (List.mem_cons_of_mem x ha) b (List.mem_cons_of_mem y hb)

theorem map_inj_of_mem {B : Type} {f : A → B} {xs ys : List A}
    (hinj : ∀ x ∈ xs, ∀ y ∈ ys, f x = f y → x = y) (h : xs.map f = ys.map f) : xs = ys := by
  have hmaps : xs.map id = ys.map id := map_eq_of_map_eq hinj h
  rwa [List.map_id, List.map_id] at hmaps

/-- Labels that are known by their texts make forests known by their lines. -/
theorem printed_inj (hinj : ∀ label label', P label → P label' → text label = text label' →
      label = label') {level : ℕ} {forest forest' : List (RoseTree A)}
    (hP : ∀ label ∈ preorder forest, P label) (hP' : ∀ label ∈ preorder forest', P label)
    (h : printed text level forest = printed text level forest') : forest = forest' := by
  apply levelled_inj
  apply map_inj_of_mem _ h
  intro line hline line' hline' hsame
  obtain ⟨hlevel, htext⟩ := Prod.mk.inj hsame
  exact Prod.ext hlevel (hinj _ _ (label_of_mem_levelled hP hline)
    (label_of_mem_levelled hP' hline') htext)

end Labels

end Iec61850.Outlines
