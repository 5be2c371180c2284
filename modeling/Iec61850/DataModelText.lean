import Iec61850.DataModelMirror
import Iec61850.Outlines
import Mathlib.Data.Set.Function

/-!
# The text of a data model

`DataModel.String` prints a data model as an outline: a line for each device, node, data
object, attribute, data set, member and report control block, two blanks deeper than the
line of its parent.  The references of the nodes are not printed.
-/

namespace Iec61850.Mms

open Go Delimited Linked Outlines

/-! ## The stringers -/

/-- `strings.Repeat("  ", level)` -/
def indent (level : ℕ) : Str := List.replicate (2 * level) ' '

section Stringers

-- the name of a constraint is the one that the C library gives it
variable (fcString : ℤ → Str)

mutual

/-- What `DA.writeTo` writes. -/
def DA.writeTo : DA → ℕ → Str
  | .mk data das ref fc, level =>
      indent level ++ (lit "DA: " ++ data ++ lit " Ref: " ++ ref ++ lit " FC: " ++
        fcString fc ++ lit "\n") ++ writeDAs das (level + 1)

def writeDAs : List DA → ℕ → Str
  | [], _ => []
  | da :: rest, level => da.writeTo level ++ writeDAs rest level

end

def DO.writeTo (d : DO) (level : ℕ) : Str :=
  indent level ++ (lit "DO: " ++ d.data ++ lit "\n") ++ writeDAs fcString d.das (level + 1)

def DSRef.writeTo (ref : DSRef) (level : ℕ) : Str :=
  indent level ++ (lit "DSRef: " ++ ref.data ++ lit "\n")

def DS.writeTo (ds : DS) (level : ℕ) : Str :=
  indent level ++ (lit "DS: " ++ ds.data ++
      (if ds.isDeletable then lit " (deletable)\n" else lit " (not deletable)\n")) ++
    ds.dsRefs.flatMap fun ref => ref.writeTo (level + 1)

def URReport.writeTo (r : URReport) (level : ℕ) : Str :=
  indent level ++ (lit "URReport: " ++ r.data ++ lit " Ref: " ++ r.ref ++ lit "\n")

def BRReport.writeTo (r : BRReport) (level : ℕ) : Str :=
  indent level ++ (lit "BRReport: " ++ r.data ++ lit " Ref: " ++ r.ref ++ lit "\n")

def LN.writeTo (ln : LN) (level : ℕ) : Str :=
  indent level ++ (lit "LN: " ++ ln.data ++ lit "\n") ++
    (ln.dos.flatMap fun d => d.writeTo fcString (level + 1)) ++
    (ln.dss.flatMap fun ds => ds.writeTo (level + 1)) ++
    (ln.urReports.flatMap fun r => r.writeTo (level + 1)) ++
    ln.brReports.flatMap fun r => r.writeTo (level + 1)

def LD.writeTo (ld : LD) (level : ℕ) : Str :=
  indent level ++ (lit "LD: " ++ ld.data ++ lit "\n") ++
    ld.lns.flatMap fun ln => ln.writeTo fcString (level + 1)

/-- `strings.TrimRight(s, "\n")` -/
def trimNewlines (s : Str) : Str := s.rdropWhile (· = '\n')

/-- `DataModel.String` -/
def DataModel.string (dm : DataModel) : Str :=
  trimNewlines (lit "DataModel\n" ++ dm.lds.flatMap fun ld => ld.writeTo fcString 1)

end Stringers

/-! ## Lines -/

inductive ModelLine
  | ld (data : Str)
  | ln (data : Str)
  | object (data : Str)
  | dataAttribute (data ref : Str) (fc : ℤ)
  | dataSet (data : Str) (isDeletable : Bool)
  | member (data : Str)
  | urReport (data ref : Str)
  | brReport (data ref : Str)

inductive LineKind
  | ld
  | ln
  | object
  | dataAttribute
  | dataSet
  | member
  | urReport
  | brReport
  deriving DecidableEq

def ModelLine.kind : ModelLine → LineKind
  | .ld _ => .ld
  | .ln _ => .ln
  | .object _ => .object
  | .dataAttribute .. => .dataAttribute
  | .dataSet .. => .dataSet
  | .member _ => .member
  | .urReport .. => .urReport
  | .brReport .. => .brReport

/-- What the lines of a kind start with, up to the colon. -/
def LineKind.tag : LineKind → Str
  | .ld => lit "LD"
  | .ln => lit "LN"
  | .object => lit "DO"
  | .dataAttribute => lit "DA"
  | .dataSet => lit "DS"
  | .member => lit "DSRef"
  | .urReport => lit "URReport"
  | .brReport => lit "BRReport"

def deletableText (isDeletable : Bool) : Str :=
  if isDeletable then lit " (deletable)" else lit " (not deletable)"

/-- What stands behind the colon. -/
def ModelLine.content (fcString : ℤ → Str) : ModelLine → Str
  | .ld data | .ln data | .object data | .member data => data
  | .dataAttribute data ref fc => data ++ lit " Ref: " ++ ref ++ lit " FC: " ++ fcString fc
  | .dataSet data isDeletable => data ++ deletableText isDeletable
  | .urReport data ref | .brReport data ref => data ++ lit " Ref: " ++ ref

def ModelLine.text (fcString : ℤ → Str) (line : ModelLine) : Str :=
  line.kind.tag ++ lit ": " ++ line.content fcString

/-- The text is one word of one line. -/
def OneWord (s : Str) : Prop := ' ' ∉ s ∧ '\n' ∉ s

def OneLine (s : Str) : Prop := '\n' ∉ s

/-- The texts of the line stand on one line, and its constraint is one of the given ones. -/
def ModelLine.Plain (fcs : Set ℤ) : ModelLine → Prop
  | .ld data | .ln data | .object data | .member data | .dataSet data _ => OneLine data
  | .dataAttribute data ref fc => OneWord data ∧ OneWord ref ∧ fc ∈ fcs
  | .urReport data ref | .brReport data ref => OneWord data ∧ OneLine ref

section Lines

variable {fcString : ℤ → Str} {fcs : Set ℤ}

theorem colon_not_mem_tag (kind : LineKind) : ':' ∉ kind.tag := by
  cases kind with
  | _ => decide

theorem newline_not_mem_tag (kind : LineKind) : '\n' ∉ kind.tag := by
  cases kind with
  | _ => decide

theorem tag_starts (kind : LineKind) : ∃ c rest, kind.tag = c :: rest ∧ c ≠ ' ' := by
  cases kind with
  | _ => exact ⟨_, _, rfl, by decide⟩

theorem tag_inj {kind kind' : LineKind} (h : kind.tag = kind'.tag) : kind = kind' := by
  revert kind kind'
  intro kind kind'
  cases kind <;> cases kind' <;> decide

theorem newline_not_mem_content (hfc : ∀ fc ∈ fcs, OneLine (fcString fc)) {line : ModelLine}
    (hplain : line.Plain fcs) : '\n' ∉ line.content fcString := by
  have hdeletable : ∀ isDeletable, '\n' ∉ deletableText isDeletable := by decide
  cases line with
  | ld data | ln data | object data | member data => exact hplain
  | dataAttribute data ref fc =>
      obtain ⟨⟨-, hdata⟩, ⟨-, href⟩, hmem⟩ := hplain
      have hname := hfc fc hmem
      simp only [ModelLine.content, List.mem_append, not_or]
      exact ⟨⟨⟨⟨hdata, by decide⟩, href⟩, by decide⟩, hname⟩
  | dataSet data isDeletable =>
      exact List.not_mem_append hplain (hdeletable isDeletable)
  | urReport data ref | brReport data ref =>
      obtain ⟨⟨-, hdata⟩, href⟩ := hplain
      simp only [ModelLine.content, List.mem_append, not_or]
      exact ⟨⟨hdata, by decide⟩, href⟩

theorem legible_text (hfc : ∀ fc ∈ fcs, OneLine (fcString fc)) {line : ModelLine}
    (hplain : line.Plain fcs) : Legible ' ' '\n' (line.text fcString) := by
  obtain ⟨c, rest, htag, hc⟩ := tag_starts line.kind
  constructor
  · exact ⟨c, rest ++ lit ": " ++ line.content fcString, by simp [ModelLine.text, htag], hc⟩
  · simp only [ModelLine.text, List.mem_append, not_or]
    exact ⟨⟨newline_not_mem_tag line.kind, by decide⟩, newline_not_mem_content hfc hplain⟩

theorem referenced_inj {data data' ref ref' : Str} (hdata : ' ' ∉ data) (hdata' : ' ' ∉ data')
    (h : data ++ lit " Ref: " ++ ref = data' ++ lit " Ref: " ++ ref') :
    data = data' ∧ ref = ref' := by
  have hspaced : data ++ ' ' :: (lit "Ref: " ++ ref) = data' ++ ' ' :: (lit "Ref: " ++ ref') := by
    simpa [lit] using h
  obtain ⟨hsame, hrest⟩ := append_cons_inj hdata hdata' hspaced
  exact ⟨hsame, List.append_cancel_left hrest⟩

theorem deletable_inj {data data' : Str} {isDeletable isDeletable' : Bool}
    (h : data ++ deletableText isDeletable = data' ++ deletableText isDeletable') :
    data = data' ∧ isDeletable = isDeletable' := by
  have hends : ∀ flag, ∃ before, deletableText flag = before ++ lit "deletable)" ∧
      before.getLast? = some (if flag then '(' else ' ') := by
    intro flag
    cases flag with
    | true => exact ⟨lit " (", rfl, rfl⟩
    | false => exact ⟨lit " (not ", rfl, rfl⟩
  obtain ⟨before, hbefore, hlast⟩ := hends isDeletable
  obtain ⟨before', hbefore', hlast'⟩ := hends isDeletable'
  have hflag : isDeletable = isDeletable' := by
    rw [hbefore, hbefore', ← List.append_assoc, ← List.append_assoc] at h
    have hlasts := congrArg List.getLast? (List.append_cancel_right h)
    rw [List.getLast?_append_of_ne_nil, List.getLast?_append_of_ne_nil, hlast, hlast'] at hlasts
    · cases isDeletable <;> cases isDeletable' <;> simp_all
    · rintro rfl
      cases hlast'
    · rintro rfl
      cases hlast
  subst hflag
  exact ⟨List.append_cancel_right h, rfl⟩

/-- Plain lines are known by their texts. -/
theorem text_inj (hinj : Set.InjOn fcString fcs) {line line' : ModelLine}
    (hplain : line.Plain fcs) (hplain' : line'.Plain fcs)
    (h : line.text fcString = line'.text fcString) : line = line' := by
  have hcolons : line.kind.tag ++ ':' :: ' ' :: line.content fcString =
      line'.kind.tag ++ ':' :: ' ' :: line'.content fcString := by
    simpa [ModelLine.text, lit] using h
  obtain ⟨htag, hrest⟩ := append_cons_inj (colon_not_mem_tag _) (colon_not_mem_tag _)
    hcolons
  have hcontent := (List.cons.inj hrest).2
  have hkind := tag_inj htag
  cases line <;> cases line' <;> cases hkind
  case ld.ld | ln.ln | object.object | member.member => exact congrArg _ hcontent
  case dataAttribute.dataAttribute data ref fc data' ref' fc' =>
    obtain ⟨⟨hdata, -⟩, ⟨href, -⟩, hfc⟩ := hplain
    obtain ⟨⟨hdata', -⟩, ⟨href', -⟩, hfc'⟩ := hplain'
    have hreferenced : data ++ lit " Ref: " ++ (ref ++ ' ' :: (lit "FC: " ++ fcString fc)) =
        data' ++ lit " Ref: " ++ (ref' ++ ' ' :: (lit "FC: " ++ fcString fc')) := by
      simpa [ModelLine.content, lit] using hcontent
    obtain ⟨rfl, hrefs⟩ := referenced_inj hdata hdata' hreferenced
    obtain ⟨rfl, hfcs⟩ := append_cons_inj href href' hrefs
    rw [hinj hfc hfc' (List.append_cancel_left hfcs)]
  case dataSet.dataSet =>
    obtain ⟨rfl, rfl⟩ := deletable_inj hcontent
    rfl
  case urReport.urReport =>
    obtain ⟨rfl, rfl⟩ := referenced_inj hplain.1.1 hplain'.1.1 hcontent
    rfl
  case brReport.brReport =>
    obtain ⟨rfl, rfl⟩ := referenced_inj hplain.1.1 hplain'.1.1 hcontent
    rfl

end Lines

/-! ## The outline -/

abbrev ModelOutline := List (RoseTree ModelLine)

def attributesOutline : List DA → ModelOutline
  | [] => []
  | .mk data das ref fc :: rest =>
      .node (.dataAttribute data ref fc) (attributesOutline das) :: attributesOutline rest

def DO.outline (d : DO) : RoseTree ModelLine := .node (.object d.data) (attributesOutline d.das)

def DSRef.outline (ref : DSRef) : RoseTree ModelLine := .node (.member ref.data) []

def DS.outline (ds : DS) : RoseTree ModelLine :=
  .node (.dataSet ds.data ds.isDeletable) (ds.dsRefs.map DSRef.outline)

def URReport.outline (r : URReport) : RoseTree ModelLine := .node (.urReport r.data r.ref) []

def BRReport.outline (r : BRReport) : RoseTree ModelLine := .node (.brReport r.data r.ref) []

def LN.outline (ln : LN) : RoseTree ModelLine :=
  .node (.ln ln.data) (ln.dos.map DO.outline ++ (ln.dss.map DS.outline ++
    (ln.urReports.map URReport.outline ++ ln.brReports.map BRReport.outline)))

def LD.outline (ld : LD) : RoseTree ModelLine := .node (.ld ld.data) (ld.lns.map LN.outline)

def DataModel.outline (dm : DataModel) : ModelOutline := dm.lds.map LD.outline

/-- All texts of the data model are plain. -/
def DataModel.Plain (fcs : Set ℤ) (dm : DataModel) : Prop :=
  ∀ line ∈ preorder dm.outline, line.Plain fcs

section Outline

variable {fcString : ℤ → Str}

/-- The text of a forest from a level on. -/
def forestText (fcString : ℤ → Str) (level : ℕ) (forest : ModelOutline) : Str :=
  outlineText ' ' '\n' 2 (printed (ModelLine.text fcString) level forest)

@[simp] theorem forestText_nil (level : ℕ) : forestText fcString level [] = [] := by
  simp [forestText, printed, outlineText]

theorem forestText_cons (level : ℕ) (line : ModelLine) (children rest : ModelOutline) :
    forestText fcString level (.node line children :: rest) =
      indent level ++ (line.text fcString ++ lit "\n") ++
        forestText fcString (level + 1) children ++ forestText fcString level rest := by
  rw [forestText, printed_cons, outlineText_cons, outlineText_append]
  simp [forestText, indent, lit]

theorem forestText_append (level : ℕ) (left right : ModelOutline) :
    forestText fcString level (left ++ right) =
      forestText fcString level left ++ forestText fcString level right := by
  rw [forestText, printed_append, outlineText_append]
  rfl

/-- The trees of a loop are written one after the other. -/
theorem forestText_map {α : Type} {outline : α → RoseTree ModelLine} {write : α → Str}
    {level : ℕ} (hwrite : ∀ x, write x = forestText fcString level [outline x]) (xs : List α) :
    xs.flatMap write = forestText fcString level (xs.map outline) := by
  induction xs with
  | nil => simp
  | cons x rest ih =>
      have hsplit : (x :: rest).map outline = [outline x] ++ rest.map outline := rfl
      rw [hsplit, forestText_append, List.flatMap_cons, hwrite, ih]

theorem writeDAs_eq (das : List DA) (level : ℕ) :
    writeDAs fcString das level = forestText fcString level (attributesOutline das) := by
  induction das using attributesOutline.induct generalizing level with
  | case1 => simp [writeDAs, attributesOutline]
  | case2 data das ref fc rest ihd ihr =>
      rw [writeDAs, DA.writeTo, ihd, ihr, attributesOutline, forestText_cons]
      simp [ModelLine.text, ModelLine.kind, ModelLine.content, LineKind.tag, lit]

theorem DO.writeTo_eq (d : DO) (level : ℕ) :
    d.writeTo fcString level = forestText fcString level [d.outline] := by
  rw [DO.writeTo, DO.outline, forestText_cons, forestText_nil, writeDAs_eq]
  simp [ModelLine.text, ModelLine.kind, ModelLine.content, LineKind.tag, lit]

theorem DSRef.writeTo_eq (ref : DSRef) (level : ℕ) :
    ref.writeTo level = forestText fcString level [ref.outline] := by
  rw [DSRef.writeTo, DSRef.outline, forestText_cons]
  simp [ModelLine.text, ModelLine.kind, ModelLine.content, LineKind.tag, lit]

theorem DS.writeTo_eq (ds : DS) (level : ℕ) :
    ds.writeTo level = forestText fcString level [ds.outline] := by
  rw [DS.writeTo, DS.outline, forestText_cons, forestText_nil,
    forestText_map fun ref => @DSRef.writeTo_eq fcString ref (level + 1)]
  cases ds.isDeletable with
  | _ => simp [ModelLine.text, ModelLine.kind, ModelLine.content, LineKind.tag, deletableText, lit]

theorem URReport.writeTo_eq (r : URReport) (level : ℕ) :
    r.writeTo level = forestText fcString level [r.outline] := by
  rw [URReport.writeTo, URReport.outline, forestText_cons]
  simp [ModelLine.text, ModelLine.kind, ModelLine.content, LineKind.tag, lit]

theorem BRReport.writeTo_eq (r : BRReport) (level : ℕ) :
    r.writeTo level = forestText fcString level [r.outline] := by
  rw [BRReport.writeTo, BRReport.outline, forestText_cons]
  simp [ModelLine.text, ModelLine.kind, ModelLine.content, LineKind.tag, lit]

theorem LN.writeTo_eq (ln : LN) (level : ℕ) :
    ln.writeTo fcString level = forestText fcString level [ln.outline] := by
  rw [LN.writeTo, LN.outline, forestText_cons, forestText_nil, forestText_append,
    forestText_append, forestText_append, forestText_map fun d => DO.writeTo_eq d (level + 1),
    forestText_map fun ds => @DS.writeTo_eq fcString ds (level + 1),
    forestText_map fun r => @URReport.writeTo_eq fcString r (level + 1),
    forestText_map fun r => @BRReport.writeTo_eq fcString r (level + 1)]
  simp [ModelLine.text, ModelLine.kind, ModelLine.content, LineKind.tag, lit]

theorem LD.writeTo_eq (ld : LD) (level : ℕ) :
    ld.writeTo fcString level = forestText fcString level [ld.outline] := by
  rw [LD.writeTo, LD.outline, forestText_cons, forestText_nil,
    forestText_map fun ln => ln.writeTo_eq (level + 1)]
  simp [ModelLine.text, ModelLine.kind, ModelLine.content, LineKind.tag, lit]

/-- The lines of the printed data model. -/
def DataModel.lines (fcString : ℤ → Str) (dm : DataModel) : List (ℕ × Str) :=
  (0, lit "DataModel") :: printed (ModelLine.text fcString) 1 dm.outline

theorem DataModel.string_eq (dm : DataModel) :
    dm.string fcString = (outlineText ' ' '\n' 2 (dm.lines fcString)).rdropWhile (· = '\n') := by
  have hbody : (dm.lds.flatMap fun ld => ld.writeTo fcString 1) =
      forestText fcString 1 dm.outline := forestText_map (fun ld => ld.writeTo_eq 1) _
  rw [DataModel.string, trimNewlines, hbody, DataModel.lines, outlineText_cons]
  rfl

variable {fcs : Set ℤ} {dm dm' : DataModel}

theorem DataModel.legible_lines (hfc : ∀ fc ∈ fcs, OneLine (fcString fc)) (hplain : dm.Plain fcs) :
    ∀ line ∈ dm.lines fcString, Legible ' ' '\n' line.2 := by
  have hheader : Legible ' ' '\n' (lit "DataModel") :=
    ⟨⟨'D', lit "ataModel", rfl, by decide⟩, by decide⟩
  intro line hline
  rcases List.mem_cons.mp hline with rfl | hline
  · exact hheader
  · exact legible_of_mem_printed (fun line => legible_text hfc) hplain line hline

/-- Data models that are printed alike have one outline. -/
theorem DataModel.outline_eq (hfc : ∀ fc ∈ fcs, OneLine (fcString fc))
    (hinj : Set.InjOn fcString fcs) (hplain : dm.Plain fcs) (hplain' : dm'.Plain fcs)
    (h : dm.string fcString = dm'.string fcString) : dm.outline = dm'.outline := by
  rw [dm.string_eq, dm'.string_eq] at h
  have hlines := trimmed_inj (Nat.succ_pos 1) (List.cons_ne_nil _ _) (List.cons_ne_nil _ _)
    (DataModel.legible_lines hfc hplain) (DataModel.legible_lines hfc hplain') h
  apply printed_inj (fun line line' => text_inj hinj) hplain hplain'
  exact (List.cons.inj hlines).2

end Outline

/-! ## What the outline shows -/

/-- The node without its reference, which is not printed. -/
def LN.withoutRef (ln : LN) : LN := { ln with ref := [] }

def LD.withoutRefs (ld : LD) : LD := { ld with lns := ld.lns.map LN.withoutRef }

def DataModel.withoutRefs (dm : DataModel) : DataModel := { lds := dm.lds.map LD.withoutRefs }

section Shown

theorem attributesOutline_inj {das das' : List DA}
    (h : attributesOutline das = attributesOutline das') : das = das' := by
  induction das using attributesOutline.induct generalizing das' with
  | case1 =>
      cases das' with
      | nil => rfl
      | cons da' rest' =>
          cases da'
          rw [attributesOutline, attributesOutline] at h
          cases h
  | case2 data das ref fc rest ihd ihr =>
      cases das' with
      | nil =>
          rw [attributesOutline, attributesOutline] at h
          cases h
      | cons da' rest' =>
          cases da' with
          | mk data' sub' ref' fc' =>
              rw [attributesOutline, attributesOutline, List.cons.injEq, RoseTree.node.injEq,
                ModelLine.dataAttribute.injEq] at h
              obtain ⟨⟨⟨rfl, rfl, rfl⟩, hsub⟩, hrest⟩ := h
              rw [ihd hsub, ihr hrest]

theorem DO.outline_inj {d d' : DO} (h : d.outline = d'.outline) : d = d' := by
  cases d with
  | mk data das =>
      cases d' with
      | mk data' das' =>
          rw [DO.outline, DO.outline, RoseTree.node.injEq, ModelLine.object.injEq] at h
          have hdas : das = das' := attributesOutline_inj h.2
          rw [DO.mk.injEq]
          exact ⟨h.1, hdas⟩

theorem DSRef.outline_inj {ref ref' : DSRef} (h : ref.outline = ref'.outline) : ref = ref' := by
  cases ref
  cases ref'
  cases h
  rfl

theorem DS.outline_inj {ds ds' : DS} (h : ds.outline = ds'.outline) : ds = ds' := by
  cases ds with
  | mk data dsRefs isDeletable =>
      cases ds' with
      | mk data' dsRefs' isDeletable' =>
          rw [DS.outline, DS.outline, RoseTree.node.injEq, ModelLine.dataSet.injEq] at h
          have hrefs : dsRefs = dsRefs' :=
            map_inj_of_mem (fun ref _ ref' _ => DSRef.outline_inj) h.2
          rw [DS.mk.injEq]
          exact ⟨h.1.1, hrefs, h.1.2⟩

theorem URReport.outline_inj {r r' : URReport} (h : r.outline = r'.outline) : r = r' := by
  cases r
  cases r'
  cases h
  rfl

theorem BRReport.outline_inj {r r' : BRReport} (h : r.outline = r'.outline) : r = r' := by
  cases r
  cases r'
  cases h
  rfl

/-- The trees of one kind end where those of the next kinds start. -/
theorem kind_append_inj {α : Type} {outline : α → RoseTree ModelLine} {kind : LineKind}
    (hkind : ∀ x, (outline x).value.kind = kind) (hinj : ∀ x y, outline x = outline y → x = y)
    {xs ys : List α} {rest rest' : ModelOutline}
    (hrest : ∀ tree ∈ rest, tree.value.kind ≠ kind)
    (hrest' : ∀ tree ∈ rest', tree.value.kind ≠ kind)
    (h : xs.map outline ++ rest = ys.map outline ++ rest') : xs = ys ∧ rest = rest' := by
  have hfree : ∀ zs : List α,
      Free (fun tree : RoseTree ModelLine => tree.value.kind ≠ kind) (zs.map outline) := by
    intro zs tree htree hne
    obtain ⟨z, -, rfl⟩ := List.mem_map.mp htree
    exact hne (hkind z)
  have hends : ∀ {rest : ModelOutline}, (∀ tree ∈ rest, tree.value.kind ≠ kind) →
      Ends (fun tree : RoseTree ModelLine => tree.value.kind ≠ kind) rest :=
    fun hrest tree htree => hrest tree (List.mem_of_mem_head? htree)
  obtain ⟨hmaps, htails⟩ := append_inj_of_free (hfree xs) (hfree ys) (hends hrest)
    (hends hrest') h
  exact ⟨map_inj_of_mem (fun x _ y _ => hinj x y) hmaps, htails⟩

theorem kind_ne_of_mem_map {α : Type} {outline : α → RoseTree ModelLine} {kind other : LineKind}
    (hkind : ∀ x, (outline x).value.kind = kind) (hne : kind ≠ other) (xs : List α) :
    ∀ tree ∈ xs.map outline, tree.value.kind ≠ other := by
  intro tree htree
  obtain ⟨x, -, rfl⟩ := List.mem_map.mp htree
  rw [hkind x]
  exact hne

theorem LN.outline_inj {ln ln' : LN} (h : ln.outline = ln'.outline) :
    ln.withoutRef = ln'.withoutRef := by
  have hdo : ∀ d : DO, d.outline.value.kind = .object := fun _ => rfl
  have hds : ∀ ds : DS, ds.outline.value.kind = .dataSet := fun _ => rfl
  have hur : ∀ r : URReport, r.outline.value.kind = .urReport := fun _ => rfl
  have hbr : ∀ r : BRReport, r.outline.value.kind = .brReport := fun _ => rfl
  rw [LN.outline, LN.outline, RoseTree.node.injEq, ModelLine.ln.injEq] at h
  obtain ⟨hdata, hchildren⟩ := h
  have hobjects : ∀ ln : LN, ∀ tree ∈ ln.dss.map DS.outline ++
      (ln.urReports.map URReport.outline ++ ln.brReports.map BRReport.outline),
      tree.value.kind ≠ .object := fun ln =>
    List.forall_mem_append.mpr ⟨kind_ne_of_mem_map hds (by decide) _,
      List.forall_mem_append.mpr ⟨kind_ne_of_mem_map hur (by decide) _,
        kind_ne_of_mem_map hbr (by decide) _⟩⟩
  have hsets : ∀ ln : LN, ∀ tree ∈ ln.urReports.map URReport.outline ++
      ln.brReports.map BRReport.outline, tree.value.kind ≠ .dataSet := fun ln =>
    List.forall_mem_append.mpr ⟨kind_ne_of_mem_map hur (by decide) _,
      kind_ne_of_mem_map hbr (by decide) _⟩
  have hreports : ∀ ln : LN, ∀ tree ∈ ln.brReports.map BRReport.outline,
      tree.value.kind ≠ .urReport := fun ln => kind_ne_of_mem_map hbr (by decide) _
  obtain ⟨hdos, hchildren⟩ := kind_append_inj hdo (fun _ _ => DO.outline_inj) (hobjects ln)
    (hobjects ln') hchildren
  obtain ⟨hdss, hchildren⟩ := kind_append_inj hds (fun _ _ => DS.outline_inj) (hsets ln)
    (hsets ln') hchildren
  obtain ⟨hurs, hbrs⟩ := kind_append_inj hur (fun _ _ => URReport.outline_inj) (hreports ln)
    (hreports ln') hchildren
  have hbrs := map_inj_of_mem (fun r _ r' _ => BRReport.outline_inj) hbrs
  rw [LN.withoutRef, LN.withoutRef, hdata, hdos, hdss, hurs, hbrs]

theorem LD.outline_inj {ld ld' : LD} (h : ld.outline = ld'.outline) :
    ld.withoutRefs = ld'.withoutRefs := by
  rw [LD.outline, LD.outline, RoseTree.node.injEq, ModelLine.ld.injEq] at h
  rw [LD.withoutRefs, LD.withoutRefs, h.1,
    map_eq_of_map_eq (fun ln _ ln' _ => LN.outline_inj) h.2]

theorem LD.outline_withoutRefs (ld : LD) : ld.withoutRefs.outline = ld.outline := by
  rw [LD.outline, LD.outline, LD.withoutRefs, List.map_map]
  rfl

theorem DataModel.outline_withoutRefs (dm : DataModel) : dm.withoutRefs.outline = dm.outline := by
  rw [DataModel.outline, DataModel.outline, DataModel.withoutRefs, List.map_map]
  exact List.map_congr_left fun ld _ => ld.outline_withoutRefs

end Shown

theorem DataModel.withoutRefs_eq {fcString : ℤ → Str} {fcs : Set ℤ} {dm dm' : DataModel}
    (hfc : ∀ fc ∈ fcs, OneLine (fcString fc)) (hinj : Set.InjOn fcString fcs)
    (hplain : dm.Plain fcs) (hplain' : dm'.Plain fcs)
    (h : dm.string fcString = dm'.string fcString) : dm.withoutRefs = dm'.withoutRefs := by
  have houtlines := DataModel.outline_eq hfc hinj hplain hplain' h
  rw [DataModel.withoutRefs, DataModel.withoutRefs,
    map_eq_of_map_eq (fun ld _ ld' _ => LD.outline_inj) houtlines]

/-- Plain data models are printed alike exactly if they differ in nothing but the
references of the nodes. -/
theorem printed_alike_iff {fcString : ℤ → Str} {fcs : Set ℤ}
    (hfc : ∀ fc ∈ fcs, OneLine (fcString fc)) (hinj : Set.InjOn fcString fcs)
    {dm dm' : DataModel} (hplain : dm.Plain fcs) (hplain' : dm'.Plain fcs) :
    dm.string fcString = dm'.string fcString ↔ dm.withoutRefs = dm'.withoutRefs := by
  constructor
  · exact DataModel.withoutRefs_eq hfc hinj hplain hplain'
  · intro h
    have houtlines : dm.outline = dm'.outline := by
      rw [← dm.outline_withoutRefs, h, dm'.outline_withoutRefs]
    rw [dm.string_eq, dm'.string_eq, DataModel.lines, houtlines]
    rfl

/-- The names of two constraints. -/
def sampleConstraint (fc : ℤ) : Str := if fc = 0 then lit "ST" else lit "MX"

theorem sampleConstraint_plain : ∀ fc ∈ ({0, 1} : Set ℤ), OneLine (sampleConstraint fc) := by
  rintro fc (rfl | rfl)
  · exact (by decide : '\n' ∉ sampleConstraint 0)
  · exact (by decide : '\n' ∉ sampleConstraint 1)

theorem sampleConstraint_inj : Set.InjOn sampleConstraint {0, 1} := by
  rintro fc (rfl | rfl) fc' (rfl | rfl) h
  · rfl
  · exact absurd h (by decide)
  · exact absurd h (by decide)
  · rfl

/-- A data model with a constructed attribute, a data set and a report control block. -/
def sampleDataModel : DataModel where
  lds := [{
    data := lit "LD0"
    lns := [{
      data := lit "MMXU1"
      ref := lit "LD0/MMXU1"
      dos := [{
        data := lit "TotW"
        das := [.mk (lit "mag") [.mk (lit "f") [] (lit "LD0/MMXU1.TotW.mag.f") 1]
          (lit "LD0/MMXU1.TotW.mag") 1] }]
      dss := [⟨lit "events", [⟨lit "LD0/MMXU1.TotW.mag[MX]"⟩], true⟩]
      urReports := [⟨lit "urcb01", lit "LD0/MMXU1.urcb01"⟩] }] }]

theorem sampleDataModel_plain : sampleDataModel.Plain {0, 1} := by
  have hword : ∀ s ∈ [lit "mag", lit "f", lit "LD0/MMXU1.TotW.mag", lit "LD0/MMXU1.TotW.mag.f",
      lit "urcb01"], ' ' ∉ s ∧ '\n' ∉ s := by decide
  have hline : ∀ s ∈ [lit "LD0", lit "MMXU1", lit "TotW", lit "events",
      lit "LD0/MMXU1.TotW.mag[MX]", lit "LD0/MMXU1.urcb01"], '\n' ∉ s := by decide
  intro line hmem
  simp only [DataModel.outline, sampleDataModel, LD.outline, LN.outline, DO.outline,
    attributesOutline, DS.outline, DSRef.outline, URReport.outline, List.map_cons, List.map_nil,
    List.append_nil, List.cons_append, List.nil_append, preorder_cons, preorder_nil,
    List.mem_cons, List.not_mem_nil, or_false] at hmem
  rcases hmem with rfl | rfl | rfl | rfl | rfl | rfl | rfl | rfl
  · exact hline _ (by simp)
  · exact hline _ (by simp)
  · exact hline _ (by simp)
  · exact ⟨hword _ (by simp), hword _ (by simp), by simp⟩
  · exact ⟨hword _ (by simp), hword _ (by simp), by simp⟩
  · exact hline _ (by simp)
  · exact hline _ (by simp)
  · exact ⟨hword _ (by simp), hline _ (by simp)⟩

theorem printed_alike_iff_sample :
    sampleDataModel.string sampleConstraint = sampleDataModel.withoutRefs.string sampleConstraint ↔
      sampleDataModel.withoutRefs = sampleDataModel.withoutRefs.withoutRefs := by
  have hplain : sampleDataModel.withoutRefs.Plain {0, 1} := by
    rw [DataModel.Plain, DataModel.outline_withoutRefs]
    exact sampleDataModel_plain
  exact printed_alike_iff sampleConstraint_plain sampleConstraint_inj sampleDataModel_plain hplain

example : sampleDataModel.withoutRefs.string sampleConstraint =
    lit "DataModel\n" ++ lit "  LD: LD0\n" ++ lit "    LN: MMXU1\n" ++ lit "      DO: TotW\n" ++
      lit "        DA: mag Ref: LD0/MMXU1.TotW.mag FC: MX\n" ++
      lit "          DA: f Ref: LD0/MMXU1.TotW.mag.f FC: MX\n" ++
      lit "      DS: events (deletable)\n" ++ lit "        DSRef: LD0/MMXU1.TotW.mag[MX]\n" ++
      lit "      URReport: urcb01 Ref: LD0/MMXU1.urcb01" := by
  decide +kernel

end Iec61850.Mms
