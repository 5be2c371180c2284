import Iec61850.ControlBlockChains
import Iec61850.GeneratorText
import Iec61850.PointerGraph

/-!
# Buffers that are printed as formats

The control blocks are collected in six buffers, and the content of a buffer is
then the format of one print, as is the line of each macro.  The initializers
are printed through a format of their own.
-/

namespace Iec61850.Scl

open Go CSource

/-! ## Print streams -/

structure PrintStream where
  builder : Str := []
  deriving DecidableEq, Repr

def PrintStream.write (p : PrintStream) (s : Str) : PrintStream := ⟨p.builder ++ s⟩

/-- `println` without operands. -/
def PrintStream.println (p : PrintStream) (format : Str) : PrintStream :=
  p.write (printf (format ++ lit "\n"))

/-- `print("%s", s)` -/
def PrintStream.printString (p : PrintStream) (s : Str) : PrintStream := p.write s

theorem PrintStream.write_inj {p : PrintStream} {s t : Str} : p.write s = p.write t ↔ s = t := by
  simp [PrintStream.write]

theorem printf_eq_self_iff (s : Str) : printf s = s ↔ '%' ∉ s :=
  (prints_printf s).eq_self_iff

theorem PrintStream.println_eq_iff (p : PrintStream) (format : Str) :
    p.println format = p.write (format ++ lit "\n") ↔ '%' ∉ format := by
  have hbreak : '%' ∉ lit "\n" := by decide
  rw [PrintStream.println, PrintStream.write_inj, printf_eq_self_iff, List.mem_append,
    or_iff_left hbreak]

/-! ## The buffers -/

inductive TextBuffer
  | reportControlBlocks | smvControlBlocks | gseControlBlocks
  | settingGroupControlBlocks | logControlBlocks | logs
  deriving DecidableEq, Repr

/-- The output streams of the generator and what it has collected. -/
structure GeneratorStreams where
  cOut : PrintStream := {}
  hOut : PrintStream := {}
  buffer : TextBuffer → Str
  initializerBuffer : Str := []

def SettingGroupControlBlockDefinition.text (d : SettingGroupControlBlockDefinition) :
    List Segment :=
  [code "\nSettingGroupControlBlock ", .name d.blockName, code " = \x7b&", .name d.parent,
      code ", ", number d.actSG, code ", ", number d.numOfSGs, code ", 0, false, 0, 0, "] ++
    addressOf "&" d.sibling ++ [code "\x7d;\n"]

/-- What a run has collected. -/
def GeneratedFiles.streams (files : GeneratedFiles) : GeneratorStreams where
  buffer
    | .reportControlBlocks =>
        source ((files.c.filterMap CItem.reportControlBlock?).flatMap (·.text))
    | .smvControlBlocks => source (files.svControlBlocks.flatMap (·.text))
    | .gseControlBlocks => source (files.gseControlBlocks.flatMap (·.text))
    | .settingGroupControlBlocks =>
        source ((files.c.filterMap CItem.settingGroupControlBlock?).flatMap (·.text))
    | .logControlBlocks => source ((files.c.filterMap CItem.logControlBlock?).flatMap (·.text))
    | .logs => source ((files.c.filterMap CItem.log?).flatMap (·.text))

/-- One of the six `s.cOut.println(buffer.String())` of `printDeviceModelDefinitions`. -/
def GeneratorStreams.printBuffer (s : GeneratorStreams) (b : TextBuffer) : GeneratorStreams :=
  { s with cOut := s.cOut.println (s.buffer b) }

/-- The initializers within `printInitializerFunction`. -/
def GeneratorStreams.printInitializers (s : GeneratorStreams) : GeneratorStreams :=
  { s with cOut := s.cOut.printString s.initializerBuffer }

/-- `fmt.Sprintf("#define %s (&%s)", name, variableName)` -/
def PointerDefine.line (d : PointerDefine) : Str :=
  lit "#define " ++ d.macroName ++ lit " (&" ++ d.variableName ++ lit ")"

/-- One iteration of `printVariablePointerDefines`, behind the name of the macro. -/
def GeneratorStreams.printDefine (s : GeneratorStreams) (d : PointerDefine) : GeneratorStreams :=
  { s with hOut := s.hOut.println d.line }

theorem PointerDefine.percent_mem_line (d : PointerDefine) :
    '%' ∈ d.line ↔ '%' ∈ d.macroName ∨ '%' ∈ d.variableName := by
  have hdefine : '%' ∉ lit "#define " := by decide
  have hopen : '%' ∉ lit " (&" := by decide
  have hclose : '%' ∉ lit ")" := by decide
  simp only [PointerDefine.line, List.mem_append, hdefine, hopen, hclose, false_or, or_false]

/-- The macro of a variable has a percent sign if the variable has one behind the
prefix, or the prefix in upper case. -/
theorem percent_mem_define {rt : Runtime} {modelPrefix variableName : Str} {d : PointerDefine}
    (h : printVariablePointerDefine rt modelPrefix variableName = .ok d) :
    '%' ∈ d.line ↔ '%' ∈ rt.toUpper modelPrefix ∨ '%' ∈ variableName := by
  unfold printVariablePointerDefine at h
  split at h
  next => cases h
  next =>
    obtain rfl := Except.ok.inj h
    have hdrop : '%' ∈ variableName.drop modelPrefix.length → '%' ∈ variableName :=
      List.mem_of_mem_drop
    rw [PointerDefine.percent_mem_line, List.mem_append]
    tauto

/-- The text of a buffer, and of the line of a macro, is printed as it is exactly when
it has no percent sign; that of the initializers always. -/
theorem buffered_text_verbatim_iff (s : GeneratorStreams) (rt : Runtime) (modelPrefix : Str) :
    (∀ b, (s.printBuffer b).cOut = s.cOut.write (s.buffer b ++ lit "\n") ↔
      '%' ∉ s.buffer b) ∧
    (∀ variableName d, printVariablePointerDefine rt modelPrefix variableName = .ok d →
      ((s.printDefine d).hOut = s.hOut.write (d.line ++ lit "\n") ↔
        '%' ∉ rt.toUpper modelPrefix ∧ '%' ∉ variableName)) ∧
    s.printInitializers.cOut = s.cOut.write s.initializerBuffer := by
  refine ⟨fun b => s.cOut.println_eq_iff _, fun variableName d hdefine => ?_, rfl⟩
  have hline := s.hOut.println_eq_iff d.line
  rw [percent_mem_define hdefine, not_or] at hline
  exact hline

/-- A logical device with a log whose name has a percent sign. -/
def percentDevice : LogicalDevice where
  inst := lit "LD1"
  ln0 := some { lnClass := lit "LLN0", lnType := lit "LN0T", logs := [{ name := lit "50%load" }] }

def percentModel : ParsedModel plainRuntime :=
  ParsedModel.ofDocument plainRuntime 4
    (documentOf settingTemplates [percentDevice])
    (by decide +kernel)

theorem generate_percentModel :
    (generate plainRuntime percentModel.model {}).isOk = true := by
  decide +kernel

theorem buffered_text_verbatim_iff_percentModel :
    ∃ d, printVariablePointerDefine plainRuntime (lit "iedModel") (lit "iedModel_LD1") = .ok d ∧
      let s := (resultOf _ generate_percentModel).streams
      ((s.printDefine d).hOut = s.hOut.write (d.line ++ lit "\n") ↔
        '%' ∉ plainRuntime.toUpper (lit "iedModel") ∧ '%' ∉ lit "iedModel_LD1") :=
  ⟨_, rfl, (buffered_text_verbatim_iff _ plainRuntime (lit "iedModel")).2.1 _ _ rfl⟩

/-- The percent sign and the letter behind it are taken for a directive. -/
theorem percentModel_not_verbatim :
    ∃ files, generate plainRuntime percentModel.model {} = .ok files ∧
      (files.streams.printBuffer .logs).cOut ≠
        files.streams.cOut.write (files.streams.buffer .logs ++ lit "\n") := by
  refine ⟨_, eq_ok_resultOf _ generate_percentModel, fun hverbatim => ?_⟩
  have hpercent := (PrintStream.println_eq_iff _ _).mp hverbatim
  revert hpercent
  decide +kernel

end Iec61850.Scl
