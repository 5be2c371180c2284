import Iec61850.VariableSpecText

/-!
# Specifications that are described alike

The text of a specification starts with a word, and what stands behind the word tells
where the text ends.  So the text of a specification that the client got from the server
tells what the server's specification describes.
-/

namespace Iec61850.Mms

open Go Delimited

/-! ## Shapes -/

namespace SpecShape

/-- The word that the text of a shape starts with. -/
def word : SpecShape → Str
  | .scalar type _ _ => scalarWord type
  | .unknownArray => lit "Array"
  | .array _ _ => lit "Array"
  | .struct _ => lit "Structure"

mutual

/-- What follows the word. -/
def behindWord : SpecShape → Str
  | .scalar type size exponent => parenthesised (scalarInside type size exponent)
  | .unknownArray => lit "[?]"
  | .array count element =>
      '[' :: (Scl.decimal count ++ ']' :: (lit " of " ++ (element.word ++ element.behindWord)))
  | .struct fields => '\x7b' :: (fieldsText fields ++ ['\x7d'])

def fieldsText : List (Str × SpecShape) → Str
  | [] => []
  | field :: rest => fieldText field ++ laterFieldsText rest

def laterFieldsText : List (Str × SpecShape) → Str
  | [] => []
  | field :: rest => lit ", " ++ fieldText field ++ laterFieldsText rest

def fieldText : Str × SpecShape → Str
  | (name, shape) =>
      (if name ≠ [] then name ++ lit ": " else []) ++ (shape.word ++ shape.behindWord)

end

def text (shape : SpecShape) : Str := shape.word ++ shape.behindWord

mutual

def Valid : SpecShape → Prop
  | .scalar type size exponent => ScalarValid type size exponent
  | .unknownArray => True
  | .array _ element => element.Valid
  | .struct fields => FieldsValid fields

def FieldsValid : List (Str × SpecShape) → Prop
  | [] => True
  | field :: rest => FieldValid field ∧ FieldsValid rest

def FieldValid : Str × SpecShape → Prop
  | (name, shape) => Word name ∧ shape.Valid

end

theorem laterFieldsText_eq (fields : List (Str × SpecShape)) :
    laterFieldsText fields = following fieldText (lit ", ") fields := by
  induction fields with
  | nil => rfl
  | cons field rest ih =>
      rw [laterFieldsText, ih]
      rfl

theorem fieldsText_eq (fields : List (Str × SpecShape)) :
    fieldsText fields = separated fieldText (lit ", ") fields := by
  cases fields with
  | nil => rfl
  | cons field rest => rw [fieldsText, laterFieldsText_eq, separated]

theorem fieldsValid_iff (fields : List (Str × SpecShape)) :
    FieldsValid fields ↔ ∀ field ∈ fields, FieldValid field := by
  induction fields with
  | nil => simp [FieldsValid]
  | cons field rest ih => rw [FieldsValid, ih, List.forall_mem_cons]

theorem word_word (shape : SpecShape) : Word shape.word := by
  cases shape with
  | scalar type size exponent => exact word_scalarWord type
  | unknownArray => exact (by decide : ∀ c ∈ lit "Array", c ∉ punctuation)
  | array count element => exact (by decide : ∀ c ∈ lit "Array", c ∉ punctuation)
  | struct fields => exact (by decide : ∀ c ∈ lit "Structure", c ∉ punctuation)

theorem exists_word_eq_cons (shape : SpecShape) : ∃ c rest, shape.word = c :: rest := by
  cases shape with
  | scalar type size exponent => exact word_starts type
  | unknownArray => exact ⟨_, _, rfl⟩
  | array count element => exact ⟨_, _, rfl⟩
  | struct fields => exact ⟨_, _, rfl⟩

theorem ends_behindWord (shape : SpecShape) {rest : Str} (hrest : Ends (· ∈ closing) rest) :
    Ends (· ∈ punctuation) (shape.behindWord ++ rest) := by
  cases shape with
  | scalar type size exponent =>
      rw [behindWord]
      exact ends_parenthesised _ hrest
  | unknownArray =>
      rw [behindWord]
      exact ends_cons.mpr (by decide)
  | array count element =>
      rw [behindWord]
      exact ends_cons.mpr (by decide)
  | struct fields =>
      rw [behindWord]
      exact ends_cons.mpr (by decide)

/-- A name is followed by a colon, the word of a shape is not. -/
theorem head_behindWord (shape : SpecShape) {rest : Str} (hrest : Ends (· ∈ closing) rest) :
    (shape.behindWord ++ rest).head? ≠ some ':' := by
  cases shape with
  | scalar type size exponent =>
      rw [behindWord]
      cases scalarInside type size exponent with
      | none =>
          intro hcolon
          exact absurd (hrest ':' hcolon) (by decide)
      | some inside => simp [parenthesised]
  | unknownArray => simp [behindWord, lit]
  | array count element => simp [behindWord]
  | struct fields => simp [behindWord]

theorem behindWord_array (count : ℤ) (element : SpecShape) (rest : Str) :
    (SpecShape.array count element).behindWord ++ rest =
      '[' :: (Scl.decimal count ++ ']' :: (lit " of " ++ (element.text ++ rest))) := by
  simp [behindWord, text]

abbrev Reads (shape : SpecShape) : Prop := Recoverable (· ∈ closing) text Valid shape

abbrev FieldReads (field : Str × SpecShape) : Prop :=
  Recoverable (· ∈ closing) fieldText FieldValid field

theorem split_word {shape shape' : SpecShape} {rest rest' : Str}
    (hrest : Ends (· ∈ closing) rest) (hrest' : Ends (· ∈ closing) rest')
    (h : shape.text ++ rest = shape'.text ++ rest') :
    shape.word = shape'.word ∧ shape.behindWord ++ rest = shape'.behindWord ++ rest' := by
  rw [text, text, List.append_assoc, List.append_assoc] at h
  exact append_inj_of_free (word_word shape) (word_word shape') (ends_behindWord shape hrest)
    (ends_behindWord shape' hrest') h

theorem array_ne_struct : lit "Array" ≠ lit "Structure" := by decide

theorem scalarWord_ne_array {type : MmsType} (hsimple : ¬ type.IsComposite) :
    scalarWord type ≠ lit "Array" := by
  intro h
  have hword : scalarWord type = scalarWord .array := h.trans (by decide)
  rcases scalarWord_inj hword with htype | ⟨-, hunknown⟩
  · exact hsimple (Or.inl htype)
  · exact absurd hunknown (by decide)

theorem scalarWord_ne_struct {type : MmsType} (hsimple : ¬ type.IsComposite) :
    scalarWord type ≠ lit "Structure" := by
  intro h
  have hword : scalarWord type = scalarWord .struct := h.trans (by decide)
  rcases scalarWord_inj hword with htype | ⟨-, hunknown⟩
  · exact hsimple (Or.inr htype)
  · exact absurd hunknown (by decide)

theorem reads_scalar {type : MmsType} {size exponent : ℤ}
    (hvalid : ScalarValid type size exponent) : Reads (.scalar type size exponent) := by
  intro other hother rest rest' hrest hrest' h
  obtain ⟨hword, hbehind⟩ := split_word hrest hrest' h
  cases other with
  | scalar type' size' exponent' =>
      rw [Valid] at hother
      rw [behindWord, behindWord] at hbehind
      obtain ⟨hinside, hsame⟩ := parenthesised_inj (fun _ => not_mem_scalarInside)
        (fun _ => not_mem_scalarInside) hrest hrest' hbehind
      obtain ⟨rfl, rfl, rfl⟩ := scalarInside_inj hvalid hother hword hinside
      exact ⟨rfl, hsame⟩
  | unknownArray => exact absurd hword (scalarWord_ne_array hvalid.simple)
  | array count element => exact absurd hword (scalarWord_ne_array hvalid.simple)
  | struct fields => exact absurd hword (scalarWord_ne_struct hvalid.simple)

theorem closed_unknown_ne (count : ℤ) (tail tail' : Str) :
    '?' :: ']' :: tail ≠ Scl.decimal count ++ ']' :: tail' := by
  intro h
  have hcount : ']' ∉ Scl.decimal count := not_mem_decimal (by decide) (by decide)
  have hunknown : ']' ∉ lit "?" := by decide
  have hsame : lit "?" = Scl.decimal count := (append_cons_inj hunknown hcount h).1
  have hmem : '?' ∈ Scl.decimal count := hsame ▸ List.mem_cons_self
  exact not_mem_decimal (by decide) (by decide) hmem

theorem reads_unknownArray : Reads .unknownArray := by
  intro other hother rest rest' hrest hrest' h
  obtain ⟨hword, hbehind⟩ := split_word hrest hrest' h
  cases other with
  | scalar type size exponent =>
      rw [Valid] at hother
      exact absurd hword.symm (scalarWord_ne_array hother.simple)
  | unknownArray => exact ⟨rfl, List.append_cancel_left hbehind⟩
  | array count element =>
      rw [behindWord_array] at hbehind
      exact absurd (List.cons.inj hbehind).2 (closed_unknown_ne _ _ _)
  | struct fields => exact absurd hword array_ne_struct

theorem reads_array (count : ℤ) {element : SpecShape} (helement : Reads element) :
    Reads (.array count element) := by
  intro other hother rest rest' hrest hrest' h
  obtain ⟨hword, hbehind⟩ := split_word hrest hrest' h
  rw [behindWord_array] at hbehind
  cases other with
  | scalar type size exponent =>
      rw [Valid] at hother
      exact absurd hword.symm (scalarWord_ne_array hother.simple)
  | unknownArray =>
      exact absurd (List.cons.inj hbehind).2.symm (closed_unknown_ne _ _ _)
  | array count' element' =>
      have hcount : ∀ n : ℤ, ']' ∉ Scl.decimal n := fun n =>
        not_mem_decimal (by decide) (by decide)
      rw [Valid] at hother
      rw [behindWord_array] at hbehind
      obtain ⟨hsame, htail⟩ := append_cons_inj (hcount count) (hcount count')
        (List.cons.inj hbehind).2
      obtain ⟨rfl, hrests⟩ := helement element' hother rest rest' hrest hrest'
        (List.append_cancel_left htail)
      obtain rfl := decimal_injective hsame
      exact ⟨rfl, hrests⟩
  | struct fields => exact absurd hword array_ne_struct

/-- The text of a field starts with its name, or with the word of its shape. -/
theorem head_fieldText {field : Str × SpecShape} (hvalid : FieldValid field) (rest : Str) :
    (fieldText field ++ rest).head? ≠ some '\x7d' := by
  have hstart : ∀ {c : Char} {word : Str}, Word (c :: word) → c ≠ '\x7d' := by
    intro c word hword hclose
    exact (free_cons.mp hword).1 (by rw [hclose]; decide)
  obtain ⟨name, shape⟩ := field
  rw [FieldValid] at hvalid
  rw [fieldText]
  cases name with
  | nil =>
      obtain ⟨c, word, hword⟩ := exists_word_eq_cons shape
      have hfree := word_word shape
      rw [hword] at hfree
      have hne := hstart hfree
      simpa [hword] using hne
  | cons c name =>
      have hne := hstart hvalid.1
      simpa using hne

theorem reads_struct {fields : List (Str × SpecShape)} (hvalid : FieldsValid fields)
    (hfields : ∀ field ∈ fields, FieldReads field) : Reads (.struct fields) := by
  intro other hother rest rest' hrest hrest' h
  obtain ⟨hword, hbehind⟩ := split_word hrest hrest' h
  cases other with
  | scalar type size exponent =>
      rw [Valid] at hother
      exact absurd hword.symm (scalarWord_ne_struct hother.simple)
  | unknownArray => exact absurd hword.symm array_ne_struct
  | array count element => exact absurd hword.symm array_ne_struct
  | struct fields' =>
      rw [Valid] at hother
      rw [behindWord, behindWord, fieldsText_eq, fieldsText_eq, List.cons_append,
        List.cons_append, List.append_assoc, List.append_assoc] at hbehind
      have hseparated := (List.cons.inj hbehind).2
      obtain ⟨rfl, hrests⟩ := separated_inj (by decide) (by decide) (by decide) hfields
        ((fieldsValid_iff _).mp hvalid) ((fieldsValid_iff _).mp hother)
        (fun _ hfield => head_fieldText hfield) hseparated
      exact ⟨rfl, hrests⟩

/-- A named field starts with a word and a colon. -/
theorem fieldText_split (name : Str) (shape : SpecShape) (rest : Str) :
    name = [] ∧ fieldText (name, shape) ++ rest = shape.text ++ rest ∨
      name ≠ [] ∧ fieldText (name, shape) ++ rest =
        name ++ ':' :: (' ' :: (shape.text ++ rest)) := by
  rw [fieldText, text]
  by_cases hname : name = []
  · exact Or.inl ⟨hname, by simp [hname]⟩
  · exact Or.inr ⟨hname, by simp [hname, lit]⟩

theorem name_ne_word {name : Str} (hname : Word name) {shape : SpecShape} {rest tail : Str}
    (hrest : Ends (· ∈ closing) rest) : name ++ ':' :: tail ≠ shape.text ++ rest := by
  intro h
  rw [text, List.append_assoc] at h
  have hbehind := (append_inj_of_free hname (word_word shape)
    (ends_cons.mpr (by decide)) (ends_behindWord shape hrest) h).2
  have hhead := head_behindWord shape hrest
  rw [← hbehind] at hhead
  exact absurd rfl hhead

theorem reads_field {name : Str} {shape : SpecShape} (hname : Word name) (hshape : Reads shape) :
    FieldReads (name, shape) := by
  intro other hother rest rest' hrest hrest' h
  obtain ⟨name', shape'⟩ := other
  rw [FieldValid] at hother
  obtain ⟨hname', hshape'⟩ := hother
  rcases fieldText_split name shape rest with ⟨rfl, htext⟩ | ⟨-, htext⟩
  · rcases fieldText_split name' shape' rest' with ⟨rfl, htext'⟩ | ⟨-, htext'⟩
    · rw [htext, htext'] at h
      obtain ⟨rfl, hrests⟩ := hshape shape' hshape' rest rest' hrest hrest' h
      exact ⟨rfl, hrests⟩
    · rw [htext, htext'] at h
      exact absurd h.symm (name_ne_word hname' hrest)
  · rcases fieldText_split name' shape' rest' with ⟨rfl, htext'⟩ | ⟨-, htext'⟩
    · rw [htext, htext'] at h
      exact absurd h (name_ne_word hname hrest')
    · rw [htext, htext'] at h
      have hstop : ':' ∈ punctuation := by decide
      obtain ⟨rfl, hbehind⟩ := append_inj_of_free hname hname' (ends_cons.mpr hstop)
        (ends_cons.mpr hstop) h
      obtain ⟨rfl, hrests⟩ := hshape shape' hshape' rest rest' hrest hrest'
        (List.cons.inj (List.cons.inj hbehind).2).2
      exact ⟨rfl, hrests⟩

mutual

theorem reads : (shape : SpecShape) → shape.Valid → Reads shape
  | .scalar _ _ _, hvalid => reads_scalar (by rwa [Valid] at hvalid)
  | .unknownArray, _ => reads_unknownArray
  | .array count element, hvalid => reads_array count (reads element (by rwa [Valid] at hvalid))
  | .struct fields, hvalid =>
      have hfields : FieldsValid fields := by rwa [Valid] at hvalid
      reads_struct hfields (fields_read fields hfields)

theorem fields_read : (fields : List (Str × SpecShape)) → FieldsValid fields →
    ∀ field ∈ fields, FieldReads field
  | [], _ => by simp
  | field :: rest, hvalid => by
      rw [FieldsValid] at hvalid
      exact List.forall_mem_cons.mpr ⟨field_reads field hvalid.1, fields_read rest hvalid.2⟩

theorem field_reads : (field : Str × SpecShape) → FieldValid field → FieldReads field
  | (_, shape), hvalid => by
      rw [FieldValid] at hvalid
      exact reads_field hvalid.1 (reads shape hvalid.2)

end

theorem text_inj {shape shape' : SpecShape} (hvalid : shape.Valid) (hvalid' : shape'.Valid)
    (h : shape.text = shape'.text) : shape = shape' :=
  (reads shape hvalid shape' hvalid' [] [] ends_nil ends_nil (by rw [h])).1

end SpecShape

/-! ## The text and the shape -/

mutual

theorem writeVarSpec_eq : (spec : SizedVariableSpec) → writeVarSpec spec = spec.shape.text
  | ⟨type, name, array, struct, sizes⟩ => by
      rw [writeVarSpec, SizedVariableSpec.shape]
      by_cases harray : type = .array
      · rw [if_pos harray, if_pos harray]
        exact writeArraySpec_eq array
      rw [if_neg harray, if_neg harray]
      by_cases hstruct : type = .struct
      · rw [if_pos hstruct, if_pos hstruct, writeStructureSpec_eq struct]
        simp [SpecShape.text, SpecShape.word, SpecShape.behindWord, lit]
      · rw [if_neg hstruct, if_neg hstruct]
        exact writeScalarSpec_eq type sizes

theorem writeArraySpec_eq : (array : Option (MmsArraySpec SizedVariableSpec)) →
    writeArraySpec array = (arrayShape array).text
  | none => by
      rw [writeArraySpec, arrayShape]
      rfl
  | some ⟨elementCount, element⟩ => by
      rw [writeArraySpec, arrayShape]
      exact writeElementSpec_eq elementCount element

theorem writeElementSpec_eq (elementCount : ℤ) : (element : Option SizedVariableSpec) →
    writeElementSpec elementCount element = (elementShape elementCount element).text
  | none => by
      rw [writeElementSpec, elementShape]
      rfl
  | some element => by
      rw [writeElementSpec, elementShape, writeVarSpec_eq element]
      simp [SpecShape.text, SpecShape.word, SpecShape.behindWord, lit]

theorem writeStructureSpec_eq : (struct : Option (MmsStructureSpec SizedVariableSpec)) →
    writeStructureSpec struct = SpecShape.fieldsText (structureFields struct)
  | none => by
      rw [writeStructureSpec, structureFields, SpecShape.fieldsText]
  | some ⟨elements⟩ => by
      rw [writeStructureSpec, structureFields]
      exact writeElements_zero elements

theorem writeElements_zero : (elements : List SizedVariableSpec) →
    writeElements elements 0 = SpecShape.fieldsText (elementFields elements)
  | [] => by
      rw [writeElements, elementFields, SpecShape.fieldsText]
  | el :: rest => by
      rw [writeElements, elementFields, SpecShape.fieldsText, SpecShape.fieldText,
        writeVarSpec_eq el, writeElements_succ rest 0]
      simp [SpecShape.text]

/-- From the second element on a comma stands before the element. -/
theorem writeElements_succ : (elements : List SizedVariableSpec) → (i : ℕ) →
    writeElements elements (i + 1) = SpecShape.laterFieldsText (elementFields elements)
  | [], _ => by
      rw [writeElements, elementFields, SpecShape.laterFieldsText]
  | el :: rest, i => by
      rw [writeElements, elementFields, SpecShape.laterFieldsText, SpecShape.fieldText,
        writeVarSpec_eq el, writeElements_succ rest (i + 1)]
      simp [SpecShape.text]

end

/-! ## Specifications of the C library -/

/-- What the accessors of `MmsVariableSpecification` answer. -/
structure CVarSpecification where
  getType : MmsType
  getName : Str := []
  getSize : ℤ := 0
  getExponentWidth : ℤ := 0
  getArrayElementSpecification : Option CVarSpecification := none
  getChildSpecificationByIndex : List (Option CVarSpecification) := []

/-- The size field that the switch over the type fills. -/
def scalarSizes (type : MmsType) (getSize getExponentWidth : ℤ) : ScalarSizes :=
  if type = .integer then { integerBits := getSize }
  else if type = .unsigned then { unsignedBits := getSize }
  else if type = .float then
    { floatExponentWidth := getExponentWidth, floatFormatWidth := getSize }
  else if type = .bitString then { bitStringSize := getSize }
  else if type = .octetString then { octetStringSize := getSize }
  else if type = .visibleString then { visibleStringSize := getSize }
  else if type = .mmsString then { mmsStringSize := getSize }
  else if type = .binaryTime then { binaryTimeSize := getSize }
  else {}

mutual

/-- The size of a structure is the number of its children; were it negative, `make` would
panic. -/
def cToGoVarSpec : CVarSpecification → SizedVariableSpec
  | ⟨type, name, getSize, getExponentWidth, element, children⟩ =>
      if type = .array then
        { type := type, name := name, array := some ⟨getSize, cToGoElement element⟩ }
      else if type = .struct then
        { type := type, name := name, struct := some ⟨cToGoChildren children getSize.toNat⟩ }
      else
        { type := type, name := name, sizes := scalarSizes type getSize getExponentWidth }

def cToGoElement : Option CVarSpecification → Option SizedVariableSpec
  | none => none
  | some element => some (cToGoVarSpec element)

/-- The loop over the next `count` children; a NULL child is left out. -/
def cToGoChildren : List (Option CVarSpecification) → ℕ → List SizedVariableSpec
  | [], _ => []
  | _ :: _, 0 => []
  | child :: rest, count + 1 => cToGoChild child ++ cToGoChildren rest count

def cToGoChild : Option CVarSpecification → List SizedVariableSpec
  | none => []
  | some child => [cToGoVarSpec child]

end

/-- The copy of the asynchronous client, which is the same line by line. -/
def cToGoVarSpecStandalone (spec : CVarSpecification) : SizedVariableSpec := cToGoVarSpec spec

namespace CVarSpecification

mutual

/-- What the specification describes: the sizes that belong to its type, the element of an
array, and the children of a structure that are there. -/
def shape : CVarSpecification → SpecShape
  | ⟨type, _, getSize, getExponentWidth, element, children⟩ =>
      if type = .array then elementShape getSize element
      else if type = .struct then .struct (childFields children getSize.toNat)
      else .scalar type (if type ∈ sizedTypes then getSize else 0)
        (if type = .float then getExponentWidth else 0)

def elementShape (getSize : ℤ) : Option CVarSpecification → SpecShape
  | none => .unknownArray
  | some element => .array getSize element.shape

def childFields : List (Option CVarSpecification) → ℕ → List (Str × SpecShape)
  | [], _ => []
  | _ :: _, 0 => []
  | child :: rest, count + 1 => childField child ++ childFields rest count

def childField : Option CVarSpecification → List (Str × SpecShape)
  | none => []
  | some child => [(child.getName, child.shape)]

end

mutual

/-- The names of the components hold no punctuation. -/
def NamesAreWords : CVarSpecification → Prop
  | ⟨_, _, _, _, element, children⟩ => ElementNamesAreWords element ∧ ChildNamesAreWords children

def ElementNamesAreWords : Option CVarSpecification → Prop
  | none => True
  | some element => element.NamesAreWords

def ChildNamesAreWords : List (Option CVarSpecification) → Prop
  | [] => True
  | child :: rest => ChildNameIsWord child ∧ ChildNamesAreWords rest

def ChildNameIsWord : Option CVarSpecification → Prop
  | none => True
  | some child => Word child.getName ∧ child.NamesAreWords

end

mutual

theorem valid_shape : (spec : CVarSpecification) → spec.NamesAreWords → spec.shape.Valid
  | ⟨type, name, getSize, getExponentWidth, element, children⟩, hwords => by
      rw [NamesAreWords] at hwords
      rw [shape]
      by_cases harray : type = .array
      · rw [if_pos harray]
        exact valid_elementShape getSize element hwords.1
      rw [if_neg harray]
      by_cases hstruct : type = .struct
      · rw [if_pos hstruct, SpecShape.Valid]
        exact valid_childFields children getSize.toNat hwords.2
      rw [if_neg hstruct, SpecShape.Valid]
      have hsimple : ¬ type.IsComposite := fun hcomposite => hcomposite.elim harray hstruct
      refine ⟨hsimple, fun hsize => ?_, fun hexponent => ?_⟩
      · by_contra hmem
        exact hsize (if_neg hmem)
      · by_contra hfloat
        exact hexponent (if_neg hfloat)

theorem valid_elementShape (getSize : ℤ) : (element : Option CVarSpecification) →
    ElementNamesAreWords element → (elementShape getSize element).Valid
  | none, _ => by
      rw [elementShape, SpecShape.Valid]
      trivial
  | some element, hwords => by
      rw [ElementNamesAreWords] at hwords
      rw [elementShape, SpecShape.Valid]
      exact valid_shape element hwords

theorem valid_childFields : (children : List (Option CVarSpecification)) → (count : ℕ) →
    ChildNamesAreWords children → SpecShape.FieldsValid (childFields children count)
  | [], _, _ => by
      rw [childFields, SpecShape.FieldsValid]
      trivial
  | _ :: _, 0, _ => by
      rw [childFields, SpecShape.FieldsValid]
      trivial
  | child :: rest, count + 1, hwords => by
      rw [ChildNamesAreWords] at hwords
      rw [childFields, SpecShape.fieldsValid_iff, List.forall_mem_append]
      constructor
      · exact (SpecShape.fieldsValid_iff _).mp (valid_childField child hwords.1)
      · exact (SpecShape.fieldsValid_iff _).mp (valid_childFields rest count hwords.2)

theorem valid_childField : (child : Option CVarSpecification) → ChildNameIsWord child →
    SpecShape.FieldsValid (childField child)
  | none, _ => by
      rw [childField, SpecShape.FieldsValid]
      trivial
  | some child, hwords => by
      rw [ChildNameIsWord] at hwords
      rw [childField, SpecShape.fieldsValid_iff, List.forall_mem_singleton, SpecShape.FieldValid]
      exact ⟨hwords.1, valid_shape child hwords.2⟩

end

theorem shown_scalarSizes (type : MmsType) (getSize getExponentWidth : ℤ) :
    (scalarSizes type getSize getExponentWidth).shown type =
      (if type ∈ sizedTypes then getSize else 0,
        if type = .float then getExponentWidth else 0) := by
  by_cases hmem : type ∈ sizedTypes
  · simp only [sizedTypes, List.mem_cons, List.not_mem_nil, or_false] at hmem
    rcases hmem with rfl | rfl | rfl | rfl | rfl | rfl | rfl | rfl <;> rfl
  · rw [if_neg hmem]
    simp only [sizedTypes, List.mem_cons, List.not_mem_nil, or_false, not_or] at hmem
    simp [ScalarSizes.shown, hmem]

end CVarSpecification

theorem name_cToGoVarSpec (spec : CVarSpecification) : (cToGoVarSpec spec).name = spec.getName := by
  obtain ⟨type, name, getSize, getExponentWidth, element, children⟩ := spec
  rw [cToGoVarSpec]
  split_ifs <;> rfl

mutual

/-- The conversion keeps what the specification describes. -/
theorem shape_cToGoVarSpec : (spec : CVarSpecification) → (cToGoVarSpec spec).shape = spec.shape
  | ⟨type, name, getSize, getExponentWidth, element, children⟩ => by
      rw [cToGoVarSpec, CVarSpecification.shape]
      by_cases harray : type = .array
      · rw [if_pos harray, if_pos harray, SizedVariableSpec.shape, if_pos harray, arrayShape]
        exact shape_cToGoElement getSize element
      rw [if_neg harray, if_neg harray]
      by_cases hstruct : type = .struct
      · rw [if_pos hstruct, if_pos hstruct, SizedVariableSpec.shape, if_neg harray,
          if_pos hstruct, structureFields, fields_cToGoChildren children]
      · rw [if_neg hstruct, if_neg hstruct, SizedVariableSpec.shape, if_neg harray,
          if_neg hstruct, CVarSpecification.shown_scalarSizes]

theorem shape_cToGoElement (getSize : ℤ) : (element : Option CVarSpecification) →
    elementShape getSize (cToGoElement element) = CVarSpecification.elementShape getSize element
  | none => by
      rw [cToGoElement, elementShape, CVarSpecification.elementShape]
  | some element => by
      rw [cToGoElement, elementShape, CVarSpecification.elementShape, shape_cToGoVarSpec element]

theorem fields_cToGoChildren : (children : List (Option CVarSpecification)) → (count : ℕ) →
    elementFields (cToGoChildren children count) = CVarSpecification.childFields children count
  | [], _ => by
      rw [cToGoChildren, elementFields, CVarSpecification.childFields]
  | _ :: _, 0 => by
      rw [cToGoChildren, elementFields, CVarSpecification.childFields]
  | child :: rest, count + 1 => by
      rw [cToGoChildren, CVarSpecification.childFields, ← fields_cToGoChildren rest count]
      exact fields_cToGoChild child _

theorem fields_cToGoChild : (child : Option CVarSpecification) → (rest : List SizedVariableSpec) →
    elementFields (cToGoChild child ++ rest) =
      CVarSpecification.childField child ++ elementFields rest
  | none, _ => by
      rw [cToGoChild, CVarSpecification.childField]
      rfl
  | some child, _ => by
      rw [cToGoChild, CVarSpecification.childField, List.singleton_append, elementFields,
        shape_cToGoVarSpec child, name_cToGoVarSpec]
      rfl

end

/-- A handler of the asynchronous client prints what the specification describes. -/
theorem writeVarSpec_cToGoVarSpecStandalone (spec : CVarSpecification) :
    writeVarSpec (cToGoVarSpecStandalone spec) = spec.shape.text := by
  rw [cToGoVarSpecStandalone, writeVarSpec_eq, shape_cToGoVarSpec]

/-- The texts of two specifications of the server are the same only where the specifications
describe the same. -/
theorem described_alike_iff {spec spec' : CVarSpecification} (hwords : spec.NamesAreWords)
    (hwords' : spec'.NamesAreWords) :
    writeVarSpec (cToGoVarSpec spec) = writeVarSpec (cToGoVarSpec spec') ↔
      spec.shape = spec'.shape := by
  rw [writeVarSpec_eq, writeVarSpec_eq, shape_cToGoVarSpec, shape_cToGoVarSpec]
  constructor
  · exact SpecShape.text_inj (CVarSpecification.valid_shape spec hwords)
      (CVarSpecification.valid_shape spec' hwords')
  · intro hshape
    rw [hshape]

/-- A structure of an array with the element and a bit string. -/
def sampleSpec (element : Option CVarSpecification) : CVarSpecification :=
  { getType := .struct, getSize := 2,
    getChildSpecificationByIndex :=
      [some { getType := .array, getName := lit "h", getSize := 3,
              getArrayElementSpecification := element },
       some { getType := .bitString, getName := lit "q", getSize := -13 }] }

theorem described_alike_iff_sample :
    writeVarSpec (cToGoVarSpec (sampleSpec (some { getType := .float, getSize := 32 }))) =
        lit "Structure\x7bh: Array[3] of Float(fmt=32), q: BitString(-13bit)\x7d" ∧
      writeVarSpec (cToGoVarSpec (sampleSpec none)) =
        lit "Structure\x7bh: Array[?], q: BitString(-13bit)\x7d" ∧
      (sampleSpec (some { getType := .float, getSize := 32 })).shape ≠ (sampleSpec none).shape := by
  have hword : Word (lit "h") ∧ Word (lit "q") :=
    ⟨(by decide : ∀ c ∈ lit "h", c ∉ punctuation), (by decide : ∀ c ∈ lit "q", c ∉ punctuation)⟩
  have hwords : (sampleSpec (some { getType := .float, getSize := 32 })).NamesAreWords :=
    ⟨trivial, ⟨hword.1, ⟨trivial, trivial⟩, trivial⟩, ⟨hword.2, trivial, trivial⟩, trivial⟩
  have hwords' : (sampleSpec none).NamesAreWords :=
    ⟨trivial, ⟨hword.1, trivial, trivial⟩, ⟨hword.2, trivial, trivial⟩, trivial⟩
  refine ⟨by decide +kernel, by decide +kernel, fun hshape => ?_⟩
  have htext := (described_alike_iff hwords hwords').mpr hshape
  exact absurd htext (by decide +kernel)

end Iec61850.Mms
