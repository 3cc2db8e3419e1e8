import Mathlib.Data.List.Forall2
import RelayMesh.Proofs.Checked
import RelayMesh.Proofs.Document.Numbers
import RelayMesh.Proofs.Draft.Reading

/-!
Documents written to files. Texts stand in quotes and everything else without them, so that no text
is taken for another value. Unless it has a character that a file does not keep, the compact text of
a document is the text of its file.
-/

namespace RelayMesh

namespace Document

mutual

def draft : Document → Draft
  | .text s => .text s
  | .list items => .list (draftItems items)
  | .object fields => .object (draftFields fields)
  | atom => .word (String.ofList (printAtom atom))

def draftItems : List Document → List Draft
  | [] => []
  | item :: items => item.draft :: draftItems items

def draftFields : List (String × Document) → List (String × Draft)
  | [] => []
  | field :: fields => (field.1, field.2.draft) :: draftFields fields

end

theorem draftItems_eq_map (items : List Document) : draftItems items = items.map draft := by
  induction items with
  | nil => rfl
  | cons item items ih => rw [draftItems, ih, List.map_cons]

theorem draftFields_eq_map (fields : List (String × Document)) :
    draftFields fields = fields.map fun field => (field.1, field.2.draft) := by
  induction fields with
  | nil => rfl
  | cons field fields ih => rw [draftFields, ih, List.map_cons]

/-! ### Compact texts -/

def AllKept (cs : List Char) : Prop :=
  ∀ c ∈ cs, Draft.isKept c = true

theorem allKept_append {cs ds : List Char} : AllKept (cs ++ ds) ↔ AllKept cs ∧ AllKept ds :=
  List.forall_mem_append

theorem allKept_cons {c : Char} {cs : List Char} :
    AllKept (c :: cs) ↔ Draft.isKept c = true ∧ AllKept cs :=
  List.forall_mem_cons

theorem escapedChar_eq {c : Char} (kept : AllKept (escapedChar c)) :
    Draft.escapedChar c = escapedChar c := by
  refine if_pos ?_
  unfold escapedChar at kept
  split_ifs at kept with quote backslash backspace feed line back tab control
  · subst quote; rfl
  · subst backslash; rfl
  · subst backspace; rfl
  · subst feed; rfl
  · subst line; rfl
  · subst back; rfl
  · subst tab; rfl
  · rw [Draft.isKept, decide_eq_true control, Bool.true_or]
  · exact kept c List.mem_cons_self

theorem printText_eq {s : String} (kept : AllKept (printText s)) :
    Draft.printText s = printText s := by
  rw [printText, allKept_cons, allKept_append] at kept
  have each : ∀ c ∈ s.toList, Draft.escapedChar c = escapedChar c := fun c member =>
    escapedChar_eq fun d inside => kept.2.1 d (List.mem_flatMap.mpr ⟨c, member, inside⟩)
  rw [Draft.printText, Draft.spelling, printText, List.flatMap_def, List.map_congr_left each,
    List.flatMap_def]

mutual

theorem print_draft : (d : Document) → AllKept (compact d) → Draft.print d.draft = compact d
  | .text s, kept => printText_eq kept
  | .list [], _ => rfl
  | .list (item :: items), kept => by
    rw [compact, allKept_cons, allKept_append, allKept_append] at kept
    rw [draft, draftItems, Draft.print, compact, print_draft item kept.2.1.1,
      print_draftItems items kept.2.1.2]
  | .object [], _ => rfl
  | .object (field :: fields), kept => by
    rw [compact, allKept_cons, allKept_append, allKept_cons, allKept_append,
      allKept_append] at kept
    rw [draft, draftFields, Draft.print, compact, printText_eq kept.2.1,
      print_draft field.2 kept.2.2.2.1.1, print_draftFields fields kept.2.2.2.1.2]
  | .null, _ | .bool _, _ | .int _, _ | .float _, _ => String.toList_ofList

theorem print_draftItems : (items : List Document) → AllKept (compactItems items) →
    Draft.printItems (draftItems items) = compactItems items
  | [], _ => rfl
  | item :: items, kept => by
    rw [compactItems, allKept_cons, allKept_append] at kept
    rw [draftItems, Draft.printItems, compactItems, print_draft item kept.2.1,
      print_draftItems items kept.2.2]

theorem print_draftFields : (fields : List (String × Document)) → AllKept (compactFields fields) →
    Draft.printFields (draftFields fields) = compactFields fields
  | [], _ => rfl
  | field :: fields, kept => by
    rw [compactFields, allKept_cons, allKept_append, allKept_cons, allKept_append] at kept
    rw [draftFields, Draft.printFields, compactFields, printText_eq kept.2.1,
      print_draft field.2 kept.2.2.2.1, print_draftFields fields kept.2.2.2.2]

end

theorem fileText_draft {d : Document} (kept : AllKept (compact d)) :
    d.draft.fileText = d.compactText := by
  rw [Draft.fileText, print_draft d kept, compactText]

end Document

/-! ### Other spellings -/

namespace Document

/-- The drafts that a document may be written as. A float may be spelled by any decimal that reads
back. -/
inductive SpelledBy : Document → Draft → Prop
  | null : SpelledBy .null (.word "null")
  | bool (b : Bool) : SpelledBy (.bool b) (Document.bool b).draft
  | int (i : Int) : SpelledBy (.int i) (Document.int i).draft
  | float {x : Binary64} {s : String} (value : Decimal.read? s = some x) :
    SpelledBy (.float x) (.word s)
  | text (s : String) : SpelledBy (.text s) (.text s)
  | list {items : List Document} {drafts : List Draft} (each : List.Forall₂ SpelledBy items drafts) :
    SpelledBy (.list items) (.list drafts)
  | object {fields : List (String × Document)} {drafts : List (String × Draft)}
    (names : drafts.map (·.1) = fields.map (·.1))
    (each : List.Forall₂ SpelledBy (fields.map (·.2)) (drafts.map (·.2))) :
    SpelledBy (.object fields) (.object drafts)

structure FieldsSpelledBy (fields : List (String × Document)) (drafts : List (String × Draft)) :
    Prop where
  names : drafts.map (·.1) = fields.map (·.1)
  each : List.Forall₂ SpelledBy (fields.map (·.2)) (drafts.map (·.2))

section Inversion

variable {e : Draft}

theorem SpelledBy.of_null (spelled : Document.null.SpelledBy e) : e = .word "null" := by
  cases spelled
  rfl

theorem SpelledBy.of_bool {b : Bool} (spelled : (Document.bool b).SpelledBy e) :
    e = (Document.bool b).draft := by
  cases spelled
  rfl

theorem SpelledBy.of_int {i : Int} (spelled : (Document.int i).SpelledBy e) :
    e = (Document.int i).draft := by
  cases spelled
  rfl

theorem SpelledBy.of_float {x : Binary64} (spelled : (Document.float x).SpelledBy e) :
    ∃ s, e = .word s ∧ Decimal.read? s = some x := by
  cases spelled with
  | float value => exact ⟨_, rfl, value⟩

theorem SpelledBy.of_text {s : String} (spelled : (Document.text s).SpelledBy e) :
    e = .text s := by
  cases spelled
  rfl

theorem SpelledBy.of_list {items : List Document} (spelled : (Document.list items).SpelledBy e) :
    ∃ drafts, e = .list drafts ∧ List.Forall₂ SpelledBy items drafts := by
  cases spelled with
  | list each => exact ⟨_, rfl, each⟩

theorem SpelledBy.of_object {fields : List (String × Document)}
    (spelled : (Document.object fields).SpelledBy e) :
    ∃ drafts, e = .object drafts ∧ FieldsSpelledBy fields drafts := by
  cases spelled with
  | object names each => exact ⟨_, rfl, names, each⟩

end Inversion

/-- A document that a file can hold: its own draft has a text and spells it. -/
structure Sound (d : Document) : Prop where
  proper : d.draft.Proper
  spelled : d.SpelledBy d.draft

theorem sound_text (s : String) : (Document.text s).Sound :=
  ⟨.text s, .text s⟩

theorem sound_null : Document.null.Sound :=
  ⟨.word rfl (List.all_eq_true.mp rfl), .null⟩

theorem sound_bool (b : Bool) : (Document.bool b).Sound := by
  refine ⟨?_, .bool b⟩
  cases b <;> exact .word rfl (List.all_eq_true.mp rfl)

theorem isWordChar_of_isLiteralChar {c : Char} (literal : Decimal.isLiteralChar c = true) :
    Draft.isWordChar c = true := by
  simp only [Decimal.isLiteralChar, Bool.or_eq_true, beq_iff_eq] at literal
  rcases literal with ((((digit | rfl) | rfl) | rfl) | rfl) | rfl
  · obtain ⟨n, small, rfl⟩ := Text.eq_digitChar_of_isDigit digit
    have all : ∀ n < 10, Draft.isWordChar n.digitChar = true := by decide
    exact all n small
  all_goals rfl

theorem proper_literal {literal : List Char} (valid : Decimal.isLiteral literal = true)
    (inside : ∀ c ∈ literal, Decimal.isLiteralChar c = true) :
    (Draft.word (String.ofList literal)).Proper := by
  refine .word ?_ ?_ <;> rw [String.toList_ofList]
  · rw [Draft.isWord, valid, Bool.or_true]
  · exact fun c member => isWordChar_of_isLiteralChar (inside c member)

theorem sound_int (i : Int) : (Document.int i).Sound :=
  ⟨proper_literal (isLiteral_printInt i) (isLiteralChar_printInt i), .int i⟩

theorem sound_float {x : Binary64} (finite : x.isFinite = true) : (Document.float x).Sound := by
  obtain ⟨n, numeral, text, same⟩ := Decimal.render_numeral finite
  have draft : (Document.float x).draft = .word (String.ofList (n.signed x.isNegative)) := by
    change Draft.word (String.ofList (printFloat x)) = _
    rw [printFloat, if_pos finite, text]
  constructor <;> rw [draft]
  · exact proper_literal (numeral.isLiteral _) (numeral.isLiteralChar _)
  · exact .float (by rw [Decimal.read?, String.toList_ofList, numeral.ofChars?, same])

theorem sound_list {items : List Document} (each : ∀ item ∈ items, item.Sound) :
    (Document.list items).Sound := by
  constructor <;> rw [draft, draftItems_eq_map]
  · exact .list (List.forall_mem_map.mpr fun item member => (each item member).proper)
  · refine .list (List.forall₂_map_right_iff.mpr (List.forall₂_same.mpr fun item member => ?_))
    exact (each item member).spelled

theorem sound_object {fields : List (String × Document)}
    (near : ∀ name ∈ fields.map (·.1), Draft.IsNear name)
    (each : ∀ d ∈ fields.map (·.2), d.Sound) : (Document.object fields).Sound := by
  constructor <;> rw [draft, draftFields_eq_map]
  · refine .object (List.forall_mem_map.mpr fun field member => ?_)
      (List.forall_mem_map.mpr fun field member => ?_)
    · exact near _ (List.mem_map_of_mem member)
    · exact (each _ (List.mem_map_of_mem member)).proper
  · refine .object ?_ ?_ <;> rw [List.map_map]
    · rfl
    · refine List.forall₂_map_left_iff.mpr (List.forall₂_map_right_iff.mpr
        (List.forall₂_same.mpr fun field member => ?_))
      exact (each _ (List.mem_map_of_mem member)).spelled

/-! ### Documents read back from drafts -/

/-- A document that is written in one way only, as all are that have no floats. -/
def Rigid (d : Document) : Prop :=
  ∀ e, d.SpelledBy e → e = d.draft

theorem rigid_text (s : String) : (Document.text s).Rigid :=
  fun _ spelled => spelled.of_text

theorem map_draft_of_rigid {items : List Document} {drafts : List Draft}
    (rigid : ∀ item ∈ items, item.Rigid) (each : List.Forall₂ SpelledBy items drafts) :
    drafts = items.map draft := by
  induction each with
  | nil => rfl
  | cons spelled _ ih =>
    rw [List.forall_mem_cons] at rigid
    rw [List.map_cons, rigid.1 _ spelled, ih rigid.2]

theorem rigid_list {items : List Document} (rigid : ∀ item ∈ items, item.Rigid) :
    (Document.list items).Rigid := by
  intro e spelled
  obtain ⟨drafts, rfl, each⟩ := spelled.of_list
  rw [map_draft_of_rigid rigid each, draft, draftItems_eq_map]

theorem rigid_object {fields : List (String × Document)}
    (rigid : ∀ d ∈ fields.map (·.2), d.Rigid) : (Document.object fields).Rigid := by
  intro e spelled
  obtain ⟨drafts, rfl, names, each⟩ := spelled.of_object
  have values := map_draft_of_rigid rigid each
  rw [draft, draftFields_eq_map, List.zip_of_prod names values, List.map_map, List.zip_map']
  rfl

end Document

namespace Draft

variable {depth : Nat}

theorem document?_text (s : String) : (Document.text s).draft.document? depth = some (.text s) := by
  rw [Document.draft, document?]

theorem document?_list {items : List Document}
    (each : ∀ item ∈ items, item.draft.document? depth = some item) :
    (Document.list items).draft.document? (depth + 1) = some (.list items) := by
  rw [Document.draft, Document.draftItems_eq_map, document?, Checked.mapM_map_eq_some each]
  rfl

theorem document?_object {fields : List (String × Document)}
    (each : ∀ field ∈ fields, field.2.draft.document? depth = some field.2) :
    (Document.object fields).draft.document? (depth + 1) = some (.object fields) := by
  rw [Document.draft, Document.draftFields_eq_map, document?, Checked.mapM_map_eq_some]
  · rfl
  · intro field member
    rw [each field member]
    rfl

end Draft

end RelayMesh
