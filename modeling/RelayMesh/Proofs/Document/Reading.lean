import RelayMesh.Proofs.Document.Numbers
import RelayMesh.Proofs.Document.Text

namespace RelayMesh.Document

/-- The documents that have a text: integers of 64 bits, finite floats and objects without repeated
names, at any depth. -/
inductive Writable : Document → Prop
  | null : Writable .null
  | bool (b : Bool) : Writable (.bool b)
  | int {i : Int} (fits : FitsWord i) : Writable (.int i)
  | float {x : Binary64} (finite : x.isFinite = true) : Writable (.float x)
  | text (s : String) : Writable (.text s)
  | list {items : List Document} (each : ∀ item ∈ items, Writable item) : Writable (.list items)
  | object {fields : List (String × Document)} (distinct : (fields.map (·.1)).Nodup)
      (each : ∀ field ∈ fields, Writable field.2) : Writable (.object fields)

/-! ### Where values begin -/

theorem skipSpace_newline (level : Nat) (rest : List Char) :
    skipSpace (newline level ++ rest) = skipSpace rest := by
  refine List.dropWhile_append_of_pos fun c member => ?_
  rcases List.mem_cons.mp member with rfl | member
  · rfl
  · rw [(List.mem_replicate.mp member).2]
    rfl

theorem skipSpace_cons {c : Char} (solid : isSpace c = false) (rest : List Char) :
    skipSpace (c :: rest) = c :: rest :=
  List.dropWhile_cons_of_neg (by rw [solid]; decide)

/-- A character that is neither a space nor the end of a list or an object. -/
def Opens (c : Char) : Prop :=
  isSpace c = false ∧ c ≠ ']' ∧ c ≠ '\x7d'

instance (c : Char) : Decidable (Opens c) :=
  inferInstanceAs (Decidable (_ ∧ _))

theorem opens_of_isLiteralChar {c : Char} (literal : Decimal.isLiteralChar c = true) : Opens c := by
  have other {d : Char} (not_literal : Decimal.isLiteralChar d = false) : c ≠ d := by
    rintro rfl
    rw [literal] at not_literal
    contradiction
  refine ⟨?_, other rfl, other rfl⟩
  simp [isSpace, other (d := ' ') rfl, other (d := '\n') rfl, other (d := '\r') rfl,
    other (d := '\t') rfl]

theorem IsNumber.opens {literal : List Char} {d : Document} (number : IsNumber literal d) :
    ∃ c cs, literal = c :: cs ∧ Opens c := by
  obtain ⟨c, cs, text, literal⟩ := number.eq_cons
  exact ⟨c, cs, text, opens_of_isLiteralChar literal⟩

theorem pretty_opens {d : Document} (writable : d.Writable) (level : Nat) :
    ∃ c cs, pretty level d = c :: cs ∧ Opens c := by
  cases writable with
  | null => exact ⟨'n', ['u', 'l', 'l'], rfl, by decide⟩
  | bool b =>
    cases b with
    | true => exact ⟨'t', ['r', 'u', 'e'], rfl, by decide⟩
    | false => exact ⟨'f', ['a', 'l', 's', 'e'], rfl, by decide⟩
  | int fits => exact (isNumber_printInt fits).opens
  | float finite => exact (isNumber_printFloat finite).opens
  | text s => exact ⟨'"', _, rfl, by decide⟩
  | @list items each => cases items <;> exact ⟨'[', _, rfl, by decide⟩
  | @object fields distinct each => cases fields <;> exact ⟨'\x7b', _, rfl, by decide⟩

/-! ### One value -/

section Value

variable {fuel : Nat} {rest : List Char}

theorem readValue_number {literal : List Char} {d : Document} (number : IsNumber literal d)
    (ends : EndsNumber rest) : readValue (fuel + 1) (literal ++ rest) = some (d, rest) := by
  obtain ⟨c, cs, text, literal_char⟩ := number.eq_cons
  have value := number.readNumber ends
  rw [text, List.cons_append] at value ⊢
  rw [readValue]
  · exact value
  all_goals
    rintro _ ⟨⟩
    exact absurd literal_char (by decide)

theorem readValue_text (s : String) :
    readValue (fuel + 1) (printText s ++ rest) = some (.text s, rest) := by
  have text := readText_printText s rest
  rw [printText, List.cons_append, List.append_assoc, List.singleton_append, readValue]
  dsimp only
  rw [text]
  rfl

theorem readValue_null : readValue (fuel + 1) ("null".toList ++ rest) = some (.null, rest) :=
  rfl

theorem readValue_bool (b : Bool) :
    readValue (fuel + 1) (printAtom (.bool b) ++ rest) = some (.bool b, rest) := by
  cases b <;> rfl

end Value

/-! ### Lists and objects -/

theorem endsNumber_cons {c : Char} (other : Decimal.isLiteralChar c = false) (rest : List Char) :
    EndsNumber (c :: rest) := by
  rintro _ ⟨⟩
  exact other

theorem endsNumber_newline (level : Nat) (rest : List Char) : EndsNumber (newline level ++ rest) :=
  endsNumber_cons rfl _

theorem skipSpace_pretty {d : Document} (writable : d.Writable) (level : Nat) (rest : List Char) :
    skipSpace (pretty level d ++ rest) = pretty level d ++ rest := by
  obtain ⟨c, cs, text, opens⟩ := pretty_opens writable level
  rw [text]
  exact skipSpace_cons opens.1 (cs ++ rest)

def fieldText (level : Nat) (field : String × Document) : List Char :=
  printText field.1 ++ [':', ' '] ++ pretty level field.2

theorem skipSpace_fieldText (level : Nat) (field : String × Document) (rest : List Char) :
    skipSpace (fieldText level field ++ rest) = fieldText level field ++ rest :=
  skipSpace_cons rfl _

theorem fieldText_append (level : Nat) (name : String) (d : Document) (rest : List Char) :
    fieldText level (name, d) ++ rest =
      '"' :: (name.toList.flatMap escapedChar ++
        '"' :: (':' :: ' ' :: (pretty level d ++ rest))) := by
  simp [fieldText, printText]

/-! ### Parts of lists and objects, with what follows them -/

section Shape

variable (level : Nat) (rest : List Char)

theorem prettyItems_append (item : Document) (items : List Document) :
    prettyItems level (item :: items) ++ rest =
      ',' :: (newline level ++ (pretty level item ++ (prettyItems level items ++ rest))) := by
  simp only [prettyItems, List.cons_append, List.append_assoc]

theorem prettyFields_append (field : String × Document) (fields : List (String × Document)) :
    prettyFields level (field :: fields) ++ rest =
      ',' :: (newline level ++ (fieldText level field ++ (prettyFields level fields ++ rest))) := by
  simp only [prettyFields, fieldText, List.cons_append, List.append_assoc]

theorem pretty_list_append (item : Document) (items : List Document) :
    pretty level (.list (item :: items)) ++ rest =
      '[' :: (newline (level + 1) ++ (pretty (level + 1) item ++
        (prettyItems (level + 1) items ++ (newline level ++ ']' :: rest)))) := by
  simp only [pretty, List.cons_append, List.append_assoc, List.nil_append]

theorem pretty_object_append (field : String × Document) (fields : List (String × Document)) :
    pretty level (.object (field :: fields)) ++ rest =
      '\x7b' :: (newline (level + 1) ++ (fieldText (level + 1) field ++
        (prettyFields (level + 1) fields ++ (newline level ++ '\x7d' :: rest)))) := by
  simp only [pretty, fieldText, List.cons_append, List.append_assoc, List.nil_append]

end Shape

structure Reads (fuel : Nat) : Prop where
  value : ∀ {d : Document} {level : Nat} {rest : List Char}, d.Writable → EndsNumber rest →
    (pretty level d).length < fuel → readValue fuel (pretty level d ++ rest) = some (d, rest)
  items : ∀ {done : List Document} {item : Document} {items : List Document} {level outer : Nat}
    {rest : List Char}, (∀ i ∈ item :: items, Writable i) →
    (pretty level item ++ prettyItems level items).length + 1 < fuel →
    readItems fuel done
        (pretty level item ++ (prettyItems level items ++ (newline outer ++ ']' :: rest))) =
      some (.list (done.reverse ++ item :: items), rest)
  fields : ∀ {done : List (String × Document)} {field : String × Document}
    {fields : List (String × Document)} {level outer : Nat} {rest : List Char},
    (∀ f ∈ field :: fields, f.2.Writable) →
    ((done.reverse ++ field :: fields).map (·.1)).Nodup →
    (fieldText level field ++ prettyFields level fields).length + 1 < fuel →
    readFields fuel done
        (fieldText level field ++
          (prettyFields level fields ++ (newline outer ++ '\x7d' :: rest))) =
      some (.object (done.reverse ++ field :: fields), rest)

theorem any_eq_false_of_nodup {done fields : List (String × Document)} {name : String}
    {d : Document} (distinct : ((done.reverse ++ (name, d) :: fields).map (·.1)).Nodup) :
    done.any (·.1 == name) = false := by
  rw [List.any_eq_false]
  rintro earlier member same
  rw [List.map_append, List.nodup_append] at distinct
  exact distinct.2.2 earlier.1 (List.mem_map_of_mem (List.mem_reverse.mpr member)) name
    List.mem_cons_self (beq_iff_eq.mp same)

theorem readFields_field (fuel : Nat) (done : List (String × Document)) (name : String)
    (cs : List Char) :
    readFields (fuel + 1) done ('"' :: (name.toList.flatMap escapedChar ++ '"' :: ':' :: cs)) =
      match readValue fuel (skipSpace cs) with
      | none => none
      | some (value, rest) =>
        if done.any (·.1 == name) then none
        else
          match skipSpace rest with
          | ',' :: rest => readFields fuel ((name, value) :: done) (skipSpace rest)
          | '\x7d' :: rest => some (.object ((name, value) :: done).reverse, rest)
          | _ => none := by
  rw [readFields, readText_printText]
  dsimp only
  rw [skipSpace_cons rfl]
  rfl

section Step

variable {fuel : Nat} (reads : Reads fuel)
include reads

theorem readItems_succ {done : List Document} {item : Document} {items : List Document}
    {level outer : Nat} {rest : List Char} (writable : ∀ i ∈ item :: items, Writable i)
    (short : (pretty level item ++ prettyItems level items).length + 1 < fuel + 1) :
    readItems (fuel + 1) done
        (pretty level item ++ (prettyItems level items ++ (newline outer ++ ']' :: rest))) =
      some (.list (done.reverse ++ item :: items), rest) := by
  rw [List.length_append] at short
  have first (tail : List Char) (ends : EndsNumber tail) :
      readValue fuel (pretty level item ++ tail) = some (item, tail) :=
    reads.value (writable item List.mem_cons_self) ends (by omega)
  cases items with
  | nil =>
    rw [prettyItems, List.nil_append, readItems, first _ (endsNumber_newline _ _)]
    dsimp only
    rw [skipSpace_newline, skipSpace_cons rfl, List.reverse_cons]
    rfl
  | cons next more =>
    have others := fun i member => writable i (List.mem_cons_of_mem item member)
    have shorter : (pretty level next ++ prettyItems level more).length + 1 < fuel := by
      have := congrArg List.length (prettyItems_append level [] next more)
      simp only [List.length_append, List.length_cons, List.length_nil] at this short ⊢
      omega
    rw [readItems, prettyItems_append, first _ (endsNumber_cons rfl _)]
    dsimp only
    rw [skipSpace_cons rfl]
    change readItems fuel (item :: done) (skipSpace _) = _
    rw [skipSpace_newline, skipSpace_pretty (others next List.mem_cons_self),
      reads.items others shorter, List.reverse_cons, List.append_assoc, List.singleton_append]

theorem readFields_succ {done : List (String × Document)} {field : String × Document}
    {fields : List (String × Document)} {level outer : Nat} {rest : List Char}
    (writable : ∀ f ∈ field :: fields, f.2.Writable)
    (distinct : ((done.reverse ++ field :: fields).map (·.1)).Nodup)
    (short : (fieldText level field ++ prettyFields level fields).length + 1 < fuel + 1) :
    readFields (fuel + 1) done
        (fieldText level field ++
          (prettyFields level fields ++ (newline outer ++ '\x7d' :: rest))) =
      some (.object (done.reverse ++ field :: fields), rest) := by
  obtain ⟨name, d⟩ := field
  have d_writable : d.Writable := writable (name, d) List.mem_cons_self
  rw [List.length_append, fieldText] at short
  have value (tail : List Char) (ends : EndsNumber tail) :
      readValue fuel (skipSpace (' ' :: (pretty level d ++ tail))) = some (d, tail) := by
    have space : skipSpace (' ' :: (pretty level d ++ tail)) = pretty level d ++ tail :=
      skipSpace_pretty d_writable level tail
    rw [space]
    refine reads.value d_writable ends ?_
    simp only [List.length_append] at short
    omega
  have fresh := any_eq_false_of_nodup distinct
  rw [fieldText_append, readFields_field]
  cases fields with
  | nil =>
    rw [prettyFields, List.nil_append, value _ (endsNumber_newline _ _)]
    dsimp only
    rw [fresh, skipSpace_newline, skipSpace_cons rfl, List.reverse_cons]
    rfl
  | cons next more =>
    have others := fun f member => writable f (List.mem_cons_of_mem (name, d) member)
    have shorter : (fieldText level next ++ prettyFields level more).length + 1 < fuel := by
      have := congrArg List.length (prettyFields_append level [] next more)
      simp only [List.length_append, List.length_cons, List.length_nil] at this short ⊢
      omega
    have distinct : (((name, d) :: done).reverse ++ next :: more).map (·.1) |>.Nodup := by
      rwa [List.reverse_cons, List.append_assoc]
    rw [prettyFields_append, value _ (endsNumber_cons rfl _)]
    dsimp only
    rw [fresh, skipSpace_cons rfl]
    change readFields fuel ((name, d) :: done) (skipSpace _) = _
    rw [skipSpace_newline, skipSpace_fieldText, reads.fields others distinct shorter,
      List.reverse_cons, List.append_assoc, List.singleton_append]

end Step

theorem readValue_items {fuel : Nat} {cs rest : List Char} {c : Char} (opens : Opens c)
    (first : skipSpace cs = c :: rest) :
    readValue (fuel + 1) ('[' :: cs) = readItems fuel [] (c :: rest) := by
  rw [readValue, first]
  split
  · rename_i same
    exact absurd (List.cons.inj same).1 opens.2.1
  · rfl

theorem readValue_fields {fuel : Nat} {cs rest : List Char} {c : Char} (opens : Opens c)
    (first : skipSpace cs = c :: rest) :
    readValue (fuel + 1) ('\x7b' :: cs) = readFields fuel [] (c :: rest) := by
  rw [readValue, first]
  split
  · rename_i same
    exact absurd (List.cons.inj same).1 opens.2.2
  · rfl

section Step

variable {fuel : Nat} (reads : Reads fuel)
include reads

theorem readValue_list {item : Document} {items : List Document} {level : Nat} {rest : List Char}
    (writable : ∀ i ∈ item :: items, Writable i)
    (short : (pretty level (.list (item :: items))).length < fuel + 1) :
    readValue (fuel + 1) (pretty level (.list (item :: items)) ++ rest) =
      some (.list (item :: items), rest) := by
  obtain ⟨c, cs, text, opens⟩ := pretty_opens (writable item List.mem_cons_self) (level + 1)
  have shorter : (pretty (level + 1) item ++ prettyItems (level + 1) items).length + 1 < fuel := by
    have := congrArg List.length (pretty_list_append level [] item items)
    simp only [newline, List.length_append, List.length_cons, List.length_nil] at this short ⊢
    omega
  have read : readItems fuel [] (pretty (level + 1) item ++
      (prettyItems (level + 1) items ++ (newline level ++ ']' :: rest))) =
        some (.list (item :: items), rest) := reads.items writable shorter
  rw [text, List.cons_append] at read
  rw [pretty_list_append, readValue_items opens, read]
  rw [skipSpace_newline, skipSpace_pretty (writable item List.mem_cons_self), text,
    List.cons_append]

theorem readValue_object {field : String × Document} {fields : List (String × Document)}
    {level : Nat} {rest : List Char} (distinct : ((field :: fields).map (·.1)).Nodup)
    (writable : ∀ f ∈ field :: fields, f.2.Writable)
    (short : (pretty level (.object (field :: fields))).length < fuel + 1) :
    readValue (fuel + 1) (pretty level (.object (field :: fields)) ++ rest) =
      some (.object (field :: fields), rest) := by
  have quote : Opens '"' := by decide
  have shorter :
      (fieldText (level + 1) field ++ prettyFields (level + 1) fields).length + 1 < fuel := by
    have := congrArg List.length (pretty_object_append level [] field fields)
    simp only [newline, List.length_append, List.length_cons, List.length_nil] at this short ⊢
    omega
  obtain ⟨cs, text⟩ : ∃ cs, fieldText (level + 1) field = '"' :: cs := ⟨_, rfl⟩
  have read : readFields fuel [] (fieldText (level + 1) field ++
      (prettyFields (level + 1) fields ++ (newline level ++ '\x7d' :: rest))) =
        some (.object (field :: fields), rest) := reads.fields writable distinct shorter
  rw [text, List.cons_append] at read
  rw [pretty_object_append, readValue_fields quote, read]
  rw [skipSpace_newline, skipSpace_fieldText, text, List.cons_append]

theorem readValue_succ {d : Document} {level : Nat} {rest : List Char} (writable : d.Writable)
    (ends : EndsNumber rest) (short : (pretty level d).length < fuel + 1) :
    readValue (fuel + 1) (pretty level d ++ rest) = some (d, rest) := by
  cases writable with
  | null => exact readValue_null
  | bool b => exact readValue_bool b
  | int fits => exact readValue_number (isNumber_printInt fits) ends
  | float finite => exact readValue_number (isNumber_printFloat finite) ends
  | text s => exact readValue_text s
  | @list items each =>
    cases items with
    | nil => rfl
    | cons item items => exact readValue_list reads each short
  | @object fields distinct each =>
    cases fields with
    | nil => rfl
    | cons field fields => exact readValue_object reads distinct each short

end Step

theorem reads (fuel : Nat) : Reads fuel := by
  -- A value hands what is left of its fuel to its parts, and each part to the next one.
  induction fuel with
  | zero => exact ⟨fun _ _ short => absurd short (Nat.not_lt_zero _),
      fun _ short => absurd short (Nat.not_lt_zero _),
      fun _ _ short => absurd short (Nat.not_lt_zero _)⟩
  | succ fuel ih => exact ⟨readValue_succ ih, readItems_succ ih, readFields_succ ih⟩

theorem read?_prettyText {d : Document} (writable : d.Writable) : read? d.prettyText = some d := by
  have value : readValue ((pretty 0 d).length + 1) (pretty 0 d ++ []) = some (d, []) :=
    (reads _).value writable (by rintro _ ⟨⟩) (Nat.lt_succ_self _)
  rw [read?, prettyText, String.toList_ofList, ofChars?]
  have first := skipSpace_pretty writable 0 []
  rw [List.append_nil] at value first
  rw [first, value]
  rfl

end RelayMesh.Document
