import Mathlib.Data.List.TakeWhile
import RelayMesh.Proofs.Draft.QuotedText

namespace RelayMesh.Draft

def printText (s : String) : List Char :=
  '"' :: (spelling s ++ ['"'])

mutual

def print : Draft → List Char
  | .word s => s.toList
  | .text s => printText s
  | .list [] => ['[', ']']
  | .list (item :: items) => '[' :: (print item ++ printItems items ++ [']'])
  | .object [] => ['\x7b', '\x7d']
  | .object (field :: fields) =>
    '\x7b' :: (printText field.1 ++ ':' :: (print field.2 ++ printFields fields ++ ['\x7d']))

def printItems : List Draft → List Char
  | [] => []
  | item :: items => ',' :: (print item ++ printItems items)

def printFields : List (String × Draft) → List Char
  | [] => []
  | field :: fields =>
    ',' :: (printText field.1 ++ ':' :: (print field.2 ++ printFields fields))

end

def fileText (d : Draft) : String :=
  String.ofList (print d)

/-- Whether the colon behind a name is not too far from its opening quote. -/
def IsNear (name : String) : Prop :=
  Text.Utf8.byteCount (spelling name) + 2 ≤ maxNameRoom

instance (name : String) : Decidable (IsNear name) :=
  inferInstanceAs (Decidable (_ ≤ _))

/-- The drafts that have a text: their words are words of files and the names of their fields are
short, at any depth. -/
inductive Proper : Draft → Prop
  | word {s : String} (word : isWord s.toList = true)
      (inside : ∀ c ∈ s.toList, isWordChar c = true) : Proper (.word s)
  | text (s : String) : Proper (.text s)
  | list {items : List Draft} (each : ∀ item ∈ items, Proper item) : Proper (.list items)
  | object {fields : List (String × Draft)} (near : ∀ field ∈ fields, IsNear field.1)
      (each : ∀ field ∈ fields, Proper field.2) : Proper (.object fields)

/-! ### Where values begin -/

theorem skipGap_cons {c : Char} (solid : isGap c = false) (rest : List Char) :
    skipGap (c :: rest) = c :: rest :=
  List.dropWhile_cons_of_neg (by rw [solid]; decide)

/-- A character that is no gap, no end of a list or an object, and no byte order mark. -/
def Opens (c : Char) : Prop :=
  isGap c = false ∧ c ≠ ']' ∧ c ≠ '\x7d' ∧ c ≠ '\ufeff'

instance (c : Char) : Decidable (Opens c) :=
  inferInstanceAs (Decidable (_ ∧ _))

theorem ne_of_isWordChar {c d : Char} (word : isWordChar c = true) (other : isWordChar d = false) :
    c ≠ d := by
  rintro rfl
  rw [word] at other
  contradiction

theorem opens_of_isWordChar {c : Char} (word : isWordChar c = true) : Opens c := by
  have other {d : Char} (not_word : isWordChar d = false) : c ≠ d := ne_of_isWordChar word not_word
  refine ⟨?_, other rfl, other rfl, other rfl⟩
  simp [isGap, isBlank, isBreak, isSeparator, other (d := ' ') rfl, other (d := '\t') rfl,
    other (d := '\n') rfl, other (d := '\r') rfl, other (d := '\x85') rfl,
    other (d := '\u2028') rfl, other (d := '\u2029') rfl]

theorem exists_cons_of_isWord {word : List Char} (valid : isWord word = true) :
    ∃ c cs, word = c :: cs := by
  cases word with
  | nil => contradiction
  | cons c cs => exact ⟨c, cs, rfl⟩

theorem print_opens {d : Draft} (proper : d.Proper) : ∃ c cs, print d = c :: cs ∧ Opens c := by
  cases proper with
  | word valid inside =>
    obtain ⟨c, cs, text⟩ := exists_cons_of_isWord valid
    rw [text] at inside
    exact ⟨c, cs, text, opens_of_isWordChar (inside c List.mem_cons_self)⟩
  | text s => exact ⟨'"', _, rfl, by decide⟩
  | @list items each => cases items <;> exact ⟨'[', _, rfl, by decide⟩
  | @object fields near each => cases fields <;> exact ⟨'\x7b', _, rfl, by decide⟩

theorem skipGap_print {d : Draft} (proper : d.Proper) (rest : List Char) :
    skipGap (print d ++ rest) = print d ++ rest := by
  obtain ⟨c, cs, text, opens⟩ := print_opens proper
  rw [text]
  exact skipGap_cons opens.1 (cs ++ rest)

/-! ### One value -/

def EndsWord (rest : List Char) : Prop :=
  ∀ c ∈ rest.head?, isWordChar c = false

theorem endsWord_cons {c : Char} (other : isWordChar c = false) (rest : List Char) :
    EndsWord (c :: rest) := by
  rintro _ ⟨⟩
  exact other

section Value

variable {fuel : Nat} {rest : List Char}

theorem readDraft_word {s : String} (valid : isWord s.toList = true)
    (inside : ∀ c ∈ s.toList, isWordChar c = true) (ends : EndsWord rest) :
    readDraft (fuel + 1) (s.toList ++ rest) = some (.word s, rest) := by
  have word := Text.takeWhile_run inside ends
  have after := Text.dropWhile_run inside ends
  have read : readWord (s.toList ++ rest) = some (.word s, rest) := by
    rw [readWord, word, after, if_pos valid, String.ofList_toList]
  obtain ⟨c, cs, text⟩ := exists_cons_of_isWord valid
  have first : isWordChar c = true := inside c (by rw [text]; exact List.mem_cons_self)
  rw [text, List.cons_append] at read ⊢
  rw [readDraft]
  · exact read
  all_goals
    rintro _ ⟨⟩
    exact absurd first (by decide)

theorem printText_append (s : String) :
    printText s ++ rest = '"' :: (spelling s ++ '"' :: rest) := by
  rw [printText, List.cons_append, List.append_assoc, List.singleton_append]

theorem readDraft_text (s : String) :
    readDraft (fuel + 1) (printText s ++ rest) = some (.text s, rest) := by
  rw [printText_append, readDraft, splitQuoted_spelling]
  simp only [Option.bind_eq_bind, Option.bind_some, decode?_spelling]

theorem readName_spelling {name : String} (near : IsNear name) :
    readName (spelling name ++ '"' :: ':' :: rest) = some (name, rest) := by
  have line : (spelling name).all (!isBreak ·) = true := by
    rw [List.all_eq_true]
    intro c member
    rw [(allowed_spelling name c member).2]
    rfl
  rw [readName, splitQuoted_spelling]
  simp only [Option.bind_eq_bind, Option.bind_some, decode?_spelling]
  exact if_pos ⟨near, line⟩

end Value

/-! ### Parts of lists and objects, with what follows them -/

def fieldText (field : String × Draft) : List Char :=
  printText field.1 ++ ':' :: print field.2

section Shape

variable (rest : List Char)

theorem fieldText_append (name : String) (d : Draft) :
    fieldText (name, d) ++ rest =
      '"' :: (spelling name ++ '"' :: ':' :: (print d ++ rest)) := by
  rw [fieldText, List.append_assoc, printText_append, List.cons_append]

theorem skipGap_fieldText (field : String × Draft) :
    skipGap (fieldText field ++ rest) = fieldText field ++ rest :=
  skipGap_cons rfl _

theorem printItems_append (item : Draft) (items : List Draft) :
    printItems (item :: items) ++ rest = ',' :: (print item ++ (printItems items ++ rest)) := by
  rw [printItems, List.cons_append, List.append_assoc]

theorem printFields_append (field : String × Draft) (fields : List (String × Draft)) :
    printFields (field :: fields) ++ rest =
      ',' :: (fieldText field ++ (printFields fields ++ rest)) := by
  simp only [printFields, fieldText, List.cons_append, List.append_assoc]

theorem print_list_append (item : Draft) (items : List Draft) :
    print (.list (item :: items)) ++ rest =
      '[' :: (print item ++ (printItems items ++ ']' :: rest)) := by
  simp only [print, List.cons_append, List.append_assoc, List.nil_append]

theorem print_object_append (field : String × Draft) (fields : List (String × Draft)) :
    print (.object (field :: fields)) ++ rest =
      '\x7b' :: (fieldText field ++ (printFields fields ++ '\x7d' :: rest)) := by
  simp only [print, fieldText, List.cons_append, List.append_assoc, List.nil_append]

end Shape

/-! ### Lists and objects -/

structure Reads (fuel : Nat) : Prop where
  draft : ∀ {d : Draft} {rest : List Char}, d.Proper → EndsWord rest → (print d).length < fuel →
    readDraft fuel (print d ++ rest) = some (d, rest)
  items : ∀ {done : List Draft} {item : Draft} {items : List Draft} {rest : List Char},
    (∀ i ∈ item :: items, Proper i) → (print item ++ printItems items).length + 1 < fuel →
    readItems fuel done (print item ++ (printItems items ++ ']' :: rest)) =
      some (.list (done.reverse ++ item :: items), rest)
  fields : ∀ {done : List (String × Draft)} {field : String × Draft}
    {fields : List (String × Draft)} {rest : List Char},
    (∀ f ∈ field :: fields, IsNear f.1) → (∀ f ∈ field :: fields, f.2.Proper) →
    (fieldText field ++ printFields fields).length + 1 < fuel →
    readFields fuel done (fieldText field ++ (printFields fields ++ '\x7d' :: rest)) =
      some (.object (done.reverse ++ field :: fields), rest)

section Field

variable {fuel : Nat} {done : List (String × Draft)} {name : String} {d : Draft}
  {cs rest : List Char} (near : IsNear name)
include near

theorem readFields_last (value : readDraft fuel (skipGap cs) = some (d, '\x7d' :: rest)) :
    readFields (fuel + 1) done ('"' :: (spelling name ++ '"' :: ':' :: cs)) =
      some (.object ((name, d) :: done).reverse, rest) := by
  rw [readFields, readName_spelling near]
  dsimp only
  rw [value]
  dsimp only
  rw [skipGap_cons rfl]
  rfl

theorem readFields_next (value : readDraft fuel (skipGap cs) = some (d, ',' :: rest)) :
    readFields (fuel + 1) done ('"' :: (spelling name ++ '"' :: ':' :: cs)) =
      readFields fuel ((name, d) :: done) (skipGap rest) := by
  rw [readFields, readName_spelling near]
  dsimp only
  rw [value]
  dsimp only
  rw [skipGap_cons rfl]
  rfl

end Field

theorem readDraft_items {fuel : Nat} {cs : List Char} {c : Char} (opens : Opens c) :
    readDraft (fuel + 1) ('[' :: c :: cs) = readItems fuel [] (c :: cs) := by
  rw [readDraft, skipGap_cons opens.1]
  split
  · rename_i same
    exact absurd (List.cons.inj same).1 opens.2.1
  · rfl

theorem readDraft_fields {fuel : Nat} {cs : List Char} {c : Char} (opens : Opens c) :
    readDraft (fuel + 1) ('\x7b' :: c :: cs) = readFields fuel [] (c :: cs) := by
  rw [readDraft, skipGap_cons opens.1]
  split
  · rename_i same
    exact absurd (List.cons.inj same).1 opens.2.2.1
  · rfl

section Step

variable {fuel : Nat} (reads : Reads fuel)
include reads

theorem readItems_succ {done : List Draft} {item : Draft} {items : List Draft} {rest : List Char}
    (proper : ∀ i ∈ item :: items, Proper i)
    (short : (print item ++ printItems items).length + 1 < fuel + 1) :
    readItems (fuel + 1) done (print item ++ (printItems items ++ ']' :: rest)) =
      some (.list (done.reverse ++ item :: items), rest) := by
  rw [List.length_append] at short
  have first (tail : List Char) (ends : EndsWord tail) :
      readDraft fuel (print item ++ tail) = some (item, tail) :=
    reads.draft (proper item List.mem_cons_self) ends (by omega)
  cases items with
  | nil =>
    rw [printItems, List.nil_append, readItems, first _ (endsWord_cons rfl _)]
    dsimp only
    rw [skipGap_cons rfl, List.reverse_cons]
    rfl
  | cons next more =>
    have others := fun i member => proper i (List.mem_cons_of_mem item member)
    have shorter : (print next ++ printItems more).length + 1 < fuel := by
      have := congrArg List.length (printItems_append [] next more)
      simp only [List.length_append, List.length_cons, List.length_nil] at this short ⊢
      omega
    rw [readItems, printItems_append, first _ (endsWord_cons rfl _)]
    dsimp only
    rw [skipGap_cons rfl]
    change readItems fuel (item :: done) (skipGap _) = _
    rw [skipGap_print (others next List.mem_cons_self), reads.items others shorter,
      List.reverse_cons, List.append_assoc, List.singleton_append]

theorem readFields_succ {done : List (String × Draft)} {field : String × Draft}
    {fields : List (String × Draft)} {rest : List Char}
    (near : ∀ f ∈ field :: fields, IsNear f.1) (proper : ∀ f ∈ field :: fields, f.2.Proper)
    (short : (fieldText field ++ printFields fields).length + 1 < fuel + 1) :
    readFields (fuel + 1) done (fieldText field ++ (printFields fields ++ '\x7d' :: rest)) =
      some (.object (done.reverse ++ field :: fields), rest) := by
  obtain ⟨name, d⟩ := field
  have d_proper : d.Proper := proper (name, d) List.mem_cons_self
  have name_near : IsNear name := near (name, d) List.mem_cons_self
  rw [List.length_append, fieldText] at short
  have value (tail : List Char) (ends : EndsWord tail) :
      readDraft fuel (skipGap (print d ++ tail)) = some (d, tail) := by
    rw [skipGap_print d_proper]
    refine reads.draft d_proper ends ?_
    simp only [List.length_append, List.length_cons] at short
    omega
  rw [fieldText_append]
  cases fields with
  | nil =>
    rw [printFields, List.nil_append, readFields_last name_near (value _ (endsWord_cons rfl _)),
      List.reverse_cons]
  | cons next more =>
    have others := fun f member => proper f (List.mem_cons_of_mem (name, d) member)
    have others_near := fun f member => near f (List.mem_cons_of_mem (name, d) member)
    have shorter : (fieldText next ++ printFields more).length + 1 < fuel := by
      have := congrArg List.length (printFields_append [] next more)
      simp only [List.length_append, List.length_cons, List.length_nil] at this short ⊢
      omega
    rw [printFields_append, readFields_next name_near (value _ (endsWord_cons rfl _)),
      skipGap_fieldText, reads.fields others_near others shorter, List.reverse_cons,
      List.append_assoc, List.singleton_append]

theorem readDraft_list {item : Draft} {items : List Draft} {rest : List Char}
    (proper : ∀ i ∈ item :: items, Proper i)
    (short : (print (.list (item :: items))).length < fuel + 1) :
    readDraft (fuel + 1) (print (.list (item :: items)) ++ rest) =
      some (.list (item :: items), rest) := by
  have shorter : (print item ++ printItems items).length + 1 < fuel := by
    have := congrArg List.length (print_list_append [] item items)
    simp only [List.length_append, List.length_cons, List.length_nil] at this short ⊢
    omega
  have read : readItems fuel [] (print item ++ (printItems items ++ ']' :: rest)) =
      some (.list (item :: items), rest) := reads.items proper shorter
  obtain ⟨c, cs, text, opens⟩ := print_opens (proper item List.mem_cons_self)
  rw [text, List.cons_append] at read
  rw [print_list_append, text, List.cons_append, readDraft_items opens, read]

theorem readDraft_object {field : String × Draft} {fields : List (String × Draft)}
    {rest : List Char} (near : ∀ f ∈ field :: fields, IsNear f.1)
    (proper : ∀ f ∈ field :: fields, f.2.Proper)
    (short : (print (.object (field :: fields))).length < fuel + 1) :
    readDraft (fuel + 1) (print (.object (field :: fields)) ++ rest) =
      some (.object (field :: fields), rest) := by
  have shorter : (fieldText field ++ printFields fields).length + 1 < fuel := by
    have := congrArg List.length (print_object_append [] field fields)
    simp only [List.length_append, List.length_cons, List.length_nil] at this short ⊢
    omega
  have read : readFields fuel [] (fieldText field ++ (printFields fields ++ '\x7d' :: rest)) =
      some (.object (field :: fields), rest) := reads.fields near proper shorter
  obtain ⟨cs, text⟩ : ∃ cs, fieldText field = '"' :: cs := ⟨_, rfl⟩
  rw [text, List.cons_append] at read
  rw [print_object_append, text, List.cons_append, readDraft_fields (by decide), read]

theorem readDraft_succ {d : Draft} {rest : List Char} (proper : d.Proper) (ends : EndsWord rest)
    (short : (print d).length < fuel + 1) :
    readDraft (fuel + 1) (print d ++ rest) = some (d, rest) := by
  cases proper with
  | word valid inside => exact readDraft_word valid inside ends
  | text s => exact readDraft_text s
  | @list items each =>
    cases items with
    | nil => rfl
    | cons item items => exact readDraft_list reads each short
  | @object fields near each =>
    cases fields with
    | nil => rfl
    | cons field fields => exact readDraft_object reads near each short

end Step

theorem reads (fuel : Nat) : Reads fuel := by
  induction fuel with
  | zero => exact ⟨fun _ _ short => absurd short (Nat.not_lt_zero _),
      fun _ short => absurd short (Nat.not_lt_zero _),
      fun _ _ short => absurd short (Nat.not_lt_zero _)⟩
  | succ fuel ih => exact ⟨readDraft_succ ih, readItems_succ ih, readFields_succ ih⟩

/-! ### Whole files -/

theorem isMargin_of_opens {c : Char} (opens : Opens c) : isMargin c = false := by
  have solid := opens.1
  simp only [isGap, isBlank, Bool.or_eq_false_iff] at solid
  rw [isMargin, solid.1.1, solid.2]
  rfl

theorem ofChars?_print {d : Draft} (proper : d.Proper) : ofChars? (print d) = some d := by
  have value : readDraft ((print d).length + 1) (print d ++ []) = some (d, []) :=
    (reads _).draft proper (by rintro _ ⟨⟩) (Nat.lt_succ_self _)
  obtain ⟨c, cs, text, opens⟩ := print_opens proper
  have first : (print d).dropWhile isMargin = print d := by
    rw [text]
    exact List.dropWhile_cons_of_neg (by rw [isMargin_of_opens opens]; decide)
  have ends : d.isEnd [] = true := by
    cases d <;> rfl
  rw [List.append_nil] at value
  rw [ofChars?, first, value]
  exact if_pos ends

theorem isPermitted_of_isWordChar {c : Char} (word : isWordChar c = true) :
    isPermitted c = true := by
  have printable : 0x20 ≤ c.toNat ∧ c.toNat < 0x7F := by
    simp only [isWordChar, Bool.or_eq_true, beq_iff_eq] at word
    rcases word with ((alphanumeric | rfl) | rfl) | rfl
    · delta Char.isAlphanum Char.isAlpha Char.isUpper Char.isLower Char.isDigit at alphanumeric
      simp only [Bool.or_eq_true, Bool.and_eq_true, decide_eq_true_eq, ge_iff_le,
        UInt32.le_iff_toNat_le] at alphanumeric
      change ((65 ≤ c.toNat ∧ c.toNat ≤ 90) ∨ (97 ≤ c.toNat ∧ c.toNat ≤ 122)) ∨
        (48 ≤ c.toNat ∧ c.toNat ≤ 57) at alphanumeric
      omega
    all_goals decide
  rw [isPermitted, decide_eq_true printable.1, decide_eq_true printable.2, Bool.and_self,
    Bool.or_true, Bool.true_or]

theorem permitted_printText (s : String) : ∀ c ∈ printText s, isPermitted c = true := by
  rw [printText, List.forall_mem_cons, List.forall_mem_append, List.forall_mem_singleton]
  exact ⟨rfl, fun c member => (allowed_spelling s c member).1, rfl⟩

theorem permitted_printItems {items : List Draft}
    (each : ∀ item ∈ items, ∀ c ∈ print item, isPermitted c = true) :
    ∀ c ∈ printItems items, isPermitted c = true := by
  induction items with
  | nil => exact List.forall_mem_nil _
  | cons item items ih =>
    rw [List.forall_mem_cons] at each
    rw [printItems, List.forall_mem_cons, List.forall_mem_append]
    exact ⟨rfl, each.1, ih each.2⟩

theorem permitted_printFields {fields : List (String × Draft)}
    (each : ∀ field ∈ fields, ∀ c ∈ print field.2, isPermitted c = true) :
    ∀ c ∈ printFields fields, isPermitted c = true := by
  induction fields with
  | nil => exact List.forall_mem_nil _
  | cons field fields ih =>
    rw [List.forall_mem_cons] at each
    rw [printFields, List.forall_mem_cons, List.forall_mem_append, List.forall_mem_cons,
      List.forall_mem_append]
    exact ⟨rfl, permitted_printText field.1, rfl, each.1, ih each.2⟩

theorem permitted_print {d : Draft} (proper : d.Proper) : ∀ c ∈ print d, isPermitted c = true := by
  induction proper with
  | word valid inside => exact fun c member => isPermitted_of_isWordChar (inside c member)
  | text s => exact permitted_printText s
  | @list items each ih =>
    cases items with
    | nil => exact List.all_eq_true.mp rfl
    | cons item items =>
      rw [List.forall_mem_cons] at ih
      rw [print, List.forall_mem_cons, List.forall_mem_append, List.forall_mem_append,
        List.forall_mem_singleton]
      exact ⟨rfl, ⟨ih.1, permitted_printItems ih.2⟩, rfl⟩
  | @object fields near each ih =>
    cases fields with
    | nil => exact List.all_eq_true.mp rfl
    | cons field fields =>
      rw [List.forall_mem_cons] at ih
      rw [print, List.forall_mem_cons, List.forall_mem_append, List.forall_mem_cons,
        List.forall_mem_append, List.forall_mem_append, List.forall_mem_singleton]
      exact ⟨rfl, permitted_printText field.1, rfl, ⟨ih.1, permitted_printFields ih.2⟩, rfl⟩

theorem fileChars_fileText {d : Draft} (proper : d.Proper) : fileChars d.fileText = print d := by
  obtain ⟨c, cs, text, opens⟩ := print_opens proper
  rw [fileChars, fileText, String.toList_ofList, text]
  split
  · rename_i same
    exact absurd (List.cons.inj same).1 opens.2.2.2
  · rename_i same
    exact absurd (List.cons.inj same).1 opens.2.2.2
  · rfl

theorem ofFile?_fileText {d : Draft} (proper : d.Proper) : ofFile? d.fileText = some d := by
  rw [ofFile?, fileChars_fileText proper]
  exact (if_pos (List.all_eq_true.mpr (permitted_print proper))).trans (ofChars?_print proper)

theorem readDraft_nil (fuel : Nat) : readDraft fuel [] = none := by
  cases fuel <;> rfl

theorem isBlankFile_of_ofFile? {text : String} {d : Draft} (read : ofFile? text = some d) :
    isBlankFile text = false := by
  by_contra blank
  have margin : (fileChars text).dropWhile isMargin = [] :=
    List.dropWhile_eq_nil_iff.mpr (List.all_eq_true.mp (Bool.of_not_eq_false blank))
  rw [ofFile?, ofChars?, margin, readDraft_nil] at read
  simp at read

end RelayMesh.Draft
