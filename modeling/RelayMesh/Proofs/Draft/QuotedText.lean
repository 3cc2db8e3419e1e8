import RelayMesh.Draft.Reader
import RelayMesh.Proofs.Document.Text
import RelayMesh.Proofs.Text.Natural

namespace RelayMesh.Draft

/-- Whether a character may be written as in a document, where control characters are escaped. -/
def isKept (c : Char) : Bool :=
  c.toNat < 0x20 || isPermitted c && !isBreak c

def codeDigits (n : Nat) : List Char :=
  [Nat.digitChar (n / 0x1000), Nat.digitChar (n / 0x100 % 0x10), Nat.digitChar (n / 0x10 % 0x10),
    Nat.digitChar (n % 0x10)]

def escapedChar (c : Char) : List Char :=
  if isKept c then Document.escapedChar c else '\\' :: 'u' :: codeDigits c.toNat

def spelling (s : String) : List Char :=
  s.toList.flatMap escapedChar

/-! ### Plain characters -/

/-- A character that stands for itself between quotes, where a gap of spaces is kept. -/
def isPlain (c : Char) : Bool :=
  isPermitted c && !isBreak c && c != '\t' && c != '"' && c != '\\'

section Plain

variable {c : Char}

theorem isPlain_iff :
    isPlain c = true ↔
      isPermitted c = true ∧ isBreak c = false ∧ c ≠ '\t' ∧ c ≠ '"' ∧ c ≠ '\\' := by
  simp [isPlain, and_assoc]

theorem isGap_of_isPlain (plain : isPlain c = true) (solid : c ≠ ' ') : isGap c = false := by
  obtain ⟨_, line, no_tab, _⟩ := isPlain_iff.mp plain
  rw [isGap, isBlank, beq_eq_false_iff_ne.mpr solid, beq_eq_false_iff_ne.mpr no_tab, line]
  rfl

theorem isPlain_digitChar {n : Nat} (digit : n < 0x10) : isPlain (Nat.digitChar n) = true := by
  have all : ∀ n < 0x10, isPlain (Nat.digitChar n) = true := by decide
  exact all n digit

end Plain

/-! ### Spellings of characters -/

/-- How a character is spelled: by itself, or by a letter or four digits behind a backslash. -/
inductive Spells : List Char → Char → Prop
  | plain {c : Char} (plain : isPlain c = true) : Spells [c] c
  | letter {e c : Char} (letter : escaped? e = some c) (no_code : codeLength? e = none)
      (permitted : isPermitted e = true) (line : isBreak e = false) : Spells ['\\', e] c
  | code {digits : List Char} {c : Char} (four : digits.length = 4)
      (value : Text.hexadecimal? digits = some c.toNat)
      (plain : ∀ d ∈ digits, isPlain d = true) : Spells ('\\' :: 'u' :: digits) c

theorem hexDigit?_digitChar {n : Nat} (digit : n < 0x10) :
    Text.hexDigit? (Nat.digitChar n) = some n := by
  have all : ∀ n < 0x10, Text.hexDigit? (Nat.digitChar n) = some n := by decide
  exact all n digit

theorem hexadecimal?_codeDigits {n : Nat} (short : n < 0x10000) :
    Text.hexadecimal? (codeDigits n) = some n := by
  have first : n / 0x1000 < 0x10 := by omega
  have digit (n : Nat) : n % 0x10 < 0x10 := Nat.mod_lt n (by decide)
  simp only [Text.hexadecimal?, codeDigits, List.foldlM_cons, List.foldlM_nil,
    hexDigit?_digitChar first, hexDigit?_digitChar (digit _), Option.map_some, Option.bind_eq_bind,
    Option.bind_some]
  exact congrArg some (by omega)

theorem spells_codeDigits {c : Char} (short : c.toNat < 0x10000) :
    Spells ('\\' :: 'u' :: codeDigits c.toNat) c := by
  refine .code rfl (hexadecimal?_codeDigits short) ?_
  simp only [codeDigits, List.forall_mem_cons, List.not_mem_nil, false_implies, implies_true,
    and_true]
  exact ⟨isPlain_digitChar (by omega), isPlain_digitChar (Nat.mod_lt _ (by decide)),
    isPlain_digitChar (Nat.mod_lt _ (by decide)), isPlain_digitChar (Nat.mod_lt _ (by decide))⟩

theorem spells_control {c : Char} (control : c.toNat < 0x20) :
    Spells ['\\', 'u', '0', '0', Nat.digitChar (c.toNat / 16), Nat.digitChar (c.toNat % 16)] c := by
  refine .code rfl (Document.codeUnit?_control control) ?_
  simp only [List.forall_mem_cons, List.not_mem_nil, false_implies, implies_true, and_true]
  exact ⟨rfl, rfl, isPlain_digitChar (by omega), isPlain_digitChar (Nat.mod_lt _ (by decide))⟩

theorem isPlain_of_isKept {c : Char} (kept : isKept c = true) (printable : ¬ c.toNat < 0x20)
    (quote : c ≠ '"') (backslash : c ≠ '\\') : isPlain c = true := by
  rw [isKept, decide_eq_false printable, Bool.false_or, Bool.and_eq_true, Bool.not_eq_true'] at kept
  refine isPlain_iff.mpr ⟨kept.1, kept.2, ?_, quote, backslash⟩
  rintro rfl
  exact printable (by decide)

theorem toNat_lt_of_not_isKept {c : Char} (lost : ¬ isKept c = true) : c.toNat < 0x10000 := by
  by_contra large
  have other {d : Char} (small : d.toNat < 0x10000) : c ≠ d := by
    rintro rfl
    exact large small
  have line : isBreak c = false := by
    simp [isBreak, isSeparator, other (d := '\n') (by decide), other (d := '\r') (by decide),
      other (d := '\x85') (by decide), other (d := '\u2028') (by decide),
      other (d := '\u2029') (by decide)]
  have permitted : isPermitted c = true := by
    simp only [isPermitted, Bool.or_eq_true, Bool.and_eq_true, decide_eq_true_eq]
    omega
  rw [isKept, permitted, line, Bool.not_false, Bool.and_self, Bool.or_true] at lost
  exact lost rfl

theorem spells_escapedChar (c : Char) : Spells (escapedChar c) c := by
  unfold escapedChar Document.escapedChar
  split_ifs with kept quote backslash backspace feed line back tab control
  · subst quote; exact .letter rfl rfl rfl rfl
  · subst backslash; exact .letter rfl rfl rfl rfl
  · subst backspace; exact .letter rfl rfl rfl rfl
  · subst feed; exact .letter rfl rfl rfl rfl
  · subst line; exact .letter rfl rfl rfl rfl
  · subst back; exact .letter rfl rfl rfl rfl
  · subst tab; exact .letter rfl rfl rfl rfl
  · exact spells_control control
  · exact .plain (isPlain_of_isKept kept control quote backslash)
  · exact spells_codeDigits (toNat_lt_of_not_isKept kept)

theorem Spells.allowed {text : List Char} {c : Char} (spells : Spells text c) :
    ∀ d ∈ text, isPermitted d = true ∧ isBreak d = false := by
  have of_plain {d : Char} (plain : isPlain d = true) : isPermitted d = true ∧ isBreak d = false :=
    ⟨(isPlain_iff.mp plain).1, (isPlain_iff.mp plain).2.1⟩
  cases spells with
  | plain plain => exact List.forall_mem_singleton.mpr (of_plain plain)
  | letter letter no_code permitted line =>
    rw [List.forall_mem_cons, List.forall_mem_singleton]
    exact ⟨⟨rfl, rfl⟩, permitted, line⟩
  | code four value plain =>
    rw [List.forall_mem_cons, List.forall_mem_cons]
    exact ⟨⟨rfl, rfl⟩, ⟨rfl, rfl⟩, fun d member => of_plain (plain d member)⟩

theorem Spells.length_pos {text : List Char} {c : Char} (spells : Spells text c) :
    0 < text.length := by
  cases spells <;> exact Nat.succ_pos _

theorem Spells.begins {text : List Char} {c : Char} (spells : Spells text c) (solid : c ≠ ' ') :
    ∃ first more, text = first :: more ∧ isGap first = false := by
  cases spells with
  | plain plain => exact ⟨c, [], rfl, isGap_of_isPlain plain solid⟩
  | letter => exact ⟨_, _, rfl, rfl⟩
  | code => exact ⟨_, _, rfl, rfl⟩

theorem allowed_spelling (s : String) :
    ∀ d ∈ spelling s, isPermitted d = true ∧ isBreak d = false := by
  intro d member
  obtain ⟨c, _, member⟩ := List.mem_flatMap.mp member
  exact (spells_escapedChar c).allowed d member

/-! ### The closing quote -/

theorem splitQuoted_plain {c : Char} (plain : isPlain c = true) (done rest : List Char) :
    splitQuoted done (c :: rest) = splitQuoted (c :: done) rest := by
  obtain ⟨_, _, _, quote, backslash⟩ := isPlain_iff.mp plain
  rw [splitQuoted]
  · exact quote
  · exact fun _ _ same _ => backslash same

theorem splitQuoted_run {run : List Char} (plain : ∀ c ∈ run, isPlain c = true)
    (done rest : List Char) :
    splitQuoted done (run ++ rest) = splitQuoted (run.reverse ++ done) rest := by
  induction run generalizing done with
  | nil => rfl
  | cons c run ih =>
    rw [List.forall_mem_cons] at plain
    rw [List.cons_append, splitQuoted_plain plain.1, ih plain.2, List.reverse_cons,
      List.append_assoc, List.singleton_append]

theorem Spells.splitQuoted {text : List Char} {c : Char} (spells : Spells text c)
    (done rest : List Char) :
    splitQuoted done (text ++ rest) = splitQuoted (text.reverse ++ done) rest := by
  cases spells with
  | plain plain => exact splitQuoted_plain plain done rest
  | letter => rfl
  | code four value plain =>
    rw [List.cons_append, List.cons_append, Draft.splitQuoted, splitQuoted_run plain,
      List.reverse_cons, List.reverse_cons, List.append_assoc, List.append_assoc]
    rfl

theorem splitQuoted_spelling (s : String) (rest : List Char) :
    splitQuoted [] (spelling s ++ '"' :: rest) = some (spelling s, rest) := by
  have from_done (cs done : List Char) :
      splitQuoted done (cs.flatMap escapedChar ++ '"' :: rest) =
        some (done.reverse ++ cs.flatMap escapedChar, rest) := by
    induction cs generalizing done with
    | nil =>
      rw [List.flatMap_nil, List.append_nil]
      rfl
    | cons c cs ih =>
      rw [List.flatMap_cons, List.append_assoc, (spells_escapedChar c).splitQuoted, ih,
        List.reverse_append, List.reverse_reverse, List.append_assoc]
  exact from_done s.toList []

/-! ### Characters read back -/

theorem coded?_append {digits : List Char} {c : Char} (four : digits.length = 4)
    (value : Text.hexadecimal? digits = some c.toNat) (rest : List Char) :
    coded? 4 (digits ++ rest) = some c := by
  have enough : 4 ≤ (digits ++ rest).length := by
    rw [List.length_append]
    omega
  have taken : (digits ++ rest).take 4 = digits := List.take_left' four
  rw [coded?, if_pos enough, taken, value]
  exact (if_pos c.valid).trans (congrArg some (Char.ofNat_toNat c))

theorem decodeFrom_nil (fuel : Nat) (done : List Char) :
    decodeFrom fuel done [] = some done.reverse := by
  cases fuel <;> rfl

section Step

variable {c : Char} (fuel : Nat) (done rest : List Char)

theorem Spells.decodeFrom {text : List Char} (spells : Spells text c) (solid : c ≠ ' ') :
    decodeFrom (fuel + 1) done (text ++ rest) = decodeFrom fuel (c :: done) rest := by
  cases spells with
  | plain plain =>
    rw [List.singleton_append, Draft.decodeFrom]
    · rw [isGap_of_isPlain plain solid, if_neg Bool.false_ne_true]
    · exact (isPlain_iff.mp plain).2.2.2.2
  | letter letter no_code permitted line =>
    rw [List.cons_append, List.cons_append, List.nil_append, Draft.decodeFrom]
    simp only [line, no_code, letter, Bool.false_eq_true, if_false]
  | @code digits _ four value plain =>
    have line : isBreak 'u' = false := rfl
    have length : codeLength? 'u' = some 4 := rfl
    have after : (digits ++ rest).drop 4 = rest := List.drop_left' four
    rw [List.cons_append, List.cons_append, Draft.decodeFrom]
    simp only [line, length, coded?_append four value, after, Bool.false_eq_true, if_false]

theorem breaks_spaces (n : Nat) : breaks (List.replicate n ' ') = [] := by
  induction n with
  | zero => rfl
  | succ n ih => exact ih

theorem decodeFrom_spaces (n : Nat) (ends : ∀ c ∈ rest.head?, isGap c = false) :
    decodeFrom (fuel + 1) done (List.replicate (n + 1) ' ' ++ rest) =
      decodeFrom fuel ((List.replicate (n + 1) ' ').reverse ++ done) rest := by
  have inside : ∀ c ∈ List.replicate (n + 1) ' ', isGap c = true := by
    intro c member
    rw [(List.mem_replicate.mp member).2]
    rfl
  have gap := Text.takeWhile_run inside ends
  have after := Text.dropWhile_run inside ends
  have last : marksDocument (List.replicate (n + 1) ' ') rest = false := by
    rw [marksDocument, List.getLast?_replicate]
    rfl
  have same : folded (List.replicate (n + 1) ' ') = List.replicate (n + 1) ' ' := by
    rw [folded, breaks_spaces]
  rw [List.replicate_succ, List.cons_append] at gap after ⊢
  rw [decodeFrom]
  · rw [List.replicate_succ] at last same
    have space : isGap ' ' = true := rfl
    simp only [space, gap, after, last, same, if_true, Bool.false_eq_true, if_false]
  · decide

end Step

theorem head?_escaped_not_gap {cs : List Char} (solid : cs.head? ≠ some ' ') :
    ∀ c ∈ (cs.flatMap escapedChar).head?, isGap c = false := by
  cases cs with
  | nil => rintro _ ⟨⟩
  | cons first cs =>
    obtain ⟨d, more, text, no_gap⟩ :=
      (spells_escapedChar first).begins fun same => solid (congrArg some same)
    rw [List.flatMap_cons, text]
    rintro _ ⟨⟩
    exact no_gap

theorem flatMap_spaces (n : Nat) :
    (List.replicate n ' ').flatMap escapedChar = List.replicate n ' ' := by
  induction n with
  | zero => rfl
  | succ n ih =>
    rw [List.replicate_succ, List.flatMap_cons, ih]
    rfl

theorem exists_spaces (cs : List Char) :
    ∃ n more, cs = List.replicate n ' ' ++ more ∧ more.head? ≠ some ' ' := by
  induction cs with
  | nil => exact ⟨0, [], rfl, by simp⟩
  | cons c cs ih =>
    by_cases space : c = ' '
    · subst space
      obtain ⟨n, more, rfl, solid⟩ := ih
      exact ⟨n + 1, more, rfl, solid⟩
    · exact ⟨0, c :: cs, rfl, fun same => space (Option.some.inj same)⟩

theorem decodeFrom_escaped (cs : List Char) (fuel : Nat) (done : List Char)
    (enough : (cs.flatMap escapedChar).length ≤ fuel) :
    decodeFrom fuel done (cs.flatMap escapedChar) = some (done.reverse ++ cs) := by
  -- One step takes off all spaces in front, so the induction is on the number of characters.
  induction size : cs.length using Nat.strong_induction_on generalizing cs fuel done with
  | _ length ih =>
  subst size
  cases cs with
  | nil => rw [List.append_nil]; exact decodeFrom_nil fuel done
  | cons c cs =>
    have first : 0 < (escapedChar c).length := (spells_escapedChar c).length_pos
    obtain ⟨fuel, rfl⟩ : ∃ less, fuel = less + 1 := by
      rw [List.flatMap_cons, List.length_append] at enough
      exact ⟨fuel - 1, by omega⟩
    by_cases space : c = ' '
    · subst space
      obtain ⟨n, more, split, solid⟩ := exists_spaces cs
      have run : ' ' :: cs = List.replicate (n + 1) ' ' ++ more := by
        rw [split]
        rfl
      have shorter : more.length < (' ' :: cs).length := by
        rw [run, List.length_append, List.length_replicate]
        omega
      rw [run, List.flatMap_append, flatMap_spaces] at enough ⊢
      rw [List.length_append, List.length_replicate] at enough
      rw [decodeFrom_spaces fuel done _ n (head?_escaped_not_gap solid),
        ih _ shorter more fuel _ (by omega) rfl, List.reverse_append, List.reverse_reverse,
        List.append_assoc]
    · rw [List.flatMap_cons, List.length_append] at enough
      rw [List.flatMap_cons, (spells_escapedChar c).decodeFrom fuel done _ space,
        ih _ (Nat.lt_succ_self _) cs fuel _ (by omega) rfl, List.reverse_cons, List.append_assoc,
        List.singleton_append]

theorem decode?_spelling (s : String) : decode? (spelling s) = some s := by
  rw [decode?, spelling, decodeFrom_escaped _ _ _ le_rfl, List.reverse_nil, List.nil_append,
    Option.map_some, String.ofList_toList]

end RelayMesh.Draft
