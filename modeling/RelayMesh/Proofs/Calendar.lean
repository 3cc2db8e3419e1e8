import RelayMesh.Calendar
import RelayMesh.Proofs.Decimal.Numeral

namespace RelayMesh.Date

theorem length_digits (d : Date) :
    (Text.padded 4 d.year.natAbs).length = 4 ∧ (Text.padded 2 d.month).length = 2 ∧
      (Text.padded 2 d.day).length = 2 := by
  obtain ⟨year, month, day⟩ := d.isDate
  have days : daysInMonth d.year d.month ≤ 31 := by
    unfold daysInMonth
    split <;> split <;> decide
  refine ⟨Text.length_padded (by decide) ?_, Text.length_padded (by decide) ?_,
    Text.length_padded (by decide) ?_⟩ <;> omega

def digits (d : Date) : List Char :=
  Text.padded 4 d.year.natAbs ++ (Text.padded 2 d.month ++ Text.padded 2 d.day)

theorem keyChars_eq (d : Date) :
    d.keyChars = (if d.year < 0 then ['-'] else []) ++ d.digits := by
  rw [keyChars, digits, List.append_assoc, List.append_assoc]

theorem isDigit_of_mem_digits {d : Date} : ∀ c ∈ d.digits, Text.isDigit c = true := by
  intro c member
  simp only [digits, List.mem_append] at member
  rcases member with member | member | member <;> exact Text.isDigit_of_mem_padded c member

theorem splitSign_keyChars (d : Date) :
    Decimal.splitSign d.keyChars = (decide (d.year < 0), d.digits) := by
  obtain ⟨c, cs, first⟩ := List.exists_cons_of_ne_nil (List.length_pos_iff.mp
    (show 0 < d.digits.length by simp [digits, d.length_digits]))
  have digit : Text.isDigit c = true :=
    isDigit_of_mem_digits c (first ▸ List.mem_cons_self)
  have split := Decimal.Numeral.splitSign_digit digit cs (decide (d.year < 0))
  rw [keyChars_eq, first, ← split]
  by_cases negative : d.year < 0 <;> simp [negative]

/-- The sign of the year stands in front of digits that do not tell it. -/
def signed (negative : Bool) (year : Nat) : Int :=
  if negative then -(year : Int) else year

theorem ofKeyChars?_of_splitSign {cs : List Char} {negative : Bool} {d : Date}
    (split : Decimal.splitSign cs = (negative, d.digits))
    (sign : signed negative d.year.natAbs = d.year) : ofKeyChars? cs = some d := by
  obtain ⟨year, month, day⟩ := d.length_digits
  have parts : d.digits.take 4 = Text.padded 4 d.year.natAbs ∧
      d.digits.drop 4 = Text.padded 2 d.month ++ Text.padded 2 d.day ∧
      d.digits.drop 6 = Text.padded 2 d.day := by
    refine ⟨List.take_left' year, List.drop_left' year, ?_⟩
    rw [digits, ← List.append_assoc]
    exact List.drop_left' (by rw [List.length_append, year, month])
  rw [signed] at sign
  rw [ofKeyChars?, split]
  dsimp only
  rw [if_pos (by simp [digits, year, month, day]), parts.1, parts.2.1, parts.2.2,
    List.take_left' month]
  simp only [Text.natural?_padded, Option.bind_eq_bind, Option.bind_some, sign]
  exact dif_pos d.isDate

theorem ofKeyChars?_keyChars (d : Date) : ofKeyChars? d.keyChars = some d := by
  refine ofKeyChars?_of_splitSign d.splitSign_keyChars ?_
  simp only [signed, decide_eq_true_eq]
  split <;> omega

theorem parts_of_of? {year : Int} {month day : Nat} {d : Date} (made : of? year month day = some d) :
    d.year = year ∧ d.month = month ∧ d.day = day := by
  rw [of?] at made
  split at made
  · cases made
    exact ⟨rfl, rfl, rfl⟩
  · contradiction

theorem splitSign_of_ofKeyChars? {cs : List Char} {d : Date} (read : ofKeyChars? cs = some d) :
    ∃ negative, Decimal.splitSign cs = (negative, d.digits) ∧
      signed negative d.year.natAbs = d.year := by
  rw [ofKeyChars?] at read
  generalize Decimal.splitSign cs = parts at read ⊢
  obtain ⟨negative, text⟩ := parts
  refine ⟨negative, ?_⟩
  dsimp only at read
  split at read
  · rename_i eight
    simp only [Option.bind_eq_bind, Option.bind_eq_some_iff, Text.natural?_eq_some_iff] at read
    obtain ⟨year, year_text, month, month_text, day, day_text, made⟩ := read
    obtain ⟨sign, rfl, rfl⟩ := parts_of_of? made
    have absolute : d.year.natAbs = year := by
      rw [sign]
      split <;> omega
    have year_text : Text.padded 4 year = _ := year_text.padded (by simp [eight])
    have month_text : Text.padded 2 d.month = _ := month_text.padded (by simp [eight])
    have day_text : Text.padded 2 d.day = _ := day_text.padded (by simp [eight])
    constructor
    · have rest : text.drop 6 = (text.drop 4).drop 2 := by rw [List.drop_drop]
      rw [digits, absolute, year_text, month_text, day_text, rest, List.take_append_drop,
        List.take_append_drop]
    · rw [absolute, signed, sign]
  · contradiction

/-- The texts that are read as a date: its key, and the key behind a sign that changes nothing. -/
inductive Spelling (d : Date) : List Char → Prop where
  | key : Spelling d d.keyChars
  | plus (year : 0 ≤ d.year) : Spelling d ('+' :: d.keyChars)
  | minus (year : d.year = 0) : Spelling d ('-' :: d.keyChars)

theorem keyChars_of_nonneg {d : Date} (year : 0 ≤ d.year) : d.keyChars = d.digits := by
  rw [keyChars_eq, if_neg (by omega), List.nil_append]

theorem keyChars_of_neg {d : Date} (year : d.year < 0) : d.keyChars = '-' :: d.digits := by
  rw [keyChars_eq, if_pos year]
  rfl

theorem ofKeyChars?_eq_some_iff {cs : List Char} {d : Date} :
    ofKeyChars? cs = some d ↔ d.Spelling cs := by
  constructor
  · intro read
    obtain ⟨negative, split, sign⟩ := splitSign_of_ofKeyChars? read
    rw [signed] at sign
    unfold Decimal.splitSign at split
    split at split
    · obtain ⟨rfl, rfl⟩ := Prod.mk.inj split
      rw [if_pos rfl] at sign
      by_cases year : d.year < 0
      · rw [← keyChars_of_neg year]
        exact .key
      · rw [← keyChars_of_nonneg (by omega)]
        exact .minus (by omega)
    · obtain ⟨rfl, rfl⟩ := Prod.mk.inj split
      rw [if_neg (by decide)] at sign
      rw [← keyChars_of_nonneg (by omega)]
      exact .plus (by omega)
    · obtain ⟨rfl, rfl⟩ := Prod.mk.inj split
      rw [if_neg (by decide)] at sign
      rw [← keyChars_of_nonneg (by omega)]
      exact .key
  · rintro (_ | year | year)
    · exact d.ofKeyChars?_keyChars
    · rw [keyChars_of_nonneg year]
      exact ofKeyChars?_of_splitSign rfl (by rw [signed, if_neg (by decide)]; omega)
    · rw [keyChars_of_nonneg year.ge]
      exact ofKeyChars?_of_splitSign rfl (by rw [signed, if_pos rfl]; omega)

theorem ofKey?_eq_some_iff {text : String} {d : Date} :
    ofKey? text = some d ↔
      text = d.key ∨ (0 ≤ d.year ∧ text = "+" ++ d.key) ∨ (d.year = 0 ∧ text = "-" ++ d.key) := by
  rw [ofKey?, ofKeyChars?_eq_some_iff]
  have spelled (sign : String) : text = sign ++ d.key ↔ text.toList = sign.toList ++ d.keyChars := by
    rw [← String.toList_inj, String.toList_append, key, String.toList_ofList]
  have plain := spelled ""
  rw [String.empty_append, String.toList_empty, List.nil_append] at plain
  rw [plain, spelled "+", spelled "-"]
  constructor
  · generalize text.toList = cs
    rintro (_ | year | year)
    · exact .inl rfl
    · exact .inr (.inl ⟨year, rfl⟩)
    · exact .inr (.inr ⟨year, rfl⟩)
  · rintro (same | ⟨year, same⟩ | ⟨year, same⟩)
    · rw [same]
      exact .key
    · rw [same]
      exact .plus year
    · rw [same]
      exact .minus year

/-! ### Order -/

theorem le_iff {a b : Date} : a.le b = true ↔ a.year < b.year ∨
    a.year = b.year ∧ (a.month < b.month ∨ a.month = b.month ∧ a.day ≤ b.day) := by
  simp only [le, Bool.or_eq_true, Bool.and_eq_true, decide_eq_true_eq, beq_iff_eq]

theorem le_trans {a b c : Date} (first : a.le b = true) (second : b.le c = true) :
    a.le c = true := by
  rw [le_iff] at *
  omega

theorem le_of_not_le {a b : Date} (after : ¬ a.le b = true) : b.le a = true := by
  rw [le_iff] at *
  omega

theorem le_later (a b : Date) : a.le (a.later b) = true ∧ b.le (a.later b) = true := by
  have self (d : Date) : d.le d = true := le_iff.mpr (by omega)
  rw [later]
  split
  · rename_i before
    exact ⟨before, self b⟩
  · rename_i after
    exact ⟨self a, le_of_not_le after⟩

theorem later_eq (a b : Date) : a.later b = a ∨ a.later b = b := by
  rw [later]
  split
  · exact .inr rfl
  · exact .inl rfl

theorem foldl_later (d : Date) (rest : List Date) :
    rest.foldl later d ∈ d :: rest ∧ ∀ e ∈ d :: rest, e.le (rest.foldl later d) = true := by
  induction rest generalizing d with
  | nil =>
    refine ⟨List.mem_singleton_self d, fun e member => ?_⟩
    rw [List.mem_singleton.mp member]
    exact le_iff.mpr (by rw [List.foldl_nil]; omega)
  | cons e rest ih =>
    obtain ⟨member, greatest⟩ := ih (d.later e)
    have top := greatest _ List.mem_cons_self
    rw [List.foldl_cons]
    constructor
    · rcases List.mem_cons.mp member with same | listed
      · rw [same]
        rcases later_eq d e with first | second
        · rw [first]
          exact List.mem_cons_self
        · rw [second]
          exact List.mem_cons_of_mem _ List.mem_cons_self
      · exact List.mem_cons_of_mem _ (List.mem_cons_of_mem _ listed)
    · intro f listed
      rcases List.mem_cons.mp listed with rfl | listed
      · exact le_trans (le_later f e).1 top
      · rcases List.mem_cons.mp listed with rfl | listed
        · exact le_trans (le_later d f).2 top
        · exact greatest f (List.mem_cons_of_mem _ listed)

theorem latest?_spec {dates : List Date} {d : Date} (found : latest? dates = some d) :
    d ∈ dates ∧ ∀ e ∈ dates, e.le d = true := by
  cases dates with
  | nil => contradiction
  | cons first rest =>
    cases Option.some.inj found
    exact foldl_later first rest

theorem latest?_eq_none {dates : List Date} : latest? dates = none ↔ dates = [] := by
  cases dates <;> simp [latest?]

theorem le_antisymm {a b : Date} (before : a.le b = true) (after : b.le a = true) : a = b := by
  rw [le_iff] at *
  have same : a.year = b.year ∧ a.month = b.month ∧ a.day = b.day := by omega
  cases a
  cases b
  simpa using same

theorem latest?_eq_some_iff {dates : List Date} {d : Date} :
    latest? dates = some d ↔ d ∈ dates ∧ ∀ e ∈ dates, e.le d = true := by
  refine ⟨latest?_spec, fun ⟨member, greatest⟩ => ?_⟩
  cases found : latest? dates with
  | none =>
    rw [latest?_eq_none.mp found] at member
    contradiction
  | some e =>
    obtain ⟨other, above⟩ := latest?_spec found
    rw [le_antisymm (greatest e other) (above d member)]

end RelayMesh.Date
