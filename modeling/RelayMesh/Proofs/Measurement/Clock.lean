import RelayMesh.Measurement.Reading
import RelayMesh.Proofs.Measurement.Marker

namespace RelayMesh.Measurement

open Text (Denotes isBlank isDecimalDigit isDigit isWord)

/-- The nanoseconds of a running time, as a number of any size. The fraction of a second is given by
its first `places` digits. -/
def nanosecondsOf (hours minutes seconds fraction places : Nat) : Nat :=
  (hours * 3600 + minutes * 60 + seconds) * 10 ^ 9 + fraction * 10 ^ (9 - places)

/-- A line begins with a running time: hours, minutes, seconds and one to nine digits of a fraction,
behind white space and not inside of a word. -/
inductive Stamped : List Char → Nat → Prop where
  | time {blanks hours minutes seconds fraction behind : List Char} {h m s f : Nat}
      (blank : ∀ c ∈ blanks, isBlank c = true) (hour : Denotes hours h)
      (minute : Denotes minutes m) (two_minutes : minutes.length = 2)
      (second : Denotes seconds s) (two_seconds : seconds.length = 2)
      (part : Denotes fraction f) (nine : fraction.length ≤ 9)
      (stop : ∀ c ∈ behind.head?, isWord c = false)
      (small : nanosecondsOf h m s f fraction.length < 2 ^ 64) :
      Stamped
        (blanks ++ (hours ++ ':' :: (minutes ++ ':' :: (seconds ++ '.' :: (fraction ++ behind)))))
        (nanosecondsOf h m s f fraction.length)

theorem isWord_of_isDigit {c : Char} (digit : isDigit c = true) : isWord c = true := by
  obtain ⟨n, small, rfl⟩ := Text.eq_digitChar_of_isDigit digit
  have all : ∀ n < 10, isWord n.digitChar = true := by decide
  exact all n small

theorem not_isBlank_of_isDigit {c : Char} (digit : isDigit c = true) : isBlank c = false := by
  obtain ⟨n, small, rfl⟩ := Text.eq_digitChar_of_isDigit digit
  have all : ∀ n < 10, isBlank n.digitChar = false := by decide
  exact all n small

theorem isWord_of_isDecimalDigit {c : Char} (digit : isDecimalDigit c = true) :
    isWord c = true := by
  -- The bounds are compared as numbers and not by instances, of which there would be too many.
  have covered : Text.decimalDigitRanges.all (fun r => r == (0x30, 0x39) || Nat.ble 128 r.1 &&
      Text.wordRanges.any fun w => Nat.ble w.1 r.1 && Nat.ble r.2 w.2) = true := by
    decide +kernel
  obtain ⟨⟨first, last⟩, listed, within⟩ := List.any_eq_true.mp digit
  rw [Bool.and_eq_true, decide_eq_true_eq, decide_eq_true_eq] at within
  have range := List.all_eq_true.mp covered _ listed
  simp only [Bool.or_eq_true, Bool.and_eq_true, beq_iff_eq, Nat.ble_eq, List.any_eq_true] at range
  rcases range with ascii | ⟨beyond, ⟨low, high⟩, range, before, behind⟩
  · cases ascii
    have plain : Text.digit? c = some (c.toNat - '0'.toNat) := if_pos within
    exact isWord_of_isDigit (by rw [isDigit, plain]; rfl)
  · rw [isWord, if_neg (Nat.not_lt.mpr (beyond.trans within.1))]
    refine List.any_eq_true.mpr ⟨(low, high), range, ?_⟩
    rw [Bool.and_eq_true, decide_eq_true_eq, decide_eq_true_eq]
    exact ⟨before.trans within.1, within.2.trans behind⟩

/-! ### Clocks in a line -/

structure Clock.Proper (c : Clock) : Prop where
  minutes : c.minutes.length = 2
  seconds : c.seconds.length = 2
  fraction : c.fraction.length ≤ 9

structure Clock.Shows (c : Clock) (h m s f : Nat) : Prop where
  hours : Denotes c.hours h
  minutes : Denotes c.minutes m
  seconds : Denotes c.seconds s
  fraction : Denotes c.fraction f

def Clock.text (c : Clock) : List Char :=
  c.hours ++ ':' :: (c.minutes ++ ':' :: (c.seconds ++ '.' :: c.fraction))

/-- A line begins with a clock, behind white space and not inside of a word. -/
def Clock.Begins (c : Clock) (line : List Char) : Prop :=
  ∃ blanks behind, line = blanks ++ (c.text ++ behind) ∧ (∀ b ∈ blanks, isBlank b = true) ∧
    ∀ b ∈ behind.head?, isWord b = false

theorem clock?_spec {line : List Char} {c : Clock} (found : clock? line = some c) :
    c.Proper ∧ c.Begins line := by
  simp only [clock?] at found
  split at found
  · rename_i m₁ m₂ s₁ s₂ rest colon
    split at found
    · rename_i allowed
      obtain ⟨_, _, _, nine, stop⟩ := allowed
      cases found
      refine ⟨⟨rfl, rfl, nine⟩, line.takeWhile isBlank, rest.dropWhile isDecimalDigit, ?_, ?_, ?_⟩
      · simp only [Clock.text, List.append_assoc, List.cons_append, List.nil_append,
          List.takeWhile_append_dropWhile, ← colon]
      · intro b member
        exact List.mem_takeWhile_imp member
      · intro b first
        simpa [Option.mem_def.mp first] using stop
    · contradiction
  · contradiction

theorem clock?_of_shows {line : List Char} {c : Clock} (begins : c.Begins line)
    (proper : c.Proper) {h m s f : Nat} (shows : c.Shows h m s f) : clock? line = some c := by
  obtain ⟨hours, minutes, seconds, fraction⟩ := c
  obtain ⟨two_minutes, two_seconds, nine⟩ := proper
  obtain ⟨hour, minute, second, part⟩ := shows
  obtain ⟨blanks, behind, rfl, blank, stop⟩ := begins
  obtain ⟨m₁, m₂, rfl⟩ := List.length_eq_two.mp two_minutes
  obtain ⟨s₁, s₂, rfl⟩ := List.length_eq_two.mp two_seconds
  have decimal {cs : List Char} {n : Nat} (denotes : Denotes cs n) :
      ∀ d ∈ cs, isDecimalDigit d = true :=
    fun d member => isDecimalDigit_of_isDigit (denotes.digits d member)
  have start : ∀ rest, ∀ b ∈ (hours ++ rest).head?, isBlank b = false := by
    intro rest b first
    rw [List.head?_append_of_ne_nil _ hour.ne_nil] at first
    exact not_isBlank_of_isDigit (hour.digits b (List.mem_of_mem_head? first))
  have colon : ∀ rest, ∀ b ∈ (':' :: rest).head?, isDecimalDigit b = false := by
    rintro rest b ⟨⟩
    decide
  have stop_digit : ∀ b ∈ behind.head?, isDecimalDigit b = false := by
    intro b first
    by_contra digit
    have word := isWord_of_isDecimalDigit (Bool.not_eq_false _ ▸ digit)
    rw [stop b first] at word
    contradiction
  have no_word : (!behind.head?.any isWord) = true := by
    cases behind with
    | nil => rfl
    | cons b behind => simp [stop b rfl]
  have pairs : [m₁, m₂, s₁, s₂].all isDecimalDigit = true := by
    refine List.all_eq_true.mpr fun d member => ?_
    rcases List.mem_append.mp (show d ∈ [m₁, m₂] ++ [s₁, s₂] from member) with member | member
    · exact decimal minute d member
    · exact decimal second d member
  simp only [Clock.text, List.append_assoc, clock?, Text.dropWhile_run blank (start _),
    Text.dropWhile_run (decimal hour) (colon _), Text.takeWhile_run (decimal hour) (colon _),
    List.cons_append, List.nil_append, Text.takeWhile_run (decimal part) stop_digit,
    Text.dropWhile_run (decimal part) stop_digit]
  exact if_pos ⟨hour.ne_nil, pairs, part.ne_nil, nine, no_word⟩

/-! ### The steps in words -/

theorem ofOption_word64? {digits : List Char} {n : Nat} (denotes : Denotes digits n) :
    InWords.ofOption (word64? digits) = .checked n := by
  rw [word64?, Text.natural?_eq_some_iff.mpr denotes, Option.filter_some, InWords.checked]
  split <;> simp_all

theorem byteCount_of_digits {cs : List Char} (digits : ∀ c ∈ cs, isDigit c = true) :
    Text.Utf8.byteCount cs = cs.length := by
  induction cs with
  | nil => rfl
  | cons c cs ih =>
    obtain ⟨n, small, rfl⟩ := Text.eq_digitChar_of_isDigit (digits c List.mem_cons_self)
    have all : ∀ n < 10, n.digitChar.utf8Size = 1 := by decide
    have rest := ih fun d member => digits d (List.mem_cons_of_mem _ member)
    rw [Text.Utf8.byteCount, List.foldr_cons, ← Text.Utf8.byteCount, rest, all n small,
      List.length_cons, Nat.add_comm]

theorem nanoseconds_of_shows {c : Clock} (proper : c.Proper) {h m s f : Nat}
    (shows : c.Shows h m s f) :
    c.nanoseconds = .checked (nanosecondsOf h m s f c.fraction.length) := by
  have minutes := shows.minutes.lt_pow
  have seconds := shows.seconds.lt_pow
  have digits := shows.fraction.lt_pow
  rw [proper.minutes] at minutes
  rw [proper.seconds] at seconds
  have bytes : Text.Utf8.byteCount c.fraction = c.fraction.length :=
    byteCount_of_digits shows.fraction.digits
  have filled : 10 ^ c.fraction.length * 10 ^ (9 - c.fraction.length) = 10 ^ 9 := by
    rw [← Nat.pow_add, Nat.add_sub_cancel' proper.fraction]
  have few : 10 ^ c.fraction.length ≤ 10 ^ 9 := Nat.pow_le_pow_right (by decide) proper.fraction
  have unit : 10 ^ (9 - c.fraction.length) ≤ 10 ^ 9 :=
    Nat.pow_le_pow_right (by decide) (Nat.sub_le ..)
  have part : f * 10 ^ (9 - c.fraction.length) < 10 ^ 9 :=
    (Nat.mul_lt_mul_of_pos_right digits (Nat.pow_pos (by decide))).trans_eq filled
  have second : nanosecondsInSecond = 10 ^ 9 := rfl
  have size : UInt64.size = 2 ^ 64 := rfl
  have formula : (h * 3600 + (m * 60 + s)) * 10 ^ 9 + f * 10 ^ (9 - c.fraction.length) =
      nanosecondsOf h m s f c.fraction.length := by
    rw [nanosecondsOf, Nat.add_assoc]
  simp only [Clock.nanoseconds, ofOption_word64? shows.hours, ofOption_word64? shows.minutes,
    ofOption_word64? shows.seconds, ofOption_word64? shows.fraction, bytes,
    InWords.difference_of_le proper.fraction, InWords.value_bind, second, Nat.pow_eq]
  generalize nanosecondsOf h m s f c.fraction.length = total at formula ⊢
  generalize 10 ^ (9 - c.fraction.length) = scale at unit part formula ⊢
  generalize product : f * scale = fraction at part formula
  -- Only the hours may be too large for a word, and from there on no result gets smaller.
  refine InWords.checked_bind ?_ (by omega)
  simp (disch := omega) only [InWords.checked_of_lt, InWords.held_of_lt, InWords.value_bind,
    product]
  refine InWords.checked_bind ?_ (by omega)
  refine InWords.checked_bind ?_ (by omega)
  refine InWords.checked_bind ?_ (by omega)
  rw [formula]

theorem nanoseconds_of_not_shows {c : Clock} (dark : ¬ ∃ h m s f, c.Shows h m s f) :
    c.nanoseconds = .absent := by
  by_contra present
  rw [Clock.nanoseconds] at present
  obtain ⟨h, hour, present⟩ := InWords.exists_of_ofOption_bind present
  obtain ⟨m, minute, present⟩ := InWords.exists_of_ofOption_bind present
  obtain ⟨s, second, present⟩ := InWords.exists_of_ofOption_bind present
  obtain ⟨f, part, _⟩ := InWords.exists_of_ofOption_bind present
  have shows : c.Shows h m s f := ⟨(word64?_eq_some_iff.mp hour).1,
    (word64?_eq_some_iff.mp minute).1, (word64?_eq_some_iff.mp second).1,
    (word64?_eq_some_iff.mp part).1⟩
  exact dark ⟨h, m, s, f, shows⟩

theorem timestamp_ne_overflow (line : List Char) : timestamp line ≠ .overflow := by
  rw [timestamp]
  cases found : clock? line with
  | none => simp
  | some c =>
    rw [InWords.ofOption_some, InWords.value_bind]
    by_cases readable : ∃ h m s f, c.Shows h m s f
    · obtain ⟨h, m, s, f, shows⟩ := readable
      rw [nanoseconds_of_shows (clock?_spec found).1 shows]
      exact InWords.checked_ne_overflow _
    · simp [nanoseconds_of_not_shows readable]

theorem stamped_iff {line : List Char} {v : Nat} : Stamped line v ↔
    ∃ c : Clock, c.Begins line ∧ c.Proper ∧ ∃ h m s f, c.Shows h m s f ∧
      nanosecondsOf h m s f c.fraction.length = v ∧ v < 2 ^ 64 := by
  constructor
  · rintro ⟨blank, hour, minute, two_minutes, second, two_seconds, part, nine, stop, small⟩
    refine ⟨⟨_, _, _, _⟩, ⟨_, _, ?_, blank, stop⟩, ⟨two_minutes, two_seconds, nine⟩,
      _, _, _, _, ⟨hour, minute, second, part⟩, rfl, small⟩
    simp only [Clock.text, List.append_assoc, List.cons_append]
  · rintro ⟨c, ⟨blanks, behind, rfl, blank, stop⟩, proper, h, m, s, f, shows, rfl, small⟩
    simp only [Clock.text, List.append_assoc, List.cons_append]
    exact .time blank shows.hours shows.minutes proper.minutes shows.seconds proper.seconds
      shows.fraction proper.fraction stop small

theorem timestamp?_eq_some_iff {line : List Char} {v : Nat} :
    timestamp? line = some v ↔ Stamped line v := by
  rw [stamped_iff, timestamp?, timestamp]
  constructor
  · intro found
    cases clock : clock? line with
    | none =>
      rw [clock] at found
      contradiction
    | some c =>
      rw [clock, InWords.ofOption_some, InWords.value_bind] at found
      obtain ⟨proper, begins⟩ := clock?_spec clock
      by_cases readable : ∃ h m s f, c.Shows h m s f
      · obtain ⟨h, m, s, f, shows⟩ := readable
        rw [nanoseconds_of_shows proper shows, InWords.value?_checked_eq_some_iff] at found
        obtain ⟨rfl, small⟩ := found
        exact ⟨c, begins, proper, h, m, s, f, shows, rfl, small⟩
      · rw [nanoseconds_of_not_shows readable] at found
        contradiction
  · rintro ⟨c, begins, proper, h, m, s, f, shows, value, small⟩
    rw [clock?_of_shows begins proper shows, InWords.ofOption_some, InWords.value_bind,
      nanoseconds_of_shows proper shows, InWords.value?_checked_eq_some_iff]
    exact ⟨value, value ▸ small⟩

/-! ### Written running times -/

/-- A number of nanoseconds as hours, minutes, seconds and all nine digits of the fraction. -/
def Clock.ofNanoseconds (v : Nat) : Clock where
  hours := Text.decimal (v / (3600 * 10 ^ 9))
  minutes := Text.padded 2 (v / (60 * 10 ^ 9) % 60)
  seconds := Text.padded 2 (v / 10 ^ 9 % 60)
  fraction := Text.padded 9 (v % 10 ^ 9)

theorem proper_ofNanoseconds (v : Nat) : (Clock.ofNanoseconds v).Proper where
  minutes := Text.length_padded (by decide) (by omega)
  seconds := Text.length_padded (by decide) (by omega)
  fraction := (Text.length_padded (by decide) (Nat.mod_lt _ (by decide))).le

theorem shows_ofNanoseconds (v : Nat) : (Clock.ofNanoseconds v).Shows (v / (3600 * 10 ^ 9))
    (v / (60 * 10 ^ 9) % 60) (v / 10 ^ 9 % 60) (v % 10 ^ 9) where
  hours := Text.denotes_decimal _
  minutes := Text.denotes_padded _ _
  seconds := Text.denotes_padded _ _
  fraction := Text.denotes_padded _ _

theorem timestamp?_written {v : Nat} (small : v < 2 ^ 64) {behind : List Char}
    (stop : ∀ b ∈ behind.head?, isWord b = false) :
    timestamp? ((Clock.ofNanoseconds v).text ++ behind) = some v := by
  have nine : (Clock.ofNanoseconds v).fraction.length = 9 :=
    Text.length_padded (by decide) (Nat.mod_lt _ (by decide))
  refine timestamp?_eq_some_iff.mpr (stamped_iff.mpr ⟨.ofNanoseconds v,
    ⟨[], behind, rfl, fun _ member => absurd member List.not_mem_nil, stop⟩,
    proper_ofNanoseconds v, _, _, _, _, shows_ofNanoseconds v, ?_, small⟩)
  rw [nine, nanosecondsOf]
  omega

/-- A line has a running time exactly if it is stamped with it, no step of the computation
overflows on any line, and written running times are read back. -/
theorem timestamps_exact :
    (∀ line v, timestamp? line = some v ↔ Stamped line v) ∧
      (∀ line, timestamp line ≠ .overflow) ∧
      ∀ v < 2 ^ 64, timestamp? (Clock.ofNanoseconds v).text = some v := by
  refine ⟨fun _ _ => timestamp?_eq_some_iff, timestamp_ne_overflow, fun v small => ?_⟩
  have stop : ∀ b ∈ ([] : List Char).head?, isWord b = false := nofun
  have read := timestamp?_written small stop
  rwa [List.append_nil] at read

theorem timestamps_of_latest :
    2 ^ 64 - 1 < 2 ^ 64 ∧
      (Clock.ofNanoseconds (2 ^ 64 - 1)).text = "5124095:34:33.709551615".toList ∧
      timestamp? (Clock.ofNanoseconds (2 ^ 64 - 1)).text = some (2 ^ 64 - 1) :=
  ⟨by decide, by decide, timestamps_exact.2.2 _ (by decide)⟩

end RelayMesh.Measurement
