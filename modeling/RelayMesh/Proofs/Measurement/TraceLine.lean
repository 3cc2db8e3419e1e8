import RelayMesh.Measurement.Trace
import RelayMesh.Proofs.Measurement.Clock
import RelayMesh.Proofs.Text.Lines

/-!
Trace lines are read as they were written. Two markers and a running time are looked for in the
whole line, so what is shown is that nothing in the free text, in the name of the element or across
their borders is taken for one of them.
-/

namespace RelayMesh.Measurement

open Text (isWord)

theorem stamped_append_singleton {c : Char} (other : isWord c = false) {line : List Char}
    {v : Nat} : Stamped (line ++ [c]) v ↔ Stamped line v := by
  constructor
  · intro stamped
    generalize whole : line ++ [c] = text at stamped
    cases stamped with
    | @time blanks hours minutes seconds fraction behind h m s f blank hour minute two_minutes
        second two_seconds part nine stop small =>
      rcases List.eq_nil_or_concat' behind with rfl | ⟨front, d, rfl⟩
      · -- The fraction would end in the character.
        obtain ⟨front, d, rfl⟩ := (List.eq_nil_or_concat' fraction).resolve_left part.ne_nil
        simp only [← List.append_assoc, ← List.cons_append, List.append_nil] at whole
        cases (List.append_inj' whole rfl).2
        rw [isWord_of_isDigit (part.digits c (by simp))] at other
        contradiction
      · simp only [← List.append_assoc, ← List.cons_append] at whole
        obtain ⟨rfl, _⟩ := List.append_inj' whole rfl
        simp only [List.append_assoc, List.cons_append]
        refine .time blank hour minute two_minutes second two_seconds part nine ?_ small
        intro e first
        exact stop e (by rw [List.head?_append, Option.mem_def.mp first]; rfl)
  · intro stamped
    cases stamped with
    | @time blanks hours minutes seconds fraction behind h m s f blank hour minute two_minutes
        second two_seconds part nine stop small =>
      simp only [List.append_assoc, List.cons_append]
      refine .time blank hour minute two_minutes second two_seconds part nine ?_ small
      intro e first
      cases behind with
      | nil =>
        cases first
        exact other
      | cons d behind => exact stop e first

theorem timestamp?_append_singleton {c : Char} (other : isWord c = false) (line : List Char) :
    timestamp? (line ++ [c]) = timestamp? line := by
  apply Option.ext
  intro v
  rw [timestamp?_eq_some_iff, timestamp?_eq_some_iff, stamped_append_singleton other]

theorem element?_append_singleton {c : Char} (foreign : c ∉ "element=(string)".toList)
    (other : isElementChar c = false) (line : List Char) :
    element? (line ++ [c]) = element? line := by
  rw [element?, element?,
    Text.behindMarker?_append_singleton foreign (run?_append_singleton other)]

theorem ignoresReturn_recordOfLine? : Text.IgnoresReturn recordOfLine? where
  empty := rfl
  blind line := by
    rw [recordOfLine?, recordOfLine?, timestamp?_append_singleton (by decide),
      element?_append_singleton (by decide) (by decide),
      markedNumber?_append_singleton (by decide) (by decide)]

open Text (Separates Unbordered isBlank isDecimalDigit isDigit isWord)

/-- The parts of a trace line with a free text on both sides of its element and its time. -/
structure TraceLine where
  timestamp : Nat
  middle : List Char
  element : List Char
  time : Option Nat
  tail : List Char

namespace TraceLine

def timeText : Option Nat → List Char
  | some t => ',' :: ' ' :: ("time=(guint64)".toList ++ Text.decimal t)
  | none => []

def text (l : TraceLine) : List Char :=
  (Clock.ofNanoseconds l.timestamp).text ++ ' ' ::
    (l.middle ++ ("element=(string)".toList ++ (l.element ++ (timeText l.time ++ ';' :: l.tail))))

def record (l : TraceLine) : TraceRecord :=
  ⟨l.timestamp, String.ofList l.element, l.time⟩

/-- The numbers are of 64 bits and the marked texts are the only ones. What follows a processing
time may be anything. -/
structure Proper (l : TraceLine) : Prop where
  timestamp : l.timestamp < 2 ^ 64
  time : ∀ t ∈ l.time, t < 2 ^ 64
  named : l.element ≠ []
  element : ∀ c ∈ l.element, c ≠ ',' ∧ c ≠ ';' ∧ isBlank c = false
  untimed_element : ¬ "time=(guint64)".toList <:+: l.element
  middle : ¬ "element=(string)".toList <:+: l.middle
  untimed_middle : ¬ "time=(guint64)".toList <:+: l.middle
  untimed_tail : l.time = none → ¬ "time=(guint64)".toList <:+: l.tail

end TraceLine

theorem isElementChar_iff {c : Char} :
    isElementChar c = true ↔ c ≠ ',' ∧ c ≠ ';' ∧ isBlank c = false := by
  simp [isElementChar, and_assoc]

theorem unbordered_element : Unbordered "element=(string)".toList := by decide

theorem unbordered_time : Unbordered "time=(guint64)".toList := by decide

theorem digit_or_sign_of_mem_ofNanoseconds {v : Nat} :
    ∀ c ∈ (Clock.ofNanoseconds v).text, isDigit c = true ∨ c = ':' ∨ c = '.' := by
  obtain ⟨hours, minutes, seconds, fraction⟩ := shows_ofNanoseconds v
  intro c member
  simp only [Clock.text, List.mem_append, List.mem_cons] at member
  rcases member with member | rfl | member | rfl | member | rfl | member
  · exact .inl (hours.digits c member)
  · exact .inr (.inl rfl)
  · exact .inl (minutes.digits c member)
  · exact .inr (.inl rfl)
  · exact .inl (seconds.digits c member)
  · exact .inr (.inr rfl)
  · exact .inl (fraction.digits c member)

theorem not_infix_ofNanoseconds {marker : List Char} {v : Nat} (letter : 'e' ∈ marker) :
    ¬ marker <:+: (Clock.ofNanoseconds v).text := by
  intro found
  have own := digit_or_sign_of_mem_ofNanoseconds _ (found.subset letter)
  revert own
  decide

namespace TraceLine

variable {l : TraceLine}

theorem stop_element (time : Option Nat) (tail : List Char) :
    ∀ c ∈ (timeText time ++ ';' :: tail).head?, isElementChar c = false := by
  cases time with
  | none =>
    rintro c ⟨⟩
    rfl
  | some t =>
    rintro c ⟨⟩
    rfl

theorem Proper.timestamp? (proper : l.Proper) : timestamp? l.text = some l.timestamp := by
  have stop : ∀ rest, ∀ c ∈ (' ' :: rest).head?, isWord c = false := by
    rintro rest c ⟨⟩
    decide
  exact timestamp?_written proper.timestamp (stop _)

theorem Proper.element? (proper : l.Proper) : element? l.text = some (String.ofList l.element) := by
  have free : ¬ "element=(string)".toList <:+:
      (Clock.ofNanoseconds l.timestamp).text ++ ([' '] ++ l.middle) := by
    intro found
    have separates : Separates [' '] "element=(string)".toList := by decide +kernel
    rcases separates.apart found with clock | middle
    · exact not_infix_ofNanoseconds (by decide) clock
    · exact proper.middle middle
  have reads : run? isElementChar (l.element ++ (timeText l.time ++ ';' :: l.tail)) =
      some l.element := by
    refine run?_eq_some_iff.mpr ⟨proper.named, ?_, _, rfl, stop_element l.time l.tail⟩
    exact fun c member => isElementChar_iff.mpr (proper.element c member)
  have found := unbordered_element.behindMarker?_eq_some free reads
  rw [List.append_assoc, List.append_assoc] at found
  rw [Measurement.element?, text, ← List.singleton_append, found]
  rfl

/-- Up to the end of the element no time is marked, nor across any character from which on there
is none. -/
theorem Proper.untimed (proper : l.Proper) {c : Char} {rest : List Char}
    (separates : Separates [c] "time=(guint64)".toList)
    (free : ¬ "time=(guint64)".toList <:+: rest) :
    ¬ "time=(guint64)".toList <:+: (Clock.ofNanoseconds l.timestamp).text ++ ([' '] ++
      (l.middle ++ ("element=(string)".toList ++ (l.element ++ ([c] ++ rest))))) := by
  have blank : Separates [' '] "time=(guint64)".toList := by decide +kernel
  have element : Separates "element=(string)".toList "time=(guint64)".toList := by
    decide +kernel
  intro found
  rcases blank.apart found with clock | found
  · exact not_infix_ofNanoseconds (by decide) clock
  rcases element.apart found with middle | found
  · exact proper.untimed_middle middle
  rcases separates.apart found with named | behind
  · exact proper.untimed_element named
  · exact free behind

theorem Proper.time? (proper : l.Proper) : markedNumber? "time=(guint64)" l.text = l.time := by
  cases time : l.time with
  | none =>
    have semicolon : Separates [';'] "time=(guint64)".toList := by decide +kernel
    have free := proper.untimed semicolon (proper.untimed_tail time)
    refine markedNumber?_of_not_marked fun marked => free ?_
    have found := marked.infix_of
    rwa [text, time] at found
  | some t =>
    have comma : Separates [','] "time=(guint64)".toList := by decide +kernel
    have blank : ¬ "time=(guint64)".toList <:+: [' '] := by decide +kernel
    have free := proper.untimed comma blank
    have stop : ∀ c ∈ (';' :: l.tail).head?, isDecimalDigit c = false := by
      rintro c ⟨⟩
      decide
    have read := markedNumber?_written unbordered_time ⟨'t', _, rfl, by decide⟩
      (fun marked => free marked.infix_of) (proper.time t time) stop
    simp only [List.append_assoc, List.cons_append, List.nil_append] at read
    simpa only [text, time, timeText, List.append_assoc, List.cons_append] using read

theorem Proper.recordOfLine? (proper : l.Proper) : recordOfLine? l.text = some l.record := by
  rw [Measurement.recordOfLine?, proper.timestamp?, proper.element?, proper.time?]
  rfl

end TraceLine

/-- Lines with the records that were written into them. All other lines have no running time or no
marker of an element. -/
inductive Traced : List (List Char) → List TraceRecord → Prop where
  | nil : Traced [] []
  | other {line : List Char} {lines : List (List Char)} {records : List TraceRecord}
      (unrelated : (∀ v, ¬ Stamped line v) ∨ ¬ "element=(string)".toList <:+: line)
      (rest : Traced lines records) : Traced (line :: lines) records
  | record {l : TraceLine} {lines : List (List Char)} {records : List TraceRecord}
      (proper : l.Proper) (rest : Traced lines records) :
      Traced (l.text :: lines) (l.record :: records)

theorem timestamp?_of_not_stamped {line : List Char} (unstamped : ∀ v, ¬ Stamped line v) :
    timestamp? line = none :=
  Option.eq_none_iff_forall_ne_some.mpr fun v found => unstamped v (timestamp?_eq_some_iff.mp found)

theorem element?_of_unmarked {line : List Char}
    (unmarked : ¬ "element=(string)".toList <:+: line) : element? line = none := by
  refine Option.map_eq_none_iff.mpr (Text.behindMarker?_eq_none_iff.mpr ?_)
  rintro front behind rfl
  exact absurd (List.infix_append' ..) unmarked

theorem recordOfLine?_of_unrelated {line : List Char}
    (unrelated : (∀ v, ¬ Stamped line v) ∨ ¬ "element=(string)".toList <:+: line) :
    recordOfLine? line = none := by
  rcases unrelated with unstamped | unmarked
  · rw [recordOfLine?, timestamp?_of_not_stamped unstamped]
    rfl
  · rw [recordOfLine?, element?_of_unmarked unmarked]
    cases timestamp? line <;> rfl

theorem recordsOfLines_of_traced {lines : List (List Char)} {records : List TraceRecord}
    (traced : Traced lines records) : recordsOfLines lines = records := by
  induction traced with
  | nil => rfl
  | other unrelated _ ih =>
    exact (List.filterMap_cons_none (recordOfLine?_of_unrelated unrelated)).trans ih
  | record proper _ ih =>
    exact (List.filterMap_cons_some proper.recordOfLine?).trans (congrArg (_ :: ·) ih)

/-- A written line is read back, and the records of a trace are those that were written into it, in
their order. -/
theorem records_exact :
    (∀ l : TraceLine, l.Proper → recordOfLine? l.text = some l.record) ∧
      ∀ lines records, Traced lines records → recordsOfLines lines = records :=
  ⟨fun _ proper => proper.recordOfLine?, fun _ _ => recordsOfLines_of_traced⟩

/-- A text that begins like a marker stands in front of one and as the name of an element, and a
second processing time and a second element follow. -/
theorem records_of_lookalikes :
    recordOfLine? "0:00:02.000000000 element=(stringelement=(string)b;element=(string)c".toList =
        some ⟨2000000000, "b", none⟩ ∧
      recordsOfLines [
        "0:00:01.000000500 timelement=(string)time=(guint, time=(guint64)42;time=(guint64)7".toList,
        "Latency: 1000".toList,
        "0:00:02.000000000 element=(stringelement=(string)b;element=(string)c".toList] =
      [⟨1000000500, "time=(guint", some 42⟩, ⟨2000000000, "b", none⟩] := by
  let timed : TraceLine :=
    ⟨1000000500, "tim".toList, "time=(guint".toList, some 42, "time=(guint64)7".toList⟩
  let untimed : TraceLine :=
    ⟨2000000000, "element=(string".toList, "b".toList, none, "element=(string)c".toList⟩
  -- Names are checked as lists: to decide a statement about characters runs through all of them.
  have proper_timed : timed.Proper := by
    have plain : timed.element.all isElementChar = true := by decide
    refine ⟨by decide, ?_, by decide, ?_, by decide +kernel, by decide +kernel, by decide +kernel,
      nofun⟩
    · rintro t ⟨⟩
      decide
    · exact fun c member => isElementChar_iff.mp (List.all_eq_true.mp plain c member)
  have proper_untimed : untimed.Proper := by
    have plain : untimed.element.all isElementChar = true := by decide
    refine ⟨by decide, nofun, by decide, ?_, by decide +kernel, by decide +kernel,
      by decide +kernel, fun _ => by decide +kernel⟩
    exact fun c member => isElementChar_iff.mp (List.all_eq_true.mp plain c member)
  have unmarked : ¬ "element=(string)".toList <:+: "Latency: 1000".toList := by decide +kernel
  have text_timed : timed.text =
      "0:00:01.000000500 timelement=(string)time=(guint, time=(guint64)42;time=(guint64)7".toList :=
    by decide +kernel
  have text_untimed : untimed.text =
      "0:00:02.000000000 element=(stringelement=(string)b;element=(string)c".toList := by
    decide +kernel
  have first := records_exact.1 _ proper_untimed
  have all := records_exact.2 _ _
    (.record proper_timed (.other (.inr unmarked) (.record proper_untimed .nil)))
  rw [text_untimed] at first
  rw [text_timed, text_untimed] at all
  exact ⟨first, all⟩

end RelayMesh.Measurement
