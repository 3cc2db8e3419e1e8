import RelayMesh.InWords
import RelayMesh.Measurement.Statistics
import RelayMesh.Text.Basic
import RelayMesh.Text.Classes
import RelayMesh.Text.Utf8

namespace RelayMesh.Measurement

def word64? (digits : List Char) : Option Nat :=
  (Text.natural? digits).filter (· < UInt64.size)

def run? (allowed : Char → Bool) (cs : List Char) : Option (List Char) :=
  match cs.takeWhile allowed with
  | [] => none
  | run => some run

def markedNumber? (marker : String) (line : List Char) : Option Nat :=
  (Text.behindMarker? marker.toList (run? Text.isDecimalDigit) line).bind word64?

def sampleOfLine? (line : List Char) : Option Nat :=
  markedNumber? "Latency: " line

def samplesOfLines (lines : List (List Char)) : List Nat :=
  lines.filterMap sampleOfLine?

def samplesOfText (text : List Char) : List Nat :=
  samplesOfLines (Text.lines text)

structure Clock where
  hours : List Char
  minutes : List Char
  seconds : List Char
  fraction : List Char
deriving DecidableEq

/-- The running time at the beginning of a line, behind white space: hours, two digits of minutes
and of seconds, and one to nine digits of a fraction. No word may go on behind it. -/
def clock? (line : List Char) : Option Clock :=
  let start := line.dropWhile Text.isBlank
  match start.dropWhile Text.isDecimalDigit with
  | ':' :: m₁ :: m₂ :: ':' :: s₁ :: s₂ :: '.' :: rest =>
    let hours := start.takeWhile Text.isDecimalDigit
    let fraction := rest.takeWhile Text.isDecimalDigit
    let behind := rest.dropWhile Text.isDecimalDigit
    if hours ≠ [] ∧ [m₁, m₂, s₁, s₂].all Text.isDecimalDigit ∧ fraction ≠ []
        ∧ fraction.length ≤ 9 ∧ !behind.head?.any Text.isWord then
      some ⟨hours, [m₁, m₂], [s₁, s₂], fraction⟩
    else none
  | _ => none

/-- The nanoseconds of a running time. The fraction is filled up to nine digits, which are counted
in bytes. -/
def Clock.nanoseconds (c : Clock) : InWords Nat := do
  let hours ← .ofOption (word64? c.hours)
  let minutes ← .ofOption (word64? c.minutes)
  let seconds ← .ofOption (word64? c.seconds)
  let digits ← .ofOption (word64? c.fraction)
  let missing ← .difference 9 (Text.Utf8.byteCount c.fraction)
  let unit ← .held (Nat.pow 10 missing)
  let fraction ← .held (digits * unit)
  let hours ← .checked (hours * 3600)
  let minutes ← .held (minutes * 60)
  let rest ← .held (minutes + seconds)
  let total ← .checked (hours + rest)
  let whole ← .checked (total * nanosecondsInSecond)
  .checked (whole + fraction)

def timestamp (line : List Char) : InWords Nat := do
  let clock ← .ofOption (clock? line)
  clock.nanoseconds

def timestamp? (line : List Char) : Option Nat :=
  (timestamp line).value?

end RelayMesh.Measurement
