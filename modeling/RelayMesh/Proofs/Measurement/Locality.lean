import RelayMesh.Files.System
import RelayMesh.Proofs.Measurement.Sample
import RelayMesh.Proofs.Measurement.TraceLine
import RelayMesh.Proofs.Text.ByteLines

namespace RelayMesh.Measurement

open Files (FileSystem)
open Text (splitOn)
open Text.Utf8 (decodeLossy)

variable {β : Type}

def readPieces (one : List Char → Option β) (pieces : List (List UInt8)) : List β :=
  pieces.filterMap fun piece => one (decodeLossy piece)

/-- Logs are read by `all` as the lines of their bytes are read by `one`. -/
structure ReadsByLine (one : List Char → Option β) (all : List (List Char) → List β) : Prop where
  pieces : ∀ bytes, all (Text.lines (decodeLossy bytes)) = readPieces one (splitOn 0x0A bytes)
  files : ∀ {m : Type → Type} [Monad m] [LawfulMonad m] [FileSystem m] (path : String),
    (Except.map fun text => all (Text.lines text)) <$> Files.readLog (m := m) path =
      (Except.map fun bytes => readPieces one (splitOn 0x0A bytes)) <$> FileSystem.read path
  blind : ∀ line, one (decodeLossy (line ++ [0x0D])) = one (decodeLossy line)
  /-- The bytes of a line have no influence on what is read in front of it and behind. -/
  around : ∀ front line back : List UInt8, (∀ byte ∈ front.getLast?, byte = 0x0A) → 0x0A ∉ line →
    (∀ byte ∈ back.head?, byte = 0x0A) →
    all (Text.lines (decodeLossy (front ++ (line ++ back)))) =
      all (Text.lines (decodeLossy front)) ++
        ((one (decodeLossy line)).toList ++ all (Text.lines (decodeLossy back)))

section

variable {one : List Char → Option β}

theorem filterMap_lines_decodeLossy (ignores : Text.IgnoresReturn one) (bytes : List UInt8) :
    (Text.lines (decodeLossy bytes)).filterMap one = readPieces one (splitOn 0x0A bytes) := by
  rw [ignores.filterMap_lines, Text.Utf8.splitOn_decodeLossy, List.filterMap_map]
  rfl

@[simp] theorem readPieces_append (front back : List (List UInt8)) :
    readPieces one (front ++ back) = readPieces one front ++ readPieces one back :=
  List.filterMap_append

theorem readPieces_singleton (piece : List UInt8) :
    readPieces one [piece] = (one (decodeLossy piece)).toList := by
  cases read : one (decodeLossy piece) with
  | none => simp [readPieces, read]
  | some b => simp [readPieces, read]

theorem readPieces_empty (ignores : Text.IgnoresReturn one) : readPieces one [[]] = [] := by
  rw [readPieces_singleton, show decodeLossy [] = [] from rfl, ignores.empty]
  rfl

theorem readPieces_ended (ignores : Text.IgnoresReturn one) {front : List UInt8}
    (ended : ∀ byte ∈ front.getLast?, byte = 0x0A) (rest : List UInt8) :
    readPieces one (splitOn 0x0A (front ++ rest)) =
      readPieces one (splitOn 0x0A front) ++ readPieces one (splitOn 0x0A rest) := by
  rcases List.eq_nil_or_concat' front with rfl | ⟨lines, byte, rfl⟩
  · simp [readPieces_empty ignores]
  · obtain rfl := ended byte List.getLast?_concat
    rw [List.append_assoc, List.singleton_append, Text.splitOn_append, Text.splitOn_append]
    simp [readPieces_empty ignores]

theorem readPieces_line (ignores : Text.IgnoresReturn one) {line back : List UInt8}
    (free : 0x0A ∉ line) (start : ∀ byte ∈ back.head?, byte = 0x0A) :
    readPieces one (splitOn 0x0A (line ++ back)) =
      (one (decodeLossy line)).toList ++ readPieces one (splitOn 0x0A back) := by
  cases back with
  | nil => simp [Text.splitOn_of_not_mem free, readPieces_singleton, readPieces_empty ignores]
  | cons byte back =>
    obtain rfl := start byte rfl
    have behind := Text.splitOn_append 0x0A [] back
    rw [List.nil_append] at behind
    rw [Text.splitOn_append, behind, Text.splitOn_of_not_mem free, readPieces_append,
      readPieces_append, Text.splitOn_nil, readPieces_singleton, readPieces_empty ignores,
      List.nil_append]

theorem readsByLine (ignores : Text.IgnoresReturn one) : ReadsByLine one (List.filterMap one) where
  pieces := filterMap_lines_decodeLossy ignores
  files path := by
    simp only [Files.readLog, bind_pure_comp, Functor.map_map]
    congr 1
    funext read
    cases read with
    | error e => rfl
    | ok bytes => exact congrArg Except.ok (filterMap_lines_decodeLossy ignores bytes)
  blind line := by
    rw [Text.Utf8.decodeLossy_ascii (by decide)]
    exact ignores.blind (decodeLossy line)
  around front line back ended free start := by
    simp only [filterMap_lines_decodeLossy ignores]
    rw [readPieces_ended ignores ended, readPieces_line ignores free start]

end

/-- Samples and trace records are read line by line, whatever bytes stand in the other lines. -/
theorem logs_read_by_line :
    ReadsByLine sampleOfLine? samplesOfLines ∧ ReadsByLine recordOfLine? recordsOfLines :=
  ⟨readsByLine ignoresReturn_sampleOfLine?, readsByLine ignoresReturn_recordOfLine?⟩

end RelayMesh.Measurement
