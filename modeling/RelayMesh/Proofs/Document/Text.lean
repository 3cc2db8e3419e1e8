import Mathlib.Tactic.SplitIfs
import RelayMesh.Document.Printer
import RelayMesh.Document.Reader

namespace RelayMesh.Document

theorem codeUnit?_control {n : Nat} (control : n < 0x20) :
    codeUnit? '0' '0' (Nat.digitChar (n / 16)) (Nat.digitChar (n % 16)) = some n := by
  have all : ∀ n < 0x20,
      codeUnit? '0' '0' (Nat.digitChar (n / 16)) (Nat.digitChar (n % 16)) = some n := by decide
  exact all n control

theorem readTextFrom_control {c : Char} (control : c.toNat < 0x20) (done rest : List Char) :
    readTextFrom done ('\\' :: 'u' :: '0' :: '0' :: Nat.digitChar (c.toNat / 16) ::
      Nat.digitChar (c.toNat % 16) :: rest) = readTextFrom (c :: done) rest := by
  have upper : isUpperSurrogate c.toNat = false := by
    rw [isUpperSurrogate, decide_eq_false (by omega), Bool.false_and]
  have lower : isLowerSurrogate c.toNat = false := by
    rw [isLowerSurrogate, decide_eq_false (by omega), Bool.false_and]
  rw [readTextFrom]
  simp only [codeUnit?_control control, upper, lower, if_false, Bool.false_eq_true,
    Char.ofNat_toNat]

theorem readTextFrom_plain {c : Char} (quote : c ≠ '"') (backslash : c ≠ '\\')
    (printable : ¬ c.toNat < 0x20) (done rest : List Char) :
    readTextFrom done (c :: rest) = readTextFrom (c :: done) rest := by
  rw [readTextFrom]
  · rw [if_neg printable]
  · exact quote
  · exact fun _ _ _ _ _ same _ => backslash same
  · exact fun _ _ same _ => backslash same

theorem readTextFrom_escapedChar (c : Char) (done rest : List Char) :
    readTextFrom done (escapedChar c ++ rest) = readTextFrom (c :: done) rest := by
  unfold escapedChar
  split_ifs with quote backslash backspace feed line back tab control
  · subst quote; rfl
  · subst backslash; rfl
  · subst backspace; rfl
  · subst feed; rfl
  · subst line; rfl
  · subst back; rfl
  · subst tab; rfl
  · exact readTextFrom_control control done rest
  · exact readTextFrom_plain quote backslash control done rest

theorem readTextFrom_escaped (cs done rest : List Char) :
    readTextFrom done (cs.flatMap escapedChar ++ '"' :: rest) =
      some (String.ofList (done.reverse ++ cs), rest) := by
  induction cs generalizing done with
  | nil =>
    rw [List.append_nil]
    rfl
  | cons c cs ih =>
    rw [List.flatMap_cons, List.append_assoc, readTextFrom_escapedChar, ih, List.reverse_cons,
      List.append_assoc, List.singleton_append]

theorem readText_printText (s : String) (rest : List Char) :
    readText (s.toList.flatMap escapedChar ++ '"' :: rest) = some (s, rest) := by
  rw [readText, readTextFrom_escaped, List.reverse_nil, List.nil_append, String.ofList_toList]

end RelayMesh.Document
