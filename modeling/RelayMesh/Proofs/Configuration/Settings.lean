import RelayMesh.Configuration.Form
import RelayMesh.Proofs.Draft.Document
import RelayMesh.Proofs.Network.Form
import RelayMesh.Routing.Routes

namespace RelayMesh

open Form (write)
open Setting (get? need? values)

/-- A document that a file can hold and that is a given setting when it is read from there. -/
structure Keeps {α : Type} [Setting α] (d : Document) (a : α) : Prop where
  sound : d.Sound
  read : ∀ {e : Draft}, d.SpelledBy e → Setting.ofDraft? e = some a

/-! ### Numbers -/

theorem below?_spelled {limit n : Nat} {e : Draft} (below : n < limit)
    (spelled : (Document.nat n).SpelledBy e) : Setting.below? limit e = some n := by
  obtain rfl := spelled.of_int
  have digits : Document.printInt n = Text.decimal n := if_neg (by omega)
  change (Text.natural? (String.ofList (Document.printInt n)).toList).filter _ = _
  rw [digits, String.toList_ofList, Text.natural?_decimal, Option.filter_some,
    if_pos (by simpa using below)]

theorem keeps_nat {n : Nat} (below : n < UInt64.size) : Keeps (write n) n :=
  ⟨Document.sound_int n, below?_spelled below⟩

theorem keeps_word {α : Type} [Setting α] {ofNat : Nat → α} {limit n : Nat} {a : α}
    (reader : ∀ e, Setting.ofDraft? e = (Setting.below? limit e).map ofNat) (below : n < limit)
    (same : ofNat n = a) : Keeps (write n) a where
  sound := Document.sound_int n
  read spelled := by
    rw [reader, below?_spelled below spelled, Option.map_some, same]

theorem keeps_uInt8 (n : UInt8) : Keeps (write n) n :=
  keeps_word (fun _ => rfl) n.toNat_lt UInt8.ofNat_toNat

theorem keeps_uInt16 (n : UInt16) : Keeps (write n) n :=
  keeps_word (fun _ => rfl) n.toNat_lt UInt16.ofNat_toNat

theorem keeps_uInt32 (n : UInt32) : Keeps (write n) n :=
  keeps_word (fun _ => rfl) n.toNat_lt UInt32.ofNat_toNat

theorem keeps_uInt64 (n : UInt64) : Keeps (write n) n :=
  keeps_word (fun _ => rfl) n.toNat_lt UInt64.ofNat_toNat

theorem keeps_float {x : Binary64} (finite : x.isFinite = true) : Keeps (write x) x where
  sound := Document.sound_float finite
  read spelled := by
    obtain ⟨s, rfl, value⟩ := Document.SpelledBy.of_float spelled
    change (Decimal.read? s).filter _ = _
    rw [value, Option.filter_some, if_pos finite]

/-! ### Texts and choices -/

theorem keeps_string (s : String) : Keeps (write s) s where
  sound := Document.sound_text s
  read spelled := by
    rw [Document.SpelledBy.of_text spelled]
    rfl

theorem keeps_bool (b : Bool) : Keeps (write b) b where
  sound := Document.sound_bool b
  read spelled := by
    rw [Document.SpelledBy.of_bool spelled]
    cases b <;> rfl

theorem keeps_network (net : Network) : Keeps (write net) net where
  sound := Document.sound_text _
  read spelled := by
    rw [Document.SpelledBy.of_text spelled]
    exact net.read?_toString

theorem keeps_meshMode (mode : MeshMode) : Keeps (write mode) mode where
  sound := Document.sound_text _
  read spelled := by
    rw [Document.SpelledBy.of_text spelled]
    cases mode <;> rfl

theorem keeps_duplicateEdges (policy : DuplicateEdges) : Keeps (write policy) policy where
  sound := Document.sound_text _
  read spelled := by
    rw [Document.SpelledBy.of_text spelled]
    cases policy <;> rfl

theorem ofDraft?_option {α : Type} [Setting α] {d : Draft} (other : d ≠ .word "null") :
    (Setting.ofDraft? d : Option (Option α)) = (Setting.ofDraft? d).map some := by
  simp only [Setting.ofDraft?]

theorem keeps_delay {delay : Option Binary64} (finite : ∀ x ∈ delay, x.isFinite = true) :
    Keeps (write delay) delay := by
  cases delay with
  | none =>
    refine ⟨Document.sound_null, fun spelled => ?_⟩
    rw [Document.SpelledBy.of_null spelled]
    rfl
  | some x =>
    have kept := keeps_float (finite x rfl)
    refine ⟨kept.sound, fun {e} spelled => ?_⟩
    have read := kept.read spelled
    have no_null : e ≠ .word "null" := by
      rintro rfl
      contradiction
    rw [ofDraft?_option no_null, read, Option.map_some]

/-! ### Lists -/

theorem keeps_list {α : Type} [Setting α] {write : α → Document} {xs : List α}
    (each : ∀ a ∈ xs, Keeps (write a) a) : Keeps (.list (xs.map write)) xs where
  sound := Document.sound_list (List.forall_mem_map.mpr fun a member => (each a member).sound)
  read spelled := by
    obtain ⟨drafts, rfl, items⟩ := spelled.of_list
    have read : List.Forall₂ (fun a e => Setting.ofDraft? e = some a) xs drafts := by
      refine ((List.forall₂_and_left xs drafts).mpr ⟨each, List.forall₂_map_left_iff.mp items⟩).imp ?_
      exact fun a e both => both.1.read both.2
    exact Checked.mapM_eq_some_iff.mpr read

theorem keeps_strings (texts : List String) : Keeps (write texts) texts :=
  keeps_list fun s _ => keeps_string s

/-! ### Objects -/

theorem values_cons (name other : String) (d : Draft) (fields : List (String × Draft)) :
    values ((other, d) :: fields) name =
      if other = name then d :: values fields name else values fields name := by
  rw [values, List.filter_cons]
  by_cases same : other = name
  · rw [if_pos same, if_pos (beq_iff_eq.mpr same)]
    rfl
  · rw [if_neg same, if_neg (by rwa [beq_iff_eq])]
    rfl

theorem values_eq_nil {name : String} {fields : List (String × Draft)}
    (missing : name ∉ fields.map (·.1)) : values fields name = [] := by
  rw [values, List.map_eq_nil_iff, List.filter_eq_nil_iff]
  intro field member same
  exact missing (List.mem_map.mpr ⟨field, member, beq_iff_eq.mp same⟩)

section Fields

variable {fields : List (String × Document)} {drafts : List (String × Draft)}
  {name : String} {d : Document}

open Document (lookup FieldsSpelledBy)

theorem values_spelled (spelled : FieldsSpelledBy fields drafts)
    (distinct : (fields.map (·.1)).Nodup) (found : lookup name fields = some d) :
    ∃ e, d.SpelledBy e ∧ values drafts name = [e] := by
  obtain ⟨names, each⟩ := spelled
  induction fields generalizing drafts with
  | nil => contradiction
  | cons field fields ih =>
    obtain ⟨other, first⟩ := field
    cases drafts with
    | nil => contradiction
    | cons draft drafts =>
      obtain ⟨own, e⟩ := draft
      obtain ⟨same, others⟩ := List.cons.inj names
      cases each with
      | cons spelled each =>
        change own = other at same
        subst same
        rw [List.map_cons, List.nodup_cons] at distinct
        rw [Document.lookup_cons] at found
        rw [values_cons]
        by_cases here : own = name
        · subst here
          rw [if_pos rfl] at found ⊢
          cases found
          exact ⟨e, spelled, by rw [values_eq_nil (others ▸ distinct.1)]⟩
        · rw [if_neg here] at found ⊢
          exact ih distinct.2 found others each

variable {α : Type} [Setting α] {a : α}

theorem get?_spelled (spelled : FieldsSpelledBy fields drafts)
    (distinct : (fields.map (·.1)).Nodup) (found : lookup name fields = some d) (keeps : Keeps d a)
    (standard : α) : get? drafts name standard = some a := by
  obtain ⟨e, spelled, only⟩ := values_spelled spelled distinct found
  rw [get?, only]
  exact keeps.read spelled

theorem need?_spelled (spelled : FieldsSpelledBy fields drafts)
    (distinct : (fields.map (·.1)).Nodup) (found : lookup name fields = some d)
    (keeps : Keeps d a) : need? drafts name = some a := by
  obtain ⟨e, spelled, only⟩ := values_spelled spelled distinct found
  rw [need?, only]
  exact keeps.read spelled

end Fields

end RelayMesh
