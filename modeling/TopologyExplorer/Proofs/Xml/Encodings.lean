import TopologyExplorer.Proofs.Descriptor.Success
import TopologyExplorer.Xml.Document

/-!
# Foreign encodings

A document that declares an encoding which not every reader knows is read as the codecs have it. It
is barred if they have no table for the name. That shows before a byte behind the declaration is
read, and nothing else about a document does.
-/

namespace TopologyExplorer.Xml

/-- A document declares an encoding that is left to the codecs. -/
def DeclaresForeign (bytes : List UInt8) (name : String) : Prop :=
  ∃ declaration first behind, start? bytes = some (declaration, first, behind) ∧
    declaration.encoding = some name ∧ first.known? name = none

variable [Codecs] {bytes : List UInt8} {fault : CodecFault}

/-- A document declares an encoding that the codecs have no table for. -/
def IsBarred (bytes : List UInt8) (fault : CodecFault) : Prop :=
  ∃ name, DeclaresForeign bytes name ∧ Codecs.table name = .error fault

omit [Codecs] in
theorem orMalformed_eq_ok_iff {α : Type} {x : Option α} {a : α} :
    orMalformed x = .ok a ↔ x = some a := by
  cases x <;> simp [orMalformed]

omit [Codecs] in
theorem orMalformed_ne_encoding {α : Type} {x : Option α} :
    orMalformed x ≠ .error (.encoding fault) := by
  cases x <;> simp [orMalformed]

theorem Encoding.declared_eq_encoding_iff {e : Encoding} {named : Option String} :
    e.declared named = .error (.encoding fault) ↔
      ∃ name, named = some name ∧ e.known? name = none ∧ Codecs.table name = .error fault := by
  cases named with
  | none => simp [declared]
  | some name =>
    simp only [declared, Option.some.injEq, exists_eq_left']
    cases hKnown : e.known? name with
    | some next => cases hAdmits : e.admits next <;> simp [hAdmits]
    | none =>
      cases hTable : Codecs.table name with
      | error found => simp
      | ok charOf => cases hRegular : charOf.isRegular <;> simp [hRegular]

theorem text_eq_encoding_iff : text bytes = .error (.encoding fault) ↔ IsBarred bytes fault := by
  unfold text
  simp only [bind_eq_error_iff, orMalformed_ne_encoding, orMalformed_eq_ok_iff, false_or]
  constructor
  · rintro ⟨⟨declaration, first, behind⟩, hStart, hDeclared | ⟨encoding, -, cs, -, hLegal⟩⟩
    · obtain ⟨name, hName, hForeign, hTable⟩ := Encoding.declared_eq_encoding_iff.mp hDeclared
      exact ⟨name, ⟨declaration, first, behind, hStart, hName, hForeign⟩, hTable⟩
    · split at hLegal <;> cases hLegal
  · rintro ⟨name, ⟨declaration, first, behind, hStart, hName, hForeign⟩, hTable⟩
    exact ⟨_, hStart, .inl (Encoding.declared_eq_encoding_iff.mpr ⟨name, hName, hForeign, hTable⟩)⟩

theorem rootOf_eq_encoding_iff :
    rootOf bytes = .error (.encoding fault) ↔ IsBarred bytes fault := by
  unfold rootOf
  simp only [bind_eq_error_iff, orMalformed_ne_encoding, and_false, exists_false, or_false]
  exact text_eq_encoding_iff

end TopologyExplorer.Xml
