import AstForge.Proofs.Table.Parsed
import AstForge.Resolved

/-!
# Resolved tables — the names of a table that was read

Every name that resolving settles is a word (`Table.WellFormed.words_resolve`): the declared names
and the identifiers of the fields are identifiers, and the visit methods and their parameter are
derived from such names.  The types of a table that was read from a text stand on one line each
(`Table.types_oneLine_resolve`).
-/

namespace AstForge

open Text

/-- The name of a declaration and the identifiers of its fields are words. -/
structure ResolvedData.Words (d : ResolvedData) : Prop where
  name : IsWord d.name.toList
  identifiers : ∀ f ∈ d.fields, IsWord f.identifier.toList

/-- Every name of the table is a word. -/
structure ResolvedTable.Words (t : ResolvedTable) : Prop where
  base : IsWord t.base.toList
  parameter : IsWord t.visitorParameter.toList
  shapes : ∀ s ∈ t.shapes, s.toResolvedData.Words
  visitMethods : ∀ s ∈ t.shapes, IsWord s.visitMethod.toList
  dataTypes : ∀ d ∈ t.dataTypes, d.Words

/-- The visit method of words is a word. -/
theorem isWord_visitMethodName {shape base : String} (hs : IsWord shape.toList)
    (hb : IsWord base.toList) : IsWord (visitMethodName shape base).toList := by
  rw [visitMethodName, String.toList_append, String.toList_append]
  exact ((by decide : IsWord "visit".toList).append hs).append hb

/-- The names of a resolved declaration are words. -/
theorem Table.WellFormed.words_resolveData {t : Table} (h : t.WellFormed) {s : Shape}
    (hs : s ∈ t.declaredShapes) : (s.resolveData t.base).Words := by
  refine ⟨isWord_of_isIdentifier ((Table.validate_eq_ok_iff.mp h.valid).names s hs), fun f hf => ?_⟩
  obtain ⟨g, hg, rfl⟩ := List.mem_map.mp hf
  exact ((h.fields s hs).readable g hg).isWord

/-- **Every name of a well-formed table is a word**, those that resolving derives included. -/
theorem Table.WellFormed.words_resolve {t : Table} (h : t.WellFormed) : t.resolve.Words := by
  have hbase : IsWord t.base.toList :=
    isWord_of_isIdentifier (Table.validate_eq_ok_iff.mp h.valid).base
  refine ⟨hbase, isWord_toLower hbase, ?_, ?_, ?_⟩
  · intro s hs
    obtain ⟨s, hmem, rfl⟩ := List.mem_map.mp hs
    exact h.words_resolveData (List.mem_append_left _ hmem)
  · intro s hs
    obtain ⟨s, hmem, rfl⟩ := List.mem_map.mp hs
    exact isWord_visitMethodName (h.words_resolveData (List.mem_append_left _ hmem)).name hbase
  · intro d hd
    obtain ⟨d, hmem, rfl⟩ := List.mem_map.mp hd
    exact h.words_resolveData (List.mem_append_right _ hmem)

/-- Types that were read from a source hold no line feed. -/
theorem Table.types_oneLine_resolve {base source : String} {t : Table}
    (h : Table.ofSource base source = .ok t) :
    (∀ s ∈ t.resolve.shapes, ∀ f ∈ s.fields, '\n' ∉ f.type.toList) ∧
      ∀ d ∈ t.resolve.dataTypes, ∀ f ∈ d.fields, '\n' ∉ f.type.toList := by
  have htypes := Table.types_oneLine_of_ofSource h
  constructor
  · intro s hs f hf
    obtain ⟨s, hmem, rfl⟩ := List.mem_map.mp hs
    obtain ⟨g, hg, rfl⟩ := List.mem_map.mp hf
    exact htypes s (List.mem_append_left _ hmem) g hg
  · intro d hd f hf
    obtain ⟨d, hmem, rfl⟩ := List.mem_map.mp hd
    obtain ⟨g, hg, rfl⟩ := List.mem_map.mp hf
    exact htypes d (List.mem_append_right _ hmem) g hg

end AstForge
