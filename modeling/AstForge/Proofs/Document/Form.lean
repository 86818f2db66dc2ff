import AstForge.Proofs.Document.Writable

/-!
# Documents — the form of a document

The pieces of a document are made by steps that may refuse a name.  A table that passes the check
has no such name, so its document is always made and has one fixed form (`Document.form`), in which
every name stands as it is written.

* `Document.lines_eq_ok_iff`: the lines of a document are made exactly when the check passes, and
  they are the lines of the form.
* `Table.generate_eq_ok_iff`: likewise for the text.
-/

namespace AstForge

/-- A fallible map whose elements all succeed, by a function, is that function's map. -/
theorem mapM_eq_ok_map {ε α β : Type} {f : α → Except ε β} {g : α → β} {xs : List α}
    (h : ∀ x ∈ xs, f x = .ok (g x)) : xs.mapM f = .ok (xs.map g) := by
  rw [mapM_eq_ok_iff, List.forall₂_map_right_iff, List.forall₂_same]
  exact h

namespace TaggedUnion

/-- A field with its name as the document writes it. -/
def NamedField.ofField (f : ResolvedField) : NamedField :=
  ⟨written f.identifier, f⟩

/-- Fields whose names can be written are all named. -/
theorem nameFields_eq_ok {fs : List ResolvedField}
    (h : ∀ f ∈ fs, f.identifier ∉ unwritable) :
    nameFields fs = .ok (fs.map NamedField.ofField) := by
  refine mapM_eq_ok_map fun f hf => ?_
  rw [identifier_eq_ok_iff.mpr ⟨h f hf, rfl⟩]
  rfl

end TaggedUnion

namespace Document

open TaggedUnion (NamedField)

/-- The visitor, its parameter as it is written. -/
def visitorForm (cfg : Config) (t : ResolvedTable) : List Line :=
  match cfg.target with
  | .java => ClassHierarchy.visitor t
  | .rust => TaggedUnion.visitorLines t (TaggedUnion.written t.visitorParameter)

/-- The node of a shape, its fields as they are written. -/
def nodeForm (cfg : Config) (t : ResolvedTable) (s : ResolvedShape) : List Line :=
  match cfg.target with
  | .java => ClassHierarchy.node t s
  | .rust => TaggedUnion.nodeLines cfg t s (s.fields.map NamedField.ofField)

/-- A data type, its fields as they are written. -/
def dataTypeForm (cfg : Config) (t : ResolvedTable) (d : ResolvedData) : List Line :=
  match cfg.target with
  | .java => ClassHierarchy.dataType d
  | .rust => TaggedUnion.dataTypeLines cfg t d (d.fields.map NamedField.ofField)

/-- The lines of a document in which every name can be written. -/
def form (cfg : Config) (t : ResolvedTable) : List Line :=
  preamble cfg t ++ opening cfg t ++ visitorForm cfg t ++
    (t.shapes.map (nodeForm cfg t) ++ t.dataTypes.map (dataTypeForm cfg t)).flatMap
      (Line.blank :: ·) ++
    Line.blank :: dispatch cfg t ++ closing cfg

/-- The form of a class hierarchy, piece by piece. -/
theorem form_java {cfg : Config} (h : cfg.target = .java) (t : ResolvedTable) :
    form cfg t = ClassHierarchy.preamble cfg t ++ ClassHierarchy.opening t ++
      ClassHierarchy.visitor t ++
      (t.shapes.map (ClassHierarchy.node t) ++
        t.dataTypes.map ClassHierarchy.dataType).flatMap (Line.blank :: ·) ++
      Line.blank :: ClassHierarchy.dispatch ++ ClassHierarchy.closing := by
  obtain ⟨target, indent, package, imports, header, derives⟩ := cfg
  obtain rfl : target = .java := h
  rfl

/-- The form of a tagged union, piece by piece. -/
theorem form_rust {cfg : Config} (h : cfg.target = .rust) (t : ResolvedTable) :
    form cfg t = TaggedUnion.preamble cfg ++ TaggedUnion.opening cfg t ++
      TaggedUnion.visitorLines t (TaggedUnion.written t.visitorParameter) ++
      (t.shapes.map (fun s => TaggedUnion.nodeLines cfg t s (s.fields.map NamedField.ofField)) ++
        t.dataTypes.map fun d =>
          TaggedUnion.dataTypeLines cfg t d (d.fields.map NamedField.ofField)).flatMap
        (Line.blank :: ·) ++
      Line.blank :: TaggedUnion.dispatch t ++ TaggedUnion.closing := by
  obtain ⟨target, indent, package, imports, header, derives⟩ := cfg
  obtain rfl : target = .rust := h
  rfl

/-- A table that passes the check has a visitor, nodes and data types. -/
theorem pieces_eq_ok {cfg : Config} {t : ResolvedTable} (h : check cfg t = .ok ()) :
    visitor cfg t = .ok (visitorForm cfg t) ∧
      (∀ s ∈ t.shapes, node cfg t s = .ok (nodeForm cfg t s)) ∧
      ∀ d ∈ t.dataTypes, dataType cfg t d = .ok (dataTypeForm cfg t d) := by
  unfold check at h
  unfold visitor visitorForm node nodeForm dataType dataTypeForm
  cases htarget : cfg.target with
  | java => exact ⟨rfl, fun _ _ => rfl, fun _ _ => rfl⟩
  | rust =>
      simp only [htarget] at h
      have hw := TaggedUnion.check_eq_ok_iff.mp h
      refine ⟨?_, fun s hs => ?_, fun d hd => ?_⟩
      · simp only [TaggedUnion.visitor, TaggedUnion.identifier_eq_ok_iff.mpr ⟨hw.parameter, rfl⟩]
        rfl
      · simp only [TaggedUnion.node, TaggedUnion.nameFields_eq_ok (hw.shapes s hs).fields]
        rfl
      · simp only [TaggedUnion.dataType, TaggedUnion.nameFields_eq_ok (hw.dataTypes d hd).fields]
        rfl

/-- **The check decides.**  The lines of a document are made exactly when the check passes, and
they have the one form. -/
theorem lines_eq_ok_iff {cfg : Config} {t : ResolvedTable} {ls : List Line} :
    lines cfg t = .ok ls ↔ check cfg t = .ok () ∧ ls = form cfg t := by
  rw [lines, check_bind_eq_ok_iff]
  refine and_congr_right fun h => ?_
  obtain ⟨hvisitor, hnodes, hdata⟩ := pieces_eq_ok h
  rw [hvisitor, mapM_eq_ok_map hnodes, mapM_eq_ok_map hdata]
  exact ⟨fun hls => (Except.ok.inj hls).symm, fun hls => hls ▸ rfl⟩

end Document

/-- A document is made when the table passes the check, and is the text of its form. -/
theorem Table.generate_eq_ok_iff {t : Table} {cfg : Config} {doc : String} :
    t.generate cfg = .ok doc ↔
      Document.check cfg t.resolve = .ok () ∧
        doc = renderLines cfg.indent (Document.form cfg t.resolve) := by
  rw [Table.generate, ResolvedTable.generate, map_eq_ok_iff]
  simp only [Document.lines_eq_ok_iff]
  constructor
  · rintro ⟨ls, ⟨hcheck, rfl⟩, rfl⟩
    exact ⟨hcheck, rfl⟩
  · rintro ⟨hcheck, rfl⟩
    exact ⟨_, ⟨hcheck, rfl⟩, rfl⟩

end AstForge
