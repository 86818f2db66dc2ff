import AstForge.Proofs.Document.Rows
import AstForge.Proofs.Table.Resolved

/-!
# Documents — every line of a document is plain

`plain_form`: the lines of a document are plain, for a table whose names are words and whose types
stand on one line each, and for settings that stand on one line each.  The header may be any text,
since every line of it becomes a comment.
-/

namespace AstForge

open Text

namespace ClassHierarchy

/-- Inserting an import adds it and keeps the others. -/
theorem mem_insertImport {name other : String} {names : List String} :
    other ∈ insertImport name names ↔ other = name ∨ other ∈ names := by
  induction names with
  | nil => simp [insertImport]
  | cons first names ih =>
      rw [insertImport]
      split
      · simp
      · split
        · next heq =>
            subst heq
            simp
        · rw [List.mem_cons, ih, List.mem_cons]
          tauto

theorem mem_foldr_insertImport {name : String} {names : List String} :
    name ∈ names.foldr insertImport [] ↔ name ∈ names := by
  induction names with
  | nil => rfl
  | cons first names ih => rw [List.foldr_cons, mem_insertImport, ih, List.mem_cons]

/-- An import is chosen, or is that of a collection type. -/
theorem mem_imports {cfg : Config} {t : ResolvedTable} {name : String} (h : name ∈ imports cfg t) :
    (∃ type ∈ utilTypes, name = "java.util." ++ type) ∨ name ∈ cfg.imports := by
  rcases List.mem_append.mp (mem_foldr_insertImport.mp h) with hm | hm
  · obtain ⟨type, htype, rfl⟩ := List.mem_map.mp hm
    exact .inl ⟨type, by simpa using (List.mem_filter.mp htype).2, rfl⟩
  · exact .inr hm

/-- What a line of the preamble is. -/
theorem mem_preamble {cfg : Config} {t : ResolvedTable} {l : Line} (h : l ∈ preamble cfg t) :
    l = Line.blank ∨ (∃ text, cfg.header = some text ∧ l ∈ commentLines text) ∨
      (∃ name, cfg.package = some name ∧ l = ⟨0, "package " ++ name ++ ";"⟩) ∨
      ∃ name ∈ imports cfg t, l = ⟨0, "import " ++ name ++ ";"⟩ := by
  rcases mem_joinSections h with rfl | ⟨ls, hls, hl⟩
  · exact .inl rfl
  · rcases List.mem_append.mp hls with hls | hls
    · rcases List.mem_append.mp hls with hls | hls
      · obtain ⟨text, htext, rfl⟩ : ∃ text, cfg.header = some text ∧ commentLines text = ls := by
          simpa using hls
        exact .inr (.inl ⟨text, htext, hl⟩)
      · obtain ⟨name, hname, rfl⟩ :
            ∃ name, cfg.package = some name ∧ [⟨0, "package " ++ name ++ ";"⟩] = ls := by
          simpa using hls
        exact .inr (.inr (.inl ⟨name, hname, List.mem_singleton.mp hl⟩))
    · split at hls
      · cases hls
      · obtain rfl := List.mem_singleton.mp hls
        obtain ⟨name, hname, rfl⟩ := List.mem_map.mp hl
        exact .inr (.inr (.inr ⟨name, hname, rfl⟩))

theorem plain_constructor {d : ResolvedData} (hd : d.Words)
    (htypes : ∀ f ∈ d.fields, '\n' ∉ f.type.toList) :
    ∀ l ∈ constructor d, Plain l.text.toList := by
  have hnames : ∀ f ∈ d.fields, '\n' ∉ f.identifier.toList :=
    fun f hf => (hd.identifiers f hf).newline_notMem
  have hparameters : '\n' ∉ (", ".intercalate
      (d.fields.map fun f => f.type ++ " " ++ f.identifier)).toList := by
    refine notMem_intercalate (by decide) fun p hp => ?_
    obtain ⟨f, hf, rfl⟩ := List.mem_map.mp hp
    simp [htypes f hf, hnames f hf]
  simp only [constructor, List.cons_append, List.forall_mem_cons, List.forall_mem_append,
    List.forall_mem_map, String.toList_append, List.append_assoc]
  refine ⟨plain_word_append hd.name ?_, fun f hf => ?_, ?_, by simp⟩
  · simp [plain_cons, isIndentChar, -String.toList_intercalate, hparameters]
  · simp [plain_cons, isIndentChar, hnames f hf]
  · simp [plain_cons, isIndentChar]

theorem plain_fieldLines {d : ResolvedData} (hd : d.Words)
    (htypes : ∀ f ∈ d.fields, '\n' ∉ f.type.toList) :
    ∀ l ∈ fieldLines d, Plain l.text.toList := by
  rw [fieldLines]
  split
  · simp
  · rw [List.forall_mem_cons, List.forall_mem_map]
    refine ⟨plain_nil, fun f hf => ?_⟩
    simp [plain_cons, isIndentChar, htypes f hf, (hd.identifiers f hf).newline_notMem]

/-- The lines of a node are plain if its types hold no line feed. -/
theorem plain_node {t : ResolvedTable} {s : ResolvedShape} (ht : t.Words) (hs : s ∈ t.shapes)
    (htypes : ∀ f ∈ s.fields, '\n' ∉ f.type.toList) :
    ∀ l ∈ node t s, Plain l.text.toList := by
  have hbase := ht.base.newline_notMem
  have hname := (ht.shapes s hs).name.newline_notMem
  have hvisit := (ht.visitMethods s hs).newline_notMem
  simp only [node, acceptMethod, List.cons_append, List.forall_mem_cons, List.forall_mem_append,
    and_assoc]
  refine ⟨?_, plain_constructor (ht.shapes s hs) htypes, plain_nil, ?_, ?_, ?_, ?_, by simp,
    plain_fieldLines (ht.shapes s hs) htypes, ?_, by simp⟩
  all_goals simp [plain_cons, isIndentChar, hbase, hname, hvisit]

theorem plain_dataType {d : ResolvedData} (hd : d.Words)
    (htypes : ∀ f ∈ d.fields, '\n' ∉ f.type.toList) :
    ∀ l ∈ dataType d, Plain l.text.toList := by
  have hname := hd.name.newline_notMem
  simp only [dataType, List.cons_append, List.forall_mem_cons, List.forall_mem_append, and_assoc]
  refine ⟨?_, plain_constructor hd htypes, plain_fieldLines hd htypes, ?_, by simp⟩
  all_goals simp [plain_cons, isIndentChar, hname]

theorem plain_preamble {cfg : Config} {t : ResolvedTable}
    (hpackage : ∀ name ∈ cfg.package, '\n' ∉ name.toList)
    (himports : ∀ name ∈ cfg.imports, '\n' ∉ name.toList) :
    ∀ l ∈ preamble cfg t, Plain l.text.toList := by
  intro l hl
  rcases mem_preamble hl with rfl | ⟨text, -, hl⟩ | ⟨name, hname, rfl⟩ | ⟨name, hname, rfl⟩
  · exact plain_nil
  · exact plain_of_mem_commentLines hl
  · simp [plain_cons, isIndentChar, hpackage name hname]
  · have hnl : '\n' ∉ name.toList := by
      rcases mem_imports hname with ⟨type, htype, rfl⟩ | hname
      · have hutil : ∀ type ∈ utilTypes, '\n' ∉ ("java.util." ++ type).toList := by decide
        exact hutil type htype
      · exact himports name hname
    simp [plain_cons, isIndentChar, hnl]

theorem plain_visitor {t : ResolvedTable} (ht : t.Words) :
    ∀ l ∈ visitor t, Plain l.text.toList := by
  have hparameter := ht.parameter.newline_notMem
  simp only [visitor, List.cons_append, List.forall_mem_cons, List.forall_mem_append,
    List.forall_mem_map]
  refine ⟨?_, fun s hs => ?_, ?_, by simp⟩
  · simp [plain_cons, isIndentChar]
  · simp [plain_cons, isIndentChar, hparameter, (ht.shapes s hs).name.newline_notMem,
      (ht.visitMethods s hs).newline_notMem]
  · simp [plain_cons, isIndentChar]

end ClassHierarchy

namespace TaggedUnion

/-- A name is written as it is or raw. -/
theorem toList_written (name : String) :
    (written name).toList = name.toList ∨ (written name).toList = 'r' :: '#' :: name.toList := by
  rw [written]
  split
  · exact .inr (by simp)
  · exact .inl rfl

/-- A written name holds letters, digits and underscores, and a `#` if it is raw. -/
theorem notMem_written {name : String} (h : IsWord name.toList) {c : Char}
    (hc : isIdentifierRest c = false) (hraw : c ≠ '#') : c ∉ (written name).toList := by
  have hr : c ≠ 'r' := by
    rintro rfl
    revert hc
    decide
  rcases toList_written name with hw | hw <;> simp [hw, h.notMem hc, hr, hraw]

theorem newline_notMem_written {name : String} (h : IsWord name.toList) :
    '\n' ∉ (written name).toList :=
  notMem_written h (by decide) (by decide)

/-- A plain text stays plain after a written name. -/
theorem plain_written_append {name : String} {cs : List Char} (h : IsWord name.toList)
    (hcs : Plain cs) : Plain ((written name).toList ++ cs) := by
  rcases toList_written name with hw | hw
  · rw [hw]
    exact plain_word_append h hcs
  · simp [hw, plain_cons, isIndentChar, h.newline_notMem, hcs.1]

/-- What a line of the preamble is. -/
theorem mem_preamble {cfg : Config} {l : Line} (h : l ∈ preamble cfg) :
    l = Line.blank ∨ (∃ text, cfg.header = some text ∧ l ∈ commentLines text) ∨
      ∃ name ∈ cfg.imports, l = ⟨0, "use " ++ name ++ ";"⟩ := by
  rcases mem_joinSections h with rfl | ⟨ls, hls, hl⟩
  · exact .inl rfl
  · rcases List.mem_append.mp hls with hls | hls
    · obtain ⟨text, htext, rfl⟩ : ∃ text, cfg.header = some text ∧ commentLines text = ls := by
        simpa using hls
      exact .inr (.inl ⟨text, htext, hl⟩)
    · split at hls
      · cases hls
      · obtain rfl := List.mem_singleton.mp hls
        obtain ⟨name, hname, rfl⟩ := List.mem_map.mp hl
        exact .inr (.inr ⟨name, hname, rfl⟩)

theorem plain_preamble {cfg : Config} (himports : ∀ name ∈ cfg.imports, '\n' ∉ name.toList) :
    ∀ l ∈ preamble cfg, Plain l.text.toList := by
  intro l hl
  rcases mem_preamble hl with rfl | ⟨text, -, hl⟩ | ⟨name, hname, rfl⟩
  · exact plain_nil
  · exact plain_of_mem_commentLines hl
  · simp [plain_cons, isIndentChar, himports name hname]

/-- The attribute is plain if the derived traits hold no line feed. -/
theorem plain_deriveAttribute {derives : List String} (h : ∀ d ∈ derives, '\n' ∉ d.toList) :
    ∀ l ∈ deriveAttribute derives, Plain l.text.toList := by
  rw [deriveAttribute]
  split
  · simp
  · have hlist : '\n' ∉ (", ".intercalate derives).toList := notMem_intercalate (by decide) h
    simp [plain_cons, isIndentChar, -String.toList_intercalate, hlist]

variable {cfg : Config} {t : ResolvedTable} {fs : List ResolvedField}

theorem plain_opening (hderives : ∀ d ∈ cfg.derives, '\n' ∉ d.toList) (ht : t.Words) :
    ∀ l ∈ opening cfg t, Plain l.text.toList := by
  simp only [opening, List.cons_append, List.forall_mem_cons, List.forall_mem_append,
    List.forall_mem_map, String.toList_append, List.append_assoc]
  refine ⟨?_, plain_deriveAttribute hderives, ?_, fun s hs => ?_, ?_, plain_nil, by simp⟩
  · simp [plain_cons, isIndentChar, ht.base.newline_notMem]
  · simp [plain_cons, isIndentChar, ht.base.newline_notMem]
  · refine plain_word_append (ht.shapes s hs).name ?_
    simp [plain_cons, isIndentChar, (ht.shapes s hs).name.newline_notMem]
  · simp [plain_cons, isIndentChar]

theorem plain_visitorLines (ht : t.Words) :
    ∀ l ∈ visitorLines t (written t.visitorParameter), Plain l.text.toList := by
  simp only [visitorLines, visitorTrait, List.cons_append, List.nil_append, List.forall_mem_cons,
    List.forall_mem_append, List.forall_mem_map]
  refine ⟨?_, ?_, fun s hs => ?_, ?_, by simp⟩
  · simp [plain_cons, isIndentChar, ht.base.newline_notMem]
  · simp [plain_cons, isIndentChar, ht.base.newline_notMem]
  · simp [plain_cons, isIndentChar, newline_notMem_written ht.parameter,
      (ht.shapes s hs).name.newline_notMem, ResolvedShape.visitMethodSnake,
      (isWord_toSnakeCase (ht.visitMethods s hs)).newline_notMem]
  · simp [plain_cons, isIndentChar]

theorem plain_structLines {doc name : String} (hderives : ∀ d ∈ cfg.derives, '\n' ∉ d.toList)
    (hbase : IsWord t.base.toList) (hdoc : '\n' ∉ doc.toList) (hname : IsWord name.toList)
    (hfs : ∀ f ∈ fs, IsWord f.identifier.toList) (htypes : ∀ f ∈ fs, '\n' ∉ f.type.toList) :
    ∀ l ∈ structLines cfg t doc name (fs.map NamedField.ofField), Plain l.text.toList := by
  simp only [structLines, List.cons_append, List.forall_mem_cons, List.forall_mem_append,
    List.forall_mem_map, String.toList_append, List.append_assoc]
  refine ⟨?_, plain_deriveAttribute hderives, ?_, fun f hf => ?_, ?_, by simp⟩
  · simp [plain_cons, isIndentChar, hdoc]
  · simp [plain_cons, isIndentChar, hname.newline_notMem]
  · have hstored : '\n' ∉ (storedType t.base f).toList := by
      rw [storedType]
      split
      · simp [hbase.newline_notMem]
      · exact htypes f hf
    refine plain_written_append (hfs f hf) ?_
    simp [plain_cons, isIndentChar, NamedField.ofField, hstored]
  · simp [plain_cons, isIndentChar]

theorem plain_constructor {doc : String} (hdoc : '\n' ∉ doc.toList)
    (hfs : ∀ f ∈ fs, IsWord f.identifier.toList) (htypes : ∀ f ∈ fs, '\n' ∉ f.type.toList) :
    ∀ l ∈ constructor doc (fs.map NamedField.ofField), Plain l.text.toList := by
  have hparameters : '\n' ∉ (", ".intercalate
      ((fs.map NamedField.ofField).map fun f => f.name ++ ": " ++ f.field.type)).toList := by
    refine notMem_intercalate (by decide) fun p hp => ?_
    obtain ⟨f, hf, rfl⟩ := List.mem_map.mp hp
    obtain ⟨f, hmem, rfl⟩ := List.mem_map.mp hf
    simp [NamedField.ofField, newline_notMem_written (hfs f hmem), htypes f hmem]
  simp only [constructor, List.cons_append, List.nil_append, List.forall_mem_cons,
    List.forall_mem_append, List.forall_mem_map]
  refine ⟨?_, ?_, ?_, fun f hf => ?_, ?_, ?_, by simp⟩
  · simp [plain_cons, isIndentChar, hdoc]
  · simp [plain_cons, isIndentChar, -String.toList_intercalate, -List.map_map, hparameters]
  · simp [plain_cons, isIndentChar]
  · rw [initializer]
    split <;> simp only [String.toList_append, List.append_assoc] <;>
      refine plain_written_append (hfs f hf) ?_
    · simp [plain_cons, isIndentChar, NamedField.ofField, newline_notMem_written (hfs f hf)]
    · simp [plain_cons, isIndentChar]
  · simp [plain_cons, isIndentChar]
  · simp [plain_cons, isIndentChar]

theorem plain_accessors (hfs : ∀ f ∈ fs, IsWord f.identifier.toList)
    (htypes : ∀ f ∈ fs, '\n' ∉ f.type.toList) :
    ∀ l ∈ accessors (fs.map NamedField.ofField), Plain l.text.toList := by
  simp only [accessors, List.forall_mem_flatMap, List.forall_mem_map, List.forall_mem_cons]
  intro f hf
  have hname := newline_notMem_written (hfs f hf)
  refine ⟨plain_nil, ?_, ?_, ?_, by simp⟩
  all_goals simp [plain_cons, isIndentChar, NamedField.ofField, hname, htypes f hf]

theorem plain_acceptMethod {s : ResolvedShape} (hbase : IsWord t.base.toList)
    (hvisit : IsWord s.visitMethod.toList) :
    ∀ l ∈ acceptMethod t s, Plain l.text.toList := by
  simp only [acceptMethod, acceptOpening, visitorTrait, List.forall_mem_cons]
  refine ⟨?_, ?_, ?_, by simp⟩
  all_goals simp [plain_cons, isIndentChar, hbase.newline_notMem,
    ResolvedShape.visitMethodSnake, (isWord_toSnakeCase hvisit).newline_notMem]

theorem plain_conversion {s : ResolvedShape} (hbase : IsWord t.base.toList)
    (hname : IsWord s.name.toList) : ∀ l ∈ conversion t s, Plain l.text.toList := by
  have hnode : Plain (t.base ++ "::" ++ s.name ++ "(node)").toList := by
    simp only [String.toList_append, List.append_assoc]
    refine plain_word_append hbase ?_
    simp [plain_cons, isIndentChar, hname.newline_notMem]
  simp only [conversion, List.forall_mem_cons]
  refine ⟨?_, ?_, hnode, ?_, ?_, by simp⟩
  all_goals simp [plain_cons, isIndentChar, hbase.newline_notMem, hname.newline_notMem]

/-- The lines of a shape are plain if its types and the derived traits hold no line feed. -/
theorem plain_nodeLines {s : ResolvedShape} (hderives : ∀ d ∈ cfg.derives, '\n' ∉ d.toList)
    (ht : t.Words) (hs : s ∈ t.shapes) (htypes : ∀ f ∈ s.fields, '\n' ∉ f.type.toList) :
    ∀ l ∈ nodeLines cfg t s (s.fields.map NamedField.ofField), Plain l.text.toList := by
  have hname := (ht.shapes s hs).name
  have hfs := (ht.shapes s hs).identifiers
  simp only [nodeLines, List.forall_mem_cons, List.forall_mem_append, and_assoc]
  refine ⟨plain_structLines hderives ht.base ?_ hname hfs htypes, plain_nil, ?_, by simp,
    plain_constructor ?_ hfs htypes, plain_nil,
    plain_acceptMethod ht.base (ht.visitMethods s hs), plain_accessors hfs htypes, ?_, plain_nil,
    by simp, plain_conversion ht.base hname⟩
  all_goals simp [plain_cons, isIndentChar, hname.newline_notMem]

theorem plain_dataTypeLines {d : ResolvedData} (hderives : ∀ d ∈ cfg.derives, '\n' ∉ d.toList)
    (hbase : IsWord t.base.toList) (hd : d.Words)
    (htypes : ∀ f ∈ d.fields, '\n' ∉ f.type.toList) :
    ∀ l ∈ dataTypeLines cfg t d (d.fields.map NamedField.ofField), Plain l.text.toList := by
  simp only [dataTypeLines, List.forall_mem_cons, List.forall_mem_append, and_assoc]
  refine ⟨plain_structLines hderives hbase ?_ hd.name hd.identifiers htypes, plain_nil, ?_,
    by simp, plain_constructor ?_ hd.identifiers htypes, plain_accessors hd.identifiers htypes,
    ?_, by simp⟩
  all_goals simp [plain_cons, isIndentChar, hd.name.newline_notMem]

theorem plain_dispatch (ht : t.Words) : ∀ l ∈ dispatch t, Plain l.text.toList := by
  simp only [dispatch, acceptOpening, visitorTrait, List.cons_append, List.nil_append,
    List.forall_mem_cons, List.forall_mem_append, List.forall_mem_map]
  refine ⟨?_, ?_, ?_, fun s hs => ?_, ?_, ?_, by simp⟩
  case refine_4 =>
    simp only [String.toList_append, List.append_assoc]
    refine plain_word_append ht.base ?_
    simp [plain_cons, isIndentChar, (ht.shapes s hs).name.newline_notMem,
      ResolvedShape.visitMethodSnake, (isWord_toSnakeCase (ht.visitMethods s hs)).newline_notMem]
  all_goals simp [plain_cons, isIndentChar, ht.base.newline_notMem]

end TaggedUnion

/-! ### Documents -/

/-- The indentation is made of spaces and tabs, and the package and the imports stand on one line
each. -/
structure Config.Plain (cfg : Config) : Prop where
  indent : ∀ c ∈ cfg.indent.toList, isIndentChar c
  package : ∀ name ∈ cfg.package, '\n' ∉ name.toList
  imports : ∀ name ∈ cfg.imports, '\n' ∉ name.toList

/-- Besides, the derived traits stand on one line each. -/
structure Config.OneLine (cfg : Config) : Prop extends cfg.Plain where
  derives : ∀ d ∈ cfg.derives, '\n' ∉ d.toList

/-- **Every line of a document is plain.** -/
theorem plain_form {cfg : Config} {t : ResolvedTable} (hcfg : cfg.OneLine) (ht : t.Words)
    (hshapes : ∀ s ∈ t.shapes, ∀ f ∈ s.fields, '\n' ∉ f.type.toList)
    (hdata : ∀ d ∈ t.dataTypes, ∀ f ∈ d.fields, '\n' ∉ f.type.toList) :
    ∀ l ∈ Document.form cfg t, Plain l.text.toList := by
  simp only [Document.form, List.forall_mem_append, List.forall_mem_cons, List.forall_mem_flatMap,
    List.forall_mem_map, and_assoc]
  unfold Document.preamble Document.opening Document.visitorForm Document.nodeForm
    Document.dataTypeForm Document.dispatch Document.closing
  cases cfg.target with
  | java =>
      refine ⟨ClassHierarchy.plain_preamble hcfg.package hcfg.imports, ?_,
        ClassHierarchy.plain_visitor ht,
        fun s hs => ⟨plain_nil, ClassHierarchy.plain_node ht hs (hshapes s hs)⟩,
        fun d hd => ⟨plain_nil, ClassHierarchy.plain_dataType (ht.dataTypes d hd) (hdata d hd)⟩,
        plain_nil, ?_, ?_⟩
      · simp [ClassHierarchy.opening, plain_cons, isIndentChar, ht.base.newline_notMem]
      · simp [ClassHierarchy.dispatch, plain_cons, isIndentChar]
      · simp [ClassHierarchy.closing, plain_cons, isIndentChar]
  | rust =>
      refine ⟨TaggedUnion.plain_preamble hcfg.imports, TaggedUnion.plain_opening hcfg.derives ht,
        TaggedUnion.plain_visitorLines ht,
        fun s hs => ⟨plain_nil, TaggedUnion.plain_nodeLines hcfg.derives ht hs (hshapes s hs)⟩,
        fun d hd => ⟨plain_nil, TaggedUnion.plain_dataTypeLines hcfg.derives ht.base
          (ht.dataTypes d hd) (hdata d hd)⟩,
        plain_nil, TaggedUnion.plain_dispatch ht, ?_⟩
      simp [TaggedUnion.closing, plain_cons, isIndentChar]

end AstForge
