import Mathlib.Data.List.Perm.Basic
import AstForge.Generate
import AstForge.Proofs.Document.Form
import AstForge.Proofs.Table.Parsed

/-!
# Documents — the order of declarations

Which error a table is refused with depends on the order of its declarations, since every check
stops at the first fault.  Whether it is refused does not.

* `Table.reordered_foldl_declare`: declarations in another order make a *reordered* table, with the
  same base type and the same shapes and data types up to order.
* `Table.Reordered.valid`, `ResolvedTable.Reordered.check_eq_ok`: the rules of tables and those of
  both targets hold of a reordered table too.
* `document_made_in_any_order`: so a document is made from declarations in one order exactly when it
  is made from them in any other.
-/

namespace AstForge

/-! ### Tables -/

/-- The tables have the same base type, and the same shapes and data types up to order. -/
structure Table.Reordered (t t' : Table) : Prop where
  base : t.base = t'.base
  shapes : t.shapes.toList.Perm t'.shapes.toList
  dataTypes : t.dataTypes.toList.Perm t'.dataTypes.toList

/-- Declaring keeps shapes and data types apart, and each kind in the order of its declarations. -/
theorem Table.reordered_foldl_declare {ds ds' : List Declaration} (h : ds.Perm ds')
    (t : Table) : (ds.foldl Table.declare t).Reordered (ds'.foldl Table.declare t) := by
  refine ⟨?_, ?_, ?_⟩
  · rw [base_foldl_declare, base_foldl_declare]
  · rw [shapes_foldl_declare, shapes_foldl_declare]
    exact (h.filterMap _).append_left _
  · rw [dataTypes_foldl_declare, dataTypes_foldl_declare]
    exact (h.filterMap _).append_left _

/-- A valid table stays valid in another order. -/
theorem Table.Reordered.valid {t t' : Table} (h : t.Reordered t') (ht : t.Valid) : t'.Valid := by
  have hdeclared : t.declaredShapes.Perm t'.declaredShapes := h.shapes.append h.dataTypes
  have hnames := hdeclared.map (·.name)
  refine ⟨h.base ▸ ht.base, fun hnil => ?_, fun s hs => ?_, fun hmem => ?_, ?_, fun s hs => ?_⟩
  · have hshapes := h.shapes
    rw [hnil] at hshapes
    exact ht.nonempty hshapes.eq_nil
  · exact ht.names s (hdeclared.mem_iff.mpr hs)
  · rw [← h.base] at hmem
    exact ht.base_notMem (hnames.mem_iff.mpr hmem)
  · exact hnames.nodup_iff.mp ht.nodup
  · exact ht.fields s (hdeclared.mem_iff.mpr hs)

/-! ### Resolved tables -/

/-- The tables have the same base type and parameter, and the same shapes and data types up to
order. -/
structure ResolvedTable.Reordered (t t' : ResolvedTable) : Prop where
  base : t.base = t'.base
  parameter : t.visitorParameter = t'.visitorParameter
  shapes : t.shapes.Perm t'.shapes
  dataTypes : t.dataTypes.Perm t'.dataTypes

/-- What resolving settles about a declaration depends on the base type alone. -/
theorem Table.Reordered.resolve {t t' : Table} (h : t.Reordered t') :
    t.resolve.Reordered t'.resolve := by
  obtain ⟨hbase, hshapes, hdata⟩ := h
  refine ⟨hbase, congrArg Text.toLower hbase, ?_, ?_⟩
  · rw [Table.resolve, Table.resolve, hbase]
    exact hshapes.map _
  · rw [Table.resolve, Table.resolve, hbase]
    exact hdata.map _

namespace ResolvedTable.Reordered

variable {t t' : ResolvedTable}

/-- A table that a class hierarchy can write can be written in another order. -/
theorem classHierarchy (h : t.Reordered t') (ht : ClassHierarchy.Writable t) :
    ClassHierarchy.Writable t' := by
  refine ⟨h.base ▸ ht.taken, h.base ▸ ht.base, h.parameter ▸ ht.parameter, fun s hs => ?_,
    fun d hd => ?_⟩
  · exact ht.shapes s (h.shapes.mem_iff.mpr hs)
  · exact ht.dataTypes d (h.dataTypes.mem_iff.mpr hd)

/-- A table that a tagged union can write can be written in another order. -/
theorem taggedUnion (h : t.Reordered t') (ht : TaggedUnion.Writable t) :
    TaggedUnion.Writable t' := by
  refine ⟨h.base ▸ ht.base, h.parameter ▸ ht.parameter, fun s hs => ?_, fun d hd => ?_, ?_⟩
  · rw [← h.base]
    exact ht.shapes s (h.shapes.mem_iff.mpr hs)
  · rw [← h.base]
    exact ht.dataTypes d (h.dataTypes.mem_iff.mpr hd)
  · exact (h.shapes.map (·.visitMethodSnake)).nodup_iff.mp ht.visitMethods

/-- **The check of either target** passes a reordered table if it passes the table. -/
theorem check_eq_ok (h : t.Reordered t') {cfg : Config} (ht : Document.check cfg t = .ok ()) :
    Document.check cfg t' = .ok () := by
  unfold Document.check at ht ⊢
  cases htarget : cfg.target with
  | java =>
      simp only [htarget] at ht
      exact ClassHierarchy.check_eq_ok_iff.mpr
        (h.classHierarchy (ClassHierarchy.check_eq_ok_iff.mp ht))
  | rust =>
      simp only [htarget] at ht
      exact TaggedUnion.check_eq_ok_iff.mpr (h.taggedUnion (TaggedUnion.check_eq_ok_iff.mp ht))

end ResolvedTable.Reordered

/-! ### Documents -/

/-- Declarations in another order are read as a reordered table. -/
theorem Table.exists_reordered_of_perm {base : String} {texts texts' : List String} {t : Table}
    (h : texts.Perm texts') (ht : Table.ofDeclarations base texts = .ok t) :
    ∃ t', Table.ofDeclarations base texts' = .ok t' ∧ t.Reordered t' := by
  obtain ⟨ds, hread, rfl, hvalid⟩ := Table.ofDeclarations_eq_ok_iff.mp ht
  obtain ⟨ds', hread', hperm⟩ := List.perm_comp_forall₂ h.symm hread
  have hreordered := Table.reordered_foldl_declare hperm.symm
    (Table.empty (String.ofList (Text.trim base.toList)))
  have hvalid' := hreordered.valid (Table.validate_eq_ok_iff.mp hvalid)
  exact ⟨_, Table.ofDeclarations_eq_ok_iff.mpr
    ⟨ds', hread', rfl, Table.validate_eq_ok_iff.mpr hvalid'⟩, hreordered⟩

/-- A document is made from declarations when they make a table, and the table the document. -/
theorem generateFromDeclarations_eq_ok_iff {base : String} {texts : List String} {cfg : Config}
    {doc : String} :
    generateFromDeclarations base texts cfg = .ok doc ↔
      ∃ t, Table.ofDeclarations base texts = .ok t ∧ t.generate cfg = .ok doc := by
  rw [generateFromDeclarations, bind_eq_ok_iff]
  simp only [mapError_eq_ok_iff]

/-- Declarations that have a document have one in any other order. -/
theorem exists_document_of_perm {base : String} {texts texts' : List String} {cfg : Config}
    (h : texts.Perm texts') (hdoc : ∃ doc, generateFromDeclarations base texts cfg = .ok doc) :
    ∃ doc, generateFromDeclarations base texts' cfg = .ok doc := by
  obtain ⟨doc, hdoc⟩ := hdoc
  obtain ⟨t, ht, hdoc⟩ := generateFromDeclarations_eq_ok_iff.mp hdoc
  obtain ⟨t', ht', hreordered⟩ := Table.exists_reordered_of_perm h ht
  have hcheck := hreordered.resolve.check_eq_ok (Table.generate_eq_ok_iff.mp hdoc).1
  exact ⟨_, generateFromDeclarations_eq_ok_iff.mpr
    ⟨t', ht', Table.generate_eq_ok_iff.mpr ⟨hcheck, rfl⟩⟩⟩

/-- **Whether a document is made does not depend on the order of the declarations**, whatever the
base type, the settings and the target, and however shapes and data types alternate. -/
theorem document_made_in_any_order {base : String} {texts texts' : List String}
    (h : texts.Perm texts') (cfg : Config) :
    (∃ doc, generateFromDeclarations base texts cfg = .ok doc) ↔
      ∃ doc, generateFromDeclarations base texts' cfg = .ok doc :=
  ⟨exists_document_of_perm h, exists_document_of_perm h.symm⟩

/-- A table whose first shape uses a data type. -/
def spanTable : Table :=
  (((Table.empty "Expr").addShape ⟨"Call", [⟨"Expr", "callee"⟩, ⟨"Span", "span"⟩]⟩).addShape
    ⟨"This", []⟩).addDataType ⟨"Span", [⟨"u32", "start"⟩, ⟨"u32", "stop"⟩]⟩

theorem document_made_in_any_order_spanTable :
    ["Call : Expr callee, Span span", "struct Span : u32 start, u32 stop", "This :"].Perm
        ["struct Span : u32 start, u32 stop", "This :", "Call : Expr callee, Span span"] ∧
      ∀ target, ∃ doc, generateFromDeclarations "Expr"
        ["struct Span : u32 start, u32 stop", "This :", "Call : Expr callee, Span span"]
        (Config.ofTarget target) = .ok doc := by
  have hread : Table.ofDeclarations "Expr"
      ["Call : Expr callee, Span span", "struct Span : u32 start, u32 stop", "This :"] =
        .ok spanTable := rfl
  have hcheck : ∀ target, Document.check (Config.ofTarget target) spanTable.resolve = .ok ()
    | .java => by decide +kernel
    | .rust => by decide +kernel
  have hperm : ["Call : Expr callee, Span span", "struct Span : u32 start, u32 stop",
      "This :"].Perm ["struct Span : u32 start, u32 stop", "This :",
        "Call : Expr callee, Span span"] := by decide
  refine ⟨hperm, fun target => (document_made_in_any_order hperm _).mp ?_⟩
  exact ⟨_, generateFromDeclarations_eq_ok_iff.mpr
    ⟨_, hread, Table.generate_eq_ok_iff.mpr ⟨hcheck target, rfl⟩⟩⟩

end AstForge
