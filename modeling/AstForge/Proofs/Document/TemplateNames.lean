import AstForge.Proofs.Document.Scopes

/-!
# Documents — the type names that the documents use themselves

The lines of a document name types of their own: its visitor, its type parameter, and types of the
language.  A declared type of the same name would take their place.

The checks refuse all of these names but one for each target (`Target.unguardedType`): in a class
hierarchy the annotation `Override`, in a tagged union the trait `From`.  So a table that is written
keeps its types apart from those of the document exactly when none of them has that name
(`Table.typeNames_apart_iff`), and a table with both names is written for both targets
(`overridingTable_clashes`).
-/

namespace AstForge

/-- The type names that the documents of a target use themselves. -/
def Target.templateTypes : Target → (base : String) → List String
  | .java, _    => ["Visitor", "R", "Override"]
  | .rust, base => ["R", "Box", "From", "Self", TaggedUnion.visitorTrait base]

/-- The one of these names that is not refused. -/
def Target.unguardedType : Target → String
  | .java => "Override"
  | .rust => "From"

/-- The names of the types that a table declares. -/
def Table.typeNames (t : Table) : List String :=
  t.base :: t.declaredShapes.map (·.name)

theorem Target.unguardedType_mem (target : Target) (base : String) :
    target.unguardedType ∈ target.templateTypes base := by
  cases target with
  | java => simp [unguardedType, templateTypes]
  | rust => simp [unguardedType, templateTypes]

/-- What holds of the base type and of every declared type holds of every type name. -/
theorem Table.forall_typeNames {t : Table} {P : String → Prop} (hbase : P t.base)
    (hshapes : ∀ s ∈ t.resolve.shapes, P s.name) (hdata : ∀ d ∈ t.resolve.dataTypes, P d.name) :
    ∀ name ∈ t.typeNames, P name := by
  rw [Table.typeNames, List.forall_mem_cons, List.forall_mem_map]
  exact ⟨hbase, Table.forall_declaredShapes (P := fun d => P d.name) hshapes hdata⟩

/-- A type of a class hierarchy that is named like one of the templates' own is named like the
unguarded one. -/
theorem ClassHierarchy.Writable.eq_unguardedType {t : Table} (h : Writable t.resolve) :
    ∀ name ∈ t.typeNames, name ∈ Target.java.templateTypes t.base →
      name = Target.java.unguardedType := by
  have htaken : ∀ name ∈ t.typeNames, name ∉ takenTypes :=
    Table.forall_typeNames h.taken (fun s hs => (h.shapes s hs).taken)
      fun d hd => (h.dataTypes d hd).taken
  intro name hname hmem
  have hfree := htaken name hname
  simp only [takenTypes, List.mem_cons, List.not_mem_nil, or_false, not_or] at hfree
  simpa [Target.templateTypes, Target.unguardedType, hfree] using hmem

/-- A type of a tagged union that is named like one of the templates' own is named like the
unguarded one. -/
theorem TaggedUnion.Writable.eq_unguardedType {t : Table} (h : Writable t.resolve) :
    ∀ name ∈ t.typeNames, name ∈ Target.rust.templateTypes t.base →
      name = Target.rust.unguardedType := by
  have hwritable : ∀ name ∈ t.typeNames, TypeNameWritable name :=
    Table.forall_typeNames h.base (fun s hs => (h.shapes s hs).name)
      fun d hd => (h.dataTypes d hd).name
  have hvisitor : ∀ name ∈ t.typeNames, name ≠ visitorTrait t.base :=
    Table.forall_typeNames (ne_visitorTrait t.base) (fun s hs => (h.shapes s hs).visitor)
      fun d hd => (h.dataTypes d hd).visitor
  intro name hname hmem
  have hself : name ≠ "Self" := by
    rintro rfl
    exact (hwritable _ hname).unwritable (by decide)
  have hfree := (hwritable name hname).taken
  simp only [takenTypes, List.mem_cons, List.not_mem_nil, or_false, not_or] at hfree
  simpa [Target.templateTypes, Target.unguardedType, hfree, hself, hvisitor name hname] using hmem

/-- **Declared types keep apart from the document's own**, exactly when none has the one name that
the check of the target lets pass. -/
theorem Table.typeNames_apart_iff {t : Table} {cfg : Config} {doc : String}
    (hdoc : t.generate cfg = .ok doc) :
    (∀ name ∈ t.typeNames, name ∉ cfg.target.templateTypes t.base) ↔
      cfg.target.unguardedType ∉ t.typeNames := by
  have hcheck := (Table.generate_eq_ok_iff.mp hdoc).1
  have honly : ∀ name ∈ t.typeNames, name ∈ cfg.target.templateTypes t.base →
      name = cfg.target.unguardedType := by
    unfold Document.check at hcheck
    cases htarget : cfg.target with
    | java =>
        simp only [htarget] at hcheck
        exact (ClassHierarchy.check_eq_ok_iff.mp hcheck).eq_unguardedType
    | rust =>
        simp only [htarget] at hcheck
        exact (TaggedUnion.check_eq_ok_iff.mp hcheck).eq_unguardedType
  constructor
  · exact fun hapart hmem => hapart _ hmem (cfg.target.unguardedType_mem t.base)
  · intro hfree name hname hmem
    exact hfree (honly name hname hmem ▸ hname)

/-- A table whose names only resemble those of the documents. -/
def resemblingTable : Table :=
  ((Table.empty "Visit").addShape ⟨"Visitors", [⟨"Visit", "from"⟩]⟩)
    |>.addDataType ⟨"FromBox", [⟨"Box<R>", "override"⟩]⟩

theorem typeNames_apart_resemblingTable :
    Table.ofDeclarations "Visit" ["Visitors: Visit from", "struct FromBox: Box<R> override"] =
        .ok resemblingTable ∧
      ∀ target, ∃ doc, resemblingTable.generate (Config.ofTarget target) = .ok doc ∧
        ∀ name ∈ resemblingTable.typeNames, name ∉ target.templateTypes "Visit" := by
  have hcheck : ∀ target, Document.check (Config.ofTarget target) resemblingTable.resolve = .ok ()
    | .java => by decide +kernel
    | .rust => by decide +kernel
  have hfree : ∀ target : Target, target.unguardedType ∉ resemblingTable.typeNames
    | .java => by decide
    | .rust => by decide
  refine ⟨rfl, fun target => ?_⟩
  have hdoc := Table.generate_eq_ok_iff.mpr ⟨hcheck target, rfl⟩
  exact ⟨_, hdoc, (Table.typeNames_apart_iff hdoc).mpr (hfree target)⟩

/-- A table with the two names that are not refused. -/
def overridingTable : Table :=
  ((Table.empty "Expr").addShape ⟨"Override", [⟨"Token", "name"⟩]⟩)
    |>.addShape ⟨"From", [⟨"Expr", "inner"⟩]⟩

/-- **Some tables take the place of a type that their documents use.**  The class `Override` stands
beside an annotation `@Override`, and the structure `From` beside an implementation of `From`. -/
theorem overridingTable_clashes :
    Table.ofDeclarations "Expr" ["Override: Token name", "From: Expr inner"] =
        .ok overridingTable ∧
      (∃ ls, Document.lines (Config.ofTarget .java) overridingTable.resolve = .ok ls ∧
        ⟨1, "static class Override extends Expr \x7b"⟩ ∈ ls ∧ ⟨2, "@Override"⟩ ∈ ls) ∧
      (∃ ls, Document.lines (Config.ofTarget .rust) overridingTable.resolve = .ok ls ∧
        ⟨0, "pub struct From \x7b"⟩ ∈ ls ∧ ⟨0, "impl From<From> for Expr \x7b"⟩ ∈ ls) ∧
      ∀ target : Target, ∃ name ∈ overridingTable.typeNames,
        name ∈ target.templateTypes "Expr" := by
  refine ⟨rfl, ⟨_, Document.lines_eq_ok_iff.mpr ⟨by decide +kernel, rfl⟩, by decide +kernel⟩,
    ⟨_, Document.lines_eq_ok_iff.mpr ⟨by decide +kernel, rfl⟩, by decide +kernel⟩, ?_⟩
  intro target
  refine ⟨target.unguardedType, ?_, target.unguardedType_mem "Expr"⟩
  cases target with
  | java => decide
  | rust => decide

end AstForge
