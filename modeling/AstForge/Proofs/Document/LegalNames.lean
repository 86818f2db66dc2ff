import AstForge.Proofs.Document.Dispatch
import AstForge.Proofs.Document.TemplateNames

/-!
# Documents — every declared name is legal

A name is *legal* in a target when it is an identifier and none of the words that the target keeps
for itself (`Target.Legal`).  In a tagged union a field that is named by a keyword is written raw,
and so are its accessor and the parameter of the visit methods; every other name stands as it is
(`Target.LegalAt` says which is which).

Names reach a document by several ways, and the check of the target looks only at some of them.

* The names that the table declares are identifiers by the rules of tables, and the check refuses
  the reserved ones (`ClassHierarchy.legalAt_scopes`, `TaggedUnion.legalAt_scopes`).
* The derived names are not checked: no reserved word starts with `visit` or ends with `Visitor`
  (`Target.legal_visit`, `Target.legal_visitorName`).
* The parameter of the visit methods is the base type in lower case, which is an identifier again.
-/

namespace AstForge

open Text Document

/-- The words that a target keeps for itself. -/
def Target.reserved : Target → List String
  | .java => ClassHierarchy.reservedWords
  | .rust => TaggedUnion.keywords ++ TaggedUnion.unwritable

/-- The name is an identifier that the target does not keep for itself. -/
structure Target.Legal (target : Target) (name : String) : Prop where
  isIdentifier : isIdentifier name.toList
  notMem_reserved : name ∉ target.reserved

/-- The name is legal or, in a tagged union, a keyword that is written raw. -/
def Target.LegalOrRaw : Target → String → Prop
  | .java, name => Target.java.Legal name
  | .rust, name => Target.rust.Legal name ∨ ∃ word ∈ TaggedUnion.keywords, name = "r#" ++ word

/-- The type that declares the visit methods. -/
def Target.visitorName : Target → (base : String) → String
  | .java, _    => "Visitor"
  | .rust, base => TaggedUnion.visitorTrait base

/-- What a name must be where it is declared: types, variants and visit methods are never raw. -/
def Target.LegalAt (target : Target) (base : String) : Place → String → Prop
  | .document, name     => target.Legal name
  | .variants _, name   => target.Legal name
  | .methods type, name =>
    if type = target.visitorName base then target.Legal name else target.LegalOrRaw name
  | .fields _, name     => target.LegalOrRaw name
  | .parameters _, name => target.LegalOrRaw name

namespace Target

variable {target : Target} {base name : String}

/-- A visit method is legal: no reserved word starts as it does. -/
theorem legal_visit (target : Target) (h : IsWord name.toList) :
    target.Legal ("visit" ++ name) := by
  have hstart : ∀ word ∈ target.reserved, ¬ "visit".toList <+: word.toList := by
    cases target with
    | java => decide
    | rust => decide
  refine ⟨?_, fun hmem => hstart _ hmem ?_⟩
  · rw [String.toList_append]
    exact isIdentifier_append (by decide) h
  · rw [String.toList_append]
    exact List.prefix_append _ _

/-- The visitor is legal: no reserved word ends as it does. -/
theorem legal_visitorName (target : Target) (h : isIdentifier base.toList) :
    target.Legal (target.visitorName base) := by
  cases target with
  | java =>
      rw [visitorName]
      exact ⟨by decide, by decide⟩
  | rust =>
      have hend : ∀ word ∈ rust.reserved, ¬ "Visitor".toList <:+ word.toList := by decide
      refine ⟨?_, fun hmem => hend _ hmem ?_⟩
      · rw [visitorName, TaggedUnion.visitorTrait, String.toList_append]
        exact isIdentifier_append h (by decide)
      · rw [visitorName, TaggedUnion.visitorTrait, String.toList_append]
        exact List.suffix_append _ _

/-- A name that can be written is legal as it is written. -/
theorem legalOrRaw_written (h : isIdentifier name.toList) (hw : name ∉ TaggedUnion.unwritable) :
    rust.LegalOrRaw (TaggedUnion.written name) := by
  rw [TaggedUnion.written]
  split
  · next hkeyword => exact .inr ⟨name, hkeyword, rfl⟩
  · next hkeyword => exact .inl ⟨h, List.not_mem_append hkeyword hw⟩

/-- In the visitor a name has to be legal as it is. -/
theorem legalAt_visitor (h : target.Legal name) :
    target.LegalAt base (.methods (target.visitorName base)) name := by
  rwa [LegalAt, if_pos rfl]

/-- In other methods a name may be raw. -/
theorem legalAt_methods {type : String} (htype : type ≠ target.visitorName base)
    (h : target.LegalOrRaw name) : target.LegalAt base (.methods type) name := by
  rwa [LegalAt, if_neg htype]

end Target

/-! ### The parameters of the visit methods -/

namespace Document

/-- The parameter of the visit method that a line declares, besides the visitor itself. -/
def visitParameter? : Target → List Char → Option String
  | .java, text => (scan [("R ", '('), ("", ' '), ("", ')')] text).bind (·[2]?)
  | .rust, text => (scan [("fn ", '('), ("&mut self, ", ':')] text).bind (·[1]?)

/-- Whether a block declares the visit methods. -/
def isVisitor (b : Block) : Bool :=
  b.kind == .interface || b.kind == .trait

/-- The parameters of the visit methods that some lines declare. -/
def visitParameters (target : Target) (ls : List Line) : List String :=
  ((blocks target ls).filter isVisitor).flatMap fun b => b.read (visitParameter? target)

/-- The visitor is the second block of a document, and no other block declares visit methods. -/
theorem visitParameters_eq {target : Target} {ls : List Line} {base visitor : Block}
    {rest : List Block} (h : blocks target ls = base :: visitor :: rest)
    (hbase : isVisitor base = false) (hvisitor : isVisitor visitor)
    (hrest : ∀ b ∈ rest, isVisitor b = false) :
    visitParameters target ls = visitor.read (visitParameter? target) := by
  have hnone : rest.filter isVisitor = [] :=
    List.filter_eq_nil_iff.mpr fun b hb => by simp [hrest b hb]
  rw [visitParameters, h, List.filter_cons_of_neg (by simp [hbase]),
    List.filter_cons_of_pos hvisitor, hnone, List.flatMap_cons, List.flatMap_nil, List.append_nil]

end Document

/-- A block in which every line declares the same name. -/
theorem Block.read_const {α : Type} {xs : List α} {line : α → Line}
    {name? : List Char → Option String} {declared : String}
    (h : ∀ x ∈ xs, name? (line x).text.toList = some declared) (kind : BlockKind) (name : String) :
    Block.read ⟨kind, name, xs.map line⟩ name? = List.replicate xs.length declared := by
  rw [Block.read, List.filterMap_map, ← List.map_const']
  exact List.filterMap_eq_map_iff_forall_eq_some.mpr h

/-- The parameter of the visit methods, as the target writes it. -/
def Table.visitParameter (t : Table) : Target → String
  | .java => toLower t.base
  | .rust => TaggedUnion.written (toLower t.base)

/-- Every method of the visitor has the parameter of the table. -/
theorem ClassHierarchy.visitParameters_form {cfg : Config} (htarget : cfg.target = .java)
    {t : Table} (ht : t.WellFormed) :
    visitParameters .java (form cfg t.resolve) =
      List.replicate t.shapes.size (t.visitParameter .java) := by
  have hwords := ht.words_resolve
  obtain ⟨body, hblocks⟩ := blocks_form htarget hwords
  have hread : ∀ s ∈ t.resolve.shapes,
      visitParameter? .java (declarationLine t.resolve s).text.toList =
        some t.resolve.visitorParameter := by
    intro s hs
    have htext : (declarationLine t.resolve s).text.toList = "R ".toList ++
        (s.visitMethod.toList ++ '(' :: ("".toList ++ (s.name.toList ++ ' ' :: ("".toList ++
          (t.resolve.visitorParameter.toList ++ ')' :: [';']))))) := by
      simp [declarationLine]
    rw [htext, visitParameter?, scan_append ((hwords.visitMethods s hs).notMem (by decide)),
      scan_append ((hwords.shapes s hs).name.notMem (by decide)),
      scan_append (hwords.parameter.notMem (by decide))]
    rfl
  have hrest : ∀ b ∈ t.resolve.shapes.flatMap (fun s =>
        [(⟨.nestedClass, s.name, nodeBody s⟩ : Block)]) ++
      t.resolve.dataTypes.flatMap (fun d => [⟨.nestedClass, d.name, dataBody d⟩]),
      isVisitor b = false := by
    simp only [List.forall_mem_append, List.forall_mem_flatMap, List.forall_mem_singleton]
    exact ⟨fun _ _ => rfl, fun _ _ => rfl⟩
  rw [visitParameters_eq hblocks rfl rfl hrest, Block.read_const hread]
  simp [Table.resolve, Table.visitParameter]

theorem TaggedUnion.visitParameters_form {cfg : Config} (htarget : cfg.target = .rust)
    {t : Table} (ht : t.WellFormed) :
    visitParameters .rust (form cfg t.resolve) =
      List.replicate t.shapes.size (t.visitParameter .rust) := by
  have hwords := ht.words_resolve
  have hread : ∀ s ∈ t.resolve.shapes,
      visitParameter? .rust (declarationLine t.resolve s).text.toList =
        some (written t.resolve.visitorParameter) := by
    intro s hs
    have htext : (declarationLine t.resolve s).text.toList = "fn ".toList ++
        (s.visitMethodSnake.toList ++ '(' :: ("&mut self, ".toList ++
          ((written t.resolve.visitorParameter).toList ++
            ':' :: (" &" ++ s.name ++ ") -> R;").toList))) := by
      simp [declarationLine]
    have hmethod : '(' ∉ s.visitMethodSnake.toList :=
      (isWord_toSnakeCase (hwords.visitMethods s hs)).notMem (by decide)
    rw [htext, visitParameter?, scan_append hmethod,
      scan_append (notMem_written hwords.parameter (by decide) (by decide))]
    simp [scan]
  have hrest : ∀ b ∈ t.resolve.shapes.flatMap (fun s =>
        [(⟨.record, s.name, s.fields.map (fieldLine t.resolve)⟩ : Block),
          ⟨.impl, s.name, nodeMethodLines t.resolve s⟩]) ++
      t.resolve.dataTypes.flatMap (fun d =>
        [⟨.record, d.name, d.fields.map (fieldLine t.resolve)⟩,
          ⟨.impl, d.name, dataMethodLines d⟩]) ++
      [⟨.impl, t.resolve.base, dispatchLines t.resolve⟩], isVisitor b = false := by
    simp only [List.forall_mem_append, List.forall_mem_flatMap, List.forall_mem_cons]
    exact ⟨⟨fun _ _ => ⟨rfl, rfl, by simp⟩, fun _ _ => ⟨rfl, rfl, by simp⟩⟩, rfl, by simp⟩
  rw [visitParameters_eq (blocks_form htarget hwords) rfl rfl hrest, Block.read_const hread]
  simp [Table.resolve, Table.visitParameter]

/-! ### Legal names -/

/-- Every visit method is a legal name in a class hierarchy. -/
theorem Table.WellFormed.legal_visitMethodName {t : Table} (ht : t.WellFormed) {s : Shape}
    (hs : s ∈ t.shapes.toList) : Target.java.Legal (visitMethodName s.name t.base) := by
  obtain ⟨rest, hrest, heq⟩ :=
    ht.visitNames_resolve (s.resolve t.base) (List.mem_map_of_mem hs)
  rw [show visitMethodName s.name t.base = "visit" ++ rest from heq]
  exact Target.java.legal_visit hrest

/-- Every visit method in snake case is a legal name in a tagged union. -/
theorem Table.WellFormed.legal_visitMethodSnake {t : Table} (ht : t.WellFormed) {s : Shape}
    (hs : s ∈ t.shapes.toList) :
    Target.rust.Legal (toSnakeCase (visitMethodName s.name t.base)) := by
  obtain ⟨rest, hrest, heq⟩ :=
    ht.visitNames_resolve.snake (s := s.resolve t.base) (List.mem_map_of_mem hs)
  rw [show toSnakeCase (visitMethodName s.name t.base) = "visit" ++ rest from heq]
  exact Target.rust.legal_visit hrest

/-- **Every declared name of a class hierarchy is legal.** -/
theorem ClassHierarchy.legalAt_scopes {t : Table} (ht : t.WellFormed) (hw : Writable t.resolve) :
    ∀ scope ∈ t.scopes .java, ∀ name ∈ scope.names,
      Target.java.LegalAt t.base scope.place name := by
  have hvalid := Table.validate_eq_ok_iff.mp ht.valid
  have hreserved : ∀ s ∈ t.declaredShapes, s.name ∉ reservedWords :=
    Table.forall_declaredShapes (P := fun d => d.name ∉ reservedWords)
      (fun s hs => (hw.shapes s hs).name) fun d hd => (hw.dataTypes d hd).name
  have hunreserved : ∀ s ∈ t.declaredShapes, ∀ f ∈ (s.resolveData t.base).fields,
      f.identifier ∉ reservedWords :=
    Table.forall_declaredShapes (P := fun d => ∀ f ∈ d.fields, f.identifier ∉ reservedWords)
      (fun s hs => (hw.shapes s hs).fields) fun d hd => (hw.dataTypes d hd).fields
  have hfields : ∀ s ∈ t.declaredShapes, ∀ name ∈ s.fields.map (·.identifier),
      Target.java.LegalOrRaw name := by
    intro s hs
    rw [List.forall_mem_map]
    exact fun f hf => ⟨((ht.fields s hs).readable f hf).isIdentifier,
      hunreserved s hs _ (List.mem_map_of_mem hf)⟩
  have hmethods : ∀ name ∈ t.shapes.toList.map (fun s => visitMethodName s.name t.base),
      Target.java.LegalAt t.base (.methods "Visitor") name := by
    rw [List.forall_mem_map]
    exact fun s hs => Target.legalAt_visitor (ht.legal_visitMethodName hs)
  simp only [Table.scopes, List.forall_mem_cons, List.forall_mem_flatMap, typeScopes]
  refine ⟨⟨⟨hvalid.base, hw.base⟩, Target.java.legal_visitorName hvalid.base, ?_⟩, hmethods,
    fun s hs => ⟨hfields s hs, hfields s hs, by simp⟩⟩
  rw [List.forall_mem_map]
  exact fun s hs => ⟨hvalid.names s hs, hreserved s hs⟩

/-- **Every declared name of a tagged union is legal**, keywords being written raw. -/
theorem TaggedUnion.legalAt_scopes {t : Table} (ht : t.WellFormed) (hw : Writable t.resolve) :
    ∀ scope ∈ t.scopes .rust, ∀ name ∈ scope.names,
      Target.rust.LegalAt t.base scope.place name := by
  have hvalid := Table.validate_eq_ok_iff.mp ht.valid
  have hwritable : ∀ s ∈ t.declaredShapes, TypeNameWritable s.name :=
    Table.forall_declaredShapes (P := fun d => TypeNameWritable d.name)
      (fun s hs => (hw.shapes s hs).name) fun d hd => (hw.dataTypes d hd).name
  have hlegal : ∀ s ∈ t.declaredShapes, Target.rust.Legal s.name := fun s hs =>
    ⟨hvalid.names s hs, List.not_mem_append (hwritable s hs).keyword (hwritable s hs).unwritable⟩
  have hvisitor : ∀ s ∈ t.declaredShapes, s.name ≠ visitorTrait t.base :=
    Table.forall_declaredShapes (P := fun d => d.name ≠ visitorTrait t.base)
      (fun s hs => (hw.shapes s hs).visitor) fun d hd => (hw.dataTypes d hd).visitor
  have hunreserved : ∀ s ∈ t.declaredShapes, ∀ f ∈ (s.resolveData t.base).fields,
      f.identifier ∉ unwritable :=
    Table.forall_declaredShapes (P := fun d => ∀ f ∈ d.fields, f.identifier ∉ unwritable)
      (fun s hs => (hw.shapes s hs).fields) fun d hd => (hw.dataTypes d hd).fields
  have hfields : ∀ s ∈ t.declaredShapes, ∀ name ∈ s.fields.map (fun f => written f.identifier),
      Target.rust.LegalOrRaw name := by
    intro s hs
    rw [List.forall_mem_map]
    exact fun f hf => Target.legalOrRaw_written ((ht.fields s hs).readable f hf).isIdentifier
      (hunreserved s hs _ (List.mem_map_of_mem hf))
  -- The methods of a type are its own, which are no keywords, and the accessors of its fields.
  have hscopes : ∀ methods : List String, (∀ m ∈ methods, Target.rust.Legal m) →
      ∀ s ∈ t.declaredShapes, ∀ scope ∈ typeScopes methods s, ∀ name ∈ scope.names,
        Target.rust.LegalAt t.base scope.place name := by
    intro methods hmethods s hs
    simp only [typeScopes, List.forall_mem_cons, List.forall_mem_append]
    exact ⟨hfields s hs, ⟨fun m hm => Target.legalAt_methods (hvisitor s hs) (.inl (hmethods m hm)),
      fun m hm => Target.legalAt_methods (hvisitor s hs) (hfields s hs m hm)⟩, by simp⟩
  have hnew : Target.rust.Legal "new" := ⟨by decide, by decide⟩
  have haccept : Target.rust.Legal "accept" := ⟨by decide, by decide⟩
  have hnode : ∀ m ∈ nodeMethods, Target.rust.Legal m := by
    simp only [nodeMethods, List.forall_mem_cons]
    exact ⟨hnew, haccept, by simp⟩
  have hmethods : ∀ name ∈ t.shapes.toList.map
      (fun s => toSnakeCase (visitMethodName s.name t.base)),
      Target.rust.LegalAt t.base (.methods (visitorTrait t.base)) name := by
    rw [List.forall_mem_map]
    exact fun s hs => Target.legalAt_visitor (ht.legal_visitMethodSnake hs)
  simp only [Table.scopes, List.forall_mem_cons, List.forall_mem_append, List.forall_mem_flatMap]
  refine ⟨⟨⟨hvalid.base, List.not_mem_append hw.base.keyword hw.base.unwritable⟩,
      Target.rust.legal_visitorName hvalid.base, List.forall_mem_map.mpr hlegal⟩,
    List.forall_mem_map.mpr fun s hs => hlegal s (List.mem_append_left _ hs), hmethods,
    ⟨fun s hs => hscopes nodeMethods hnode s (List.mem_append_left _ hs),
      fun s hs => hscopes dataMethods (List.forall_mem_singleton.mpr hnew) s
        (List.mem_append_right _ hs)⟩,
    ⟨Target.legalAt_methods (ne_visitorTrait t.base) (.inl haccept), by simp⟩, by simp⟩

/-- **Every name that a document declares is legal.**  The scopes of the document are those of its
table, each of their names is legal where it stands, and so is the parameter of each visit
method. -/
theorem Table.declared_names_legal {base : String} {texts : List String} {t : Table} {cfg : Config}
    {doc : String} (ht : Table.ofDeclarations base texts = .ok t)
    (hdoc : t.generate cfg = .ok doc) :
    ∃ ls, Document.lines cfg t.resolve = .ok ls ∧ doc = renderLines cfg.indent ls ∧
      Document.scopes cfg.target ls = t.scopes cfg.target ∧
      (∀ scope ∈ Document.scopes cfg.target ls, ∀ name ∈ scope.names,
        cfg.target.LegalAt t.base scope.place name) ∧
      visitParameters cfg.target ls =
        List.replicate t.shapes.size (t.visitParameter cfg.target) ∧
      cfg.target.LegalOrRaw (t.visitParameter cfg.target) := by
  have hwf := Table.wellFormed_of_ofDeclarations ht
  have hparameter : isIdentifier (toLower t.base).toList :=
    isIdentifier_toLower (Table.validate_eq_ok_iff.mp hwf.valid).base
  obtain ⟨hcheck, rfl⟩ := Table.generate_eq_ok_iff.mp hdoc
  refine ⟨_, Document.lines_eq_ok_iff.mpr ⟨hcheck, rfl⟩, rfl, ?_⟩
  unfold Document.check at hcheck
  cases htarget : cfg.target with
  | java =>
      simp only [htarget] at hcheck
      have hw := ClassHierarchy.check_eq_ok_iff.mp hcheck
      rw [ClassHierarchy.scopes_form htarget hwf, ClassHierarchy.visitParameters_form htarget hwf]
      exact ⟨rfl, ClassHierarchy.legalAt_scopes hwf hw, rfl, hparameter, hw.parameter⟩
  | rust =>
      simp only [htarget] at hcheck
      have hw := TaggedUnion.check_eq_ok_iff.mp hcheck
      rw [TaggedUnion.scopes_form htarget hwf, TaggedUnion.visitParameters_form htarget hwf]
      exact ⟨rfl, TaggedUnion.legalAt_scopes hwf hw, rfl,
        Target.legalOrRaw_written hparameter hw.parameter⟩

/-- A table whose base type is a keyword in lower case, and whose fields are keywords. -/
def matchTable : Table :=
  ((Table.empty "Match").addShape ⟨"Self_", [⟨"Match", "type"⟩]⟩ |>.addShape ⟨"HTTPGet", []⟩)
    |>.addDataType ⟨"_Guard", [⟨"Token", "self_"⟩, ⟨"List<Match>", "fn"⟩]⟩

theorem declared_names_legal_matchTable :
    Table.ofDeclarations "Match\t"
        ["Self_: Match type", "struct _Guard: Token self_, List<Match> fn", "HTTPGet:"] =
      .ok matchTable ∧
    ∃ classes union, Document.lines (unrulyConfig .java) matchTable.resolve = .ok classes ∧
      Document.lines (unrulyConfig .rust) matchTable.resolve = .ok union ∧
      visitParameters .java classes = ["match", "match"] ∧ Target.java.Legal "match" ∧
      visitParameters .rust union = ["r#match", "r#match"] ∧ Target.rust.LegalOrRaw "r#match" ∧
      ⟨.methods "MatchVisitor", ["visit_self_match", "visit_http_get_match"]⟩ ∈
        Document.scopes .rust union ∧
      Target.rust.Legal "visit_http_get_match" ∧ Target.rust.LegalOrRaw "r#fn" := by
  have ht : Table.ofDeclarations "Match\t"
      ["Self_: Match type", "struct _Guard: Token self_, List<Match> fn", "HTTPGet:"] =
    .ok matchTable := rfl
  have hcheck : ∀ target, check (unrulyConfig target) matchTable.resolve = .ok ()
    | .java => by decide +kernel
    | .rust => by decide +kernel
  obtain ⟨classes, hclasses, -, -, -, hparameters, hparameter⟩ :=
    Table.declared_names_legal ht (Table.generate_eq_ok_iff.mpr ⟨hcheck .java, rfl⟩)
  obtain ⟨union, hunion, -, hscopes, hlegal, hparameters', hparameter'⟩ :=
    Table.declared_names_legal ht (Table.generate_eq_ok_iff.mpr ⟨hcheck .rust, rfl⟩)
  replace hscopes : Document.scopes .rust union = matchTable.scopes .rust := hscopes
  have hmethods : ⟨.methods "MatchVisitor", ["visit_self_match", "visit_http_get_match"]⟩ ∈
      Document.scopes .rust union := by
    rw [hscopes]
    decide +kernel
  have hfields : ⟨.fields "_Guard", ["self_", "r#fn"]⟩ ∈ Document.scopes .rust union := by
    rw [hscopes]
    decide +kernel
  exact ⟨ht, classes, union, hclasses, hunion, hparameters, hparameter, hparameters', hparameter',
    hmethods, hlegal _ hmethods _ (by simp), hlegal _ hfields _ (by simp)⟩

end AstForge
